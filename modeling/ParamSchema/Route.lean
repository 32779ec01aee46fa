import ParamSchema.Doc
import ParamSchema.Schema.Loader

/-!
Routes: what a request's query, body and path parameters must look like. Each declared map is
checked as an object; a query or body that is not declared is checked as an object without fields,
and parameters that are not declared are not looked at.
-/

namespace ParamSchema

/-- The parts of a request that a route looks at. -/
structure Route where
  query : Option Fields := none
  body : Option Fields := none
  params : Option Fields := none
  /-- The query is an array of objects. -/
  multipleQuery : Bool := false
  /-- The body is an array of objects. -/
  multipleBody : Bool := false
  queryRules : List Rule := []
  bodyRules : List Rule := []
  paramsRules : List Rule := []
  /-- Take the query as it is. -/
  skipQuery : Bool := false
  skipBody : Bool := false
  skipParams : Bool := false
deriving Inhabited

namespace Route

/-- The object node of a map. -/
def mapNode (fields : Option Fields) (multiple : Bool) (rules : List Rule) : Node :=
  { object := true, fields := fields.getD [], multiple, rules }

def queryNode (route : Route) : Node :=
  mapNode route.query route.multipleQuery route.queryRules

def bodyNode (route : Route) : Node :=
  mapNode route.body route.multipleBody route.bodyRules

/-- The node of the path parameters, if any are declared. -/
def paramsNode? (route : Route) : Option Node :=
  route.params.map fun fields => mapNode (some fields) false route.paramsRules

end Route

/-- The documentation of a route: its declared body and query. -/
structure RouteDoc where
  body : Option Doc := none
  query : Option Doc := none
deriving Inhabited

/-- The documentation of the fields that a route declares for its body and query. -/
def Route.doc (route : Route) : RouteDoc where
  body := route.body.map fun fields => (Node.ofFields fields).doc
  query := route.query.map fun fields => (Node.ofFields fields).doc

namespace RouteDoc

def toMembers (doc : RouteDoc) : Members :=
  (doc.body.map fun d => ("body", d.toValue)).toList ++
    (doc.query.map fun d => ("query", d.toValue)).toList

def toValue (doc : RouteDoc) : Value := .object doc.toMembers

/-- All rows, those of the body first. -/
def rows (doc : RouteDoc) : List DocRow :=
  (doc.body.map fun d => d.rows "body").getD [] ++
    (doc.query.map fun d => d.rows "query").getD []

end RouteDoc

end ParamSchema
