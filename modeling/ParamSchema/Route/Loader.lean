import ParamSchema.Route

/-!
Loading route documents. All maps are loaded before all rules, in the order query, body, params.
-/

namespace ParamSchema

/-- The fields of a route document. -/
inductive RouteField
  | query | body | params | multipleQuery | multipleBody | validateQuery | validateBody
  | validateParams | skipQuery | skipBody | skipParams
deriving DecidableEq

/-- A route document before its maps and rules are loaded. -/
structure RouteSpec where
  query : Option Value := none
  body : Option Value := none
  params : Option Value := none
  multipleQuery : Bool := false
  multipleBody : Bool := false
  validateQuery : Option Value := none
  validateBody : Option Value := none
  validateParams : Option Value := none
  skipQuery : Bool := false
  skipBody : Bool := false
  skipParams : Bool := false

namespace RouteField

def all : List RouteField :=
  [query, body, params, multipleQuery, multipleBody, validateQuery, validateBody, validateParams,
    skipQuery, skipBody, skipParams]

def name : RouteField → String
  | query => "query"
  | body => "body"
  | params => "params"
  | multipleQuery => "multipleQuery"
  | multipleBody => "multipleBody"
  | validateQuery => "validateQuery"
  | validateBody => "validateBody"
  | validateParams => "validateParams"
  | skipQuery => "skipQuery"
  | skipBody => "skipBody"
  | skipParams => "skipParams"

def ofKey? (key : String) : Option RouteField :=
  all.find? (·.name = key)

/-- The flags may be left out at the end of an array. -/
def isFlag : RouteField → Bool
  | multipleQuery | multipleBody | skipQuery | skipBody | skipParams => true
  | query | body | params | validateQuery | validateBody | validateParams => false

end RouteField

namespace RouteSpec

/-- Gives a field of a route document its value. -/
def set (spec : RouteSpec) (field : RouteField) (v : Value) : Except DecodeFault RouteSpec :=
  match field with
  | .query => do return { spec with query := ← v.asOptional .ok }
  | .body => do return { spec with body := ← v.asOptional .ok }
  | .params => do return { spec with params := ← v.asOptional .ok }
  | .multipleQuery => do return { spec with multipleQuery := ← v.asBool }
  | .multipleBody => do return { spec with multipleBody := ← v.asBool }
  | .validateQuery => do return { spec with validateQuery := ← v.asOptional .ok }
  | .validateBody => do return { spec with validateBody := ← v.asOptional .ok }
  | .validateParams => do return { spec with validateParams := ← v.asOptional .ok }
  | .skipQuery => do return { spec with skipQuery := ← v.asBool }
  | .skipBody => do return { spec with skipBody := ← v.asBool }
  | .skipParams => do return { spec with skipParams := ← v.asBool }

def form : RecordForm RouteField RouteSpec where
  title := "struct RawRoute"
  fields := RouteField.all
  name := RouteField.name
  keys := RouteField.all.map RouteField.name
  ofKey? := RouteField.ofKey?
  mayEndBefore := RouteField.isFlag
  initial := {}
  set := set

/-- The route document that a value is. -/
def decode (v : Value) : Except DecodeFault RouteSpec := form.decode v

end RouteSpec

/-- Why a text does not load as a route. -/
inductive RouteError
  | notJson (fault : SyntaxFault)
  | decode (fault : DecodeFault)
  | schema (error : LoadError)

/-- The text of a route error. -/
def RouteError.message : RouteError → String
  | notJson fault => "route is not valid JSON: " ++ fault.message
  | decode fault => "route is not valid JSON: " ++ fault.message
  | schema error => "schema error: " ++ error.message

namespace Loader

/-- Loads a map of fields that a route document may leave out. -/
def loadFields? (loader : Loader) : Option Value → Except LoadError (Option Fields)
  | none => .ok none
  | some v => (loader.loadFields v).map some

/-- Loads the rules of a map that a route document may leave out. -/
def loadRulesOf (loader : Loader) : Option Value → Except LoadError (List Rule)
  | none => .ok []
  | some v => loader.loadRules v

/-- Loads the maps and rules of a route document. -/
def resolveRoute (loader : Loader) (spec : RouteSpec) : Except LoadError Route := do
  return {
    query := ← loader.loadFields? spec.query
    body := ← loader.loadFields? spec.body
    params := ← loader.loadFields? spec.params
    multipleQuery := spec.multipleQuery
    multipleBody := spec.multipleBody
    queryRules := ← loader.loadRulesOf spec.validateQuery
    bodyRules := ← loader.loadRulesOf spec.validateBody
    paramsRules := ← loader.loadRulesOf spec.validateParams
    skipQuery := spec.skipQuery
    skipBody := spec.skipBody
    skipParams := spec.skipParams }

/-- Loads a route document. -/
def loadRoute (loader : Loader) (v : Value) : Except RouteError Route := do
  let spec ← (RouteSpec.decode v).mapError .decode
  (loader.resolveRoute spec).mapError .schema

/-- Loads the route document that a text holds. -/
def readRoute (loader : Loader) (text : String) : Except RouteError Route := do
  let v ← (Value.read text).mapError .notJson
  loader.loadRoute v

end Loader

end ParamSchema
