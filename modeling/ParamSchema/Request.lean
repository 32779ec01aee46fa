import ParamSchema.Check
import ParamSchema.Route

/-!
Checking requests against routes. `Request.check` checks query, body and parameters in this order
and stores each answer under its target key; a fault ends it, and what was stored before stays.
-/

namespace ParamSchema

/-- The keys under which checked maps are stored. -/
structure TargetKeys where
  query : String := "query"
  body : String := "body"
  params : String := "params"

/-- The maps of a request as they came, and the checked ones under their target keys. -/
structure Request where
  query : Option Value := none
  body : Option Value := none
  params : Option Value := none
  validated : Members := []
deriving Inhabited

/-- The text of a fault in a request. -/
def Fault.requestMessage (fault : Fault) : String :=
  "request validation error: " ++ fault.message

namespace Request

/-- Stores a checked map under a key; nothing clears the key. -/
def store (request : Request) (key : String) : Option Value → Request
  | some v => { request with validated := request.validated.put key v }
  | none => { request with validated := request.validated.remove key }

/-- The answer for a map: the map itself if it is skipped, else its check. -/
def answer (context : Context) (skip : Bool) (node : Node) (name : String)
    (input : Option Value) : Except Fault (Option Value) :=
  if skip then .ok input else node.check context name input

/-- The answer for the query. -/
def queryAnswer (context : Context) (route : Route) (request : Request) :
    Except Fault (Option Value) :=
  answer context route.skipQuery route.queryNode "query" request.query

/-- The answer for the body. -/
def bodyAnswer (context : Context) (route : Route) (request : Request) :
    Except Fault (Option Value) :=
  answer context route.skipBody route.bodyNode "body" request.body

/-- The answer for the parameters; there is none if they are neither skipped nor declared. -/
def paramsAnswer? (context : Context) (route : Route) (request : Request) :
    Option (Except Fault (Option Value)) :=
  if route.skipParams then some (.ok request.params)
  else route.paramsNode?.map fun node => node.check context "params" request.params

/-- The steps of a check in order: each has the key to store under and the answer. -/
def answers (context : Context) (keys : TargetKeys) (route : Route) (request : Request) :
    List (String × Except Fault (Option Value)) :=
  [(keys.query, request.queryAnswer context route),
    (keys.body, request.bodyAnswer context route)] ++
    ((request.paramsAnswer? context route).map fun answer => (keys.params, answer)).toList

/-- Stores the answers in order up to the first fault, which is given with the request. -/
def storeAll (request : Request) : List (String × Except Fault (Option Value)) →
    Request × Option Fault
  | [] => (request, none)
  | (_, .error fault) :: _ => (request, some fault)
  | (key, .ok answer) :: rest => storeAll (request.store key answer) rest

/-- Checks a request against a route. The result is the request with the checked maps stored, and
the fault if there was one. -/
def check (context : Context) (keys : TargetKeys) (route : Route) (request : Request) :
    Request × Option Fault :=
  request.storeAll (request.answers context keys route)

end Request

end ParamSchema
