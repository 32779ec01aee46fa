import ParamSchema.Proofs.Check.Outcome
import ParamSchema.Request
import ParamSchema.Route.Loader

/-!
What the documentation of a route tells about requests. It covers the query and the body. A map that
is declared is documented as the node that requests are checked against is, except that it never is
told to be an array and never to have rules (`Route.Tells`). Requests are held to both.
-/

namespace ParamSchema

namespace Node

variable {context : Context} {name : String} {node : Node} {input : Option Value} {v w : Value}
  {items : List Value}

/-- A value that a node accepts meets its rules, unless it was skipped or stands in for nothing. -/
theorem Answers.met (skip : node.skip = false) (multiple : node.multiple = false)
    (noStandIn : node.standIn input = none) (h : Answers context node name input (some w)) :
    ∀ rule ∈ node.rules, rule.Met context w := by
  generalize hanswer : some w = answer at h
  cases h with
  | skipped hskip => simp [skip] at hskip
  | blank _ _ => simp [noStandIn] at hanswer
  | array _ hmultiple _ => simp [multiple] at hmultiple
  | item _ _ _ _ met =>
    cases hanswer
    exact met

/-- An item of an accepted array meets the rules; one that came to nothing is null. -/
theorem Answers.items_met (skip : node.skip = false) (multiple : node.multiple = true)
    (noStandIn : ∀ input, node.standIn input = none)
    (h : Answers context node name input (some (.array items))) :
    ∀ item ∈ items, item = .null ∨ ∀ rule ∈ node.rules, rule.Met context item := by
  generalize hanswer : some (Value.array items) = answer at h
  cases h with
  | skipped hskip => simp [skip] at hskip
  | blank _ _ => simp [noStandIn] at hanswer
  | item _ hmultiple _ _ _ => simp [multiple] at hmultiple
  | @array given results _ _ each =>
    cases hanswer
    intro item hitem
    obtain ⟨result, hresult, rfl⟩ := List.mem_map.mp hitem
    cases result with
    | none => exact .inl rfl
    | some w =>
      obtain ⟨v, -, hv⟩ := exists_of_forall₂ each hresult
      have hmet : ∀ rule ∈ node.single.rules, rule.Met context w :=
        (check_eq_ok_iff.mp hv).met skip rfl (noStandIn (some v))
      exact .inr hmet

end Node

namespace Route

/-- A map that the documentation of a route covers. -/
inductive DocumentedMap
  | body
  | query

namespace DocumentedMap

/-- The fields that a route declares for the map. -/
def fields? (route : Route) : DocumentedMap → Option Fields
  | body => route.body
  | query => route.query

def isArray (route : Route) : DocumentedMap → Bool
  | body => route.multipleBody
  | query => route.multipleQuery

def rules (route : Route) : DocumentedMap → List Rule
  | body => route.bodyRules
  | query => route.queryRules

def isSkipped (route : Route) : DocumentedMap → Bool
  | body => route.skipBody
  | query => route.skipQuery

def node (route : Route) : DocumentedMap → Node
  | body => route.bodyNode
  | query => route.queryNode

def doc? (doc : RouteDoc) : DocumentedMap → Option Doc
  | body => doc.body
  | query => doc.query

def name : DocumentedMap → String
  | body => "body"
  | query => "query"

/-- The map of a request as it came. -/
def input (request : Request) : DocumentedMap → Option Value
  | body => request.body
  | query => request.query

/-- What the check of a request answers for the map. -/
def answer (context : Context) (route : Route) (request : Request) :
    DocumentedMap → Except Fault (Option Value)
  | body => request.bodyAnswer context route
  | query => request.queryAnswer context route

end DocumentedMap

variable {context : Context} {route : Route} {request : Request} {map : DocumentedMap}
  {fields : Option Fields} {multiple : Bool} {rules : List Rule} {name : String}

/-! ### The node of a map -/

theorem doc_mapNode (declared : Fields) (multiple : Bool) (rules : List Rule) :
    (mapNode (some declared) multiple rules).doc =
      { (Node.ofFields declared).doc with multiple, rules := rules.map Rule.key } := rfl

theorem standIn_mapNode (input : Option Value) :
    (mapNode fields multiple rules).standIn input = none := by
  simp [Node.standIn, Node.usableDefault?, mapNode]

theorem check_mapNode_object (members : Members) :
    (mapNode fields true rules).check context name (some (.object members)) =
      .error (.rejected name (some (.object members)) .notArray) :=
  Node.check_notArray rfl rfl rfl nofun

theorem check_mapNode_array (items : List Value) :
    (mapNode fields false rules).check context name (some (.array items)) =
      .error (.rejected name (some (.array items)) .notObject) := by
  have hnot : ∀ given, Value.array items ≠ .object given := nofun
  rw [Node.check_of_item rfl rfl (Node.readsAsNull_array items), Node.shape_notObject rfl hnot]
  rfl

namespace DocumentedMap

theorem node_eq (map : DocumentedMap) (route : Route) :
    map.node route = mapNode (map.fields? route) (map.isArray route) (map.rules route) := by
  cases map <;> rfl

theorem doc?_eq (map : DocumentedMap) (route : Route) :
    map.doc? route.doc = (map.fields? route).map fun declared => (Node.ofFields declared).doc := by
  cases map <;> rfl

theorem answer_eq (skip : map.isSkipped route = false) :
    map.answer context route request =
      (map.node route).check context map.name (map.input request) := by
  cases map with
  | body => exact if_neg (Bool.eq_false_iff.mp skip)
  | query => exact if_neg (Bool.eq_false_iff.mp skip)

end DocumentedMap

/-! ### What is told and what is asked -/

/-- What the documentation of a map tells, and what requests have to meet beyond that. -/
structure Tells (context : Context) (route : Route) (map : DocumentedMap) : Prop where
  present : (map.doc? route.doc).isSome = (map.fields? route).isSome
  /-- The documentation is that of the node that requests are checked against, but for two
  things. -/
  told : ∀ doc, map.doc? route.doc = some doc →
    doc = { (map.node route).doc with multiple := false, rules := [] }
  complete : ∀ doc, map.doc? route.doc = some doc →
    (doc = (map.node route).doc ↔ map.isArray route = false ∧ map.rules route = [])
  asked : ∀ request, map.isSkipped route = false → map.answer context route request =
    (map.node route).check context map.name (map.input request)
  array : map.isArray route = true → ∀ members,
    (map.node route).check context map.name (some (.object members)) =
      .error (.rejected map.name (some (.object members)) .notArray)
  object : map.isArray route = false → ∀ items,
    (map.node route).check context map.name (some (.array items)) =
      .error (.rejected map.name (some (.array items)) .notObject)
  rules : map.isArray route = false → ∀ input w,
    (map.node route).check context map.name input = .ok (some w) →
      ∀ rule ∈ map.rules route, rule.Met context w
  itemRules : map.isArray route = true → ∀ input items,
    (map.node route).check context map.name input = .ok (some (.array items)) →
      ∀ item ∈ items, item = .null ∨ ∀ rule ∈ map.rules route, rule.Met context item

/-- The documentation of a route leaves out that a map is an array, and its rules; it is complete
for a map without either. -/
theorem doc_tells (context : Context) (route : Route) (map : DocumentedMap) :
    Tells context route map := by
  have hdoc : ∀ doc, map.doc? route.doc = some doc → ∃ declared,
      map.fields? route = some declared ∧ doc = (Node.ofFields declared).doc := by
    intro doc h
    rw [DocumentedMap.doc?_eq, Option.map_eq_some_iff] at h
    obtain ⟨declared, hdeclared, rfl⟩ := h
    exact ⟨declared, hdeclared, rfl⟩
  refine ⟨?present, ?told, ?complete, fun _ => DocumentedMap.answer_eq, ?array, ?object, ?rules,
    ?itemRules⟩
  case present => rw [DocumentedMap.doc?_eq, Option.isSome_map]
  all_goals rw [DocumentedMap.node_eq]
  case told =>
    intro doc h
    obtain ⟨declared, hdeclared, rfl⟩ := hdoc doc h
    rw [hdeclared, doc_mapNode]
    rfl
  case complete =>
    intro doc h
    obtain ⟨declared, hdeclared, rfl⟩ := hdoc doc h
    rw [hdeclared, doc_mapNode]
    constructor
    · intro h
      have hmultiple : false = map.isArray route := congrArg Doc.multiple h
      have hrules : [] = (map.rules route).map Rule.key := congrArg Doc.rules h
      exact ⟨hmultiple.symm, List.map_eq_nil_iff.mp hrules.symm⟩
    · rintro ⟨hmultiple, hrules⟩
      rw [hmultiple, hrules]
      rfl
  case array =>
    intro harray members
    rw [harray]
    exact check_mapNode_object members
  case object =>
    intro harray items
    rw [harray]
    exact check_mapNode_array items
  case rules =>
    intro harray input w h
    rw [harray] at h
    exact (Node.check_eq_ok_iff.mp h).met rfl rfl (standIn_mapNode input)
  case itemRules =>
    intro harray input items h
    rw [harray] at h
    exact (Node.check_eq_ok_iff.mp h).items_met rfl rfl standIn_mapNode

/-! ### A crew -/

namespace Crew

def crewDocument : Value :=
  .object [("body", .object [("name", .object [("type", .string "string")])]),
    ("multipleBody", .bool true),
    ("validateBody", .object [("NOT_equals", .array [.object [("name", .string "root")]])])]

def crew : Route where
  body := some [("name", .leaf .string)]
  multipleBody := true
  bodyRules :=
    [{ name := "equals", negate := true, check := .named [.object [("name", .string "root")]] }]

def member : Value := .object [("name", .string "Ada")]

set_option maxRecDepth 10000 in
/-- The body is documented as one member and without rules. It is checked as an array of members,
each under a rule, and one member is refused. -/
theorem crew_body_undocumented :
    Loader.loadRoute { types := FieldType.builtins } crewDocument = .ok crew ∧
      ∃ doc, crew.doc.body = some doc ∧ doc ≠ crew.bodyNode.doc ∧
        doc.multiple = false ∧ crew.bodyNode.doc.multiple = true ∧
        doc.rules = [] ∧ crew.bodyNode.doc.rules = ["NOT_equals"] ∧
        (Request.check .builtins {} crew { body := some member }).2 =
          some (.rejected "body" (some member) .notArray) :=
  ⟨rfl, _, rfl, fun h => Bool.false_ne_true (congrArg Doc.multiple h), rfl, rfl, rfl, rfl, rfl⟩

end Crew

end Route

end ParamSchema
