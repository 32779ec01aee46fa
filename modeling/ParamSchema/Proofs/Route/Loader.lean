import ParamSchema.Proofs.Schema.Grammar
import ParamSchema.Route.Loader

/-!
The maps of a route are the object schemas that they look like. `mapDocument` writes a map with its
rules as a node document; a route document loads exactly if, one level deeper, the node documents of
its three maps do, and the nodes of the route are the nodes that these load as
(`Loader.loadRoute_maps`).
-/

namespace ParamSchema

/-- What is under a key, if it is not null. -/
def Members.given? (members : Members) (key : String) : Option Value :=
  (members.lookup key).filter fun v => !v.isNull

/-- The node document of an object with a field map, a flag and a rule map, as far as given. -/
def mapDocument (format multiple validate : Option Value) : Value :=
  .object ([("object", .bool true)] ++ (format.map fun v => ("format", v)).toList ++
    (multiple.map fun v => ("multiple", v)).toList ++
      (validate.map fun v => ("validate", v)).toList)

namespace Members

/-- The document of the query that a route document declares. -/
def queryDocument (members : Members) : Value :=
  mapDocument (members.given? "query") (members.given? "multipleQuery")
    (members.given? "validateQuery")

/-- The document of the body that a route document declares. -/
def bodyDocument (members : Members) : Value :=
  mapDocument (members.given? "body") (members.given? "multipleBody")
    (members.given? "validateBody")

/-- The document of the path parameters that a route document declares; they are one object. -/
def paramsDocument (members : Members) : Value :=
  mapDocument (members.given? "params") (some (.bool false)) (members.given? "validateParams")

end Members

/-- A flag, false if it is not given. -/
def FlagOf (given : Option Value) (flag : Bool) : Prop :=
  given = some (.bool flag) ∨ given = none ∧ flag = false

namespace Members

variable {members : Members} {key : String} {v : Value}

theorem given?_ne_null : members.given? key ≠ some .null := Value.filter_ne_null _

theorem gives_iff_given : members.Gives key ↔ (members.given? key).isSome = true := by
  rw [Gives, given?]
  cases members.lookup key with
  | none => simp
  | some v => cases v <;> simp [Value.isNull, Option.filter]

end Members

/-! ### Route documents by key -/

namespace RouteField

/-- What a field of a route document holds. -/
def Content : RouteField → Type
  | query | body | params | validateQuery | validateBody | validateParams => Option Value
  | multipleQuery | multipleBody | skipQuery | skipBody | skipParams => Bool

/-- Reads the value of a field. -/
def read : (field : RouteField) → Value → Except DecodeFault field.Content
  | query | body | params | validateQuery | validateBody | validateParams => Value.asOptional .ok
  | multipleQuery | multipleBody | skipQuery | skipBody | skipParams => Value.asBool

/-- The values that a field may have. -/
def Takes (field : RouteField) (v : Value) : Prop :=
  field.isFlag = true → ∃ b, v = .bool b

theorem exists_read_iff_takes (field : RouteField) (v : Value) :
    (∃ content, field.read v = .ok content) ↔ field.Takes v := by
  cases field with
  | query | body | params | validateQuery | validateBody | validateParams =>
    cases v <;> exact iff_of_true ⟨_, rfl⟩ nofun
  | multipleQuery | multipleBody | skipQuery | skipBody | skipParams =>
    exact (exists_congr fun b => Value.asBool_eq_ok_iff).trans ⟨fun h _ => h, fun h => h rfl⟩

theorem ofKey?_eq_some_iff {key : String} {field : RouteField} :
    ofKey? key = some field ↔ key = field.name := by
  constructor
  · intro h
    simpa [eq_comm] using List.find?_some h
  · rintro rfl
    cases field <;> decide

end RouteField

namespace RouteSpec

/-- What a route document holds under a field. -/
def content (spec : RouteSpec) : (field : RouteField) → field.Content
  | .query => spec.query
  | .body => spec.body
  | .params => spec.params
  | .multipleQuery => spec.multipleQuery
  | .multipleBody => spec.multipleBody
  | .validateQuery => spec.validateQuery
  | .validateBody => spec.validateBody
  | .validateParams => spec.validateParams
  | .skipQuery => spec.skipQuery
  | .skipBody => spec.skipBody
  | .skipParams => spec.skipParams

theorem uniform : form.Uniform RouteField.Takes := by
  refine fun spec field v => Iff.trans ?_ (field.exists_read_iff_takes v)
  cases field <;> exact exists_bind_pure_iff

theorem part (field : RouteField) :
    form.Part field (fun spec => spec.content field) field.read where
  set spec v next h := by
    cases field <;>
    · obtain ⟨content, hcontent, h⟩ := bind_eq_ok_iff.mp h
      cases h
      exact hcontent
  keep spec other v next hne h := by
    cases other <;>
    · obtain ⟨content, hcontent, h⟩ := bind_eq_ok_iff.mp h
      cases h
      cases field <;> first | rfl | exact absurd rfl hne

variable {members : Members} {spec : RouteSpec}

theorem content_of_lookup (h : RouteSpec.decode (.object members) = .ok spec)
    (field : RouteField) :
    match members.lookup field.name with
    | some v => field.read v = .ok (spec.content field)
    | none => spec.content field = ({} : RouteSpec).content field :=
  (part field).of_lookup (fun _ => RouteField.ofKey?_eq_some_iff) h

/-- A map or a rule map is what its key gives. -/
theorem eq_given {key : String} {content : Option Value}
    (h : match members.lookup key with
      | some v => v.asOptional .ok = .ok content
      | none => content = none) : content = members.given? key := by
  rw [Members.given?]
  cases hlookup : members.lookup key with
  | none => simpa [hlookup] using h
  | some v =>
    simp only [hlookup, Value.asOptional_eq_ok_iff] at h
    rcases h with ⟨rfl, rfl⟩ | ⟨hnull, w, hw, rfl⟩
    · rfl
    · cases hw
      cases v <;> first | rfl | exact absurd rfl hnull

theorem flagOf {key : String} {flag : Bool}
    (h : match members.lookup key with
      | some v => v.asBool = .ok flag
      | none => flag = false) : FlagOf (members.given? key) flag := by
  rw [Members.given?]
  cases hlookup : members.lookup key with
  | none => exact .inr ⟨rfl, by simpa [hlookup] using h⟩
  | some v =>
    simp only [hlookup, Value.asBool_eq_ok_iff] at h
    subst h
    exact .inl rfl

/-- What a keyed route document says, field by field. -/
structure Written (spec : RouteSpec) (members : Members) : Prop where
  query : spec.query = members.given? "query"
  body : spec.body = members.given? "body"
  params : spec.params = members.given? "params"
  multipleQuery : FlagOf (members.given? "multipleQuery") spec.multipleQuery
  multipleBody : FlagOf (members.given? "multipleBody") spec.multipleBody
  validateQuery : spec.validateQuery = members.given? "validateQuery"
  validateBody : spec.validateBody = members.given? "validateBody"
  validateParams : spec.validateParams = members.given? "validateParams"
  skipQuery : FlagOf (members.given? "skipQuery") spec.skipQuery
  skipBody : FlagOf (members.given? "skipBody") spec.skipBody
  skipParams : FlagOf (members.given? "skipParams") spec.skipParams

theorem decode_written (h : RouteSpec.decode (.object members) = .ok spec) :
    spec.Written members where
  query := eq_given (content_of_lookup h .query)
  body := eq_given (content_of_lookup h .body)
  params := eq_given (content_of_lookup h .params)
  multipleQuery := flagOf (content_of_lookup h .multipleQuery)
  multipleBody := flagOf (content_of_lookup h .multipleBody)
  validateQuery := eq_given (content_of_lookup h .validateQuery)
  validateBody := eq_given (content_of_lookup h .validateBody)
  validateParams := eq_given (content_of_lookup h .validateParams)
  skipQuery := flagOf (content_of_lookup h .skipQuery)
  skipBody := flagOf (content_of_lookup h .skipBody)
  skipParams := flagOf (content_of_lookup h .skipParams)

/-- A route document whose keys are known and whose flags are booleans can be decoded. -/
theorem exists_decode (nodup : (members.map (·.1)).Nodup)
    (keys : ∀ member ∈ members, member.1 ∈ RouteField.all.map RouteField.name)
    (flags : ∀ field : RouteField, field.isFlag = true →
      ∀ v, members.lookup field.name = some v → ∃ b, v = .bool b) :
    ∃ spec, RouteSpec.decode (.object members) = .ok spec := by
  have hfield {member : String × Value} (hmember : member ∈ members) :
      ∃ field : RouteField, member.1 = field.name := by
    obtain ⟨field, _, hname⟩ := List.mem_map.mp (keys member hmember)
    exact ⟨field, hname.symm⟩
  refine (RecordForm.exists_decode_object uniform).mpr ⟨fun member hmember => ?_, ?_⟩
  · obtain ⟨field, hname⟩ := hfield hmember
    refine ⟨field, RouteField.ofKey?_eq_some_iff.mpr hname, fun hflag => flags field hflag _ ?_⟩
    exact hname ▸ (Entries.lookup_eq_some_iff_mem nodup).mpr hmember
  · refine RecordForm.nodup_fields nodup fun first hfirst second hsecond hsame => ?_
    obtain ⟨field, hname⟩ := hfield hfirst
    have hkey : RouteField.ofKey? second.1 = some field :=
      hsame.symm.trans (RouteField.ofKey?_eq_some_iff.mpr hname)
    exact hname.trans (RouteField.ofKey?_eq_some_iff.mp hkey).symm

end RouteSpec

namespace Loader

/-- The loader that allows one more level of fields. -/
def deeper (loader : Loader) : Loader :=
  { loader with options := { loader.options with maxDepth := loader.options.maxDepth + 1 } }

variable {loader : Loader} {format multiple validate : Option Value} {flag : Bool} {node : Node}
  {spec : NodeSpec} {v : Value} {route : Route}

theorem agrees_deeper (loader : Loader) : loader.Agrees loader.deeper := ⟨rfl, rfl⟩

/-! ### One map -/

theorem decode_mapDocument (hflag : FlagOf multiple flag) (format validate : Option Members) :
    NodeSpec.decode (mapDocument (format.map .object) multiple (validate.map .object)) =
      .ok { object := true, multiple := flag, format, validate } := by
  rcases hflag with rfl | ⟨rfl, rfl⟩ <;> cases format <;> cases validate <;> rfl

/-- A map document that can be decoded has objects for its maps. -/
theorem maps_of_decode (hformat : format ≠ some .null) (hvalidate : validate ≠ some .null)
    (h : NodeSpec.decode (mapDocument format multiple validate) = .ok spec) :
    (∃ members : Option Members, format = members.map .object) ∧
      ∃ entries : Option Members, validate = entries.map .object := by
  constructor
  · cases format with
    | none => exact ⟨none, rfl⟩
    | some v =>
      obtain rfl | ⟨members, rfl⟩ := takes_of_decode h .format nofun v rfl
      · exact absurd rfl hformat
      · exact ⟨some members, rfl⟩
  · cases validate with
    | none => exact ⟨none, rfl⟩
    | some v =>
      obtain rfl | ⟨entries, rfl⟩ := takes_of_decode h .validate nofun v (by
        cases format <;> cases multiple <;> rfl)
      · exact absurd rfl hvalidate
      · exact ⟨some entries, rfl⟩

theorem loadFields?_object {format : Option Members} {declared : Option Fields} :
    loader.loadFields? (format.map .object) = .ok declared ↔
      declared.isSome = format.isSome ∧
        fieldsOfMembers (loader.nodeAt (loader.options.maxDepth + 1)) [] (format.getD []) =
          .ok (declared.getD []) := by
  cases format with
  | none => cases declared <;> simp [loadFields?, fieldsOfMembers]
  | some members =>
    simp only [loadFields?, loadFields, Option.map_some, Option.getD_some]
    cases fieldsOfMembers (loader.nodeAt (loader.options.maxDepth + 1)) [] members <;>
      cases declared <;> simp [Except.map]

theorem object_of_loadFields? {declared : Option Fields}
    (h : loader.loadFields? format = .ok declared) :
    ∃ members : Option Members, format = members.map .object := by
  cases format with
  | none => exact ⟨none, rfl⟩
  | some v => cases v <;> first | exact ⟨some _, rfl⟩ | cases h

theorem loadRulesOf_object (validate : Option Members) :
    loader.loadRulesOf (validate.map .object) = loader.rulesOfMembers [] (validate.getD []) := by
  cases validate <;> rfl

theorem object_of_loadRulesOf {rules : List Rule} (h : loader.loadRulesOf validate = .ok rules) :
    ∃ entries : Option Members, validate = entries.map .object := by
  cases validate with
  | none => exact ⟨none, rfl⟩
  | some v => cases v <;> first | exact ⟨some _, rfl⟩ | cases h

/-- The document of a map loads, one level deeper, as the node of the map and its rules. -/
theorem loadNode_mapDocument (hflag : FlagOf multiple flag) (hformat : format ≠ some .null)
    (hvalidate : validate ≠ some .null) :
    loader.deeper.loadNode (mapDocument format multiple validate) = .ok node ↔
      ∃ declared rules, loader.loadFields? format = .ok declared ∧
        loader.loadRulesOf validate = .ok rules ∧ node = Route.mapNode declared flag rules := by
  have hnode : loader.deeper.loadNode = loader.deeper.nodeAt (loader.options.maxDepth + 1 + 1) [] :=
    rfl
  rw [hnode, nodeAt_eq_ok_iff]
  constructor
  · rintro ⟨spec, type, fields, rules, hspec, hresolves, hfields, hrules, rfl⟩
    obtain ⟨⟨members, rfl⟩, ⟨entries, rfl⟩⟩ := maps_of_decode hformat hvalidate hspec
    cases (decode_mapDocument hflag members entries).symm.trans hspec
    refine ⟨members.map fun _ => fields, rules, loadFields?_object.mpr ⟨by simp, ?_⟩, ?_, ?_⟩
    · have hloaded := (agrees_deeper loader).symm.fieldsOfMembers hfields []
      cases members with
      | none => cases hloaded; rfl
      | some members => exact hloaded
    · rw [loadRulesOf_object]
      exact (agrees_deeper loader).symm.rulesOfMembers hrules []
    · cases members with
      | none =>
        cases hfields
        rw [hresolves.object rfl]
        rfl
      | some members =>
        rw [hresolves.object rfl]
        rfl
  · rintro ⟨declared, rules, hdeclared, hrules, rfl⟩
    obtain ⟨members, rfl⟩ := object_of_loadFields? hdeclared
    obtain ⟨entries, rfl⟩ := object_of_loadRulesOf hrules
    rw [loadRulesOf_object] at hrules
    refine ⟨_, none, declared.getD [], rules, decode_mapDocument hflag members entries,
      ⟨rfl, fun _ => rfl, nofun⟩, ?_, ?_, rfl⟩
    · exact (agrees_deeper loader).fieldsOfMembers (loadFields?_object.mp hdeclared).2 _
    · exact (agrees_deeper loader).rulesOfMembers hrules _

/-! ### The route -/

/-- A route loads if its maps and its rule maps do. -/
theorem resolveRoute_eq_ok_iff {spec : RouteSpec} :
    loader.resolveRoute spec = .ok route ↔
      loader.loadFields? spec.query = .ok route.query ∧
      loader.loadFields? spec.body = .ok route.body ∧
      loader.loadFields? spec.params = .ok route.params ∧
      loader.loadRulesOf spec.validateQuery = .ok route.queryRules ∧
      loader.loadRulesOf spec.validateBody = .ok route.bodyRules ∧
      loader.loadRulesOf spec.validateParams = .ok route.paramsRules ∧
      route.multipleQuery = spec.multipleQuery ∧ route.multipleBody = spec.multipleBody ∧
      route.skipQuery = spec.skipQuery ∧ route.skipBody = spec.skipBody ∧
      route.skipParams = spec.skipParams := by
  simp only [resolveRoute, bind_eq_ok_iff, pure_eq_ok_iff]
  constructor
  · rintro ⟨query, hquery, body, hbody, params, hparams, queryRules, hqueryRules, bodyRules,
      hbodyRules, paramsRules, hparamsRules, rfl⟩
    exact ⟨hquery, hbody, hparams, hqueryRules, hbodyRules, hparamsRules, rfl, rfl, rfl, rfl, rfl⟩
  · rintro ⟨hquery, hbody, hparams, hqueryRules, hbodyRules, hparamsRules, hmultipleQuery,
      hmultipleBody, hskipQuery, hskipBody, hskipParams⟩
    refine ⟨_, hquery, _, hbody, _, hparams, _, hqueryRules, _, hbodyRules, _, hparamsRules, ?_⟩
    rw [← hmultipleQuery, ← hmultipleBody, ← hskipQuery, ← hskipBody, ← hskipParams]

theorem loadRoute_eq_ok_iff :
    loader.loadRoute v = .ok route ↔
      ∃ spec, RouteSpec.decode v = .ok spec ∧ loader.resolveRoute spec = .ok route := by
  unfold loadRoute
  cases RouteSpec.decode v with
  | error fault => simp [Except.mapError]
  | ok spec => cases h : loader.resolveRoute spec <;> simp [Except.mapError, h]

section Decoded

variable {members : Members} {spec : RouteSpec}
  (h : RouteSpec.decode (.object members) = .ok spec)

include h

theorem loadNode_queryDocument : loader.deeper.loadNode members.queryDocument = .ok node ↔
    ∃ declared rules, loader.loadFields? spec.query = .ok declared ∧
      loader.loadRulesOf spec.validateQuery = .ok rules ∧
        node = Route.mapNode declared spec.multipleQuery rules := by
  have hwritten := RouteSpec.decode_written h
  rw [hwritten.query, hwritten.validateQuery]
  exact loadNode_mapDocument hwritten.multipleQuery Members.given?_ne_null Members.given?_ne_null

theorem loadNode_bodyDocument : loader.deeper.loadNode members.bodyDocument = .ok node ↔
    ∃ declared rules, loader.loadFields? spec.body = .ok declared ∧
      loader.loadRulesOf spec.validateBody = .ok rules ∧
        node = Route.mapNode declared spec.multipleBody rules := by
  have hwritten := RouteSpec.decode_written h
  rw [hwritten.body, hwritten.validateBody]
  exact loadNode_mapDocument hwritten.multipleBody Members.given?_ne_null Members.given?_ne_null

theorem loadNode_paramsDocument : loader.deeper.loadNode members.paramsDocument = .ok node ↔
    ∃ declared rules, loader.loadFields? spec.params = .ok declared ∧
      loader.loadRulesOf spec.validateParams = .ok rules ∧
        node = Route.mapNode declared false rules := by
  have hwritten := RouteSpec.decode_written h
  rw [hwritten.params, hwritten.validateParams]
  exact loadNode_mapDocument (.inl rfl) Members.given?_ne_null Members.given?_ne_null

/-- A decoded route document loads exactly if the documents of its maps do. -/
theorem exists_resolveRoute_iff :
    (∃ route, loader.resolveRoute spec = .ok route) ↔
      (∃ node, loader.deeper.loadNode (members.queryDocument) = .ok node) ∧
      (∃ node, loader.deeper.loadNode (members.bodyDocument) = .ok node) ∧
        ∃ node, loader.deeper.loadNode (members.paramsDocument) = .ok node := by
  simp only [loadNode_queryDocument h, loadNode_bodyDocument h, loadNode_paramsDocument h,
    resolveRoute_eq_ok_iff]
  constructor
  · rintro ⟨route, hquery, hbody, hparams, hqueryRules, hbodyRules, hparamsRules, -⟩
    exact ⟨⟨_, _, _, hquery, hqueryRules, rfl⟩, ⟨_, _, _, hbody, hbodyRules, rfl⟩,
      ⟨_, _, _, hparams, hparamsRules, rfl⟩⟩
  · rintro ⟨⟨_, query, queryRules, hquery, hqueryRules, -⟩,
      ⟨_, body, bodyRules, hbody, hbodyRules, -⟩,
      ⟨_, params, paramsRules, hparams, hparamsRules, -⟩⟩
    exact ⟨{ query, body, params, queryRules, bodyRules, paramsRules
             multipleQuery := spec.multipleQuery, multipleBody := spec.multipleBody
             skipQuery := spec.skipQuery, skipBody := spec.skipBody
             skipParams := spec.skipParams },
      hquery, hbody, hparams, hqueryRules, hbodyRules, hparamsRules, rfl, rfl, rfl, rfl, rfl⟩

/-- Parameters have a node if the route document declares them. -/
theorem paramsNode?_of_resolveRoute (hroute : loader.resolveRoute spec = .ok route) :
    (members.Gives "params" → route.paramsNode? =
      some (Route.mapNode route.params false route.paramsRules)) ∧
    (¬members.Gives "params" → route.paramsNode? = none) := by
  have hparams := (resolveRoute_eq_ok_iff.mp hroute).2.2.1
  rw [(RouteSpec.decode_written h).params] at hparams
  obtain ⟨declared, hdeclared⟩ := object_of_loadFields? hparams
  rw [hdeclared] at hparams
  rw [Members.gives_iff_given, hdeclared, Option.isSome_map,
    ← (loadFields?_object.mp hparams).1]
  cases hsome : route.params <;> simp [Route.paramsNode?, hsome]

end Decoded

/-- A route document with known keys and boolean flags loads exactly if the documents of its three
maps load one level deeper, and the nodes of the route are the nodes that these load as. -/
theorem loadRoute_maps (loader : Loader) {members : Members} (nodup : (members.map (·.1)).Nodup)
    (keys : ∀ member ∈ members, member.1 ∈ ["query", "body", "params", "multipleQuery",
      "multipleBody", "validateQuery", "validateBody", "validateParams", "skipQuery", "skipBody",
      "skipParams"])
    (flags : ∀ key ∈ ["multipleQuery", "multipleBody", "skipQuery", "skipBody", "skipParams"],
      ∀ v, members.lookup key = some v → ∃ b, v = .bool b) :
    ((∃ route, loader.loadRoute (.object members) = .ok route) ↔
      (∃ node, loader.deeper.loadNode (members.queryDocument) = .ok node) ∧
      (∃ node, loader.deeper.loadNode (members.bodyDocument) = .ok node) ∧
        ∃ node, loader.deeper.loadNode (members.paramsDocument) = .ok node) ∧
    ∀ route, loader.loadRoute (.object members) = .ok route →
      loader.deeper.loadNode (members.queryDocument) = .ok route.queryNode ∧
      loader.deeper.loadNode (members.bodyDocument) = .ok route.bodyNode ∧
        ∃ node, loader.deeper.loadNode (members.paramsDocument) = .ok node ∧
          (members.Gives "params" → route.paramsNode? = some node) ∧
            (¬members.Gives "params" → route.paramsNode? = none) := by
  obtain ⟨spec, hspec⟩ := RouteSpec.exists_decode nodup keys fun field hflag =>
    flags field.name (by cases field <;> first | decide | cases hflag)
  have hroute {route : Route} : loader.loadRoute (.object members) = .ok route ↔
      loader.resolveRoute spec = .ok route := by
    simp [loadRoute_eq_ok_iff, hspec]
  simp only [hroute]
  refine ⟨exists_resolveRoute_iff hspec, fun route h => ?_⟩
  obtain ⟨hquery, hbody, hparams, hqueryRules, hbodyRules, hparamsRules, hmultipleQuery,
    hmultipleBody, -⟩ := resolveRoute_eq_ok_iff.mp h
  refine ⟨(loadNode_queryDocument hspec).mpr ⟨_, _, hquery, hqueryRules, ?_⟩,
    (loadNode_bodyDocument hspec).mpr ⟨_, _, hbody, hbodyRules, ?_⟩,
    _, (loadNode_paramsDocument hspec).mpr ⟨_, _, hparams, hparamsRules, rfl⟩,
    paramsNode?_of_resolveRoute hspec h⟩
  · rw [Route.queryNode, hmultipleQuery]
  · rw [Route.bodyNode, hmultipleBody]

/-! ### A search -/

namespace Search

/-- Several queries, each with a rule, no body and the parameters of the path. -/
def members : Members :=
  [("query", .object [("page", .object [("type", .string "int"), ("default", .string "1")])]),
    ("multipleQuery", .bool true), ("validateQuery", .object [("NOT_isEmpty", .bool true)]),
    ("body", .null), ("params", .object [("user", .object [("type", .string "string")])])]

def search : Route where
  query := some [("page", { type := some .integer, defaultValue := some (.string "1") })]
  params := some [("user", { type := some .string })]
  multipleQuery := true
  queryRules := [{ name := "isEmpty", negate := true, check := .named [] }]

/-- A loader that allows no field below a field. -/
def flat : Loader where
  types := FieldType.builtins
  options := { maxDepth := 0 }

set_option maxRecDepth 10000 in
theorem load_search : flat.loadRoute (.object members) = .ok search := rfl

/-- The query, the missing body and the parameters are the nodes of their documents. -/
theorem search_maps : flat.deeper.loadNode members.queryDocument = .ok search.queryNode ∧
    flat.deeper.loadNode (.object [("object", .bool true)]) = .ok search.bodyNode ∧
      ∃ node, flat.deeper.loadNode members.paramsDocument = .ok node ∧
        search.paramsNode? = some node := by
  obtain ⟨-, hnodes⟩ := @loadRoute_maps flat members (by decide) (by decide) (by
    intro key hkey v hv
    simp only [List.mem_cons, List.not_mem_nil, or_false] at hkey
    rcases hkey with rfl | rfl | rfl | rfl | rfl <;> cases hv
    exact ⟨true, rfl⟩)
  obtain ⟨hquery, hbody, node, hparams, hgiven, -⟩ := hnodes search load_search
  exact ⟨hquery, hbody, node, hparams, hgiven ⟨_, rfl, nofun⟩⟩

end Search

end Loader

end ParamSchema
