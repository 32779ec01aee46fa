import Mathlib.Logic.Relation
import ParamSchema.Proofs.Schema.Decoding
import ParamSchema.Proofs.Schema.Loader

/-!
The layout of node documents. `Value.Relaid` says that two documents differ at one node document, in
the order of its members, in the key of its default, or in a null for a field that is left out. A
node document holds the same in both layouts (`NodeSpec.decode_object_eq_ok_iff`), so documents that
differ in any number of such places load as the same node, or none of them loads
(`Loader.loadNode_eq_of_relaid`).
-/

namespace ParamSchema

/-! ### What a node document holds -/

namespace NodeField

/-- The fields for which a null says no more than that they are left out. -/
def nullable : List NodeField := [type, format, defaultValue, trim, validate]

theorem read_null {field : NodeField} (h : field ∈ nullable) :
    field.read .null = .ok (({} : NodeSpec).content field) := by
  simp only [nullable, List.mem_cons, List.not_mem_nil, or_false] at h
  rcases h with rfl | rfl | rfl | rfl | rfl <;> rfl

end NodeField

namespace Members

/-- The fields that the members of a node document give, each with its value. -/
def given (members : Members) : List (Option NodeField × Value) :=
  members.map fun member => (NodeField.ofKey? member.1, member.2)

theorem map_given (members : Members) :
    members.given.map (·.1) = members.map fun member => NodeField.ofKey? member.1 := by
  rw [given, List.map_map]
  rfl

end Members

namespace NodeSpec

variable {spec spec' : NodeSpec} {given given' : List (Option NodeField × Value)}
  {members fields : Members} {field : NodeField}

/-- The node document holds what the given fields say, and of the others what it holds when nothing
is given. -/
structure Holds (spec : NodeSpec) (given : List (Option NodeField × Value)) : Prop where
  known : ∀ entry ∈ given, ∃ field, entry.1 = some field ∧
    field.read entry.2 = .ok (spec.content field)
  once : (given.map (·.1)).Nodup
  missing : ∀ field, some field ∉ given.map (·.1) →
    spec.content field = ({} : NodeSpec).content field

theorem ext_content (h : ∀ field, spec.content field = spec'.content field) : spec = spec' := by
  cases spec
  cases spec'
  rw [mk.injEq]
  exact ⟨h .type, h .skip, h .multiple, h .object, h .format, h .acceptOtherKeys, h .acceptNull,
    h .defaultValue, h .trim, h .optional, h .validate⟩

theorem Holds.read (holds : spec.Holds given) {v : Value} (h : (some field, v) ∈ given) :
    field.read v = .ok (spec.content field) := by
  obtain ⟨_, hfield, hread⟩ := holds.known _ h
  cases hfield
  exact hread

theorem Holds.unique (holds : spec.Holds given) (holds' : spec'.Holds given) : spec = spec' := by
  refine ext_content fun field => ?_
  by_cases hgiven : some field ∈ given.map (·.1)
  · obtain ⟨⟨_, v⟩, hentry, rfl⟩ := List.mem_map.mp hgiven
    exact Except.ok.inj ((holds.read hentry).symm.trans (holds'.read hentry))
  · rw [holds.missing field hgiven, holds'.missing field hgiven]

theorem holds_of_decode (h : NodeSpec.decode (.object members) = .ok spec) :
    spec.Holds members.given := by
  obtain ⟨hknown, honce⟩ := (RecordForm.exists_decode_object uniform).mp ⟨spec, h⟩
  refine ⟨List.forall_mem_map.mpr fun member hmember => ?_, ?_, fun field hmissing => ?_⟩
  · obtain ⟨field, hfield, -⟩ := hknown member hmember
    exact ⟨field, hfield, (part field).of_given h hmember hfield⟩
  · rwa [Members.map_given]
  · refine (part field).of_not_given h fun member hmember hfield => hmissing ?_
    rw [Members.map_given]
    exact List.mem_map.mpr ⟨member, hmember, hfield⟩

/-- A keyed node document is decoded as the one that holds what its members say. -/
theorem decode_object_eq_ok_iff :
    NodeSpec.decode (.object members) = .ok spec ↔ spec.Holds members.given := by
  refine ⟨holds_of_decode, fun holds => ?_⟩
  have hdecode : ∃ spec, NodeSpec.decode (.object members) = .ok spec := by
    refine (RecordForm.exists_decode_object uniform).mpr ⟨fun member hmember => ?_, ?_⟩
    · obtain ⟨field, hfield, hread⟩ := holds.known _ (List.mem_map_of_mem hmember)
      exact ⟨field, hfield, (field.exists_read_iff_takes member.2).mp ⟨_, hread⟩⟩
    · have honce := holds.once
      rwa [Members.map_given] at honce
  obtain ⟨spec', hspec'⟩ := hdecode
  rw [hspec', (holds_of_decode hspec').unique holds]

theorem Holds.of_perm (holds : spec.Holds given) (perm : given.Perm given') :
    spec.Holds given' where
  known entry hentry := holds.known entry (perm.mem_iff.mpr hentry)
  once := (perm.map _).nodup_iff.mp holds.once
  missing field hfield := holds.missing field fun h => hfield ((perm.map _).mem_iff.mp h)

/-- A null may be given or left out. -/
theorem holds_null_iff (nullable : field ∈ NodeField.nullable)
    (absent : some field ∉ given.map (·.1)) :
    spec.Holds ((some field, .null) :: given) ↔ spec.Holds given := by
  have hnull := NodeField.read_null nullable
  constructor
  · intro holds
    refine ⟨fun entry hentry => holds.known entry (List.mem_cons_of_mem _ hentry),
      (List.nodup_cons.mp holds.once).2, fun other hother => ?_⟩
    by_cases heq : other = field
    · subst heq
      exact Except.ok.inj ((holds.read List.mem_cons_self).symm.trans hnull)
    · refine holds.missing other fun h => ?_
      rcases List.mem_cons.mp h with h | h
      · exact heq (Option.some.inj h)
      · exact hother h
  · intro holds
    refine ⟨List.forall_mem_cons.mpr ⟨⟨field, rfl, ?_⟩, holds.known⟩,
      List.nodup_cons.mpr ⟨absent, holds.once⟩, fun other hother => ?_⟩
    · rw [holds.missing field absent, hnull]
    · exact holds.missing other fun h => hother (List.mem_cons_of_mem _ h)

theorem content_format_of_ne (h : field ≠ .format) (format : Option Members) :
    NodeSpec.content { spec with format } field = spec.content field := by
  cases field <;> first | rfl | exact absurd rfl h

/-- Another field map leaves all other fields as they were. -/
theorem Holds.reformat (holds : spec.Holds ((some .format, .object fields) :: given))
    (fields' : Members) :
    Holds { spec with format := some fields' } ((some .format, .object fields') :: given) := by
  have hfirst := (List.nodup_cons.mp holds.once).1
  refine ⟨List.forall_mem_cons.mpr ⟨⟨.format, rfl, rfl⟩, fun entry hentry => ?_⟩, holds.once,
    fun field hfield => ?_⟩
  · obtain ⟨field, hfield, hread⟩ := holds.known entry (List.mem_cons_of_mem _ hentry)
    have hne : field ≠ .format := fun heq =>
      hfirst (List.mem_map.mpr ⟨entry, hentry, heq ▸ hfield⟩)
    exact ⟨field, hfield, hread.trans (congrArg Except.ok (content_format_of_ne hne _).symm)⟩
  · have hne : field ≠ .format := fun heq => hfield (heq ▸ List.mem_cons_self)
    rw [content_format_of_ne hne, holds.missing field hfield]

end NodeSpec

/-! ### Layouts -/

namespace Value

/-- The second document is the first in another layout at one node document. Members may stand in
any order, so the one that is written in two ways is taken for the first. -/
inductive Relaid : Value → Value → Prop
  | order {members members' : Members} (perm : members.Perm members') :
    Relaid (object members) (object members')
  | spelling {v : Value} {rest : Members} :
    Relaid (object (("default", v) :: rest)) (object (("defaultValue", v) :: rest))
  | null {key : String} {field : NodeField} {rest : Members}
    (names : NodeField.ofKey? key = some field) (nullable : field ∈ NodeField.nullable)
    (absent : ∀ member ∈ rest, NodeField.ofKey? member.1 ≠ some field) :
    Relaid (object ((key, .null) :: rest)) (object rest)
  | field {before after rest : Members} {name : String} {v v' : Value} (relaid : Relaid v v') :
    Relaid (object (("format", object (before ++ (name, v) :: after)) :: rest))
      (object (("format", object (before ++ (name, v') :: after)) :: rest))

/-- Documents that differ in a field alone differ in any number of places below it. -/
theorem relaid_field {v v' : Value} (h : Relation.EqvGen Relaid v v') (before after rest : Members)
    (name : String) :
    Relation.EqvGen Relaid (object (("format", object (before ++ (name, v) :: after)) :: rest))
      (object (("format", object (before ++ (name, v') :: after)) :: rest)) := by
  induction h with
  | rel _ _ relaid => exact .rel _ _ (.field relaid)
  | refl _ => exact .refl _
  | symm _ _ _ ih => exact .symm _ _ ih
  | trans _ _ _ _ _ first second => exact .trans _ _ _ first second

end Value

namespace Loader

variable {loader : Loader} {path : DocumentPath} {levels : Nat} {v v' : Value} {node : Node}
  {name : String} {before after rest members members' : Members} {fields : Fields}

/-- Only what a node document holds plays a part in its load. -/
theorem nodeAt_congr
    (hholds : ∀ spec : NodeSpec, spec.Holds members.given ↔ spec.Holds members'.given) :
    loader.nodeAt levels path (.object members) = .ok node ↔
      loader.nodeAt levels path (.object members') = .ok node := by
  cases levels with
  | zero => exact ⟨nofun, nofun⟩
  | succ levels => simp only [nodeAt_eq_ok_iff, NodeSpec.decode_object_eq_ok_iff, hholds]

theorem fieldsOfMembers_of_load {load : DocumentPath → Value → Except LoadError Node}
    (hload : ∀ path node, load path v = .ok node → load path v' = .ok node)
    (h : fieldsOfMembers load path (before ++ (name, v) :: after) = .ok fields) :
    fieldsOfMembers load path (before ++ (name, v') :: after) = .ok fields := by
  induction before generalizing fields with
  | nil =>
    simp only [List.nil_append, fieldsOfMembers, bind_eq_ok_iff] at h ⊢
    obtain ⟨node, hnode, hrest⟩ := h
    exact ⟨node, hload _ _ hnode, hrest⟩
  | cons first before ih =>
    simp only [List.cons_append, fieldsOfMembers, bind_eq_ok_iff] at h ⊢
    obtain ⟨node, hnode, more, hmore, hfields⟩ := h
    exact ⟨node, hnode, more, ih hmore, hfields⟩

/-- A field whose document loads as the same node changes nothing. -/
theorem nodeAt_of_field
    (hload : ∀ path node, loader.nodeAt levels path v = .ok node →
      loader.nodeAt levels path v' = .ok node)
    (h : loader.nodeAt (levels + 1) path
      (.object (("format", .object (before ++ (name, v) :: after)) :: rest)) = .ok node) :
    loader.nodeAt (levels + 1) path
      (.object (("format", .object (before ++ (name, v') :: after)) :: rest)) = .ok node := by
  obtain ⟨spec, type, fields, rules, hspec, hresolves, hfields, hrules, rfl⟩ :=
    nodeAt_eq_ok_iff.mp h
  have holds := NodeSpec.decode_object_eq_ok_iff.mp hspec
  have hformat : spec.format = some (before ++ (name, v) :: after) :=
    Except.ok.inj (holds.read List.mem_cons_self).symm
  let spec' := { spec with format := some (before ++ (name, v') :: after) }
  have hobject : isObject spec' = isObject spec := by
    rw [isObject, isObject, hformat]
    rfl
  rw [hformat] at hfields
  refine nodeAt_eq_ok_iff.mpr ⟨spec', type, fields, rules, ?_, ?_, ?_, hrules, ?_⟩
  · exact NodeSpec.decode_object_eq_ok_iff.mpr (holds.reformat _)
  · exact ⟨hresolves.named, hobject ▸ hresolves.object, hobject ▸ hresolves.leaf⟩
  · exact fieldsOfMembers_of_load hload hfields
  · simp [spec', assemble, hformat]

theorem nodeAt_relaid_iff (h : v.Relaid v') (levels : Nat) (path : DocumentPath) (node : Node) :
    loader.nodeAt levels path v = .ok node ↔ loader.nodeAt levels path v' = .ok node := by
  induction h generalizing levels path node with
  | order perm =>
    have hgiven := perm.map fun member => (NodeField.ofKey? member.1, member.2)
    exact nodeAt_congr fun spec => ⟨(·.of_perm hgiven), (·.of_perm hgiven.symm)⟩
  | spelling => exact nodeAt_congr fun spec => .rfl
  | @null key field rest names nullable absent =>
    have hgiven : Members.given ((key, .null) :: rest) =
        (some field, .null) :: Members.given rest := by
      rw [← names]
      rfl
    refine nodeAt_congr fun spec => ?_
    rw [hgiven]
    refine NodeSpec.holds_null_iff nullable fun h => ?_
    rw [Members.map_given] at h
    obtain ⟨member, hmember, hfield⟩ := List.mem_map.mp h
    exact absent member hmember hfield
  | field _ ih =>
    cases levels with
    | zero => exact ⟨nofun, nofun⟩
    | succ levels =>
      exact ⟨nodeAt_of_field fun path node => (ih levels path node).mp,
        nodeAt_of_field fun path node => (ih levels path node).mpr⟩

/-- The layout of a document does not matter: in all layouts it loads as the same node, or in none
of them it loads. -/
theorem loadNode_eq_of_relaid (loader : Loader) (h : Relation.EqvGen Value.Relaid v v') :
    (loader.loadNode v).toOption = (loader.loadNode v').toOption := by
  induction h with
  | rel v v' relaid =>
    refine Option.ext fun node => ?_
    rw [toOption_eq_some_iff, toOption_eq_some_iff]
    exact nodeAt_relaid_iff relaid (loader.options.maxDepth + 1) [] node
  | refl _ => rfl
  | symm _ _ _ ih => exact ih.symm
  | trans _ _ _ _ _ first second => exact first.trans second

end Loader

/-! ### A guest -/

namespace Loader.Guest

/-- A name that is a text, "guest" if none is given. -/
def name : Value := .object [("type", .string "string"), ("default", .string "guest")]

def spelledName : Value :=
  .object [("defaultValue", .string "guest"), ("trim", .null), ("type", .string "string")]

def document : Value := .object [("format", .object [("name", name)])]

def spelledDocument : Value :=
  .object [("type", .null), ("format", .object [("name", spelledName)]), ("validate", .null)]

def node : Node :=
  .ofFields [("name", { type := some .string, defaultValue := some (.string "guest") })]

def loader : Loader := { types := FieldType.builtins }

set_option maxRecDepth 10000 in
theorem load_document : loader.loadNode document = .ok node := rfl

theorem relaid_name : Relation.EqvGen Value.Relaid spelledName name := by
  have htrim : Relation.EqvGen Value.Relaid spelledName
      (.object [("defaultValue", .string "guest"), ("type", .string "string")]) :=
    .trans _ _ _ (.rel _ _ (.order (List.Perm.swap ("trim", Value.null) _ _)))
      (.rel _ _ (@Value.Relaid.null "trim" .trim _ rfl (by decide) (by decide)))
  exact .trans _ _ _ htrim (.trans _ _ _ (.symm _ _ (.rel _ _ .spelling))
    (.rel _ _ (.order (List.Perm.swap _ _ _))))

theorem relaid_document : Relation.EqvGen Value.Relaid spelledDocument document := by
  have htype : Relation.EqvGen Value.Relaid spelledDocument
      (.object [("format", .object [("name", spelledName)]), ("validate", .null)]) :=
    .rel _ _ (@Value.Relaid.null "type" .type _ rfl (by decide) (by decide))
  have hvalidate : Relation.EqvGen Value.Relaid
      (.object [("format", .object [("name", spelledName)]), ("validate", .null)])
      (.object [("format", .object [("name", spelledName)])]) :=
    .trans _ _ _ (.rel _ _ (.order (List.Perm.swap ("validate", Value.null) _ _)))
      (.rel _ _ (@Value.Relaid.null "validate" .validate _ rfl (by decide) (by decide)))
  exact .trans _ _ _ htype (.trans _ _ _ hvalidate (Value.relaid_field relaid_name [] [] [] "name"))

/-- The guest loads as the same node from both documents. -/
theorem load_spelledDocument : loader.loadNode spelledDocument = .ok node := by
  have hsame := loadNode_eq_of_relaid loader relaid_document
  rw [load_document] at hsame
  exact toOption_eq_some_iff.mp hsame

end Loader.Guest

end ParamSchema
