import ParamSchema.Proofs.Schema.Decoding
import ParamSchema.Proofs.Schema.Loader
import ParamSchema.Proofs.Schema.Rules
import ParamSchema.Proofs.Value.Distinct

/-!
The grammar of keyed schema documents. `Loader.Grammatical` says what one node document may say, and
`Loader.Reads` which node it stands for, both by its keys alone. A document loads exactly if every
node document in it is grammatical, and then gives the node that it stands for
(`Loader.loadNode_grammar`).
-/

namespace ParamSchema

/-- `doc` stands where a node is due in a document, `depth` field maps below its root. -/
inductive Value.NodeBelow (doc : Value) : Nat → Value → Prop
  | here : NodeBelow doc 0 doc
  | field {depth : Nat} {members fields : Members} {member : String × Value}
    (format : members.lookup "format" = some (.object fields)) (mem : member ∈ fields)
    (below : NodeBelow doc depth member.2) : NodeBelow doc (depth + 1) (.object members)

/-- An object stands wherever a node is due. -/
def Value.Keyed (root : Value) : Prop :=
  ∀ depth doc, NodeBelow doc depth root → ∃ members, doc = .object members

namespace Members

/-- Something other than null is under the key. -/
def Gives (members : Members) (key : String) : Prop :=
  ∃ v, members.lookup key = some v ∧ v ≠ .null

/-- The members of the object under a key, if there is one. -/
def mapUnder (members : Members) (key : String) : Members :=
  match members.lookup key with
  | some (.object entries) => entries
  | _ => []

/-- A node document is one of an object: it says so or has a field map. -/
def DescribesObject (members : Members) : Prop :=
  members.lookup "object" = some (.bool true) ∨ members.Gives "format"

theorem mem_mapUnder {members : Members} {key : String} {member : String × Value} :
    member ∈ members.mapUnder key ↔
      ∃ entries, members.lookup key = some (.object entries) ∧ member ∈ entries := by
  unfold mapUnder
  split
  case h_1 entries heq => simp [heq]
  case h_2 hnot => simpa using fun entries heq => absurd heq (hnot entries)

end Members

namespace Loader

/-- What a keyed node document may say at a depth. -/
structure Grammatical (loader : Loader) (depth : Nat) (members : Members) : Prop where
  depth : depth ≤ loader.options.maxDepth
  keys : ∀ member ∈ members, member.1 ∈ ["type", "skip", "multiple", "object", "format",
    "acceptOtherKeys", "acceptNull", "default", "defaultValue", "trim", "optional", "validate"]
  default : ¬("default" ∈ members.map (·.1) ∧ "defaultValue" ∈ members.map (·.1))
  type : ∀ v, members.lookup "type" = some v →
    v = .null ∨ ∃ name type, v = .string name ∧ loader.types.get? name = some type
  flags : ∀ key ∈ ["skip", "multiple", "object", "acceptOtherKeys", "acceptNull", "optional"],
    ∀ v, members.lookup key = some v → ∃ b, v = .bool b
  trim : ∀ v, members.lookup "trim" = some v → v = .null ∨ ∃ b, v = .bool b
  maps : ∀ key ∈ ["format", "validate"],
    ∀ v, members.lookup key = some v → v = .null ∨ ∃ entries, v = .object entries
  exclusive : ¬(members.Gives "type" ∧ members.DescribesObject)
  leaf : members.Gives "type" ∨ members.DescribesObject ∨
    members.lookup "skip" = some (.bool true)
  rules : ∀ entry ∈ members.mapUnder "validate", entry.2 = .bool true ∨
    (∃ args, entry.2 = .array args) ∨
      entry.2 = .bool false ∧ loader.options.allowDisabledRules = true

/-- A node mirrors a keyed node document, its fields apart. -/
structure Mirrors (loader : Loader) (members : Members) (node : Node) : Prop where
  skip : node.skip = true ↔ members.lookup "skip" = some (.bool true)
  multiple : node.multiple = true ↔ members.lookup "multiple" = some (.bool true)
  object : node.object = true ↔ members.DescribesObject
  acceptOtherKeys :
    node.acceptOtherKeys = true ↔ members.lookup "acceptOtherKeys" = some (.bool true)
  acceptNull : node.acceptNull = true ↔ members.lookup "acceptNull" = some (.bool true)
  default : ∀ v, node.defaultValue = some v ↔ v ≠ .null ∧
    (members.lookup "default" = some v ∨ members.lookup "defaultValue" = some v)
  trim : node.trim = false ↔ members.lookup "trim" = some (.bool false)
  optional : node.optional = true ↔ members.lookup "optional" = some (.bool true)
  type : ∀ type, node.type = some type ↔
    ∃ name, members.lookup "type" = some (.string name) ∧ loader.types.get? name = some type
  rules : List.Forall₂ EntryRule (enabled (members.mapUnder "validate")) node.rules

/-- The node that a keyed schema document stands for, field by field in the order of its maps. -/
inductive Reads (loader : Loader) : Value → Node → Prop
  | object {members : Members} {node : Node} (mirrors : loader.Mirrors members node)
    (names : node.fields.map (·.1) = (members.mapUnder "format").map (·.1))
    (fields : List.Forall₂ (fun member field => Reads loader member.2 field.2)
      (members.mapUnder "format") node.fields) : Reads loader (.object members) node

variable {loader : Loader} {path : DocumentPath} {depth levels : Nat} {members : Members}
  {spec : NodeSpec} {type : Option FieldType} {v : Value} {node : Node} {fields : Fields}
  {rules : List Rule}

/-! ### One node document -/

/-- The field of a known key, and what it takes, where no key is there twice. -/
theorem Grammatical.takes (h : loader.Grammatical depth members)
    (nodup : (members.map (·.1)).Nodup) {member : String × Value} (hmember : member ∈ members) :
    ∃ field, NodeField.ofKey? member.1 = some field ∧ field.Takes member.2 := by
  obtain ⟨key, v⟩ := member
  have hlookup := (Entries.lookup_eq_some_iff_mem nodup).mpr hmember
  have hkey := h.keys _ hmember
  simp only [List.mem_cons, List.not_mem_nil, or_false] at hkey
  rcases hkey with rfl | rfl | rfl | rfl | rfl | rfl | rfl | rfl | rfl | rfl | rfl | rfl
  · refine ⟨.type, rfl, (h.type v hlookup).imp id ?_⟩
    rintro ⟨name, _, hname, _⟩
    exact ⟨name, hname⟩
  · exact ⟨.skip, rfl, h.flags _ (by simp) v hlookup⟩
  · exact ⟨.multiple, rfl, h.flags _ (by simp) v hlookup⟩
  · exact ⟨.object, rfl, h.flags _ (by simp) v hlookup⟩
  · exact ⟨.format, rfl, h.maps _ (by simp) v hlookup⟩
  · exact ⟨.acceptOtherKeys, rfl, h.flags _ (by simp) v hlookup⟩
  · exact ⟨.acceptNull, rfl, h.flags _ (by simp) v hlookup⟩
  · exact ⟨.defaultValue, rfl, trivial⟩
  · exact ⟨.defaultValue, rfl, trivial⟩
  · exact ⟨.trim, rfl, h.trim v hlookup⟩
  · exact ⟨.optional, rfl, h.flags _ (by simp) v hlookup⟩
  · exact ⟨.validate, rfl, h.maps _ (by simp) v hlookup⟩

/-- A key is given, and not as null, if an optional field of one kind of values holds something. -/
theorem gives_iff {α : Type} {key : String} {content : Option α} (kind : α → Value)
    (hkind : ∀ a, kind a ≠ .null)
    (hwritten : ∀ a, content = some a ↔ members.lookup key = some (kind a))
    (htakes : ∀ v, members.lookup key = some v → v = .null ∨ ∃ a, v = kind a) :
    members.Gives key ↔ content.isSome = true := by
  rw [Option.isSome_iff_exists]
  constructor
  · rintro ⟨v, hv, hnull⟩
    obtain ⟨a, rfl⟩ := (htakes v hv).resolve_left hnull
    exact ⟨a, (hwritten a).mpr hv⟩
  · rintro ⟨a, ha⟩
    exact ⟨kind a, (hwritten a).mp ha, hkind a⟩

theorem getD_eq_mapUnder {key : String} {content : Option Members}
    (hwritten : ∀ entries, content = some entries ↔ members.lookup key = some (.object entries)) :
    content.getD [] = members.mapUnder key := by
  unfold Members.mapUnder
  split
  case h_1 entries heq => rw [(hwritten entries).mpr heq, Option.getD_some]
  case h_2 hnot =>
    cases content with
    | none => rfl
    | some entries => exact absurd ((hwritten entries).mp rfl) (hnot entries)

section Decoded

variable (h : NodeSpec.decode (.object members) = .ok spec)

include h

theorem takes_of_decode (field : NodeField) (hfield : field ≠ .defaultValue) (v : Value)
    (hv : members.lookup field.name = some v) : field.Takes v := by
  have := NodeSpec.content_of_lookup h field hfield
  rw [hv] at this
  exact (field.exists_read_iff_takes v).mp ⟨_, this⟩

theorem gives_type_iff : members.Gives "type" ↔ spec.type.isSome = true :=
  gives_iff .string (fun _ => nofun) (NodeSpec.decode_written h).type
    (takes_of_decode h .type nofun)

theorem describesObject_iff : members.DescribesObject ↔ isObject spec = true := by
  have hformat : members.Gives "format" ↔ spec.format.isSome = true :=
    gives_iff .object (fun _ => nofun) (NodeSpec.decode_written h).format
      (takes_of_decode h .format nofun)
  rw [Members.DescribesObject, hformat, ← (NodeSpec.decode_written h).object, isObject,
    Bool.or_eq_true]

theorem format_eq_mapUnder : spec.format.getD [] = members.mapUnder "format" :=
  getD_eq_mapUnder (NodeSpec.decode_written h).format

theorem validate_eq_mapUnder : spec.validate.getD [] = members.mapUnder "validate" :=
  getD_eq_mapUnder (NodeSpec.decode_written h).validate

end Decoded

/-- A node document is grammatical if it can be decoded, is one of a leaf, an object or a skip node,
and its rule map takes every entry. -/
theorem grammatical_iff (nodup : (members.map (·.1)).Nodup) :
    loader.Grammatical depth members ↔ depth ≤ loader.options.maxDepth ∧
      ∃ spec, NodeSpec.decode (.object members) = .ok spec ∧ (∃ type, loader.Resolves spec type) ∧
        ∀ entry ∈ spec.validate.getD [], loader.TakesEntry entry.2 := by
  constructor
  · intro grammatical
    obtain ⟨spec, hspec⟩ := (NodeSpec.exists_decode_iff nodup).mpr
      ⟨fun member hmember => grammatical.takes nodup hmember, grammatical.default⟩
    have hwritten := NodeSpec.decode_written hspec
    refine ⟨grammatical.depth, spec, hspec, exists_resolves_iff.mpr ⟨?_, ?_, ?_⟩, ?_⟩
    · intro name hname
      rcases grammatical.type _ ((hwritten.type name).mp hname) with hnull | ⟨_, type, heq, htype⟩
      · cases hnull
      · cases heq
        exact ⟨type, htype⟩
    · rw [← gives_type_iff hspec, ← describesObject_iff hspec]
      exact grammatical.exclusive
    · rw [← gives_type_iff hspec, ← describesObject_iff hspec, hwritten.skip]
      exact grammatical.leaf
    · rw [validate_eq_mapUnder hspec]
      exact grammatical.rules
  · rintro ⟨hdepth, spec, hspec, hresolves, hentries⟩
    have hwritten := NodeSpec.decode_written hspec
    have htakes := takes_of_decode hspec
    obtain ⟨hknown, honce⟩ := (NodeSpec.exists_decode_iff nodup).mp ⟨spec, hspec⟩
    obtain ⟨hregistered, hexclusive, hleaf⟩ := exists_resolves_iff.mp hresolves
    rw [← gives_type_iff hspec, ← describesObject_iff hspec] at hexclusive hleaf
    exact {
      depth := hdepth
      keys := fun member hmember => by
        obtain ⟨field, hfield, _⟩ := hknown member hmember
        rcases NodeField.ofKey?_eq_some_iff.mp hfield with hkey | ⟨hkey, _⟩ <;> rw [hkey]
        · cases field <;> decide
        · decide
      default := honce
      type := fun v hv => by
        rcases htakes .type nofun v hv with hnull | ⟨name, rfl⟩
        · exact .inl hnull
        · obtain ⟨type, htype⟩ := hregistered name ((hwritten.type name).mpr hv)
          exact .inr ⟨name, type, rfl, htype⟩
      flags := fun key hkey v hv => by
        simp only [List.mem_cons, List.not_mem_nil, or_false] at hkey
        rcases hkey with rfl | rfl | rfl | rfl | rfl | rfl
        · exact htakes .skip nofun v hv
        · exact htakes .multiple nofun v hv
        · exact htakes .object nofun v hv
        · exact htakes .acceptOtherKeys nofun v hv
        · exact htakes .acceptNull nofun v hv
        · exact htakes .optional nofun v hv
      trim := fun v hv => htakes .trim nofun v hv
      maps := fun key hkey v hv => by
        simp only [List.mem_cons, List.not_mem_nil, or_false] at hkey
        rcases hkey with rfl | rfl
        · exact htakes .format nofun v hv
        · exact htakes .validate nofun v hv
      exclusive := hexclusive
      leaf := by rwa [← hwritten.skip]
      rules := by rwa [← validate_eq_mapUnder hspec] }

/-- The node of a decoded document mirrors it. -/
theorem assemble_mirrors (h : NodeSpec.decode (.object members) = .ok spec)
    (hresolves : loader.Resolves spec type)
    (hrules : loader.rulesOfMembers path (spec.validate.getD []) = .ok rules) :
    loader.Mirrors members (assemble spec type fields rules) :=
  have hwritten := NodeSpec.decode_written h
  { skip := hwritten.skip
    multiple := hwritten.multiple
    object := (describesObject_iff h).symm
    acceptOtherKeys := hwritten.acceptOtherKeys
    acceptNull := hwritten.acceptNull
    default := hwritten.default
    trim := by
      rw [← hwritten.trim]
      show spec.trim.getD true = false ↔ _
      cases spec.trim <;> simp
    optional := hwritten.optional
    type := fun t => by
      have hnamed := hresolves.named
      simp only [← hwritten.type]
      show type = some t ↔ _
      cases htype : spec.type <;> cases type <;> simp_all [eq_comm]
    rules := by
      rw [← validate_eq_mapUnder h]
      exact (rulesOfMembers_eq_ok_iff.mp hrules).2 }

/-! ### All node documents -/

theorem exists_nodeAt_iff {base : Nat} (hbase : base + levels = loader.options.maxDepth + 1)
    (distinct : v.Distinct) (keyed : v.Keyed) :
    (∃ node, loader.nodeAt levels path v = .ok node) ↔
      ∀ depth members, (Value.object members).NodeBelow depth v →
        loader.Grammatical (base + depth) members := by
  induction levels generalizing base path v with
  | zero =>
    obtain ⟨members, rfl⟩ := keyed 0 v .here
    refine iff_of_false (fun ⟨_, h⟩ => nomatch h) fun hall => ?_
    have := (hall 0 members .here).depth
    omega
  | succ levels ih =>
    obtain ⟨members, rfl⟩ := keyed 0 v .here
    obtain ⟨nodup, each⟩ := Value.distinct_object_iff.mp distinct
    -- The documents of the fields are node documents one level deeper.
    have hfield {fields : Members} (hformat : members.lookup "format" = some (.object fields))
        {member : String × Value} (hmember : member ∈ fields) (path : DocumentPath) :
        (∃ node, loader.nodeAt levels path member.2 = .ok node) ↔
          ∀ depth inner, (Value.object inner).NodeBelow depth member.2 →
            loader.Grammatical (base + 1 + depth) inner := by
      have hdistinct := distinct.lookup "format" _ hformat
      refine ih (by omega) ((Value.distinct_object_iff.mp hdistinct).2 member hmember) ?_
      exact fun depth doc hdoc => keyed (depth + 1) doc (.field hformat hmember hdoc)
    constructor
    · rintro ⟨node, h⟩ depth inner hinner
      obtain ⟨spec, type, fields, rules, hspec, hresolves, hfields, hrules, -⟩ :=
        nodeAt_eq_ok_iff.mp h
      cases hinner with
      | here =>
        refine (grammatical_iff nodup).mpr ⟨by omega, spec, hspec, ⟨type, hresolves⟩, ?_⟩
        exact (rulesOfMembers_eq_ok_iff.mp hrules).1
      | @field depth _ entries member hformat hmember hbelow =>
        rw [(NodeSpec.decode_written hspec).format entries |>.mpr hformat] at hfields
        have hload := exists_fieldsOfMembers_iff.mp ⟨fields, hfields⟩ member hmember
        have := (hfield hformat hmember _).mp hload depth inner hbelow
        rwa [Nat.add_assoc, Nat.add_comm 1] at this
    · intro hall
      obtain ⟨_, spec, hspec, ⟨type, hresolves⟩, hentries⟩ :=
        (grammatical_iff nodup).mp (hall 0 members .here)
      obtain ⟨rules, hrules⟩ := exists_rulesOfMembers_iff.mpr hentries
      obtain ⟨fields, hfields⟩ : ∃ fields, fieldsOfMembers (loader.nodeAt levels)
          (path ++ ["format"]) (spec.format.getD []) = .ok fields := by
        refine exists_fieldsOfMembers_iff.mpr fun member hmember => ?_
        cases hformat : spec.format with
        | none => simp [hformat] at hmember
        | some entries =>
          rw [hformat] at hmember
          have hformat := (NodeSpec.decode_written hspec).format entries |>.mp hformat
          refine (hfield hformat hmember _).mpr fun depth inner hinner => ?_
          have := hall (depth + 1) inner (.field hformat hmember hinner)
          rwa [Nat.add_assoc, Nat.add_comm 1]
      exact ⟨_, nodeAt_eq_ok_iff.mpr
        ⟨spec, type, fields, rules, hspec, hresolves, hfields, hrules, rfl⟩⟩

theorem reads_of_nodeAt (keyed : v.Keyed) (h : loader.nodeAt levels path v = .ok node) :
    loader.Reads v node := by
  induction levels generalizing path v node with
  | zero => cases h
  | succ levels ih =>
    obtain ⟨members, rfl⟩ := keyed 0 v .here
    obtain ⟨spec, type, fields, rules, hspec, hresolves, hfields, hrules, rfl⟩ :=
      nodeAt_eq_ok_iff.mp h
    rw [format_eq_mapUnder hspec] at hfields
    refine .object (assemble_mirrors hspec hresolves hrules) (names_of_loaded hfields) ?_
    have hkeyed : ∀ member ∈ Members.mapUnder members "format", member.2.Keyed := by
      intro member hmember depth doc hdoc
      obtain ⟨entries, hformat, hmember⟩ := Members.mem_mapUnder.mp hmember
      exact keyed (depth + 1) doc (.field hformat hmember hdoc)
    have hloaded := fieldsOfMembers_eq_ok_iff.mp hfields
    exact ((List.forall₂_and_left _ _).mpr ⟨hkeyed, hloaded⟩).imp fun _ _ h => ih h.1 h.2.2

/-- A schema document in which objects stand for nodes loads exactly if every node document in it is
grammatical, and gives the node that it stands for. -/
theorem loadNode_grammar (loader : Loader) {root : Value} (distinct : root.Distinct)
    (keyed : root.Keyed) :
    ((∃ node, loader.loadNode root = .ok node) ↔
      ∀ depth members, (Value.object members).NodeBelow depth root →
        loader.Grammatical depth members) ∧
      ∀ node, loader.loadNode root = .ok node → loader.Reads root node := by
  refine ⟨?_, fun node h => reads_of_nodeAt keyed h⟩
  have hloads : (∃ node, loader.loadNode root = .ok node) ↔ _ :=
    exists_nodeAt_iff (Nat.zero_add _) distinct keyed
  simpa using hloads

/-! ### A voucher -/

namespace Voucher

/-- A code with a disabled rule and one that is negated once, its name starting with a negation. -/
def codeMembers : Members :=
  [("type", .string "string"), ("trim", .bool false),
    ("validate", .object [("NOT_NOT_isEmpty", .bool true), ("isLength", .bool false),
      ("isIn", .array [.array [.string "A", .string "B"]])])]

def amountMembers : Members :=
  [("type", .string "int"), ("default", .null), ("optional", .bool true)]

def document : Value :=
  .object [("format", .object [("code", .object codeMembers), ("amount", .object amountMembers)]),
    ("acceptOtherKeys", .bool true)]

def voucher : Node where
  object := true
  fields := [
    ("code", {
      type := some .string
      trim := false
      rules := [{ name := "NOT_isEmpty", negate := true, check := .named [] },
        { name := "isIn", check := .named [.array [.string "A", .string "B"]] }] }),
    ("amount", { type := some .integer, optional := true })]
  acceptOtherKeys := true

/-- A loader that allows one level of fields and disabled rules. -/
def lenient : Loader where
  types := FieldType.builtins
  options := { maxDepth := 1, allowDisabledRules := true }

theorem document_distinct : document.Distinct := by
  simp [document, codeMembers, amountMembers]

theorem document_keyed : document.Keyed := by
  intro depth doc hdoc
  cases hdoc with
  | here => exact ⟨_, rfl⟩
  | field hformat hmember hbelow =>
    cases hformat
    simp only [List.mem_cons, List.not_mem_nil, or_false] at hmember
    -- The documents of the fields have no field map.
    rcases hmember with rfl | rfl <;> cases hbelow with
    | here => exact ⟨_, rfl⟩
    | field hformat => cases hformat

set_option maxRecDepth 10000 in
theorem load_voucher : lenient.loadNode document = .ok voucher := rfl

/-- The voucher is what its document stands for, and the document of the code is grammatical. -/
theorem voucher_grammar : lenient.Reads document voucher ∧ lenient.Grammatical 1 codeMembers := by
  obtain ⟨hloads, hreads⟩ := loadNode_grammar lenient document_distinct document_keyed
  refine ⟨hreads _ load_voucher, hloads.mp ⟨_, load_voucher⟩ 1 codeMembers ?_⟩
  exact .field rfl List.mem_cons_self .here

end Voucher

end Loader

end ParamSchema
