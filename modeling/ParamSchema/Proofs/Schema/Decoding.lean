import ParamSchema.Proofs.Fallible
import ParamSchema.Proofs.Value.Members
import ParamSchema.Schema.NodeSpec

/-!
What a keyed record says. Decoding succeeds if every key stands for a field, no field is given twice
and every value suits its field (`RecordForm.exists_decode_object`); then each part of the record is
read from the value of its field alone (`RecordForm.Part`). For node documents
`NodeSpec.decode_written` gives the parts by their keys.
-/

namespace ParamSchema

namespace RecordForm

variable {K S α : Type} {form : RecordForm K S} {field : K} {part : S → α}
  {read : Value → Except DecodeFault α} {given : List K} {record result : S} {members : Members}

/-- A part of the record that is read from the value of one field. -/
structure Part (form : RecordForm K S) (field : K) (part : S → α)
    (read : Value → Except DecodeFault α) : Prop where
  set : ∀ record v next, form.set record field v = .ok next → read v = .ok (part next)
  keep : ∀ record other v next, other ≠ field → form.set record other v = .ok next →
    part next = part record

/-- Whether a field takes a value does not depend on what was given before. -/
def Uniform (form : RecordForm K S) (Takes : K → Value → Prop) : Prop :=
  ∀ record field v, (∃ next, form.set record field v = .ok next) ↔ Takes field v

/-- Keys that stand for the same field are the same, so no field is given twice. -/
theorem nodup_fields (nodup : (members.map (·.1)).Nodup)
    (once : ∀ first ∈ members, ∀ second ∈ members,
      form.ofKey? first.1 = form.ofKey? second.1 → first.1 = second.1) :
    (members.map fun member => form.ofKey? member.1).Nodup :=
  List.Nodup.map_on (fun first hfirst second hsecond hsame =>
    List.inj_on_of_nodup_map nodup hfirst hsecond (once first hfirst second hsecond hsame))
    (.of_map _ nodup)

variable [DecidableEq K]

theorem decodeMembers_cons {key : String} {v : Value} {rest : Members}
    (hkey : form.ofKey? key = some field) :
    form.decodeMembers given record ((key, v) :: rest) =
      if field ∈ given then .error (.duplicateField (form.name field))
      else form.set record field v >>= fun next =>
        form.decodeMembers (field :: given) next rest := by
  rw [decodeMembers]
  simp only [hkey]

theorem decodeMembers_cons_eq_ok_iff {key : String} {v : Value} {rest : Members} :
    form.decodeMembers given record ((key, v) :: rest) = .ok result ↔
      ∃ field next, form.ofKey? key = some field ∧ field ∉ given ∧
        form.set record field v = .ok next ∧
          form.decodeMembers (field :: given) next rest = .ok result := by
  cases hkey : form.ofKey? key with
  | none => simp [decodeMembers, hkey]
  | some field =>
    rw [decodeMembers_cons hkey]
    by_cases hgiven : field ∈ given
    · simp [hgiven]
    · simp [hgiven, bind_eq_ok_iff]

/-- A field that was given is not given again. -/
theorem ofKey?_ne_of_given (h : form.decodeMembers given record members = .ok result)
    (hfield : field ∈ given) : ∀ member ∈ members, form.ofKey? member.1 ≠ some field := by
  induction members generalizing given record with
  | nil => simp
  | cons member rest ih =>
    obtain ⟨other, next, hkey, hnew, _, hrest⟩ := decodeMembers_cons_eq_ok_iff.mp h
    refine List.forall_mem_cons.mpr ⟨fun hsame => ?_, ih hrest (List.mem_cons_of_mem _ hfield)⟩
    cases hkey.symm.trans hsame
    exact hnew hfield

theorem Part.of_not_given (hpart : form.Part field part read)
    (h : form.decodeMembers given record members = .ok result)
    (hnone : ∀ member ∈ members, form.ofKey? member.1 ≠ some field) :
    part result = part record := by
  induction members generalizing given record with
  | nil =>
    cases h
    rfl
  | cons member rest ih =>
    obtain ⟨other, next, hkey, _, hset, hrest⟩ := decodeMembers_cons_eq_ok_iff.mp h
    obtain ⟨hfirst, hnone⟩ := List.forall_mem_cons.mp hnone
    have hother : other ≠ field := fun heq => hfirst (heq ▸ hkey)
    rw [ih hrest hnone, hpart.keep _ _ _ _ hother hset]

theorem Part.of_given (hpart : form.Part field part read)
    (h : form.decodeMembers given record members = .ok result) {member : String × Value}
    (hmember : member ∈ members) (hkey : form.ofKey? member.1 = some field) :
    read member.2 = .ok (part result) := by
  induction members generalizing given record with
  | nil => cases hmember
  | cons first rest ih =>
    obtain ⟨other, next, hfirst, _, hset, hrest⟩ := decodeMembers_cons_eq_ok_iff.mp h
    rcases List.mem_cons.mp hmember with rfl | hmember
    · cases hfirst.symm.trans hkey
      -- The rest does not give the field again, so the part stays as it was read.
      rw [hpart.of_not_given hrest (ofKey?_ne_of_given hrest List.mem_cons_self)]
      exact hpart.set _ _ _ hset
    · exact ih hrest hmember

theorem exists_decodeMembers {Takes : K → Value → Prop} (uniform : form.Uniform Takes) :
    (∃ result, form.decodeMembers given record members = .ok result) ↔
      (∀ member ∈ members, ∃ field, form.ofKey? member.1 = some field ∧ field ∉ given ∧
        Takes field member.2) ∧ (members.map fun member => form.ofKey? member.1).Nodup := by
  induction members generalizing given record with
  | nil => simp [decodeMembers]
  | cons member rest ih =>
    obtain ⟨key, v⟩ := member
    rw [List.map_cons, List.nodup_cons, List.forall_mem_cons]
    constructor
    · rintro ⟨result, h⟩
      obtain ⟨field, next, hkey, hnew, hset, hrest⟩ := decodeMembers_cons_eq_ok_iff.mp h
      obtain ⟨hall, hnodup⟩ := ih.mp ⟨result, hrest⟩
      refine ⟨⟨⟨field, hkey, hnew, (uniform _ _ _).mp ⟨next, hset⟩⟩, fun member hmember => ?_⟩,
        fun hagain => ?_, hnodup⟩
      · obtain ⟨other, hother, hnot, htakes⟩ := hall member hmember
        exact ⟨other, hother, fun hmem => hnot (List.mem_cons_of_mem _ hmem), htakes⟩
      · obtain ⟨member, hmember, hsame⟩ := List.mem_map.mp hagain
        exact ofKey?_ne_of_given hrest List.mem_cons_self member hmember (hsame.trans hkey)
    · rintro ⟨⟨⟨field, hkey, hnew, htakes⟩, hall⟩, hnot, hnodup⟩
      obtain ⟨next, hset⟩ := (uniform record field v).mpr htakes
      have hrest : ∃ result, form.decodeMembers (field :: given) next rest = .ok result := by
        refine ih.mpr ⟨fun member hmember => ?_, hnodup⟩
        obtain ⟨other, hother, hother_new, htakes⟩ := hall member hmember
        refine ⟨other, hother, fun hmem => ?_, htakes⟩
        rcases List.mem_cons.mp hmem with rfl | hmem
        · exact hnot (List.mem_map.mpr ⟨member, hmember, hother.trans hkey.symm⟩)
        · exact hother_new hmem
      obtain ⟨result, hresult⟩ := hrest
      exact ⟨result, decodeMembers_cons_eq_ok_iff.mpr ⟨field, next, hkey, hnew, hset, hresult⟩⟩

/-- A keyed record can be decoded if every key stands for a field, no two for the same one, and
every value suits its field. -/
theorem exists_decode_object {Takes : K → Value → Prop} (uniform : form.Uniform Takes) :
    (∃ result, form.decode (.object members) = .ok result) ↔
      (∀ member ∈ members, ∃ field, form.ofKey? member.1 = some field ∧ Takes field member.2) ∧
        (members.map fun member => form.ofKey? member.1).Nodup := by
  show (∃ result, form.decodeMembers [] form.initial members = .ok result) ↔ _
  rw [exists_decodeMembers uniform]
  simp

/-- The part that a field decides, where one key alone stands for the field. -/
theorem Part.of_lookup (hpart : form.Part field part read) {key : String}
    (hkey : ∀ k, form.ofKey? k = some field ↔ k = key)
    (h : form.decode (.object members) = .ok result) :
    match members.lookup key with
    | some v => read v = .ok (part result)
    | none => part result = part form.initial := by
  cases hlookup : members.lookup key with
  | some v =>
    obtain ⟨before, after, rfl, _⟩ := List.lookup_eq_some_iff.mp hlookup
    exact hpart.of_given h List.mem_append_cons_self ((hkey key).mpr rfl)
  | none =>
    refine hpart.of_not_given h fun member hmember hmatch => ?_
    refine Entries.lookup_eq_none_iff_notMem.mp hlookup ?_
    exact (hkey member.1).mp hmatch ▸ List.mem_map_of_mem hmember

end RecordForm

namespace Value

variable {v : Value} {b : Bool} {s : String} {members : Members}

theorem asBool_eq_ok_iff : v.asBool = .ok b ↔ v = .bool b := by
  cases v <;> simp [asBool]

theorem asString_eq_ok_iff : v.asString = .ok s ↔ v = .string s := by
  cases v <;> simp [asString]

theorem asMembers_eq_ok_iff : v.asMembers = .ok members ↔ v = .object members := by
  cases v <;> simp [asMembers]

theorem asOptional_eq_ok_iff {α : Type} {read : Value → Except DecodeFault α} {content : Option α} :
    v.asOptional read = .ok content ↔
      v = .null ∧ content = none ∨ v ≠ .null ∧ ∃ a, read v = .ok a ∧ content = some a := by
  cases v with
  | null => simp [asOptional, eq_comm]
  | _ => cases h : read _ <;> simp [asOptional, h, Except.map, eq_comm]

/-- An optional field takes null and what `kind` makes. -/
theorem exists_asOptional_iff {α : Type} {read : Value → Except DecodeFault α} {kind : α → Value}
    (hread : ∀ {v a}, read v = .ok a ↔ v = kind a) :
    (∃ content, v.asOptional read = .ok content) ↔ v = .null ∨ ∃ a, v = kind a := by
  simp only [asOptional_eq_ok_iff, hread]
  by_cases hnull : v = .null
  · simp [hnull]
  · simp [hnull]

end Value

namespace NodeField

/-- What a field of a node document holds. -/
def Content : NodeField → Type
  | type => Option String
  | skip | multiple | object | acceptOtherKeys | acceptNull | optional => Bool
  | format | validate => Option Members
  | defaultValue => Option Value
  | trim => Option Bool

/-- Reads the value of a field. -/
def read : (field : NodeField) → Value → Except DecodeFault field.Content
  | type => Value.asOptional Value.asString
  | skip | multiple | object | acceptOtherKeys | acceptNull | optional => Value.asBool
  | format | validate => Value.asOptional Value.asMembers
  | defaultValue => Value.asOptional .ok
  | trim => Value.asOptional Value.asBool

/-- The values that a field may have. -/
def Takes : NodeField → Value → Prop
  | type, v => v = .null ∨ ∃ s, v = .string s
  | skip, v | multiple, v | object, v | acceptOtherKeys, v | acceptNull, v | optional, v =>
    ∃ b, v = .bool b
  | format, v | validate, v => v = .null ∨ ∃ members, v = .object members
  | defaultValue, _ => True
  | trim, v => v = .null ∨ ∃ b, v = .bool b

theorem exists_read_iff_takes (field : NodeField) (v : Value) :
    (∃ content, field.read v = .ok content) ↔ field.Takes v := by
  cases field with
  | type => exact Value.exists_asOptional_iff Value.asString_eq_ok_iff
  | skip | multiple | object | acceptOtherKeys | acceptNull | optional =>
    exact exists_congr fun b => Value.asBool_eq_ok_iff
  | format | validate => exact Value.exists_asOptional_iff Value.asMembers_eq_ok_iff
  | defaultValue => cases v <;> exact iff_of_true ⟨_, rfl⟩ trivial
  | trim => exact Value.exists_asOptional_iff Value.asBool_eq_ok_iff

theorem ofKey?_eq_some_iff {key : String} {field : NodeField} :
    ofKey? key = some field ↔ key = field.name ∨ key = shortDefault ∧ field = .defaultValue := by
  constructor
  · intro h
    unfold ofKey? at h
    split at h
    case isTrue hshort =>
      cases h
      exact .inr ⟨hshort, rfl⟩
    case isFalse => exact .inl (by simpa [eq_comm] using List.find?_some h)
  · rintro (rfl | ⟨rfl, rfl⟩)
    · cases field <;> decide
    · decide

end NodeField

namespace NodeSpec

/-- What a node document holds under a field. -/
def content (spec : NodeSpec) : (field : NodeField) → field.Content
  | .type => spec.type
  | .skip => spec.skip
  | .multiple => spec.multiple
  | .object => spec.object
  | .format => spec.format
  | .acceptOtherKeys => spec.acceptOtherKeys
  | .acceptNull => spec.acceptNull
  | .defaultValue => spec.defaultValue
  | .trim => spec.trim
  | .optional => spec.optional
  | .validate => spec.validate

theorem part (field : NodeField) :
    form.Part field (fun spec => spec.content field) field.read where
  set spec v next h := by
    cases field <;>
    · obtain ⟨content, hcontent, h⟩ := bind_eq_ok_iff.mp h
      cases h
      exact hcontent
  keep spec other v next hne h := by
    cases other <;>
    · obtain ⟨content, hcontent, h⟩ := bind_eq_ok_iff.mp h
      cases h
      cases field <;> first | rfl | exact absurd rfl hne

theorem uniform : form.Uniform NodeField.Takes := by
  refine fun spec field v => Iff.trans ?_ (field.exists_read_iff_takes v)
  cases field <;> exact exists_bind_pure_iff

variable {members : Members} {spec : NodeSpec}

/-- Where no key is there twice, a node document can be decoded if its keys are known, the default
is given once, and every value suits its field. -/
theorem exists_decode_iff (nodup : (members.map (·.1)).Nodup) :
    (∃ spec, NodeSpec.decode (.object members) = .ok spec) ↔
      (∀ member ∈ members, ∃ field, NodeField.ofKey? member.1 = some field ∧
        field.Takes member.2) ∧
      ¬(NodeField.shortDefault ∈ members.map (·.1) ∧
        NodeField.name .defaultValue ∈ members.map (·.1)) := by
  refine (RecordForm.exists_decode_object uniform).trans (and_congr_right fun hknown => ?_)
  constructor
  · rintro hfields ⟨hshort, hlong⟩
    obtain ⟨short, hshort, hshort_key⟩ := List.mem_map.mp hshort
    obtain ⟨long, hlong, hlong_key⟩ := List.mem_map.mp hlong
    have hsame : NodeField.ofKey? short.1 = NodeField.ofKey? long.1 := by
      rw [hshort_key, hlong_key]
      rfl
    have heq := List.inj_on_of_nodup_map hfields hshort hlong hsame
    rw [heq, hlong_key] at hshort_key
    exact absurd hshort_key (by decide)
  · intro honce
    refine RecordForm.nodup_fields nodup fun first hfirst second hsecond hsame => ?_
    obtain ⟨field, hfield, _⟩ := hknown first hfirst
    have hsecond_field : NodeField.ofKey? second.1 = some field := hsame.symm.trans hfield
    have hfirst_key := List.mem_map_of_mem (f := (·.1)) hfirst
    have hsecond_key := List.mem_map_of_mem (f := (·.1)) hsecond
    rcases NodeField.ofKey?_eq_some_iff.mp hfield with hone | ⟨hone, rfl⟩ <;>
      rcases NodeField.ofKey?_eq_some_iff.mp hsecond_field with htwo | ⟨htwo, h⟩
    · exact hone.trans htwo.symm
    · subst h
      exact absurd ⟨htwo ▸ hsecond_key, hone ▸ hfirst_key⟩ honce
    · exact absurd ⟨hone ▸ hfirst_key, htwo ▸ hsecond_key⟩ honce
    · exact hone.trans htwo.symm

/-- What a keyed node document says, field by field. -/
structure Written (spec : NodeSpec) (members : Members) : Prop where
  type : ∀ name, spec.type = some name ↔ members.lookup "type" = some (.string name)
  skip : spec.skip = true ↔ members.lookup "skip" = some (.bool true)
  multiple : spec.multiple = true ↔ members.lookup "multiple" = some (.bool true)
  object : spec.object = true ↔ members.lookup "object" = some (.bool true)
  format : ∀ fields, spec.format = some fields ↔ members.lookup "format" = some (.object fields)
  acceptOtherKeys :
    spec.acceptOtherKeys = true ↔ members.lookup "acceptOtherKeys" = some (.bool true)
  acceptNull : spec.acceptNull = true ↔ members.lookup "acceptNull" = some (.bool true)
  default : ∀ v, spec.defaultValue = some v ↔ v ≠ .null ∧
    (members.lookup "default" = some v ∨ members.lookup "defaultValue" = some v)
  trim : ∀ b, spec.trim = some b ↔ members.lookup "trim" = some (.bool b)
  optional : spec.optional = true ↔ members.lookup "optional" = some (.bool true)
  validate : ∀ rules, spec.validate = some rules ↔
    members.lookup "validate" = some (.object rules)

/-- A field that has one key holds what is read from the value of the key. -/
theorem content_of_lookup (h : NodeSpec.decode (.object members) = .ok spec) (field : NodeField)
    (hfield : field ≠ .defaultValue) :
    match members.lookup field.name with
    | some v => field.read v = .ok (spec.content field)
    | none => spec.content field = ({} : NodeSpec).content field :=
  (part field).of_lookup (fun k => by
    show NodeField.ofKey? k = some field ↔ _
    simp [NodeField.ofKey?_eq_some_iff, hfield]) h

/-- A flag holds if its key is there with the value true. -/
theorem flag_of_lookup {key : String} {flag : Bool}
    (h : match members.lookup key with
      | some v => v.asBool = .ok flag
      | none => flag = false) :
    flag = true ↔ members.lookup key = some (.bool true) := by
  cases hlookup : members.lookup key with
  | none => simp_all
  | some v =>
    simp only [hlookup, Value.asBool_eq_ok_iff] at h
    simp [h]

/-- An optional field holds what its key has, if that is not null. -/
theorem optional_of_lookup {α : Type} {key : String} {content : Option α}
    {read : Value → Except DecodeFault α} {kind : α → Value}
    (hread : ∀ {v a}, read v = .ok a ↔ v = kind a) (hkind : ∀ a, kind a ≠ .null)
    (h : match members.lookup key with
      | some v => v.asOptional read = .ok content
      | none => content = none) (a : α) :
    content = some a ↔ members.lookup key = some (kind a) := by
  cases hlookup : members.lookup key with
  | none => simp_all
  | some v =>
    simp only [hlookup, Value.asOptional_eq_ok_iff, hread] at h
    rcases h with ⟨rfl, rfl⟩ | ⟨_, b, rfl, rfl⟩
    · simpa using (hkind a).symm
    · have hinj : kind b = kind a → b = a := fun heq => by
        have := hread.mpr heq
        rw [hread.mpr rfl] at this
        exact Except.ok.inj this
      simpa using ⟨congrArg kind, hinj⟩

theorem default_iff (h : NodeSpec.decode (.object members) = .ok spec) (v : Value) :
    spec.defaultValue = some v ↔ v ≠ .null ∧
      (members.lookup "default" = some v ∨ members.lookup "defaultValue" = some v) := by
  have hpart := part .defaultValue
  -- The default that a key gives, whichever of the two keys it is.
  have hgiven {key : String} {w : Value} (hkey : NodeField.ofKey? key = some .defaultValue)
      (hw : members.lookup key = some w) : spec.defaultValue = some v ↔ v ≠ .null ∧ w = v := by
    obtain ⟨before, after, rfl, _⟩ := List.lookup_eq_some_iff.mp hw
    have hcontent : w.asOptional .ok = .ok spec.defaultValue :=
      hpart.of_given h List.mem_append_cons_self hkey
    rcases Value.asOptional_eq_ok_iff.mp hcontent with ⟨rfl, hnone⟩ | ⟨hnull, d, hd, hsome⟩
    · simpa [hnone] using Ne.symm
    · cases hd
      simpa [hsome] using fun heq => heq ▸ hnull
  constructor
  · intro hspec
    obtain ⟨member, hmember, hkey⟩ : ∃ member ∈ members,
        NodeField.ofKey? member.1 = some .defaultValue := by
      by_contra hnone
      have := hpart.of_not_given h fun member hmember hkey => hnone ⟨member, hmember, hkey⟩
      exact Option.some_ne_none v (hspec.symm.trans this)
    obtain ⟨w, hw⟩ : ∃ w, members.lookup member.1 = some w :=
      Option.ne_none_iff_exists'.mp
        (mt Entries.lookup_eq_none_iff_notMem.mp (not_not.mpr (List.mem_map_of_mem hmember)))
    obtain ⟨hnull, rfl⟩ := (hgiven hkey hw).mp hspec
    refine ⟨hnull, ?_⟩
    rcases NodeField.ofKey?_eq_some_iff.mp hkey with heq | ⟨heq, _⟩ <;> rw [heq] at hw
    · exact .inr hw
    · exact .inl hw
  · rintro ⟨hnull, hkey | hkey⟩
    · exact (hgiven (by decide) hkey).mpr ⟨hnull, rfl⟩
    · exact (hgiven (by decide) hkey).mpr ⟨hnull, rfl⟩

theorem decode_written (h : NodeSpec.decode (.object members) = .ok spec) :
    spec.Written members where
  type := optional_of_lookup Value.asString_eq_ok_iff nofun (content_of_lookup h .type nofun)
  skip := flag_of_lookup (content_of_lookup h .skip nofun)
  multiple := flag_of_lookup (content_of_lookup h .multiple nofun)
  object := flag_of_lookup (content_of_lookup h .object nofun)
  format := optional_of_lookup Value.asMembers_eq_ok_iff nofun (content_of_lookup h .format nofun)
  acceptOtherKeys := flag_of_lookup (content_of_lookup h .acceptOtherKeys nofun)
  acceptNull := flag_of_lookup (content_of_lookup h .acceptNull nofun)
  default := default_iff h
  trim := optional_of_lookup Value.asBool_eq_ok_iff nofun (content_of_lookup h .trim nofun)
  optional := flag_of_lookup (content_of_lookup h .optional nofun)
  validate :=
    optional_of_lookup Value.asMembers_eq_ok_iff nofun (content_of_lookup h .validate nofun)

end NodeSpec

end ParamSchema
