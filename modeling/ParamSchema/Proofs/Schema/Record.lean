import ParamSchema.Proofs.Fallible
import ParamSchema.Proofs.Value.Distinct
import ParamSchema.Schema.NodeSpec

/-!
Decoded records. What holds of a record before any field is given, and stays when a field is given
a part of the document, holds of every record that is decoded (`RecordForm.decode_induct`).
-/

namespace ParamSchema

/-- The items of an array or the values of an object's members. -/
def Value.parts : Value → List Value
  | .array items => items
  | .object members => members.map (·.2)
  | _ => []

theorem Value.Distinct.parts {v : Value} (h : v.Distinct) : ∀ part ∈ v.parts, part.Distinct := by
  cases h with
  | array each => exact each
  | object _ each => exact List.forall_mem_map.mpr each
  | _ => simp [Value.parts]

namespace RecordForm

variable {K S : Type} {form : RecordForm K S} {P : S → Prop} {record result : S}

theorem decodeMembers_induct [DecidableEq K] {given : List K} {members : Members}
    (set : ∀ record field v next, v ∈ members.map (·.2) → P record →
      form.set record field v = .ok next → P next)
    (h : form.decodeMembers given record members = .ok result) (hrecord : P record) : P result := by
  induction members generalizing given record with
  | nil =>
    cases h
    exact hrecord
  | cons member rest ih =>
    obtain ⟨key, v⟩ := member
    rw [decodeMembers] at h
    split at h
    case h_1 => cases h
    case h_2 field _ =>
      split at h
      · cases h
      · obtain ⟨next, hnext, h⟩ := bind_eq_ok_iff.mp h
        refine ih (fun record field v next hv => set record field v next ?_) h ?_
        · exact List.mem_cons_of_mem _ hv
        · exact set record field v next List.mem_cons_self hrecord hnext

theorem decodeItems_induct {total : Nat} {fields : List K} {items : List Value}
    (set : ∀ record field v next, v ∈ items → P record →
      form.set record field v = .ok next → P next)
    (h : form.decodeItems total record fields items = .ok result) (hrecord : P record) :
    P result := by
  induction fields generalizing items record with
  | nil =>
    cases items with
    | nil =>
      cases h
      exact hrecord
    | cons v items => cases h
  | cons field fields ih =>
    cases items with
    | nil =>
      rw [decodeItems] at h
      split at h
      · exact ih set h hrecord
      · cases h
    | cons v items =>
      rw [decodeItems] at h
      obtain ⟨next, hnext, h⟩ := bind_eq_ok_iff.mp h
      refine ih (fun record field v next hv => set record field v next ?_) h ?_
      · exact List.mem_cons_of_mem _ hv
      · exact set record field v next List.mem_cons_self hrecord hnext

/-- What the parts of a document keep up holds of the record that it stands for. -/
theorem decode_induct [DecidableEq K] {doc : Value} (initial : P form.initial)
    (set : ∀ record field v next, v ∈ doc.parts → P record →
      form.set record field v = .ok next → P next)
    (h : form.decode doc = .ok result) : P result := by
  cases doc with
  | object members => exact decodeMembers_induct set h initial
  | array items => exact decodeItems_induct set h initial
  | _ => cases h

end RecordForm

namespace Value

variable {v : Value}

theorem asOptional_ok_ne_null {d : Value} (h : v.asOptional .ok = .ok (some d)) : d ≠ .null := by
  rintro rfl
  cases v <;> cases h

theorem asOptional_asMembers {members : Members}
    (h : v.asOptional Value.asMembers = .ok (some members)) : v = .object members := by
  cases v <;> cases h
  rfl

end Value

namespace NodeSpec

/-- The field map of a node document has distinct keys, and its default is not null. -/
structure Sound (spec : NodeSpec) : Prop where
  format : ∀ members, spec.format = some members → (Value.object members).Distinct
  default : spec.defaultValue ≠ some .null

theorem set_sound {spec next : NodeSpec} {field : NodeField} {v : Value} (hv : v.Distinct)
    (sound : spec.Sound) (h : spec.set field v = .ok next) : next.Sound := by
  obtain ⟨format, default⟩ := sound
  cases field with
  | format =>
    obtain ⟨format, hformat, h⟩ := bind_eq_ok_iff.mp h
    cases h
    refine ⟨fun members hmembers => ?_, default⟩
    cases hmembers
    rwa [← Value.asOptional_asMembers hformat]
  | defaultValue =>
    obtain ⟨d, hd, h⟩ := bind_eq_ok_iff.mp h
    cases h
    refine ⟨format, fun hnull => ?_⟩
    cases hnull
    exact Value.asOptional_ok_ne_null hd rfl
  | _ =>
    obtain ⟨_, _, h⟩ := bind_eq_ok_iff.mp h
    cases h
    exact ⟨format, default⟩

theorem decode_sound {spec : NodeSpec} {doc : Value} (hdoc : doc.Distinct)
    (h : NodeSpec.decode doc = .ok spec) : spec.Sound :=
  RecordForm.decode_induct ⟨by simp [form], by simp [form]⟩
    (fun _ _ v _ hv sound hset => set_sound (hdoc.parts v hv) sound hset) h

end NodeSpec

end ParamSchema
