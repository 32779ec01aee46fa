import ParamSchema.Proofs.Fallible
import ParamSchema.Proofs.Value.Members
import ParamSchema.Value.Reader

/-!
Values in which no object has a key twice. The reader gives no others (`Value.read_distinct`): its
states hold distinct values only, and no character leads out of these states.
-/

namespace ParamSchema

/-- No object in the value has a key twice, at any depth. -/
inductive Value.Distinct : Value → Prop
  | null : Distinct .null
  | bool (b : Bool) : Distinct (.bool b)
  | number (n : Number) : Distinct (.number n)
  | string (s : String) : Distinct (.string s)
  | array {items : List Value} (each : ∀ item ∈ items, Distinct item) : Distinct (.array items)
  | object {members : Members} (keys : (members.map (·.1)).Nodup)
    (each : ∀ member ∈ members, Distinct member.2) : Distinct (.object members)

namespace Value

variable {items : List Value} {members : Members} {key : String} {v : Value}

@[simp] theorem distinct_null : null.Distinct := .null

@[simp] theorem distinct_bool (b : Bool) : (bool b).Distinct := .bool b

@[simp] theorem distinct_number (n : Number) : (number n).Distinct := .number n

@[simp] theorem distinct_string (s : String) : (string s).Distinct := .string s

@[simp] theorem distinct_array_iff :
    (array items).Distinct ↔ ∀ item ∈ items, item.Distinct := by
  constructor
  · rintro ⟨⟩
    assumption
  · exact .array

@[simp] theorem distinct_object_iff :
    (object members).Distinct ↔
      (members.map (·.1)).Nodup ∧ ∀ member ∈ members, member.2.Distinct := by
  constructor
  · rintro ⟨⟩
    exact ⟨‹_›, ‹_›⟩
  · rintro ⟨keys, each⟩
    exact .object keys each

theorem Distinct.put (h : (Value.object members).Distinct) (hv : v.Distinct) :
    (Value.object (members.put key v)).Distinct := by
  obtain ⟨keys, each⟩ := distinct_object_iff.mp h
  refine .object (Members.nodup_put keys) fun member hmember => ?_
  rcases Members.mem_put hmember with rfl | hmember
  · exact hv
  · exact each member hmember

theorem Distinct.lookup (h : (Value.object members).Distinct) (key : String) :
    ∀ v ∈ members.lookup key, v.Distinct := by
  intro v hv
  obtain ⟨keys, each⟩ := distinct_object_iff.mp h
  exact each (key, v) ((Entries.lookup_eq_some_iff_mem keys).mp hv)

end Value

namespace Reader

/-! ### States of the reader -/

def Frame.Distinct : Frame → Prop
  | .array items => ∀ item ∈ items, item.Distinct
  | .object members _ => (Value.object members).Distinct

def Slot.Distinct : Slot → Prop
  | .value => True
  | .key members => (Value.object members).Distinct

def Mode.Distinct : Mode → Prop
  | .value | .openArray | .openObject | .numeral _ => True
  | .nextKey members | .colon members _ | .afterMember members => (Value.object members).Distinct
  | .afterItem items => ∀ item ∈ items, item.Distinct
  | .finished v | .word _ v => v.Distinct
  | .text slot _ _ => slot.Distinct

/-- All values that the state holds are distinct. -/
structure State.Distinct (state : State) : Prop where
  frames : ∀ frame ∈ state.frames, frame.Distinct
  mode : state.mode.Distinct

/-- The result of a step is a fault or a state with distinct values only. -/
def Safe (result : Except SyntaxFault State) : Prop :=
  ∀ next, result = .ok next → next.Distinct

@[simp] theorem safe_ok {state : State} : Safe (.ok state) ↔ state.Distinct := by
  simp [Safe]

@[simp] theorem safe_error {fault : SyntaxFault} : Safe (.error fault) := by
  simp [Safe]

variable {frames : List Frame} {v : Value} {slot : Slot}

/-- A whole value joins the container that awaits it. -/
theorem complete_distinct (hframes : ∀ frame ∈ frames, frame.Distinct) (hv : v.Distinct) :
    (complete frames v).Distinct := by
  cases frames with
  | nil => exact ⟨hframes, hv⟩
  | cons frame frames =>
    obtain ⟨hframe, hrest⟩ := List.forall_mem_cons.mp hframes
    cases frame with
    | array items => exact ⟨hrest, List.forall_mem_cons.mpr ⟨hv, hframe⟩⟩
    | object members key => exact ⟨hrest, Value.Distinct.put hframe hv⟩

theorem startValue_safe (hframes : ∀ frame ∈ frames, frame.Distinct) (c : Char) :
    Safe (startValue frames c) := by
  have keep {mode : Mode} (hmode : mode.Distinct) : State.Distinct ⟨frames, mode⟩ :=
    ⟨hframes, hmode⟩
  unfold startValue
  split
  case h_1 | h_2 =>
    split
    · exact safe_ok.mpr (keep trivial)
    · exact safe_error
  case h_3 | h_4 => exact safe_ok.mpr (keep trivial)
  case h_5 => exact safe_ok.mpr (keep .null)
  case h_6 | h_7 => exact safe_ok.mpr (keep (.bool _))
  case h_8 =>
    split
    · split
      · exact safe_ok.mpr (keep trivial)
      · exact safe_error
    · exact safe_error

theorem follow_safe {state : State} (h : state.Distinct) (c : Char) : Safe (follow state c) := by
  have hmode := h.mode
  unfold follow
  split
  · exact safe_ok.mpr h
  · split
    case h_1 items heq _ =>
      rw [heq] at hmode
      exact safe_ok.mpr ⟨List.forall_mem_cons.mpr ⟨hmode, h.frames⟩, trivial⟩
    case h_2 items heq _ =>
      rw [heq] at hmode
      exact safe_ok.mpr (complete_distinct h.frames
        (.array fun item hitem => hmode item (List.mem_reverse.mp hitem)))
    case h_3 members heq _ =>
      rw [heq] at hmode
      exact safe_ok.mpr ⟨h.frames, hmode⟩
    case h_4 members heq _ =>
      rw [heq] at hmode
      exact safe_ok.mpr (complete_distinct h.frames hmode)
    case h_5 => exact safe_error

theorem finishHex_safe (hframes : ∀ frame ∈ frames, frame.Distinct) (hslot : slot.Distinct)
    (done : String) (high : Option Nat) (code : Nat) :
    Safe (finishHex frames slot done high code) := by
  have keep (done : String) (escape : Escape) : State.Distinct ⟨frames, .text slot done escape⟩ :=
    ⟨hframes, hslot⟩
  unfold finishHex
  simp only []
  split <;> repeat' split
  all_goals simp [keep]

theorem stepText_safe (hframes : ∀ frame ∈ frames, frame.Distinct) (hslot : slot.Distinct)
    (done : String) (escape : Escape) (c : Char) : Safe (stepText frames slot done escape c) := by
  have keep (done : String) (escape : Escape) : State.Distinct ⟨frames, .text slot done escape⟩ :=
    ⟨hframes, hslot⟩
  unfold stepText
  cases escape with
  | none =>
    simp only []
    split
    case h_1 =>
      cases slot with
      | value => exact safe_ok.mpr (complete_distinct hframes (.string done))
      | key members => exact safe_ok.mpr ⟨hframes, hslot⟩
    case h_2 => exact safe_ok.mpr (keep _ _)
    case h_3 => split <;> simp [keep]
  | backslash =>
    simp only []
    split <;> simp [keep]
  | hex high seen code =>
    simp only []
    split
    · exact safe_ok.mpr (keep _ _)
    · split
      · exact finishHex_safe hframes hslot _ _ _
      · exact safe_error
  | low high | lowMark high =>
    simp only []
    split <;> simp [keep]

theorem stepNumeral_safe (hframes : ∀ frame ∈ frames, frame.Distinct) (n : Numeral) (c : Char) :
    Safe (stepNumeral frames n c) := by
  have keep (n : Numeral) : State.Distinct ⟨frames, .numeral n⟩ := ⟨hframes, trivial⟩
  unfold stepNumeral
  simp only []
  split
  · split <;> simp [keep]
  · split
    · simp [keep]
    · split
      · simp [keep]
      · split
        · simp [keep]
        · split
          · split
            · exact follow_safe (complete_distinct hframes (.number _)) c
            · exact safe_error
          · exact safe_error

/-- A character takes a state with distinct values to a fault or to another one. -/
theorem step_safe {state : State} (h : state.Distinct) (c : Char) : Safe (step state c) := by
  obtain ⟨frames, mode⟩ := state
  have hframes : ∀ frame ∈ frames, frame.Distinct := h.frames
  have hmode : mode.Distinct := h.mode
  unfold step
  simp only []
  split
  case h_1 slot done escape => exact stepText_safe hframes hmode done escape c
  case h_2 n => exact stepNumeral_safe hframes n c
  case h_3 next rest v =>
    split
    · exact safe_error
    · split
      · exact safe_ok.mpr (complete_distinct hframes hmode)
      · exact safe_ok.mpr ⟨hframes, hmode⟩
  case h_4 => exact safe_error
  case h_5 | h_6 | h_7 => exact follow_safe h c
  case h_8 =>
    split
    · exact safe_ok.mpr h
    · split
      case h_1 => exact safe_ok.mpr (complete_distinct hframes (by simp))
      case h_2 =>
        have hempty : (Frame.array []).Distinct := by simp [Frame.Distinct]
        exact startValue_safe (List.forall_mem_cons.mpr ⟨hempty, hframes⟩) c
      case h_3 => exact safe_ok.mpr (complete_distinct hframes (by simp))
      case h_4 => exact safe_ok.mpr ⟨hframes, Value.distinct_object_iff.mpr (by simp)⟩
      case h_5 => exact safe_ok.mpr ⟨hframes, hmode⟩
      case h_6 => exact safe_ok.mpr ⟨List.forall_mem_cons.mpr ⟨hmode, hframes⟩, trivial⟩
      case h_7 => exact startValue_safe hframes c
      case h_8 => exact safe_error

theorem foldlM_safe {state : State} (h : state.Distinct) (text : List Char) :
    Safe (text.foldlM step state) := by
  induction text generalizing state with
  | nil => exact safe_ok.mpr h
  | cons c text ih =>
    intro next hnext
    obtain ⟨middle, hmiddle, hnext⟩ := bind_eq_ok_iff.mp hnext
    exact ih (step_safe h c middle hmiddle) next hnext

theorem finish_distinct {state : State} (h : state.Distinct) (hfinish : finish state = .ok v) :
    v.Distinct := by
  have hmode := h.mode
  unfold finish at hfinish
  split at hfinish
  case h_1 heq =>
    cases hfinish
    rwa [heq] at hmode
  case h_2 =>
    split at hfinish
    · split at hfinish
      · split at hfinish
        · cases hfinish
          exact .number _
        · cases hfinish
      · cases hfinish
    · cases hfinish
  case h_3 => cases hfinish

end Reader

/-- A value that is read has no key twice. -/
theorem Value.read_distinct {text : String} {v : Value} (h : Value.read text = .ok v) :
    v.Distinct := by
  obtain ⟨state, hstate, hfinish⟩ := bind_eq_ok_iff.mp h
  have hinitial : Reader.State.Distinct {} := ⟨by simp, trivial⟩
  exact Reader.finish_distinct (Reader.foldlM_safe hinitial text.toList state hstate) hfinish

end ParamSchema
