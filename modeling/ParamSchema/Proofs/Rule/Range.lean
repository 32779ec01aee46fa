import ParamSchema.Proofs.Double.Decimal
import ParamSchema.Rule.Builtin

/-!
The ranges on whole numbers. The rules `min` and `max` compare the doubles nearest to the numbers,
so a number out of the range passes if it has the same nearest double as the bound; with magnitudes
up to `2 ^ 53` there is no such number (`range_whole`).
-/

namespace ParamSchema

open Double

namespace Decimal

theorem position_eq {negative : Bool} {decimal : Decimal} {d : Double}
    (h : decimal.toDouble? negative = some d) : decimal.position negative = d.signedUnits := by
  rw [position, h]

theorem position_whole (negative : Bool) {n : ℕ} (h : n < 2 ^ 64) :
    ∃ d, ofRatio? negative n 1 = some d ∧ position negative ⟨n, 0⟩ = d.signedUnits := by
  obtain ⟨d, hd⟩ := exists_ofRatio?_one negative h
  refine ⟨d, hd, position_eq ?_⟩
  rw [toDouble?_whole, hd]

theorem position_zero (negative : Bool) : position negative ⟨0, 0⟩ = 0 := by
  cases negative <;> rfl

/-- A whole number lies in one place, also zero with a minus. -/
theorem position_signed (negative : Bool) (n : ℕ) :
    position (decide (signed negative n < 0)) ⟨(signed negative n).natAbs, 0⟩ =
      position negative ⟨n, 0⟩ := by
  by_cases hn : n = 0
  · subst hn
    have hzero : (signed negative 0).natAbs = 0 := by cases negative <;> rfl
    rw [hzero, position_zero, position_zero]
  · have hsign : decide (signed negative n < 0) = negative := by
      cases negative
      · exact decide_eq_false (by simp [signed])
      · exact decide_eq_true (by simp [signed]; omega)
    have habs : (signed negative n).natAbs = n := by
      cases negative <;> simp [signed]
    rw [hsign, habs]

end Decimal

namespace Rule

variable {v w : Whole}

/-- A whole number lies where the double nearest to it lies. -/
theorem position?_whole (w : Whole) : ∃ d : Double, position? (.whole w) = some d.signedUnits ∧
    d.IsNearest w.val ∧ ∀ other : Double, other.IsNearest w.val → other.value = d.value := by
  have hbound : w.val.natAbs < 2 ^ 64 := by
    have hlower := w.lower
    have hupper := w.upper
    omega
  obtain ⟨d, hd, hposition⟩ := Decimal.position_whole (decide (w.val < 0)) hbound
  have hval : (signed (decide (w.val < 0)) w.val.natAbs : ℚ) / (1 : ℕ) = w.val := by
    rw [signed_natAbs, Nat.cast_one, div_one]
  refine ⟨d, congrArg some hposition, ?_, fun other h => ?_⟩
  · rw [← hval]
    exact isNearest_ofRatio? Nat.one_pos hd
  · rw [← hval] at h
    exact h.value_eq Nat.one_pos hd

/-- The two numbers have the same nearest double. -/
def SameDouble (v w : Whole) : Prop := ∃ d : Double, d.IsNearest v.val ∧ d.IsNearest w.val

/-- One number lies at or past another if it is as great, or if nothing but rounding tells them
apart. -/
theorem position?_le (v w : Whole) : ∃ m n, position? (.whole v) = some m ∧
    position? (.whole w) = some n ∧ (m ≤ n ↔ v.val ≤ w.val ∨ SameDouble v w) := by
  obtain ⟨d, hv, hnearest, hunique⟩ := position?_whole v
  obtain ⟨d', hw, hnearest', hunique'⟩ := position?_whole w
  refine ⟨_, _, hv, hw, ?_⟩
  rw [← value_le_iff]
  constructor
  · intro hle
    by_cases hval : v.val ≤ w.val
    · exact .inl hval
    · have hlt : (w.val : ℚ) < v.val := Int.cast_lt.mpr (not_le.mp hval)
      have heq := le_antisymm hle (hnearest'.mono hnearest hlt)
      exact .inr ⟨d, hnearest, hnearest'.congr heq⟩
  · rintro (hle | ⟨other, hother, hother'⟩)
    · rcases hle.lt_or_eq with hlt | heq
      · exact hnearest.mono hnearest' (Int.cast_lt.mpr hlt)
      · rw [heq] at hnearest
        exact (hunique' d hnearest).le
    · rw [← hunique other hother, hunique' other hother']

/-- A whole number of up to 53 bits is a double. -/
theorem exists_value_eq (h : w.val.natAbs ≤ 2 ^ 53) : ∃ d : Double, d.value = w.val := by
  refine ⟨⟨decide (w.val < 0), _, representable_mul_unitsPerOne h⟩, value_eq_int_iff.mpr ?_⟩
  rw [signedUnits_eq, ← signed_mul, signed_natAbs]

theorem val_eq_of_sameDouble (hv : v.val.natAbs ≤ 2 ^ 53) (hw : w.val.natAbs ≤ 2 ^ 53)
    (h : SameDouble v w) : v.val = w.val := by
  obtain ⟨d, hdv, hdw⟩ := h
  obtain ⟨dv, hdv'⟩ := exists_value_eq hv
  obtain ⟨dw, hdw'⟩ := exists_value_eq hw
  have hv0 := hdv.closest dv
  have hw0 := hdw.closest dw
  rw [hdv', sub_self, abs_zero] at hv0
  rw [hdw', sub_self, abs_zero] at hw0
  have hval : (v.val : ℚ) = w.val := by
    rw [← sub_eq_zero.mp (abs_nonpos_iff.mp hv0), ← sub_eq_zero.mp (abs_nonpos_iff.mp hw0)]
  exact_mod_cast hval

theorem SameDouble.symm (h : SameDouble v w) : SameDouble w v := by
  obtain ⟨d, hv, hw⟩ := h
  exact ⟨d, hw, hv⟩

theorem min_whole (v bound : Whole) (rest : List Value) :
    min (.whole v) (.whole bound :: rest) = true ↔ bound.val ≤ v.val ∨ SameDouble v bound := by
  obtain ⟨m, n, hm, hn, hle⟩ := position?_le bound v
  simp only [min, List.head?_cons, Option.bind_some, hm, hn, decide_eq_true_eq, hle]
  exact or_congr_right ⟨.symm, .symm⟩

theorem max_whole (v bound : Whole) (rest : List Value) :
    max (.whole v) (.whole bound :: rest) = true ↔ v.val ≤ bound.val ∨ SameDouble v bound := by
  obtain ⟨m, n, hm, hn, hle⟩ := position?_le v bound
  simp only [max, List.head?_cons, Option.bind_some, hm, hn, decide_eq_true_eq, hle]

/-- The ranges take whole numbers for equal that have the same nearest double, a tie going to the
even significand, and are exact apart from that; with magnitudes up to `2 ^ 53` they are exact. -/
theorem range_whole (v bound : Whole) (rest : List Value) :
    (min (.whole v) (.whole bound :: rest) = true ↔ bound.val ≤ v.val ∨ SameDouble v bound) ∧
    (max (.whole v) (.whole bound :: rest) = true ↔ v.val ≤ bound.val ∨ SameDouble v bound) ∧
    (v.val.natAbs ≤ 2 ^ 53 → bound.val.natAbs ≤ 2 ^ 53 →
      (min (.whole v) (.whole bound :: rest) = true ↔ bound.val ≤ v.val) ∧
      (max (.whole v) (.whole bound :: rest) = true ↔ v.val ≤ bound.val)) := by
  have hmin := min_whole v bound rest
  have hmax := max_whole v bound rest
  refine ⟨hmin, hmax, fun hv hbound => ?_⟩
  rw [hmin, hmax]
  constructor
  · exact or_iff_left_of_imp fun h => (val_eq_of_sameDouble hv hbound h).ge
  · exact or_iff_left_of_imp fun h => (val_eq_of_sameDouble hv hbound h).le

theorem range_whole_two_pow_53 :
    (2 ^ 53 - 1 : ℤ).natAbs ≤ 2 ^ 53 ∧ (2 ^ 53 : ℤ).natAbs ≤ 2 ^ 53 ∧
    ¬min (.whole ⟨2 ^ 53 - 1, by decide, by decide⟩)
      [.whole ⟨2 ^ 53, by decide, by decide⟩] = true ∧
    max (.whole ⟨2 ^ 53 - 1, by decide, by decide⟩)
      [.whole ⟨2 ^ 53, by decide, by decide⟩] = true := by
  have hv : (2 ^ 53 - 1 : ℤ).natAbs ≤ 2 ^ 53 := by decide
  have hbound : (2 ^ 53 : ℤ).natAbs ≤ 2 ^ 53 := by decide
  obtain ⟨-, -, hexact⟩ :=
    range_whole ⟨2 ^ 53 - 1, by decide, by decide⟩ ⟨2 ^ 53, by decide, by decide⟩ []
  obtain ⟨hmin, hmax⟩ := hexact hv hbound
  refine ⟨hv, hbound, ?_, hmax.mpr (by decide)⟩
  rw [hmin]
  decide

/-- The first number that is no double is taken for the double below it. -/
theorem not_exact_two_pow_53 : ¬∀ v bound : Whole,
    (min (.whole v) [.whole bound] = true ↔ bound.val ≤ v.val) ∧
    (max (.whole v) [.whole bound] = true ↔ v.val ≤ bound.val) := by
  intro h
  obtain ⟨hmin, -⟩ := h ⟨2 ^ 53, by decide, by decide⟩ ⟨2 ^ 53 + 1, by decide, by decide⟩
  have haccepts : min (.whole ⟨2 ^ 53, by decide, by decide⟩)
      [.whole ⟨2 ^ 53 + 1, by decide, by decide⟩] = true := by
    decide +kernel
  exact absurd (hmin.mp haccepts) (by decide)

end Rule

end ParamSchema
