import Mathlib.Algebra.Field.Rat
import Mathlib.Algebra.Order.Field.Basic
import Mathlib.Algebra.Order.Ring.Int
import Mathlib.Data.Rat.Cast.Order
import Mathlib.Tactic.FieldSimp
import Mathlib.Tactic.Ring
import ParamSchema.Double

/-!
The values of doubles. `Double.value` is the rational that a double stands for, and `Double.toInt?`
finds it if it is whole (`toInt?_eq_some_iff`).
-/

namespace ParamSchema

theorem unitsPerOne_pos : 0 < unitsPerOne := by
  rw [unitsPerOne]
  exact Nat.two_pow_pos 1074

theorem two_pow_eq_mul {a b c : ℕ} (h : b + c = a) : 2 ^ a = 2 ^ b * 2 ^ c := by
  rw [← h, Nat.pow_add]

theorem two_pow_le_ten_pow {a b m n : ℕ} (h : 2 ^ a ≤ 10 ^ b) (k : ℕ) (hm : m ≤ a * k)
    (hn : b * k ≤ n) : 2 ^ m ≤ 10 ^ n := by
  have hpow := Nat.pow_le_pow_left h k
  rw [← Nat.pow_mul, ← Nat.pow_mul] at hpow
  calc 2 ^ m ≤ 2 ^ (a * k) := Nat.pow_le_pow_right Nat.two_pos hm
    _ ≤ 10 ^ (b * k) := hpow
    _ ≤ 10 ^ n := Nat.pow_le_pow_right (by decide) hn

theorem overflowUnits_eq : overflowUnits = 2 ^ 1024 * unitsPerOne := by
  have h : 1024 + 1074 = 2098 := rfl
  rw [overflowUnits, unitsPerOne, two_pow_eq_mul h]

theorem two_mul_lt_overflowUnits {n : ℕ} (h : n < 2 ^ 64) :
    2 * (n * unitsPerOne) < overflowUnits := by
  have hlt : 2 * n < 2 ^ 65 := by omega
  have hexp : 65 ≤ 1024 := by decide
  have hpow := Nat.pow_le_pow_right Nat.two_pos hexp
  have hmul := Nat.mul_lt_mul_of_pos_right (hlt.trans_le hpow) unitsPerOne_pos
  rw [← overflowUnits_eq, Nat.mul_assoc] at hmul
  exact hmul

/-- The whole numbers of up to 53 bits are doubles. -/
theorem representable_mul_unitsPerOne {n : ℕ} (h : n ≤ 2 ^ 53) :
    Representable (n * unitsPerOne) := by
  have hdvd := two_pow_dvd_of_le (s := 1074) h
  have hlt : n < 2 ^ 64 := by omega
  have hover := two_mul_lt_overflowUnits hlt
  rw [← unitsPerOne] at hdvd
  exact ⟨hdvd, by omega⟩

namespace Double

variable {d d' : Double} {k : ℤ}

/-- The number that a double stands for. -/
def value (d : Double) : ℚ := d.signedUnits / unitsPerOne

theorem natAbs_signedUnits (d : Double) : d.signedUnits.natAbs = d.units := by
  unfold signedUnits
  split <;> omega

theorem value_le_iff : d.value ≤ d'.value ↔ d.signedUnits ≤ d'.signedUnits := by
  have hunits : (0 : ℚ) < unitsPerOne := Nat.cast_pos.mpr unitsPerOne_pos
  rw [value, value, div_le_div_iff_of_pos_right hunits]
  exact Int.cast_le

theorem value_eq_iff : d.value = d'.value ↔ d.signedUnits = d'.signedUnits := by
  rw [le_antisymm_iff, value_le_iff, value_le_iff, ← le_antisymm_iff]

theorem value_eq_int_iff : d.value = k ↔ d.signedUnits = k * unitsPerOne := by
  have hunits : (unitsPerOne : ℚ) ≠ 0 := Nat.cast_ne_zero.mpr unitsPerOne_pos.ne'
  rw [value, div_eq_iff hunits]
  exact_mod_cast Iff.rfl

theorem toInt?_eq_some_iff : d.toInt? = some k ↔ d.value = k := by
  have hunits := unitsPerOne_pos
  rw [value_eq_int_iff, toInt?, signedUnits, Option.ite_none_right_eq_some, Option.some.injEq]
  generalize unitsPerOne = one at hunits
  constructor
  · rintro ⟨⟨m, hm⟩, rfl⟩
    rw [hm, Nat.mul_div_cancel_left m hunits]
    split <;> (push_cast; ring)
  · intro h
    have hdvd : (one : ℤ) ∣ d.units := by
      split at h
      · exact Int.dvd_neg.mp ⟨k, by rw [h, Int.mul_comm]⟩
      · exact ⟨k, by rw [h, Int.mul_comm]⟩
    obtain ⟨m, hm⟩ := Int.natCast_dvd_natCast.mp hdvd
    refine ⟨⟨m, hm⟩, Int.eq_of_mul_eq_mul_right (Int.natCast_ne_zero.mpr hunits.ne') ?_⟩
    rw [← h, hm, Nat.mul_div_cancel_left m hunits]
    split <;> (push_cast; ring)

end Double

end ParamSchema
