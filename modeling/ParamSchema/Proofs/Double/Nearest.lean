import Mathlib.Tactic.Linarith
import ParamSchema.Double.Decimal
import ParamSchema.Proofs.Double
import ParamSchema.Proofs.Double.Rounding

/-!
The double nearest to a number. `IsNearest` says which doubles that is, a tie going to the even
significand; `Double.ofRatio?` gives such a double (`isNearest_ofRatio?`), all of them are equal as
numbers (`IsNearest.value_eq`), and greater numbers have greater nearest doubles or the same
(`IsNearest.mono`).
-/

namespace ParamSchema

namespace Double

variable {d d' other : Double} {x y : ℚ} {negative : Bool} {num den : ℕ}

/-- No double is nearer to the number, and if another one is as near, this one has an even
significand. -/
structure IsNearest (d : Double) (x : ℚ) : Prop where
  closest : ∀ other : Double, |d.value - x| ≤ |other.value - x|
  even : ∀ other : Double, other.value ≠ d.value → |other.value - x| = |d.value - x| →
    significand d.units % 2 = 0

theorem isNearest_value (d : Double) : d.IsNearest d.value where
  closest other := by
    rw [sub_self, abs_zero]
    exact abs_nonneg _
  even other hne htie := by
    rw [sub_self, abs_zero, abs_eq_zero, sub_eq_zero] at htie
    exact absurd htie hne

/-- Doubles that are equal as numbers are nearest to the same numbers. -/
theorem IsNearest.congr (h : d.IsNearest x) (heq : d'.value = d.value) : d'.IsNearest x := by
  have hunits : d'.units = d.units := by
    rw [← natAbs_signedUnits, ← natAbs_signedUnits, value_eq_iff.mp heq]
  constructor
  · rw [heq]
    exact h.closest
  · rw [heq, hunits]
    exact h.even

/-- Greater numbers have greater nearest doubles, or the same. -/
theorem IsNearest.mono (h : d.IsNearest x) (h' : d'.IsNearest y) (hlt : x < y) :
    d.value ≤ d'.value := by
  by_contra hgt
  have hgt := not_le.mp hgt
  -- The middle between the two doubles is up to `x` and from `y` on.
  have hx : d.value + d'.value ≤ 2 * x := by
    have hclosest := h.closest d'
    rcases abs_cases (d.value - x) with ha | ha <;> rcases abs_cases (d'.value - x) with hb | hb <;>
      linarith
  have hy : 2 * y ≤ d.value + d'.value := by
    have hclosest := h'.closest d
    rcases abs_cases (d.value - y) with ha | ha <;> rcases abs_cases (d'.value - y) with hb | hb <;>
      linarith
  linarith

/-! ### Rounding a quotient -/

/-- A whole number with a sign. -/
def signed (negative : Bool) (n : ℕ) : ℤ := if negative then -n else n

theorem signedUnits_eq (d : Double) : d.signedUnits = signed d.negative d.units := rfl

theorem signed_natAbs (i : ℤ) : signed (decide (i < 0)) i.natAbs = i := by
  simp only [signed, decide_eq_true_eq]
  split <;> omega

theorem signed_mul (negative : Bool) (n m : ℕ) :
    signed negative n * m = signed negative (n * m) := by
  unfold signed
  split <;> (push_cast; ring)

theorem abs_value_sub (d : Double) (n : ℤ) (hden : 0 < den) :
    |d.value - n / den| =
      (|d.signedUnits * den - n * unitsPerOne| : ℤ) / (unitsPerOne * den : ℚ) := by
  have hone : (0 : ℚ) < unitsPerOne := Nat.cast_pos.mpr unitsPerOne_pos
  have hden : (0 : ℚ) < den := Nat.cast_pos.mpr hden
  have hsub : d.value - n / den =
      ((d.signedUnits * den - n * unitsPerOne : ℤ) : ℚ) / (unitsPerOne * den) := by
    rw [value, div_sub_div _ _ hone.ne' hden.ne']
    push_cast
    ring
  rw [hsub, abs_div, abs_of_pos (mul_pos hone hden), Int.cast_abs]

theorem abs_value_sub_le_iff (d other : Double) (n : ℤ) (hden : 0 < den) :
    |d.value - n / den| ≤ |other.value - n / den| ↔
      |d.signedUnits * den - n * unitsPerOne| ≤ |other.signedUnits * den - n * unitsPerOne| := by
  have hpos : (0 : ℚ) < unitsPerOne * den :=
    mul_pos (Nat.cast_pos.mpr unitsPerOne_pos) (Nat.cast_pos.mpr hden)
  rw [abs_value_sub d n hden, abs_value_sub other n hden, div_le_div_iff_of_pos_right hpos]
  exact Int.cast_le

theorem abs_signed_sub (negative : Bool) (n m : ℕ) :
    |signed negative n - signed negative m| = |(n : ℤ) - m| := by
  unfold signed
  simp only [abs_eq_max_neg]
  cases negative
  · rfl
  · simp only [if_true]
    omega

/-- Numbers are no nearer to each other when they get signs. -/
theorem abs_sub_le_signed (negative negative' : Bool) (n m : ℕ) :
    |(n : ℤ) - m| ≤ |signed negative' n - signed negative m| := by
  unfold signed
  simp only [abs_eq_max_neg]
  cases negative <;> cases negative' <;> simp <;> omega

/-- What is no farther from a number than zero is has the sign of the number. -/
theorem signed_eq_of_abs_sub_le {negative negative' : Bool} {n m : ℕ}
    (h : |signed negative' n - signed negative m| ≤ m) :
    signed negative' n = signed negative n := by
  unfold signed at h ⊢
  simp only [abs_eq_max_neg] at h
  cases negative <;> cases negative' <;> simp at h ⊢ <;> omega

/-- A double is no nearer to a quotient than what the quotient is rounded to; if it is as near, then
it is the same or it has an odd significand and the other one an even one. -/
theorem signed_roundUnits (negative : Bool) (num : ℕ) (hden : 0 < den) (other : Double) :
    |signed negative (roundUnits num den) * den - signed negative num| ≤
      |other.signedUnits * den - signed negative num| ∧
    (|other.signedUnits * den - signed negative num| =
        |signed negative (roundUnits num den) * den - signed negative num| →
      other.signedUnits = signed negative (roundUnits num den) ∨
      significand (roundUnits num den) % 2 = 0 ∧ significand other.units % 2 = 1) := by
  have hother : 2 ^ excess other.units ∣ other.units := other.representable.1
  have hnear := roundUnits_nearest num hden hother
  rw [signedUnits_eq, signed_mul, signed_mul, abs_signed_sub negative (roundUnits num den * den)]
  refine ⟨hnear.trans (abs_sub_le_signed _ _ _ _), fun htie => ?_⟩
  have hsign : signed other.negative other.units = signed negative other.units := by
    have hclose : |((roundUnits num den * den : ℕ) : ℤ) - num| ≤ num := by
      have hzero := roundUnits_mul_le num hden
      simp only [abs_eq_max_neg]
      omega
    have hmul := signed_eq_of_abs_sub_le (htie.le.trans hclose)
    rw [← signed_mul, ← signed_mul] at hmul
    exact Int.eq_of_mul_eq_mul_right (Int.natCast_ne_zero.mpr hden.ne') hmul
  rw [← signed_mul, hsign, signed_mul, abs_signed_sub] at htie
  rw [hsign]
  by_cases heq : other.units = roundUnits num den
  · exact .inl (congrArg _ heq)
  · exact .inr (roundUnits_tie hden hother heq htie)

theorem units_of_ofRatio? (h : ofRatio? negative num den = some d) :
    d.units = roundUnits (num * unitsPerOne) den ∧ d.signedUnits = signed negative d.units := by
  rw [ofRatio?, Option.dite_none_right_eq_some] at h
  obtain ⟨hunits, h⟩ := h
  cases h
  exact ⟨rfl, rfl⟩

theorem tie_ofRatio? (hden : 0 < den) (h : ofRatio? negative num den = some d)
    (hne : other.value ≠ d.value)
    (htie : |other.value - signed negative num / den| = |d.value - signed negative num / den|) :
    significand d.units % 2 = 0 ∧ significand other.units % 2 = 1 := by
  obtain ⟨hunits, hsigned⟩ := units_of_ofRatio? h
  have htie := le_antisymm ((abs_value_sub_le_iff other d _ hden).mp htie.le)
    ((abs_value_sub_le_iff d other _ hden).mp htie.ge)
  rw [signed_mul, hsigned, hunits] at htie
  obtain ⟨-, hends⟩ := signed_roundUnits negative (num * unitsPerOne) hden other
  rw [hunits]
  refine (hends htie).resolve_left fun heq => hne ?_
  rw [value, value, heq, hsigned, hunits]

theorem isNearest_ofRatio? (hden : 0 < den) (h : ofRatio? negative num den = some d) :
    d.IsNearest (signed negative num / den) := by
  obtain ⟨hunits, hsigned⟩ := units_of_ofRatio? h
  refine ⟨fun other => ?_, fun other hne htie => (tie_ofRatio? hden h hne htie).1⟩
  obtain ⟨hnear, -⟩ := signed_roundUnits negative (num * unitsPerOne) hden other
  rw [abs_value_sub_le_iff d other _ hden, signed_mul, hsigned, hunits]
  exact hnear

/-- All doubles nearest to a quotient are equal as numbers. -/
theorem IsNearest.value_eq (hnearest : other.IsNearest (signed negative num / den)) (hden : 0 < den)
    (h : ofRatio? negative num den = some d) : other.value = d.value := by
  by_contra hne
  have htie := le_antisymm (hnearest.closest d) ((isNearest_ofRatio? hden h).closest other)
  have heven := hnearest.even d (Ne.symm hne) htie.symm
  obtain ⟨-, hodd⟩ := tie_ofRatio? hden h hne htie
  omega

theorem exists_ofRatio?_iff :
    (∃ d, ofRatio? negative num den = some d) ↔
      roundUnits (num * unitsPerOne) den < overflowUnits := by
  rw [← Option.isSome_iff_exists, ofRatio?]
  split <;> simp [*]

/-- The whole numbers of up to 64 bits have nearest doubles. -/
theorem exists_ofRatio?_one {n : ℕ} (negative : Bool) (h : n < 2 ^ 64) :
    ∃ d, ofRatio? negative n 1 = some d := by
  have hle := roundUnits_mul_le (n * unitsPerOne) Nat.one_pos
  rw [Nat.mul_one] at hle
  exact exists_ofRatio?_iff.mpr (hle.trans_lt (two_mul_lt_overflowUnits h))

/-! ### Whole numbers -/

theorem roundHalfEven_of_dvd (hden : 0 < den) (h : den ∣ num) :
    roundHalfEven num den = num / den := by
  obtain ⟨k, rfl⟩ := h
  rw [roundHalfEven, Nat.mul_mod_right, if_pos hden]

/-- A whole number of ones stays one when it is rounded: up to 53 bits nothing is rounded away, and
from there on what is kept is a multiple of one. -/
theorem two_pow_dvd_roundUnits (n s : ℕ) : 2 ^ s ∣ roundUnits (n * 2 ^ s) 1 := by
  rw [roundUnits, Nat.div_one, Nat.one_mul]
  rcases Nat.le_total s ((n * 2 ^ s).log2 - 52) with hlarge | hsmall
  · exact (Nat.pow_dvd_pow 2 hlarge).mul_left _
  · have hdvd : 2 ^ ((n * 2 ^ s).log2 - 52) ∣ n * 2 ^ s := (Nat.pow_dvd_pow 2 hsmall).mul_left n
    rw [roundHalfEven_of_dvd (Nat.two_pow_pos _) hdvd, Nat.div_mul_cancel hdvd]
    exact Nat.dvd_mul_left _ n

/-- The double nearest to a whole number has no fraction. -/
theorem toInt?_of_ofRatio?_one {n : ℕ} (h : ofRatio? negative n 1 = some d) :
    d.toInt?.isSome = true := by
  have hdvd := two_pow_dvd_roundUnits n 1074
  rw [← unitsPerOne, ← (units_of_ofRatio? h).1] at hdvd
  rw [toInt?, if_pos hdvd]
  rfl

end Double

end ParamSchema
