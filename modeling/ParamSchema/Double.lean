/-!
Finite binary64 numbers. Each is a whole number of units of `2 ^ -1074`, the smallest positive one,
so comparison and equality are those of integers and rounding is division with a remainder.
`roundUnits` rounds a quotient to the nearest representable number of units, a half going to the
even significand.
-/

namespace ParamSchema

-- Powers are the core library's, whatever else is imported.
attribute [default_instance 10000, instance (10000)] instPowNat

/-- The units in one: the smallest positive double is `2 ^ -1074`. -/
def unitsPerOne : Nat := 2 ^ 1074

/-- The first power of two that is too large for a double, in units. -/
def overflowUnits : Nat := 2 ^ 2098

/-- `units` is the magnitude of a finite double: its significand has at most 53 bits and it lies
below the overflow threshold. -/
def Representable (units : Nat) : Prop :=
  2 ^ (units.log2 - 52) ∣ units ∧ units < overflowUnits

instance (units : Nat) : Decidable (Representable units) :=
  inferInstanceAs (Decidable (_ ∧ _))

/-- A finite double: a sign, kept for zero too, and a magnitude in units. -/
structure Double where
  negative : Bool
  units : Nat
  representable : Representable units
deriving DecidableEq

/-- The quotient of two naturals rounded to the nearest natural, a half going to the even one. -/
def roundHalfEven (num den : Nat) : Nat :=
  if 2 * (num % den) < den then num / den
  else if den < 2 * (num % den) then num / den + 1
  else num / den + num / den % 2

/-- The number of units nearest to `num / den` whose significand has at most 53 bits. -/
def roundUnits (num den : Nat) : Nat :=
  roundHalfEven num (den * 2 ^ ((num / den).log2 - 52)) * 2 ^ ((num / den).log2 - 52)

theorem roundHalfEven_le (num den : Nat) : roundHalfEven num den ≤ num / den + 1 := by
  unfold roundHalfEven
  split
  · omega
  · split <;> omega

theorem two_pow_dvd_of_le {k s : Nat} (h : k ≤ 2 ^ 53) :
    2 ^ ((k * 2 ^ s).log2 - 52) ∣ k * 2 ^ s := by
  have hs : 0 < 2 ^ s := Nat.two_pow_pos s
  by_cases hk : k = 2 ^ 53
  · subst hk
    rw [← Nat.pow_add, Nat.log2_two_pow]
    exact Nat.pow_dvd_pow 2 (by omega)
  · by_cases h0 : k = 0
    · simp [h0]
    · have hlt : k * 2 ^ s < 2 ^ (53 + s) := by
        rw [Nat.pow_add]
        exact Nat.mul_lt_mul_of_pos_right (by omega) hs
      have hlog : (k * 2 ^ s).log2 < 53 + s :=
        (Nat.log2_lt (Nat.mul_ne_zero h0 (by omega))).mpr hlt
      exact Nat.dvd_mul_left_of_dvd (Nat.pow_dvd_pow 2 (by omega)) k

theorem roundUnits_dvd (num den : Nat) :
    2 ^ ((roundUnits num den).log2 - 52) ∣ roundUnits num den := by
  refine two_pow_dvd_of_le (Nat.le_trans (roundHalfEven_le _ _) ?_)
  rw [← Nat.div_div_eq_div_mul]
  have hlt : num / den < 2 ^ 53 * 2 ^ ((num / den).log2 - 52) := by
    rw [← Nat.pow_add]
    exact Nat.lt_of_lt_of_le Nat.lt_log2_self (Nat.pow_le_pow_right (by decide) (by omega))
  have := (Nat.div_lt_iff_lt_mul (Nat.two_pow_pos ((num / den).log2 - 52))).mpr hlt
  omega

namespace Double

/-- The value in units, with its sign. Two doubles are numerically equal when these are, so the
two zeros are. -/
def signedUnits (d : Double) : Int :=
  if d.negative then -d.units else d.units

/-- The double nearest to the quotient `num / den`, if it does not overflow. -/
def ofRatio? (negative : Bool) (num den : Nat) : Option Double :=
  let units := roundUnits (num * unitsPerOne) den
  if h : units < overflowUnits then some ⟨negative, units, roundUnits_dvd _ _, h⟩ else none

/-- The value of a double that is a whole number. -/
def toInt? (d : Double) : Option Int :=
  if unitsPerOne ∣ d.units then
    some (if d.negative then -(d.units / unitsPerOne : Nat) else (d.units / unitsPerOne : Nat))
  else none

theorem representable_zero : Representable 0 := by
  refine ⟨Nat.dvd_zero _, ?_⟩
  rw [overflowUnits]
  exact Nat.two_pow_pos 2098

/-- A zero with the given sign. -/
def zero (negative : Bool) : Double := ⟨negative, 0, representable_zero⟩

instance : Inhabited Double := ⟨zero false⟩

end Double

end ParamSchema
