import ParamSchema.Proofs.Double.Nearest

/-!
Decimals as doubles. A decimal is read as the double nearest to it, also where reading takes a short
cut (`Decimal.toDouble?_eq`), and it can be read exactly if it is below `2 ^ 1024 - 2 ^ 970`, the
middle between the greatest double and the next power of two (`Decimal.exists_toDouble?_iff`).
-/

namespace ParamSchema

variable {num den k e : ℕ} {negative : Bool} {d : Double}

/-! ### The overflow threshold -/

/-- The greatest number of at most 53 bits below a power of two. -/
theorem le_of_lt_two_pow (hk : 2 ^ excess k ∣ k) (hlt : k < 2 ^ 54 * 2 ^ e) :
    k ≤ (2 ^ 54 - 2) * 2 ^ e := by
  have hpos := Nat.two_pow_pos e
  rcases Nat.lt_or_ge e (excess k) with hexp | hexp
  · obtain ⟨m, rfl⟩ := (Nat.pow_dvd_pow 2 hexp).trans hk
    have hsplit : 2 ^ e.succ * m = 2 * m * 2 ^ e := by
      rw [Nat.pow_succ, Nat.mul_assoc, Nat.mul_comm]
    rw [hsplit] at hlt ⊢
    have hm := Nat.lt_of_mul_lt_mul_right hlt
    exact Nat.mul_le_mul_right _ (by omega)
  · have hbits := lt_two_pow_excess k
    have hpow : 2 ^ excess k ≤ 2 ^ e := Nat.pow_le_pow_right Nat.two_pos hexp
    omega

theorem significand_two_pow (e : ℕ) : significand (2 ^ 54 * 2 ^ e) = 2 ^ 52 := by
  have hsplit : 2 ^ 54 * 2 ^ e = 2 ^ 52 * 2 ^ (e + 2) := by
    rw [Nat.pow_add]
    omega
  rw [hsplit, significand_mul (by decide) fun _ => le_refl _]

theorem two_pow_excess_dvd {m n : ℕ} (hm : m ≤ 2 ^ 53) (hn : n = 2 * m) (e : ℕ) :
    2 ^ excess (n * 2 ^ e) ∣ n * 2 ^ e := by
  have hsplit : n * 2 ^ e = m * 2 ^ (e + 1) := by
    rw [hn, Nat.pow_succ]
    ring
  rw [hsplit]
  exact two_pow_dvd_of_le hm

theorem roundUnits_lt_of_lt (hden : 0 < den) (hlt : num < (2 ^ 54 - 1) * (2 ^ e * den)) :
    roundUnits num den < 2 ^ 54 * 2 ^ e := by
  by_contra hge
  -- The greatest number of 53 bits below the power would be nearer.
  have hbelow : 2 ^ excess ((2 ^ 54 - 2) * 2 ^ e) ∣ (2 ^ 54 - 2) * 2 ^ e :=
    two_pow_excess_dvd (m := 2 ^ 53 - 1) (by decide) (by decide) e
  have hnear := roundUnits_nearest num hden hbelow
  have hle := Nat.mul_le_mul_right den (not_lt.mp hge)
  rw [Nat.mul_assoc] at hnear hle
  simp only [abs_eq_max_neg] at hnear
  omega

theorem le_roundUnits_of_le (hden : 0 < den) (hge : (2 ^ 54 - 1) * (2 ^ e * den) ≤ num) :
    2 ^ 54 * 2 ^ e ≤ roundUnits num den := by
  by_contra hlt
  have htop : 2 ^ excess (2 ^ 54 * 2 ^ e) ∣ 2 ^ 54 * 2 ^ e :=
    two_pow_excess_dvd (m := 2 ^ 53) (le_refl _) (by decide) e
  have hpos : 0 < 2 ^ e * den := Nat.mul_pos (Nat.two_pow_pos e) hden
  have hnear := roundUnits_nearest num hden htop
  have hle :=
    Nat.mul_le_mul_right den (le_of_lt_two_pow (roundUnits_dvd num den) (not_le.mp hlt))
  rw [Nat.mul_assoc] at hnear hle
  -- The power is at least as near, and a tie would go to it.
  simp only [abs_eq_max_neg] at hnear
  have htie : |((2 ^ 54 * 2 ^ e * den : ℕ) : ℤ) - num| =
      |((roundUnits num den * den : ℕ) : ℤ) - num| := by
    rw [Nat.mul_assoc]
    simp only [abs_eq_max_neg]
    omega
  have hodd := (roundUnits_tie hden htop (not_le.mp hlt).ne' htie).2
  rw [significand_two_pow] at hodd
  cases hodd

/-- A quotient is rounded to less than a power of two if it is below the middle between this power
and the greatest number of 53 bits before it; the middle itself goes to the power, which is even. -/
theorem roundUnits_lt_iff (num : ℕ) (hden : 0 < den) (e : ℕ) :
    roundUnits num den < 2 ^ 54 * 2 ^ e ↔ num < (2 ^ 54 - 1) * (2 ^ e * den) := by
  constructor
  · intro hlt
    by_contra hge
    exact absurd hlt (not_lt.mpr (le_roundUnits_of_le hden (not_lt.mp hge)))
  · exact roundUnits_lt_of_lt hden

theorem roundUnits_scaled_lt_iff (num : ℕ) (hden : 0 < den) (e s : ℕ) :
    roundUnits (num * 2 ^ s) den < 2 ^ 54 * 2 ^ (e + s) ↔ num < (2 ^ 54 - 1) * 2 ^ e * den := by
  have hsplit : (2 ^ 54 - 1) * (2 ^ (e + s) * den) = (2 ^ 54 - 1) * 2 ^ e * den * 2 ^ s := by
    rw [Nat.pow_add]
    ring
  rw [roundUnits_lt_iff _ hden, hsplit, Nat.mul_lt_mul_right (Nat.two_pow_pos s)]

theorem lt_two_pow_sub_iff (num : ℕ) (hden : 0 < den) (e : ℕ) :
    (num : ℚ) / den < 2 ^ (54 + e) - 2 ^ e ↔ num < (2 ^ 54 - 1) * 2 ^ e * den := by
  have hbound : (2 : ℚ) ^ (54 + e) - 2 ^ e = ((2 ^ 54 - 1) * 2 ^ e : ℕ) := by
    rw [pow_add, ← sub_one_mul]
    push_cast
    norm_num
  rw [div_lt_iff₀ (Nat.cast_pos.mpr hden), hbound]
  exact_mod_cast Iff.rfl

namespace Double

theorem exists_ofRatio?_iff_lt (hden : 0 < den) :
    (∃ d, ofRatio? negative num den = some d) ↔ (num : ℚ) / den < 2 ^ 1024 - 2 ^ 970 := by
  have hover : 54 + (970 + 1074) = 2098 := rfl
  have hone : 54 + 970 = 1024 := rfl
  have hunits := roundUnits_scaled_lt_iff num hden 970 1074
  have hvalue := lt_two_pow_sub_iff num hden 970
  rw [← two_pow_eq_mul hover, ← overflowUnits, ← unitsPerOne] at hunits
  rw [hone] at hvalue
  exact exists_ofRatio?_iff.trans (hunits.trans hvalue.symm)

theorem negative_of_ofRatio? (h : ofRatio? negative num den = some d) : d.negative = negative := by
  rw [ofRatio?, Option.dite_none_right_eq_some] at h
  obtain ⟨_, h⟩ := h
  cases h
  rfl

/-- What is less than half of the smallest double is rounded to zero. -/
theorem ofRatio?_eq_zero (h : 2 * (num * unitsPerOne) < den) :
    ofRatio? negative num den = some (zero negative) := by
  have hle := roundUnits_mul_le (num * unitsPerOne) (Nat.zero_lt_of_lt h)
  have hunits : roundUnits (num * unitsPerOne) den = 0 := by
    by_contra hne
    have hmul := Nat.le_mul_of_pos_left den (Nat.pos_of_ne_zero hne)
    omega
  simp only [ofRatio?, hunits]
  exact dif_pos representable_zero.2

end Double

namespace Decimal

/-- The number that a decimal stands for. -/
def value (decimal : Decimal) : ℚ := decimal.significand * 10 ^ decimal.exponent

/-- A decimal as a quotient. -/
def numerator (decimal : Decimal) : ℕ := decimal.significand * 10 ^ decimal.exponent.toNat

def denominator (decimal : Decimal) : ℕ := 10 ^ (-decimal.exponent).toNat

variable {decimal : Decimal}

theorem denominator_pos (decimal : Decimal) : 0 < decimal.denominator :=
  Nat.pow_pos (by decide)

theorem value_eq (decimal : Decimal) :
    decimal.value = decimal.numerator / decimal.denominator := by
  obtain ⟨significand, exponent⟩ := decimal
  cases exponent with
  | ofNat e => simp [value, numerator, denominator]
  | negSucc e => simp [value, numerator, denominator, div_eq_mul_inv]

theorem ofRatio?_of_vanishes (h : decimal.vanishes = true) :
    Double.ofRatio? negative decimal.numerator decimal.denominator = some (.zero negative) := by
  obtain ⟨significand, exponent⟩ := decimal
  rw [vanishes, decide_eq_true_eq] at h
  dsimp only at h
  obtain ⟨e, rfl⟩ : ∃ e : ℕ, exponent = -e := ⟨exponent.natAbs, by omega⟩
  have hexp : significand.log2 + 1 + 1 + 1074 ≤ 3 * e := by omega
  have hlog : significand < 2 ^ (significand.log2 + 1) := Nat.lt_log2_self
  refine Double.ofRatio?_eq_zero ?_
  simp only [numerator, denominator, neg_neg, Int.toNat_natCast, Int.toNat_neg_natCast,
    Nat.pow_zero, Nat.mul_one]
  calc 2 * (significand * unitsPerOne)
      < 2 * (2 ^ (significand.log2 + 1) * unitsPerOne) :=
        Nat.mul_lt_mul_of_pos_left (Nat.mul_lt_mul_of_pos_right hlog unitsPerOne_pos) Nat.two_pos
    _ = 2 ^ (significand.log2 + 1 + 1 + 1074) := by
        rw [Nat.pow_add 2 _ 1074, Nat.pow_succ, ← unitsPerOne]
        ring
    _ ≤ 2 ^ (3 * e) := Nat.pow_le_pow_right Nat.two_pos hexp
    _ = (2 ^ 3) ^ e := Nat.pow_mul ..
    _ ≤ 10 ^ e := Nat.pow_le_pow_left (by decide) e

theorem ofRatio?_of_overflow (hne : decimal.significand ≠ 0)
    (h : overflowExponent ≤ decimal.exponent) :
    Double.ofRatio? negative decimal.numerator decimal.denominator = none := by
  obtain ⟨significand, exponent⟩ := decimal
  dsimp only [overflowExponent] at hne h
  obtain ⟨e, rfl⟩ : ∃ e : ℕ, exponent = e := ⟨exponent.toNat, by omega⟩
  have hbase : 2 ^ 205 ≤ 10 ^ 62 := by decide
  have hexp : 1024 ≤ 205 * 5 := by decide
  have hten : 62 * 5 ≤ e := by omega
  have hpow := two_pow_le_ten_pow hbase 5 hexp hten
  have hnum : 2 ^ 1024 ≤ significand * 10 ^ e :=
    hpow.trans (Nat.le_mul_of_pos_left _ (Nat.pos_of_ne_zero hne))
  have hcast {m n : ℕ} (h : 2 ^ m ≤ n) : (2 : ℚ) ^ m ≤ n := by exact_mod_cast h
  have hge := hcast hnum
  have hpos : (0 : ℚ) < 2 ^ 970 := by positivity
  rw [← Option.not_isSome_iff_eq_none, Option.isSome_iff_exists,
    Double.exists_ofRatio?_iff_lt (denominator_pos _)]
  simp only [numerator, denominator, Int.toNat_natCast, Int.toNat_neg_natCast, Nat.pow_zero,
    Nat.cast_one, div_one, not_lt]
  exact (sub_le_self _ hpos.le).trans hge

theorem toDouble?_eq (negative : Bool) (decimal : Decimal) :
    decimal.toDouble? negative =
      Double.ofRatio? negative decimal.numerator decimal.denominator := by
  rw [toDouble?]
  split
  case isTrue h =>
    rw [Bool.or_eq_true, decide_eq_true_eq] at h
    rcases h with hzero | hvanishes
    · have hnum : decimal.numerator = 0 := by rw [numerator, hzero, Nat.zero_mul]
      have hden := decimal.denominator_pos
      rw [Double.ofRatio?_eq_zero (by rw [hnum]; omega)]
    · exact (ofRatio?_of_vanishes hvanishes).symm
  case isFalse h =>
    have hne : decimal.significand ≠ 0 := fun hzero => h (by simp [hzero])
    split
    case isTrue hover => exact (ofRatio?_of_overflow hne hover).symm
    case isFalse hover =>
      obtain ⟨significand, exponent⟩ := decimal
      cases exponent with
      | ofNat e => simp [numerator, denominator]
      | negSucc e => simp [numerator, denominator]

/-- A decimal without places is rounded as a whole number. -/
theorem toDouble?_whole (negative : Bool) (n : ℕ) :
    (⟨n, 0⟩ : Decimal).toDouble? negative = Double.ofRatio? negative n 1 := by
  simp [toDouble?_eq, numerator, denominator]

theorem exists_toDouble?_iff (negative : Bool) (decimal : Decimal) :
    (∃ d, decimal.toDouble? negative = some d) ↔ decimal.value < 2 ^ 1024 - 2 ^ 970 := by
  rw [value_eq, toDouble?_eq]
  exact Double.exists_ofRatio?_iff_lt decimal.denominator_pos

/-- A decimal is read as the one double that is nearest to it. -/
theorem isNearest_toDouble? (h : decimal.toDouble? false = some d) :
    d.negative = false ∧ d.IsNearest decimal.value ∧
      ∀ other : Double, other.IsNearest decimal.value → other.value = d.value := by
  rw [toDouble?_eq] at h
  rw [value_eq]
  exact ⟨Double.negative_of_ofRatio? h, Double.isNearest_ofRatio? decimal.denominator_pos h,
    fun other hother => hother.value_eq decimal.denominator_pos h⟩

end Decimal

end ParamSchema
