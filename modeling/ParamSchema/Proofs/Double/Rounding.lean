import Mathlib.Algebra.Order.Group.Abs
import Mathlib.Algebra.Order.Ring.Int
import Mathlib.Tactic.Ring
import ParamSchema.Double

/-!
Rounding to 53 bits. `roundUnits num den` is a number of units nearest to the quotient, among those
with no bit set past the first 53 (`roundUnits_nearest`); if another one is as near, the one of the
two with the even significand is taken (`roundUnits_tie`).
-/

namespace ParamSchema

variable {n k m e num den : ℕ}

/-- How many bits of a number of units come after the leading 53. -/
def excess (units : Nat) : Nat := units.log2 - 52

/-- The leading 53 bits of a number of units, all of them if it has no more. -/
def significand (units : Nat) : Nat := units / 2 ^ excess units

/-! ### The grid around a number -/

theorem lt_two_pow_excess (n : ℕ) : n < 2 ^ 53 * 2 ^ excess n := by
  have hlt : n < 2 ^ (n.log2 + 1) := Nat.lt_log2_self
  have hexp : n.log2 + 1 ≤ 53 + excess n := by
    unfold excess
    omega
  rw [← Nat.pow_add]
  exact lt_of_lt_of_le hlt (Nat.pow_le_pow_right (by decide) hexp)

theorem two_pow_excess_le (h : excess n ≠ 0) : 2 ^ 52 * 2 ^ excess n ≤ n := by
  unfold excess at h ⊢
  have hn : n ≠ 0 := by
    rintro rfl
    exact h (by decide)
  have hlog : 52 + (n.log2 - 52) = n.log2 := by omega
  rw [← Nat.pow_add, hlog]
  exact Nat.log2_self_le hn

theorem excess_mono (h : k ≤ n) : excess k ≤ excess n := by
  by_contra hlt
  have hk : 2 ^ 52 * 2 ^ excess k ≤ k := two_pow_excess_le (by omega)
  have hn : n < 2 ^ 53 * 2 ^ excess n := lt_two_pow_excess n
  have hpow : 2 ^ (excess n + 1) ≤ 2 ^ excess k := Nat.pow_le_pow_right (by decide) (by omega)
  rw [Nat.pow_succ] at hpow
  omega

theorem excess_mul (hlt : m < 2 ^ 53) (hle : e ≠ 0 → 2 ^ 52 ≤ m) : excess (m * 2 ^ e) = e := by
  by_cases he : e = 0
  · subst he
    rw [Nat.pow_zero, Nat.mul_one]
    by_contra hne
    have h1 := two_pow_excess_le hne
    have h2 : 2 ^ 1 ≤ 2 ^ excess m := Nat.pow_le_pow_right (by decide) (by omega)
    omega
  · have hm := hle he
    have hpos := Nat.two_pow_pos e
    have hlog : (m * 2 ^ e).log2 = 52 + e := by
      rw [Nat.log2_eq_iff (Nat.mul_ne_zero (by omega) (by omega))]
      constructor
      · rw [Nat.pow_add]
        exact Nat.mul_le_mul_right _ hm
      · rw [Nat.add_right_comm, Nat.pow_add]
        exact Nat.mul_lt_mul_of_pos_right hlt hpos
    rw [excess, hlog]
    omega

theorem significand_mul (hlt : m < 2 ^ 53) (hle : e ≠ 0 → 2 ^ 52 ≤ m) :
    significand (m * 2 ^ e) = m := by
  rw [significand, excess_mul hlt hle, Nat.mul_div_cancel _ (Nat.two_pow_pos e)]

/-- A number of at most 53 bits up to `n` is up to `n` without its excess. -/
theorem le_floor_of_le (hk : 2 ^ excess k ∣ k) (hle : k ≤ n) :
    k ≤ n / 2 ^ excess n * 2 ^ excess n := by
  rcases (excess_mono hle).eq_or_lt with heq | hlt
  · rw [heq] at hk
    obtain ⟨m, rfl⟩ := hk
    have hm : m ≤ n / 2 ^ excess n := by
      rw [Nat.le_div_iff_mul_le (Nat.two_pow_pos _), Nat.mul_comm]
      exact hle
    rw [Nat.mul_comm]
    exact Nat.mul_le_mul_right _ hm
  · have hn : 2 ^ 52 * 2 ^ excess n ≤ n := two_pow_excess_le (by omega)
    have hpow : 2 ^ (excess k + 1) ≤ 2 ^ excess n := Nat.pow_le_pow_right (by decide) hlt
    have hdiv : 2 ^ 52 ≤ n / 2 ^ excess n := (Nat.le_div_iff_mul_le (Nat.two_pow_pos _)).mpr hn
    have hfloor := Nat.mul_le_mul_right (2 ^ excess n) hdiv
    have hkn := lt_two_pow_excess k
    rw [Nat.pow_succ] at hpow
    omega

/-- A number of at most 53 bits past `n` is past `n` by the place of the last of 53 bits. -/
theorem floor_succ_le_of_lt (hk : 2 ^ excess k ∣ k) (hlt : n < k) :
    (n / 2 ^ excess n + 1) * 2 ^ excess n ≤ k := by
  have hdvd : 2 ^ excess n ∣ k := (Nat.pow_dvd_pow 2 (excess_mono hlt.le)).trans hk
  obtain ⟨m, rfl⟩ := hdvd
  have hm : n / 2 ^ excess n < m := by
    rw [Nat.div_lt_iff_lt_mul (Nat.two_pow_pos _), Nat.mul_comm]
    exact hlt
  rw [Nat.mul_comm]
  exact Nat.mul_le_mul_left _ hm

/-! ### Rounding to the grid -/

theorem roundHalfEven_cases (num den : ℕ) :
    roundHalfEven num den = num / den ∧ 2 * (num % den) ≤ den ∧
      (2 * (num % den) = den → num / den % 2 = 0) ∨
    roundHalfEven num den = num / den + 1 ∧ den ≤ 2 * (num % den) ∧
      (2 * (num % den) = den → num / den % 2 = 1) := by
  unfold roundHalfEven
  split
  · omega
  · split <;> omega

/-- Where a quotient lies on its grid and what it is rounded to: `low` and `low + 1` steps of the
grid are around it, and no number of at most 53 bits lies between these. -/
structure Rounds (num den low step rounded : ℕ) : Prop where
  value : roundUnits num den = rounded * 2 ^ step
  lower : low * 2 ^ step * den ≤ num
  upper : num < (low + 1) * 2 ^ step * den
  low_lt : low < 2 ^ 53
  le_low : step ≠ 0 → 2 ^ 52 ≤ low
  between : ∀ k, 2 ^ excess k ∣ k → k ≤ low * 2 ^ step ∨ (low + 1) * 2 ^ step ≤ k
  rounded_eq : rounded = low ∧ 2 * num ≤ low * 2 ^ step * den + (low + 1) * 2 ^ step * den ∨
    rounded = low + 1 ∧ low * 2 ^ step * den + (low + 1) * 2 ^ step * den ≤ 2 * num
  even : 2 * num = low * 2 ^ step * den + (low + 1) * 2 ^ step * den → rounded % 2 = 0

theorem exists_rounds (num : ℕ) (hden : 0 < den) :
    ∃ low step rounded, Rounds num den low step rounded := by
  have hlow : num / den / 2 ^ excess (num / den) = num / (den * 2 ^ excess (num / den)) :=
    Nat.div_div_eq_div_mul _ _ _
  have hcases := roundHalfEven_cases num (den * 2 ^ excess (num / den))
  have hsplit := Nat.div_add_mod num (den * 2 ^ excess (num / den))
  have hmod : num % (den * 2 ^ excess (num / den)) < den * 2 ^ excess (num / den) :=
    Nat.mod_lt _ (Nat.mul_pos hden (Nat.two_pow_pos _))
  have hgrid (m : ℕ) : m * 2 ^ excess (num / den) * den = den * 2 ^ excess (num / den) * m := by
    rw [Nat.mul_assoc, Nat.mul_comm, Nat.mul_comm (2 ^ excess (num / den))]
  refine ⟨num / den / 2 ^ excess (num / den), excess (num / den),
    roundHalfEven num (den * 2 ^ excess (num / den)), rfl, ?_, ?_, ?_, ?_, ?_, ?_, ?_⟩
  · rw [hgrid, hlow]
    omega
  · rw [hgrid, hlow, Nat.mul_succ]
    omega
  · rw [Nat.div_lt_iff_lt_mul (Nat.two_pow_pos _)]
    exact lt_two_pow_excess _
  · intro hstep
    exact (Nat.le_div_iff_mul_le (Nat.two_pow_pos _)).mpr (two_pow_excess_le hstep)
  · intro k hk
    rcases Nat.lt_or_ge (num / den) k with hlt | hle
    · exact .inr (floor_succ_le_of_lt hk hlt)
    · exact .inl (le_floor_of_le hk hle)
  · rw [hgrid, hgrid, hlow, Nat.mul_succ]
    omega
  · rw [hgrid, hgrid, hlow, Nat.mul_succ]
    omega

/-- No number of at most 53 bits is nearer to the quotient. -/
theorem roundUnits_nearest (num : ℕ) (hden : 0 < den) (hk : 2 ^ excess k ∣ k) :
    |((roundUnits num den * den : ℕ) : ℤ) - num| ≤ |((k * den : ℕ) : ℤ) - num| := by
  obtain ⟨low, step, rounded, h⟩ := exists_rounds num hden
  have hlower := h.lower
  have hupper := h.upper
  have hk : k * den ≤ low * 2 ^ step * den ∨ (low + 1) * 2 ^ step * den ≤ k * den :=
    (h.between k hk).imp (Nat.mul_le_mul_right den) (Nat.mul_le_mul_right den)
  simp only [abs_eq_max_neg]
  rcases h.rounded_eq with ⟨heq, hhalf⟩ | ⟨heq, hhalf⟩
  · rw [h.value, heq]
    omega
  · rw [h.value, heq]
    omega

/-- Zero is not nearer to the quotient than what it is rounded to. -/
theorem roundUnits_mul_le (num : ℕ) (hden : 0 < den) : roundUnits num den * den ≤ 2 * num := by
  have hzero := roundUnits_nearest num hden (Nat.dvd_zero (2 ^ excess 0))
  simp only [Nat.zero_mul, abs_eq_max_neg] at hzero
  omega

/-- A number of at most 53 bits that is as near to the quotient as the one it is rounded to is the
other end of the step, and the quotient is halfway. -/
theorem Rounds.other_end {low step rounded : ℕ} (h : Rounds num den low step rounded)
    (hden : 0 < den) (hk : 2 ^ excess k ∣ k) (hne : k ≠ roundUnits num den)
    (htie : |((k * den : ℕ) : ℤ) - num| = |((roundUnits num den * den : ℕ) : ℤ) - num|) :
    2 * num = low * 2 ^ step * den + (low + 1) * 2 ^ step * den ∧
      (rounded = low ∧ k = (low + 1) * 2 ^ step ∨ rounded = low + 1 ∧ k = low * 2 ^ step) := by
  have hlower := h.lower
  have hupper := h.upper
  have hcancel {a : ℕ} (heq : k * den = a * den) : k = a := Nat.eq_of_mul_eq_mul_right hden heq
  rw [h.value] at hne htie
  simp only [abs_eq_max_neg] at htie
  rcases h.rounded_eq with ⟨rfl, hhalf⟩ | ⟨rfl, hhalf⟩ <;> rcases h.between k hk with hle | hle
  · have hle := Nat.mul_le_mul_right den hle
    exact absurd (hcancel (by omega)) hne
  · have hle := Nat.mul_le_mul_right den hle
    exact ⟨by omega, .inl ⟨rfl, hcancel (by omega)⟩⟩
  · have hle := Nat.mul_le_mul_right den hle
    exact ⟨by omega, .inr ⟨rfl, hcancel (by omega)⟩⟩
  · have hle := Nat.mul_le_mul_right den hle
    exact absurd (hcancel (by omega)) hne

/-- Of two numbers of at most 53 bits that are as near to a quotient, the even one is taken. -/
theorem roundUnits_tie (hden : 0 < den) (hk : 2 ^ excess k ∣ k) (hne : k ≠ roundUnits num den)
    (htie : |((k * den : ℕ) : ℤ) - num| = |((roundUnits num den * den : ℕ) : ℤ) - num|) :
    significand (roundUnits num den) % 2 = 0 ∧ significand k % 2 = 1 := by
  obtain ⟨low, step, rounded, h⟩ := exists_rounds num hden
  obtain ⟨hhalf, hends⟩ := h.other_end hden hk hne htie
  have heven := h.even hhalf
  have hlow := h.low_lt
  have hle := h.le_low
  rw [h.value]
  rcases hends with ⟨rfl, rfl⟩ | ⟨rfl, rfl⟩
  · rw [significand_mul hlow hle,
      significand_mul (by omega) fun hstep => Nat.le_succ_of_le (hle hstep)]
    omega
  · rw [significand_mul hlow hle]
    refine ⟨?_, by omega⟩
    by_cases htop : low + 1 = 2 ^ 53
    · -- The next power of two has one bit less of excess left.
      have hpow : (low + 1) * 2 ^ step = 2 ^ 52 * 2 ^ (step + 1) := by
        rw [htop, Nat.pow_succ]
        omega
      rw [hpow, significand_mul (by decide) fun _ => le_refl _]
    · rw [significand_mul (by omega) fun hstep => Nat.le_succ_of_le (hle hstep)]
      exact heven

end ParamSchema
