import Mathlib.Data.List.TakeWhile
import Mathlib.Tactic.Tauto
import ParamSchema.Proofs.Double
import ParamSchema.Value.Text

/-!
The texts of numbers. The text of a double other than zero has a digit other than `0`, so it is not
the text of a zero (`Double.units_of_text`); the text of a whole number has no point
(`Number.point_notMem_text`).
-/

namespace ParamSchema

namespace Decimal

variable {n : ℕ} {c : Char} {digits : List Char} {d : Decimal}

theorem exists_digit_ne_zero (h : n ≠ 0) :
    ∃ c ∈ Decimal.digits n, c.isDigit = true ∧ c ≠ '0' := by
  by_contra hnone
  have hall : ∀ c ∈ Nat.toDigits 10 n, c = '0' := by
    intro c hc
    by_contra hne
    exact hnone ⟨c, hc, Nat.isDigit_of_mem_toDigits (by decide) (by decide) hc, hne⟩
  have hvalue := Nat.ofDigitChars_ten_toDigits (n := n)
  rw [List.eq_replicate_of_mem hall, Nat.ofDigitChars_replicate_zero] at hvalue
  omega

theorem ten_pow_le {k : ℕ} (h : n ≠ 0) (hlt : k < (Decimal.digits n).length) : 10 ^ k ≤ n := by
  by_contra hgt
  rcases Nat.eq_zero_or_pos k with rfl | hpos
  · omega
  · have hlength := (Nat.length_toDigits_le_iff (by decide) hpos).mpr (not_le.mp hgt)
    exact absurd hlt (not_lt.mpr hlength)

/-- Not all digits are trailing zeros. -/
theorem trailing_lt (h : n ≠ 0) :
    ((Decimal.digits n).reverse.takeWhile (· == '0')).length < (Decimal.digits n).length := by
  obtain ⟨c, hc, -, hne⟩ := exists_digit_ne_zero h
  have hpart := List.takeWhile_prefix (· == '0') (l := (Decimal.digits n).reverse)
  have hlength : (Decimal.digits n).reverse.length = (Decimal.digits n).length :=
    List.length_reverse
  rw [← hlength]
  refine lt_of_le_of_ne hpart.length_le fun heq => hne ?_
  have hall := List.takeWhile_eq_self_iff.mp (hpart.eq_of_length heq)
  simpa using hall c (List.mem_reverse.mpr hc)

theorem trimZeros_ne_zero (h : d.significand ≠ 0) : d.trimZeros.significand ≠ 0 := by
  have hle := ten_pow_le h (trailing_lt h)
  rw [trimZeros, if_neg h]
  exact (Nat.div_pos hle (Nat.pow_pos (by decide))).ne'

theorem mem_plainText (h : c ∈ digits) (exponent : ℤ) :
    c ∈ (plainText digits exponent).toList := by
  unfold plainText
  split
  · simp [h]
  · dsimp only
    split
    · simp [h]
    · rw [← List.take_append_drop (exponent + 1).toNat digits] at h
      simpa using (List.mem_append.mp h).imp_right .inr

theorem mem_scientificText (h : c ∈ digits) (layout : DoubleLayout) (exponent : ℤ) :
    c ∈ (scientificText layout digits exponent).toList := by
  unfold scientificText
  split
  · cases h
  · simp_all
  · simp only [String.toList_append, String.toList_ofList, List.mem_append, List.mem_cons] at h ⊢
    tauto

end Decimal

namespace Double

variable {d : Double} {c : Decimal} {negative : Bool} {grid : ℤ}

theorem significand_ne_zero (h : d.units ≠ 0) (hc : c.toDouble? negative = some d) :
    c.significand ≠ 0 := by
  intro hzero
  rw [Decimal.toDouble?, if_pos (by simp [hzero]), Option.some.injEq] at hc
  subst hc
  exact h rfl

theorem onGrid?_ne_zero (h : d.units ≠ 0) (hc : d.onGrid? grid = some c) : c.significand ≠ 0 := by
  suffices c.toDouble? d.negative = some d from significand_ne_zero h this
  unfold onGrid? at hc
  dsimp only at hc
  split at hc
  case h_1 => cases hc
  case h_2 hbelow _ =>
    cases hc
    simpa using hbelow
  case h_3 _ habove =>
    cases hc
    simpa using habove
  case h_4 hbelow habove =>
    split at hc <;> cases hc
    · simpa using hbelow
    · simpa using habove

theorem unitsPerOne_le : unitsPerOne ≤ 10 ^ 340 := by
  have hbase : 2 ^ 112 ≤ 10 ^ 34 := by decide
  have hexp : 1074 ≤ 112 * 10 := by decide
  have hten : 34 * 10 ≤ 340 := by decide
  have hpow := two_pow_le_ten_pow hbase 10 hexp hten
  rw [unitsPerOne]
  exact hpow

theorem shortest_ne_zero (h : d.units ≠ 0) : d.shortest.significand ≠ 0 := by
  rw [shortest, if_neg h]
  split
  case h_1 decimal hfound =>
    obtain ⟨extra, -, hextra⟩ := List.exists_of_findSome?_eq_some hfound
    exact Decimal.trimZeros_ne_zero (onGrid?_ne_zero h hextra)
  case h_2 =>
    have hle : unitsPerOne ≤ d.units * 10 ^ 340 :=
      unitsPerOne_le.trans (Nat.le_mul_of_pos_left _ (Nat.pos_of_ne_zero h))
    exact (Nat.div_pos hle unitsPerOne_pos).ne'

theorem exists_mem_text (h : d.units ≠ 0) : ∃ c ∈ d.text.toList, c.isDigit = true ∧ c ≠ '0' := by
  obtain ⟨c, hc, hdigit⟩ := Decimal.exists_digit_ne_zero (shortest_ne_zero h)
  refine ⟨c, ?_, hdigit⟩
  rw [text, String.toList_append]
  refine List.mem_append_right _ ?_
  split
  · exact Decimal.mem_plainText hc _
  · exact Decimal.mem_scientificText hc _ _

theorem text_zero (negative : Bool) :
    (zero negative).text = if negative then "-0.0" else "0.0" := by
  cases negative <;> decide

/-- Only zeros have the text of a zero. -/
theorem units_of_text (h : d.text = (zero negative).text) : d.units = 0 := by
  by_contra hunits
  obtain ⟨c, hc, hdigit, hne⟩ := exists_mem_text hunits
  rw [h, text_zero] at hc
  have hchar : c = '-' ∨ c = '0' ∨ c = '.' := by
    cases negative <;> simp at hc <;> tauto
  rcases hchar with rfl | rfl | rfl
  · cases hdigit
  · exact hne rfl
  · cases hdigit

end Double

theorem Number.point_notMem_text (w : Whole) : '.' ∉ (Number.whole w).text.toList := by
  have hdigits (n : ℕ) : '.' ∉ n.repr.toList := by
    intro hmem
    rw [Nat.toList_repr] at hmem
    have hdigit := Nat.isDigit_of_mem_toDigits (by decide) (by decide) hmem
    cases hdigit
  rw [Number.text, Int.toString_eq_repr, Int.repr_eq_if]
  split
  · exact hdigits _
  · rw [String.toList_append]
    exact fun hmem => (List.mem_append.mp hmem).elim (by simp) (hdigits _)

end ParamSchema
