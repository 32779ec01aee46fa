import ParamSchema.Proofs.Double.Decimal
import ParamSchema.Proofs.FieldType
import ParamSchema.Proofs.Numeral

/-!
Texts as numbers. The type `number` accepts the unsigned decimals that do not overflow the doubles.
The normal form of such a text is the whole number it writes, without any rounding, if it has no
point and fits 64 bits with a sign, and else the nearest double (`number_texts`).
-/

namespace ParamSchema.FieldType

open Numeral

variable {s : String} {decimal : Decimal} {w : Whole} {d : Double}

theorem double?_eq (h : WritesUnsigned s.toList decimal) :
    double? s = decimal.toDouble? false := by
  rw [double?, unsigned?_eq_some_iff.mpr h, Option.bind_some]

theorem number_accepts_iff : number.accepts (.string s) = true ↔
    ∃ decimal, WritesUnsigned s.toList decimal ∧ decimal.value < 2 ^ 1024 - 2 ^ 970 := by
  have haccepts : number.accepts (.string s) = (double? s).isSome := rfl
  rw [haccepts, Option.isSome_iff_exists]
  constructor
  · rintro ⟨x, hx⟩
    obtain ⟨decimal, hdecimal, hdouble⟩ := Option.bind_eq_some_iff.mp hx
    exact ⟨decimal, unsigned?_eq_some_iff.mp hdecimal,
      (Decimal.exists_toDouble?_iff false decimal).mp ⟨x, hdouble⟩⟩
  · rintro ⟨decimal, hwrites, hfits⟩
    rw [double?_eq hwrites]
    exact (Decimal.exists_toDouble?_iff false decimal).mpr hfits

/-! ### Normal forms -/

/-- A decimal without a point has no places and is a whole number. -/
theorem whole?_of_noPoint (h : WritesUnsigned s.toList decimal) (hpoint : '.' ∉ s.toList) :
    decimal.exponent = 0 ∧ decimal.value = decimal.significand ∧
      whole? s = Whole.ofInt64? decimal.significand := by
  have hwhole (i : ℤ) (hwrites : WritesWhole s.toList i) : whole? s = Whole.ofInt64? i := by
    rw [whole?, integer?_eq_some_iff.mpr hwrites, Option.bind_some]
  generalize s.toList = text at h hpoint hwhole
  cases h with
  | whole some each => exact ⟨rfl, by simp [Decimal.value], hwhole _ (.plain some each)⟩
  | point => exact absurd (List.mem_append_right _ List.mem_cons_self) hpoint

/-- The double nearest to a decimal without a point has no fraction. -/
theorem toInt?_of_noPoint (h : WritesUnsigned s.toList decimal) (hpoint : '.' ∉ s.toList)
    (hd : double? s = some d) : d.toInt?.isSome = true := by
  obtain ⟨hexponent, -, -⟩ := whole?_of_noPoint h hpoint
  obtain ⟨significand, exponent⟩ := decimal
  obtain rfl : exponent = 0 := hexponent
  rw [double?_eq h, Decimal.toDouble?_whole] at hd
  exact Double.toInt?_of_ofRatio?_one hd

theorem textNumber?_whole (h : WritesUnsigned s.toList decimal) (hpoint : '.' ∉ s.toList)
    (hd : double? s = some d) (hw : whole? s = some w) : textNumber? s = some (.whole w) := by
  simp [textNumber?, hd, toInt?_of_noPoint h hpoint hd, hpoint, hw]

theorem textNumber?_double (hd : double? s = some d) (hnot : '.' ∈ s.toList ∨ whole? s = none) :
    textNumber? s = some (.double d) := by
  rw [textNumber?, hd, Option.map_some]
  rcases hnot with hpoint | hnone
  · simp [hpoint]
  · simp [hnone]

theorem le_limit_iff {n : ℕ} : (n : ℚ) ≤ 2 ^ 63 - 1 ↔ n < 2 ^ 63 := by
  rw [le_sub_iff_add_le]
  exact_mod_cast Nat.succ_le_iff

theorem number_parse_whole (h : WritesUnsigned s.toList decimal)
    (hfits : decimal.value < 2 ^ 1024 - 2 ^ 970) (hpoint : '.' ∉ s.toList)
    (hle : decimal.value ≤ 2 ^ 63 - 1) :
    ∃ w : Whole, (w.val : ℚ) = decimal.value ∧ number.parse (.string s) = .whole w := by
  obtain ⟨-, hvalue, hwhole⟩ := whole?_of_noPoint h hpoint
  obtain ⟨d, hd⟩ := (Decimal.exists_toDouble?_iff false decimal).mpr hfits
  rw [hvalue, le_limit_iff] at hle
  have hw : whole? s = some ⟨decimal.significand, by omega, by omega⟩ :=
    hwhole.trans (Whole.ofInt64?_eq_some_iff.mpr ⟨rfl, by omega, by omega⟩)
  refine ⟨⟨decimal.significand, by omega, by omega⟩, by rw [hvalue, Int.cast_natCast], ?_⟩
  simp only [number, textNumber?_whole h hpoint ((double?_eq h).trans hd) hw]
  rfl

theorem number_parse_double (h : WritesUnsigned s.toList decimal)
    (hfits : decimal.value < 2 ^ 1024 - 2 ^ 970)
    (hnot : '.' ∈ s.toList ∨ 2 ^ 63 - 1 < decimal.value) :
    ∃ x : Double, number.parse (.string s) = .number (.double x) ∧ x.negative = false ∧
      x.IsNearest decimal.value ∧
      ∀ other : Double, other.IsNearest decimal.value → other.value = x.value := by
  obtain ⟨x, hx⟩ := (Decimal.exists_toDouble?_iff false decimal).mpr hfits
  have hnone : '.' ∈ s.toList ∨ whole? s = none := by
    refine or_iff_not_imp_left.mpr fun hpoint => ?_
    obtain ⟨-, hvalue, hwhole⟩ := whole?_of_noPoint h hpoint
    have hlt := hnot.resolve_left hpoint
    rw [hvalue, ← not_le, le_limit_iff] at hlt
    rw [hwhole, Option.eq_none_iff_forall_not_mem]
    intro w hw
    obtain ⟨-, -, hupper⟩ := Whole.ofInt64?_eq_some_iff.mp hw
    omega
  refine ⟨x, ?_, Decimal.isNearest_toDouble? hx⟩
  simp only [number, textNumber?_double ((double?_eq h).trans hx) hnone]
  rfl

/-- The texts that the type accepts are the unsigned decimals that do not overflow, and the normal
form of each is a number: the whole number that it writes, or the nearest double. -/
theorem number_texts :
    (∀ s, number.accepts (.string s) = true ↔
      ∃ decimal, WritesUnsigned s.toList decimal ∧ decimal.value < 2 ^ 1024 - 2 ^ 970) ∧
    (∀ s decimal, WritesUnsigned s.toList decimal → decimal.value < 2 ^ 1024 - 2 ^ 970 →
      ('.' ∉ s.toList → decimal.value ≤ 2 ^ 63 - 1 →
        ∃ w : Whole, (w.val : ℚ) = decimal.value ∧ number.parse (.string s) = .whole w) ∧
      ('.' ∈ s.toList ∨ 2 ^ 63 - 1 < decimal.value →
        ∃ x : Double, number.parse (.string s) = .number (.double x) ∧ x.negative = false ∧
          x.IsNearest decimal.value ∧
          ∀ other : Double, other.IsNearest decimal.value → other.value = x.value)) ∧
    (∀ s, number.accepts (.string s) = true → ∃ n, number.parse (.string s) = .number n) :=
  ⟨fun _ => number_accepts_iff,
    fun _ _ h hfits => ⟨number_parse_whole h hfits, number_parse_double h hfits⟩,
    fun _ accepted => number_parse accepted⟩

/-- The greatest whole number of 64 bits with a sign, after some zeros, and the next one. -/
theorem number_texts_limit :
    WritesUnsigned "009223372036854775807".toList ⟨2 ^ 63 - 1, 0⟩ ∧
    WritesUnsigned "9223372036854775808".toList ⟨2 ^ 63, 0⟩ ∧
    (∃ w : Whole, (w.val : ℚ) = (⟨2 ^ 63 - 1, 0⟩ : Decimal).value ∧
      number.parse (.string "009223372036854775807") = .whole w) ∧
    (∃ x : Double, number.parse (.string "9223372036854775808") = .number (.double x) ∧
      x.negative = false ∧ x.IsNearest (⟨2 ^ 63, 0⟩ : Decimal).value ∧
      ∀ other : Double, other.IsNearest (⟨2 ^ 63, 0⟩ : Decimal).value → other.value = x.value) := by
  have hlast : WritesUnsigned "009223372036854775807".toList ⟨2 ^ 63 - 1, 0⟩ :=
    unsigned?_eq_some_iff.mp (by decide)
  have hnext : WritesUnsigned "9223372036854775808".toList ⟨2 ^ 63, 0⟩ :=
    unsigned?_eq_some_iff.mp (by decide)
  have hfits {n : ℕ} (h : n < 2 ^ 64) : (⟨n, 0⟩ : Decimal).value < 2 ^ 1024 - 2 ^ 970 := by
    rw [← Decimal.exists_toDouble?_iff false, Decimal.toDouble?_whole]
    exact Double.exists_ofRatio?_one false h
  have hvalue (n : ℕ) : (⟨n, 0⟩ : Decimal).value = n := by simp [Decimal.value]
  obtain ⟨-, htexts, -⟩ := number_texts
  obtain ⟨hwhole, -⟩ := htexts _ _ hlast (hfits (by decide))
  obtain ⟨-, hdouble⟩ := htexts _ _ hnext (hfits (by decide))
  refine ⟨hlast, hnext, hwhole (by decide) ?_, hdouble (.inr ?_)⟩
  · rw [hvalue, le_limit_iff]
    decide
  · rw [hvalue, ← not_le, le_limit_iff]
    decide

end ParamSchema.FieldType
