import ParamSchema.Proofs.Double
import ParamSchema.Proofs.FieldType
import ParamSchema.Proofs.Numeral

/-!
Whole numbers as leaves. A value stands for a whole number if it is one, is a double that is one or
is a text that writes one, the last two within 64 bits with a sign; the type `integer` accepts just
these values, and the normal form it gives each is the number that the value stands for
(`integer_exact`).
-/

namespace ParamSchema

/-- A whole number that fits 64 bits with a sign. -/
def Whole.ofRange {k : ℤ} (lower : -2 ^ 63 ≤ k) (upper : k < 2 ^ 63) : Whole :=
  ⟨k, lower, by omega⟩

namespace FieldType

variable {v : Value} {k : ℤ} {w : Whole} {d : Double} {s : String}

/-- A value and the whole number that it stands for. -/
inductive StandsFor : Value → ℤ → Prop
  | whole (w : Whole) : StandsFor (.whole w) w.val
  | double {d : Double} {k : ℤ} (value : d.value = k) (lower : -2 ^ 63 ≤ k) (upper : k < 2 ^ 63) :
    StandsFor (.number (.double d)) k
  | text {s : String} {k : ℤ} (writes : Numeral.WritesWhole s.toList k) (lower : -2 ^ 63 ≤ k)
    (upper : k < 2 ^ 63) : StandsFor (.string s) k

theorem wholeDouble?_eq_some_iff :
    wholeDouble? d = some w ↔ d.value = w.val ∧ -2 ^ 63 ≤ w.val ∧ w.val < 2 ^ 63 := by
  simp only [wholeDouble?, Option.bind_eq_some_iff, Double.toInt?_eq_some_iff,
    Whole.ofInt64?_eq_some_iff]
  constructor
  · rintro ⟨i, hvalue, rfl, hrange⟩
    exact ⟨hvalue, hrange⟩
  · rintro ⟨hvalue, hrange⟩
    exact ⟨_, hvalue, rfl, hrange⟩

/-- A value that stands for a whole number is accepted, and its normal form is that number. -/
theorem integer_of_standsFor (h : StandsFor v k) :
    integer.accepts v = true ∧ ∃ w : Whole, w.val = k ∧ integer.parse v = .whole w := by
  cases h with
  | whole w => exact ⟨rfl, w, rfl, rfl⟩
  | double value lower upper =>
    have hw : wholeDouble? _ = some (.ofRange lower upper) :=
      wholeDouble?_eq_some_iff.mpr ⟨value, lower, upper⟩
    refine ⟨?_, .ofRange lower upper, rfl, ?_⟩ <;> simp [integer, hw]
  | text writes lower upper =>
    have hw : Numeral.whole? _ = some (.ofRange lower upper) :=
      Numeral.whole?_eq_some_iff.mpr ⟨writes, lower, upper⟩
    refine ⟨?_, .ofRange lower upper, rfl, ?_⟩ <;> simp [integer, hw]

theorem standsFor_of_integer (h : integer.accepts v = true) : ∃ k, StandsFor v k := by
  cases v with
  | number n =>
    cases n with
    | whole w => exact ⟨w.val, .whole w⟩
    | double d =>
      obtain ⟨w, hw⟩ := Option.isSome_iff_exists.mp h
      obtain ⟨hvalue, hlower, hupper⟩ := wholeDouble?_eq_some_iff.mp hw
      exact ⟨w.val, .double hvalue hlower hupper⟩
  | string s =>
    obtain ⟨w, hw⟩ := Option.isSome_iff_exists.mp h
    obtain ⟨hwrites, hlower, hupper⟩ := Numeral.whole?_eq_some_iff.mp hw
    exact ⟨w.val, .text hwrites hlower hupper⟩
  | _ => cases h

theorem integer_accepts_iff : integer.accepts v = true ↔ ∃ k, StandsFor v k :=
  ⟨standsFor_of_integer, fun ⟨_, h⟩ => (integer_of_standsFor h).1⟩

/-- What `whole?` reads in a text is what the text writes in the decimal system, within 64 bits with
a sign; the type `integer` accepts the values that stand for a whole number; and the normal form of
such a value is that number, which is accepted again and is its own normal form. -/
theorem integer_exact :
    (∀ s k, (∃ w, Numeral.whole? s = some w ∧ w.val = k) ↔
      Numeral.WritesWhole s.toList k ∧ -2 ^ 63 ≤ k ∧ k < 2 ^ 63) ∧
    (∀ v, integer.accepts v = true ↔ ∃ k, StandsFor v k) ∧
    (∀ v k, StandsFor v k → ∃ w : Whole, w.val = k ∧ integer.parse v = .whole w ∧
      integer.accepts (.whole w) = true ∧ integer.parse (.whole w) = .whole w) := by
  refine ⟨fun s k => ?_, fun v => integer_accepts_iff, fun v k h => ?_⟩
  · constructor
    · rintro ⟨w, hw, rfl⟩
      exact Numeral.whole?_eq_some_iff.mp hw
    · rintro ⟨hwrites, hlower, hupper⟩
      exact ⟨.ofRange hlower hupper, Numeral.whole?_eq_some_iff.mpr ⟨hwrites, hlower, hupper⟩, rfl⟩
  · obtain ⟨-, w, hval, hparse⟩ := integer_of_standsFor h
    exact ⟨w, hval, hparse, rfl, rfl⟩

/-- The least number of 64 bits with a sign, and some zeros in front. -/
theorem integer_exact_least : StandsFor (.string "-009223372036854775808") (-2 ^ 63) ∧
    ∃ w : Whole, w.val = -2 ^ 63 ∧ integer.parse (.string "-009223372036854775808") = .whole w := by
  have hwrites : Numeral.WritesWhole "-009223372036854775808".toList (-2 ^ 63) :=
    Numeral.integer?_eq_some_iff.mp (by decide)
  have hstands : StandsFor (.string "-009223372036854775808") (-2 ^ 63) :=
    .text hwrites (by decide) (by decide)
  obtain ⟨w, hval, hparse, -⟩ := integer_exact.2.2 _ _ hstands
  exact ⟨hstands, w, hval, hparse⟩

end FieldType

end ParamSchema
