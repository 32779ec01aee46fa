import Mathlib.Data.List.Induction
import Mathlib.Data.List.TakeWhile
import Mathlib.Data.Nat.Digits.Defs
import Mathlib.Tactic.Ring
import ParamSchema.Numeral

/-!
What numerals stand for. `WritesWhole` relates a text to the whole number that it writes in the
decimal system, and `WritesUnsigned` one to a decimal; `integer?`, `whole?` and `unsigned?` find
these (`integer?_eq_some_iff`, `whole?_eq_some_iff`, `unsigned?_eq_some_iff`), and `signed?` finds a
decimal after a sign (`signed?_eq_some_iff`).
-/

namespace ParamSchema

variable {w : Whole} {i : ℤ}

theorem Whole.ofInt64?_eq_some_iff :
    Whole.ofInt64? i = some w ↔ w.val = i ∧ -2 ^ 63 ≤ i ∧ i < 2 ^ 63 := by
  rw [Whole.ofInt64?, Option.dite_none_right_eq_some]
  constructor
  · rintro ⟨h, heq⟩
    cases heq
    exact ⟨rfl, h⟩
  · rintro ⟨rfl, h⟩
    exact ⟨h, rfl⟩

namespace Numeral

variable {text digits before places : List Char} {s : String} {d : Decimal} {negative : Bool}

/-! ### Digits -/

/-- The number that digits stand for in the decimal system. -/
def decimalValue (digits : List Char) : ℕ :=
  Nat.ofDigits 10 (digits.reverse.map fun c => c.toNat - '0'.toNat)

theorem decimalValue_concat (digits : List Char) (c : Char) :
    decimalValue (digits ++ [c]) = 10 * decimalValue digits + (c.toNat - '0'.toNat) := by
  rw [decimalValue, List.reverse_append, List.reverse_singleton, List.singleton_append,
    List.map_cons, Nat.ofDigits_cons, decimalValue]
  push_cast
  ring

theorem digitsValue_eq (digits : List Char) : digitsValue digits = decimalValue digits := by
  induction digits using List.reverseRecOn with
  | nil => rfl
  | append_singleton digits c ih =>
    rw [decimalValue_concat, ← ih, digitsValue, digitsValue, List.foldl_append]
    rfl

theorem decimalValue_append (digits others : List Char) : decimalValue (digits ++ others) =
    decimalValue digits * 10 ^ others.length + decimalValue others := by
  rw [decimalValue, List.reverse_append, List.map_append, Nat.ofDigits_append, List.length_map,
    List.length_reverse, ← decimalValue, ← decimalValue, Nat.add_comm, Nat.mul_comm]

theorem decimalValue_lt (each : ∀ c ∈ digits, c.isDigit = true) :
    decimalValue digits < 10 ^ digits.length := by
  have hlt := Nat.ofDigits_lt_base_pow_length (b := 10)
    (l := digits.reverse.map fun c => c.toNat - '0'.toNat) (by decide) ?_
  · rwa [List.length_map, List.length_reverse] at hlt
  · simp only [List.mem_map, List.mem_reverse, forall_exists_index, and_imp,
      forall_apply_eq_imp_iff₂]
    intro c hc
    have hupper : c.toNat ≤ 57 := (Char.isDigit_iff_toNat.mp (each c hc)).2
    show c.toNat - 48 < 10
    omega

theorem isDigits_iff : isDigits digits = true ↔ digits ≠ [] ∧ ∀ c ∈ digits, c.isDigit = true := by
  simp [isDigits]

/-- A sign and a point are no digits. -/
theorem not_mem_of_isDigit {c : Char} (hdigits : ∀ c ∈ digits, c.isDigit = true)
    (h : c.isDigit = false) : c ∉ digits := by
  intro hmem
  rw [hdigits c hmem] at h
  cases h

/-! ### Whole numbers -/

/-- The text is a whole number in the decimal system: digits, perhaps after a minus. -/
inductive WritesWhole : List Char → ℤ → Prop
  | plain {digits : List Char} (some : digits ≠ []) (each : ∀ c ∈ digits, c.isDigit = true) :
    WritesWhole digits (decimalValue digits)
  | minus {digits : List Char} (some : digits ≠ []) (each : ∀ c ∈ digits, c.isDigit = true) :
    WritesWhole ('-' :: digits) (-decimalValue digits)

theorem integer?_eq_some_iff : integer? text = some i ↔ WritesWhole text i := by
  unfold integer?
  split
  case h_1 digits =>
    rw [Option.ite_none_right_eq_some, Option.some.injEq, isDigits_iff, digitsValue_eq]
    constructor
    · rintro ⟨⟨hsome, heach⟩, rfl⟩
      exact .minus hsome heach
    · intro h
      cases h with
      | plain _ each => exact absurd List.mem_cons_self (not_mem_of_isDigit each rfl)
      | minus some each => exact ⟨⟨some, each⟩, rfl⟩
  case h_2 hplain =>
    rw [Option.ite_none_right_eq_some, Option.some.injEq, isDigits_iff, digitsValue_eq]
    constructor
    · rintro ⟨⟨hsome, heach⟩, rfl⟩
      exact .plain hsome heach
    · intro h
      cases h with
      | plain some each => exact ⟨⟨some, each⟩, rfl⟩
      | minus => exact absurd rfl (hplain _)

theorem whole?_eq_some_iff : whole? s = some w ↔
    WritesWhole s.toList w.val ∧ -2 ^ 63 ≤ w.val ∧ w.val < 2 ^ 63 := by
  simp only [whole?, Option.bind_eq_some_iff, integer?_eq_some_iff, Whole.ofInt64?_eq_some_iff]
  constructor
  · rintro ⟨i, hwrites, rfl, hrange⟩
    exact ⟨hwrites, hrange⟩
  · rintro ⟨hwrites, hrange⟩
    exact ⟨_, hwrites, rfl, hrange⟩

/-! ### Decimals -/

/-- The text is a decimal without a sign: digits, or a point with digits after it and perhaps digits
before it. -/
inductive WritesUnsigned : List Char → Decimal → Prop
  | whole {digits : List Char} (some : digits ≠ []) (each : ∀ c ∈ digits, c.isDigit = true) :
    WritesUnsigned digits ⟨decimalValue digits, 0⟩
  | point {before places : List Char} (whole : ∀ c ∈ before, c.isDigit = true)
    (some : places ≠ []) (each : ∀ c ∈ places, c.isDigit = true) :
    WritesUnsigned (before ++ '.' :: places) ⟨decimalValue (before ++ places), -places.length⟩

theorem unsigned?_of_notMem (h : '.' ∉ text) : unsigned? text =
    if isDigits text then some ⟨decimalValue text, 0⟩ else none := by
  have hall : ∀ c ∈ text, decide (c ≠ '.') = true := fun c hc =>
    decide_eq_true fun heq => h (heq ▸ hc)
  rw [unsigned?, List.takeWhile_eq_self_iff.mpr hall, List.dropWhile_eq_nil_iff.mpr hall,
    digitsValue_eq]

theorem unsigned?_point (h : '.' ∉ before) : unsigned? (before ++ '.' :: places) =
    if before.all Char.isDigit && isDigits places then
      some ⟨decimalValue (before ++ places), -places.length⟩
    else none := by
  have hall : ∀ c ∈ before, decide (c ≠ '.') = true := fun c hc =>
    decide_eq_true fun heq => h (heq ▸ hc)
  rw [unsigned?, List.takeWhile_append_of_pos hall, List.dropWhile_append_of_pos hall]
  simp [digitsValue_eq]

theorem unsigned?_eq_some_iff : unsigned? text = some d ↔ WritesUnsigned text d := by
  constructor
  · intro h
    by_cases hpoint : '.' ∈ text
    · obtain ⟨before, places, rfl, hbefore⟩ := List.eq_append_cons_of_mem hpoint
      rw [unsigned?_point hbefore, Option.ite_none_right_eq_some, Option.some.injEq,
        Bool.and_eq_true, List.all_eq_true, isDigits_iff] at h
      obtain ⟨⟨hwhole, hsome, heach⟩, rfl⟩ := h
      exact .point hwhole hsome heach
    · rw [unsigned?_of_notMem hpoint, Option.ite_none_right_eq_some, Option.some.injEq,
        isDigits_iff] at h
      obtain ⟨⟨hsome, heach⟩, rfl⟩ := h
      exact .whole hsome heach
  · intro h
    cases h with
    | whole some each =>
      rw [unsigned?_of_notMem (not_mem_of_isDigit each rfl), if_pos (isDigits_iff.mpr ⟨some, each⟩)]
    | point whole some each =>
      rw [unsigned?_point (not_mem_of_isDigit whole rfl), isDigits_iff.mpr ⟨some, each⟩,
        List.all_eq_true.mpr whole]
      rfl

/-! ### Decimals with a sign -/

/-- What a sign before a decimal says. -/
inductive Sign : List Char → Bool → Prop
  | none : Sign [] false
  | plus : Sign ['+'] false
  | minus : Sign ['-'] true

theorem WritesUnsigned.head (h : WritesUnsigned text d) :
    ∃ c rest, text = c :: rest ∧ c ≠ '-' ∧ c ≠ '+' := by
  have hdigit {c : Char} (h : c.isDigit = true) : c ≠ '-' ∧ c ≠ '+' := by
    constructor <;> rintro rfl <;> cases h
  cases h with
  | whole some each =>
    obtain ⟨c, rest, rfl⟩ := List.exists_cons_of_ne_nil some
    exact ⟨c, rest, rfl, hdigit (each c List.mem_cons_self)⟩
  | @point before places whole =>
    cases before with
    | nil => exact ⟨'.', places, rfl, by decide, by decide⟩
    | cons c before => exact ⟨c, _, rfl, hdigit (whole c List.mem_cons_self)⟩

theorem signed?_of_unsigned (h : WritesUnsigned text d) : signed? text = some (false, d) := by
  obtain ⟨c, rest, rfl, hminus, hplus⟩ := h.head
  have hd := unsigned?_eq_some_iff.mpr h
  unfold signed?
  split
  · simp_all
  · simp_all
  · rw [hd]
    rfl

theorem signed?_eq_some_iff : signed? text = some (negative, d) ↔
    ∃ sign body, text = sign ++ body ∧ Sign sign negative ∧ WritesUnsigned body d := by
  constructor
  · intro h
    unfold signed? at h
    split at h <;>
      simp only [Option.map_eq_some_iff, Prod.mk.injEq, exists_eq_right_right,
        unsigned?_eq_some_iff] at h <;>
      obtain ⟨hbody, rfl⟩ := h
    · exact ⟨_, _, rfl, .minus, hbody⟩
    · exact ⟨_, _, rfl, .plus, hbody⟩
    · exact ⟨[], _, rfl, .none, hbody⟩
  · rintro ⟨sign, body, rfl, hsign, h⟩
    cases hsign with
    | none => exact signed?_of_unsigned h
    | plus | minus => simp [signed?, unsigned?_eq_some_iff.mpr h]

end Numeral

end ParamSchema
