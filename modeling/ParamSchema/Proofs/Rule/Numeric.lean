import ParamSchema.Proofs.FieldType.Integer
import ParamSchema.Proofs.Pattern
import ParamSchema.Proofs.Rule.Range

/-!
Numbers as the rules see them. A text has the form of a number if it is an unsigned decimal, perhaps
after a sign (`isFoundIn_numericPattern_iff`); what the types `integer` and `number` accept has it,
and lies where its normal form lies, so the ranges make no difference between the two
(`numeric_normal`).
-/

namespace ParamSchema

open Double

namespace Rule

open Numeral Pattern

variable {v : Value} {text before word after : List Char} {s : String} {c : Char}

theorem has_digitSet_iff : digitSet.has c = true ↔ c.isDigit = true := by
  rw [CharSet.has_iff, Char.isDigit_iff_toNat]
  simp [digitSet]

theorem has_sign_iff : CharSet.has ⟨[(0x2B, 0x2B), (0x2D, 0x2D)]⟩ c = true ↔ c = '+' ∨ c = '-' := by
  rw [CharSet.has_iff, ← Char.toNat_inj, ← Char.toNat_inj]
  simp only [List.mem_cons, List.not_mem_nil, or_false, exists_eq_or_imp, exists_eq_left,
    Char.reduceToNat]
  omega

theorem matches_sign_iff :
    (Pattern.optional (.char ⟨[(0x2B, 0x2B), (0x2D, 0x2D)]⟩)).Matches before word after ↔
      ∃ negative, Sign word negative := by
  rw [matches_optional_iff]
  constructor
  · rintro (rfl | ⟨c, hc, rfl⟩)
    · exact ⟨_, .none⟩
    · obtain rfl | rfl := has_sign_iff.mp hc
      · exact ⟨_, .plus⟩
      · exact ⟨_, .minus⟩
  · rintro ⟨negative, hsign⟩
    cases hsign with
    | none => exact .inl rfl
    | plus => exact .inr ⟨_, has_sign_iff.mpr (.inl rfl), rfl⟩
    | minus => exact .inr ⟨_, has_sign_iff.mpr (.inr rfl), rfl⟩

theorem matches_digits_iff : (plus (.char digitSet)).Matches before word after ↔
    word ≠ [] ∧ ∀ c ∈ word, c.isDigit = true := by
  simp only [matches_plus_char_iff, has_digitSet_iff]

theorem matches_wholePart_iff :
    (Pattern.optional (.both (.star (.char digitSet)) (.char (.single '.')))).Matches
        before word after ↔
      word = [] ∨ ∃ whole, word = whole ++ ['.'] ∧ ∀ c ∈ whole, c.isDigit = true := by
  rw [matches_optional_iff]
  refine or_congr_right ⟨?_, ?_⟩
  · rintro ⟨whole, point, rfl, hwhole, hpoint⟩
    rw [matches_single_iff.mp hpoint]
    exact ⟨whole, rfl, by simpa only [has_digitSet_iff] using matches_star_char_iff.mp hwhole⟩
  · rintro ⟨whole, rfl, hwhole⟩
    have hstar : (star (.char digitSet)).Matches before whole (['.'] ++ after) :=
      matches_star_char_iff.mpr (by simpa only [has_digitSet_iff] using hwhole)
    exact ⟨whole, ['.'], rfl, hstar, matches_single_iff.mpr rfl⟩

/-- A text has the form of a number if it is an unsigned decimal, perhaps after a sign. -/
theorem isFoundIn_numericPattern_iff : numericPattern.isFoundIn s = true ↔
    ∃ sign body negative d,
      s.toList = sign ++ body ∧ Sign sign negative ∧ WritesUnsigned body d := by
  refine (isFoundIn_anchored_iff [.optional (.char ⟨[(0x2B, 0x2B), (0x2D, 0x2D)]⟩),
    .optional (.both (.star (.char digitSet)) (.char (.single '.'))),
    .plus (.char digitSet)]).trans ?_
  rw [matches_inOrder_cons, matches_inOrder_cons]
  constructor
  · rintro ⟨sign, _, htext, hsign, whole, digits, rfl, hwhole, hdigits⟩
    obtain ⟨negative, hsigned⟩ := matches_sign_iff.mp hsign
    obtain ⟨hsome, heach⟩ := matches_digits_iff.mp hdigits
    obtain rfl | ⟨before, rfl, hbefore⟩ := matches_wholePart_iff.mp hwhole
    · exact ⟨sign, digits, negative, _, htext, hsigned, .whole hsome heach⟩
    · rw [List.append_assoc] at htext
      exact ⟨sign, _, negative, _, htext, hsigned, .point hbefore hsome heach⟩
  · rintro ⟨sign, body, negative, d, htext, hsign, hbody⟩
    refine ⟨sign, body, htext, matches_sign_iff.mpr ⟨negative, hsign⟩, ?_⟩
    cases hbody with
    | whole some each =>
      refine ⟨[], body, rfl, matches_wholePart_iff.mpr (.inl rfl), ?_⟩
      exact matches_digits_iff.mpr ⟨some, each⟩
    | @point before places whole some each =>
      refine ⟨before ++ ['.'], places, by simp, matches_wholePart_iff.mpr ?_, ?_⟩
      · exact .inr ⟨before, rfl, whole⟩
      · exact matches_digits_iff.mpr ⟨some, each⟩

/-- What the rules take for a number can be read as one, and the other way round. -/
theorem isFoundIn_numericPattern_eq (s : String) :
    numericPattern.isFoundIn s = (signed? s.toList).isSome := by
  rw [Bool.eq_iff_iff, isFoundIn_numericPattern_iff, Option.isSome_iff_exists]
  constructor
  · rintro ⟨sign, body, negative, d, h⟩
    exact ⟨(negative, d), signed?_eq_some_iff.mpr ⟨sign, body, h⟩⟩
  · rintro ⟨⟨negative, d⟩, h⟩
    obtain ⟨sign, body, h⟩ := signed?_eq_some_iff.mp h
    exact ⟨sign, body, negative, d, h⟩

theorem position?_string (s : String) : position? (.string s) =
    (signed? s.toList).map fun (negative, d) => d.position negative := by
  rw [position?, isFoundIn_numericPattern_eq]
  cases signed? s.toList <;> rfl

theorem isNumeric_string (s : String) (args : List Value) :
    isNumeric (.string s) args = (signed? s.toList).isSome :=
  isFoundIn_numericPattern_eq s

/-! ### Normal forms -/

theorem signed?_of_writesWhole {k : ℤ} (h : WritesWhole text k) :
    ∃ negative n, signed? text = some (negative, ⟨n, 0⟩) ∧ k = signed negative n := by
  cases h with
  | plain some each => exact ⟨false, _, signed?_of_unsigned (.whole some each), rfl⟩
  | @minus digits some each =>
    exact ⟨true, _, signed?_eq_some_iff.mpr ⟨['-'], digits, rfl, .minus, .whole some each⟩, rfl⟩

/-- A text that writes a whole number lies where the number lies. -/
theorem position?_of_writesWhole {w : Whole} (h : WritesWhole s.toList w.val) :
    position? (.string s) = position? (.whole w) := by
  obtain ⟨negative, n, hsigned, hval⟩ := signed?_of_writesWhole h
  rw [position?_string, hsigned, Value.whole, position?, hval, Decimal.position_signed]
  rfl

/-- A double that is a whole number lies where the number lies. -/
theorem position?_of_value_eq {d : Double} {w : Whole} (h : d.value = w.val) :
    position? (.number (.double d)) = position? (.whole w) := by
  obtain ⟨d', hposition, -, hunique⟩ := position?_whole w
  have hnearest := d.isNearest_value
  rw [h] at hnearest
  rw [hposition, ← value_eq_iff.mp (hunique d hnearest)]
  rfl

theorem position?_integer (accepted : FieldType.integer.accepts v = true) :
    position? (FieldType.integer.parse v) = position? v := by
  obtain ⟨k, hstands⟩ := FieldType.standsFor_of_integer accepted
  obtain ⟨-, w, hval, hparse⟩ := FieldType.integer_of_standsFor hstands
  rw [hparse]
  cases hstands with
  | whole w' => 
    cases hparse
    rfl
  | double value => exact (position?_of_value_eq (hval ▸ value)).symm
  | text writes => exact (position?_of_writesWhole (hval ▸ writes)).symm

theorem position?_number (accepted : FieldType.number.accepts v = true) :
    position? (FieldType.number.parse v) = position? v := by
  cases v with
  | number n => rfl
  | string s =>
    obtain ⟨d, hd⟩ := Option.isSome_iff_exists.mp accepted
    obtain ⟨decimal, hdecimal, hdouble⟩ := Option.bind_eq_some_iff.mp hd
    have hwrites := unsigned?_eq_some_iff.mp hdecimal
    have hparse : FieldType.number.parse (.string s) =
      ((FieldType.textNumber? s).map Value.number).getD (.string s) := rfl
    obtain ⟨w, hw, htext⟩ | htext := FieldType.textNumber?_of_double? hd
    · rw [hparse, htext]
      exact (position?_of_writesWhole (whole?_eq_some_iff.mp hw).1).symm
    · rw [hparse, htext, position?_string, signed?_of_unsigned hwrites]
      exact congrArg some (Decimal.position_eq hdouble).symm
  | _ => cases accepted

theorem isNumeric_of_writesWhole {k : ℤ} (h : WritesWhole s.toList k) (args : List Value) :
    isNumeric (.string s) args = true := by
  obtain ⟨negative, n, hsigned, -⟩ := signed?_of_writesWhole h
  rw [isNumeric_string, hsigned]
  rfl

theorem isNumeric_of_writesUnsigned {d : Decimal} (h : WritesUnsigned s.toList d)
    (args : List Value) : isNumeric (.string s) args = true := by
  rw [isNumeric_string, signed?_of_unsigned h]
  rfl

theorem isNumeric_of_accepts {type : FieldType} (numeric : type = .integer ∨ type = .number)
    (accepted : type.accepts (.string s) = true) (args : List Value) :
    isNumeric (.string s) args = true := by
  obtain rfl | rfl := numeric
  · obtain ⟨w, hw⟩ := Option.isSome_iff_exists.mp accepted
    exact isNumeric_of_writesWhole (whole?_eq_some_iff.mp hw).1 args
  · obtain ⟨d, hd⟩ := Option.isSome_iff_exists.mp accepted
    obtain ⟨decimal, hdecimal, -⟩ := Option.bind_eq_some_iff.mp hd
    exact isNumeric_of_writesUnsigned (unsigned?_eq_some_iff.mp hdecimal) args

/-- The ranges make no difference between a value that a numeric type accepts and its normal form.
The texts that the numeric types accept have the form of a number for the rules, and so have all
whole numbers and unsigned decimals, also those that are out of range. -/
theorem numeric_normal {type : FieldType} (numeric : type = .integer ∨ type = .number)
    (args : List Value) :
    (∀ v, type.accepts v = true →
      min (type.parse v) args = min v args ∧ max (type.parse v) args = max v args) ∧
    (∀ s, type.accepts (.string s) = true → isNumeric (.string s) args = true) ∧
    (∀ s k, WritesWhole s.toList k → isNumeric (.string s) args = true) ∧
    (∀ s d, WritesUnsigned s.toList d → isNumeric (.string s) args = true) := by
  refine ⟨fun v accepted => ?_, fun s accepted => isNumeric_of_accepts numeric accepted args,
    fun s k h => isNumeric_of_writesWhole h args, fun s d h => isNumeric_of_writesUnsigned h args⟩
  have hposition : position? (type.parse v) = position? v := by
    obtain rfl | rfl := numeric
    · exact position?_integer accepted
    · exact position?_number accepted
  constructor
  · simp only [min, hposition]
  · simp only [max, hposition]

theorem numeric_normal_minus_zero :
    FieldType.integer.accepts (.string "-0") = true ∧
    WritesWhole "-99999999999999999999".toList (-99999999999999999999) ∧
    WritesUnsigned ".5".toList ⟨5, -1⟩ ∧
    min (FieldType.integer.parse (.string "-0")) [.string "+0"] =
      min (.string "-0") [.string "+0"] ∧
    max (FieldType.integer.parse (.string "-0")) [.string "+0"] =
      max (.string "-0") [.string "+0"] ∧
    isNumeric (.string "-0") [] = true ∧
    isNumeric (.string "-99999999999999999999") [] = true ∧ isNumeric (.string ".5") [] = true := by
  have haccepted : FieldType.integer.accepts (.string "-0") = true := by decide
  have hwhole : WritesWhole "-99999999999999999999".toList (-99999999999999999999) :=
    integer?_eq_some_iff.mp (by decide)
  have hhalf : WritesUnsigned ".5".toList ⟨5, -1⟩ := unsigned?_eq_some_iff.mp (by decide)
  obtain ⟨hranges, -, -, -⟩ := numeric_normal (.inl rfl) [.string "+0"]
  obtain ⟨hmin, hmax⟩ := hranges (.string "-0") haccepted
  obtain ⟨-, hnumeric, hlarge, hdecimal⟩ := numeric_normal (.inl rfl) []
  exact ⟨haccepted, hwhole, hhalf, hmin, hmax, hnumeric "-0" haccepted, hlarge _ _ hwhole,
    hdecimal _ _ hhalf⟩

end Rule

end ParamSchema
