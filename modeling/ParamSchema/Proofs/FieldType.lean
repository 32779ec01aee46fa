import ParamSchema.FieldType
import ParamSchema.Proofs.Value.Reordered

/-!
The built-in types: which values each gives as normal forms (`Builtin.gives`), that a normal form is
accepted again and is its own normal form (`Builtin.accepts_parse`, `Builtin.parse_parse`), and that
the order of keys plays no part in either (`Builtin.accepts_eq`, `Builtin.parse_reordered`).
-/

namespace ParamSchema

namespace FieldType

/-- The built-in types, whatever the names they are registered under. -/
inductive Builtin : FieldType → Prop
  | string : Builtin .string
  | integer : Builtin .integer
  | number : Builtin .number
  | boolean : Builtin .boolean
  | any : Builtin .any

/-- The values among which the normal forms of a built-in type are. -/
inductive Gives : FieldType → Value → Prop
  | string (s : String) : Gives .string (.string s)
  | integer (w : Whole) : Gives .integer (.whole w)
  | number (n : Number) : Gives .number (.number n)
  | boolean (b : Bool) : Gives .boolean (.bool b)
  | any (v : Value) : Gives .any v

variable {type : FieldType} {v : Value}

theorem string_accepts (h : string.accepts v = true) : ∃ s, v = .string s := by
  cases v <;> simp_all [string]

theorem integer_parse (h : integer.accepts v = true) : ∃ w, integer.parse v = .whole w := by
  cases v with
  | number n =>
    cases n with
    | whole w => exact ⟨w, rfl⟩
    | double d =>
      obtain ⟨w, hw⟩ := Option.isSome_iff_exists.mp h
      exact ⟨w, by simp [integer, hw]⟩
  | string s =>
    obtain ⟨w, hw⟩ := Option.isSome_iff_exists.mp h
    exact ⟨w, by simp [integer, hw]⟩
  | _ => cases h

/-- A text that reads as a double stands for it or for a whole number. -/
theorem textNumber?_of_double? {s : String} {d : Double} (h : Numeral.double? s = some d) :
    (∃ w, Numeral.whole? s = some w ∧ textNumber? s = some (.whole w)) ∨
      textNumber? s = some (.double d) := by
  rw [textNumber?, h, Option.map_some]
  split
  case isTrue =>
    cases hw : Numeral.whole? s with
    | some w => exact .inl ⟨w, rfl, rfl⟩
    | none => exact .inr rfl
  case isFalse => exact .inr rfl

theorem number_parse (h : number.accepts v = true) : ∃ n, number.parse v = .number n := by
  cases v with
  | number n => exact ⟨n, rfl⟩
  | string s =>
    obtain ⟨d, hd⟩ := Option.isSome_iff_exists.mp h
    obtain ⟨w, -, hn⟩ | hn := textNumber?_of_double? hd
    · exact ⟨.whole w, by simp [number, hn]⟩
    · exact ⟨.double d, by simp [number, hn]⟩
  | _ => cases h

namespace Builtin

theorem gives (builtin : type.Builtin) (h : type.accepts v = true) : type.Gives (type.parse v) := by
  cases builtin with
  | string =>
    obtain ⟨s, rfl⟩ := string_accepts h
    exact .string s
  | integer =>
    obtain ⟨w, hw⟩ := integer_parse h
    exact hw ▸ .integer w
  | number =>
    obtain ⟨n, hn⟩ := number_parse h
    exact hn ▸ .number n
  | boolean => exact .boolean _
  | any => exact .any v

theorem accepts_parse (builtin : type.Builtin) (h : type.accepts v = true) :
    type.accepts (type.parse v) = true := by
  cases builtin with
  | string | any => exact h
  | integer =>
    obtain ⟨w, hw⟩ := integer_parse h
    rw [hw]
    rfl
  | number =>
    obtain ⟨n, hn⟩ := number_parse h
    rw [hn]
    rfl
  | boolean => rfl

theorem parse_parse (builtin : type.Builtin) (h : type.accepts v = true) :
    type.parse (type.parse v) = type.parse v := by
  cases builtin with
  | string | any => rfl
  | integer =>
    obtain ⟨w, hw⟩ := integer_parse h
    rw [hw]
    rfl
  | number =>
    obtain ⟨n, hn⟩ := number_parse h
    rw [hn]
    rfl
  | boolean => rfl

/-- Parsing leaves strings to the types that change nothing. -/
theorem parse_eq_or (builtin : type.Builtin) (h : type.accepts v = true) :
    type.parse v = v ∨ (∃ n, type.parse v = .number n) ∨ ∃ b, type.parse v = .bool b := by
  cases builtin with
  | string | any => exact .inl rfl
  | integer =>
    obtain ⟨w, hw⟩ := integer_parse h
    exact .inr (.inl ⟨_, hw⟩)
  | number => exact .inr (.inl (number_parse h))
  | boolean => exact .inr (.inr ⟨_, rfl⟩)

variable {v' : Value}

/-- The types look at no object and no array. -/
theorem accepts_eq (builtin : type.Builtin) (h : v.Reordered v') :
    type.accepts v = type.accepts v' := by
  cases builtin <;> cases h <;> rfl

theorem parse_reordered (builtin : type.Builtin) (h : v.Reordered v') :
    (type.parse v).Reordered (type.parse v') := by
  cases builtin with
  | string | any => exact h
  | integer | number =>
    cases h with
    | refl => exact .refl _
    | array each => exact .array each
    | object keys each order => exact .object keys each order
  | boolean => cases h <;> exact .refl _

/-- Of the built-in types, only `any` accepts a value that can be put in another order. -/
theorem eq_of_accepts (builtin : type.Builtin) (any : type ≠ .any) (h : v.Reordered v')
    (accepted : type.accepts v = true) : v = v' := by
  cases h with
  | refl => rfl
  | array | object =>
    cases builtin with
    | any => exact absurd rfl any
    | string | integer | number | boolean => cases accepted

end Builtin

end FieldType

end ParamSchema
