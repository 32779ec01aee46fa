import ParamSchema.Numeral
import ParamSchema.Registry

/-!
The types of leaves: which values a type accepts and the normal form it gives them. The built-in
types are `string`, `integer`, `number`, `boolean` and `any`, three of them also under a short name.
-/

namespace ParamSchema

/-- A type of leaf values. -/
structure FieldType where
  name : String
  accepts : Value → Bool
  /-- The normal form of an accepted value. -/
  parse : Value → Value

namespace FieldType

/-- Every string. -/
def string : FieldType where
  name := "string"
  accepts
    | .string _ => true
    | _ => false
  parse := id

/-- The whole number that a double stands for, if it is one and fits 64 bits with a sign. -/
def wholeDouble? (d : Double) : Option Whole :=
  d.toInt?.bind Whole.ofInt64?

/-- Whole numbers, also as doubles without fraction or as text. -/
def integer : FieldType where
  name := "integer"
  accepts
    | .number (.whole _) => true
    | .number (.double d) => (wholeDouble? d).isSome
    | .string s => (Numeral.whole? s).isSome
    | _ => false
  parse v :=
    match v with
    | .string s => ((Numeral.whole? s).map Value.whole).getD v
    | .number (.double d) => ((wholeDouble? d).map Value.whole).getD v
    | _ => v

/-- The number that a text stands for. If the double nearest to it has no fraction and the text has
no point, that is the whole number, if it fits; else it is the double. -/
def textNumber? (s : String) : Option Number :=
  (Numeral.double? s).map fun d =>
    if d.toInt?.isSome && !s.toList.contains '.' then
      match Numeral.whole? s with
      | some w => .whole w
      | none => .double d
    else .double d

/-- Numbers, also as unsigned decimal text. -/
def number : FieldType where
  name := "number"
  accepts
    | .number _ => true
    | .string s => (Numeral.double? s).isSome
    | _ => false
  parse v :=
    match v with
    | .string s => ((textNumber? s).map Value.number).getD v
    | _ => v

/-- Which values count as true. -/
def truth : Value → Bool
  | .bool b => b
  | .string s => s == "true" || s == "1"
  | .number n => n.toUnsigned? == some 1
  | _ => false

/-- Booleans, also as `0`, `1` or the texts of these and of the booleans. -/
def boolean : FieldType where
  name := "boolean"
  accepts
    | .bool _ => true
    | .string s => s == "true" || s == "false" || s == "1" || s == "0"
    | .number n => n.toUnsigned? == some 0 || n.toUnsigned? == some 1
    | _ => false
  parse v := .bool (truth v)

/-- Every value. -/
def any : FieldType where
  name := "any"
  accepts _ := true
  parse := id

/-- The built-in types under all their names. -/
def builtins : Registry FieldType :=
  .ofList [("string", string), ("integer", integer), ("int", integer), ("number", number),
    ("float", number), ("boolean", boolean), ("bool", boolean), ("any", any)]

end FieldType

end ParamSchema
