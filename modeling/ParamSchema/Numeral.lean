import ParamSchema.Double.Decimal
import ParamSchema.Value

/-!
Numbers written as plain decimal text: whole numbers with an optional minus, and unsigned decimals
with an optional fraction. Only ASCII digits count, and there are no exponents.
-/

namespace ParamSchema.Numeral

/-- The value of a row of digits. -/
def digitsValue (digits : List Char) : Nat :=
  digits.foldl (fun n c => 10 * n + (c.toNat - '0'.toNat)) 0

/-- At least one character, and all of them ASCII digits. -/
def isDigits (text : List Char) : Bool :=
  !text.isEmpty && text.all Char.isDigit

/-- A whole number: digits, perhaps after a minus. -/
def integer? : List Char → Option Int
  | '-' :: digits => if isDigits digits then some (-digitsValue digits) else none
  | digits => if isDigits digits then some (digitsValue digits) else none

/-- A whole number that fits 64 bits with a sign. -/
def whole? (text : String) : Option Whole :=
  (integer? text.toList).bind Whole.ofInt64?

/-- An unsigned decimal: digits, or a point with digits after it and perhaps digits before it. Its
exponent is zero exactly if there is no point. -/
def unsigned? (text : List Char) : Option Decimal :=
  let before := text.takeWhile (· ≠ '.')
  match text.dropWhile (· ≠ '.') with
  | [] => if isDigits before then some ⟨digitsValue before, 0⟩ else none
  | _ :: places =>
    if before.all Char.isDigit && isDigits places then
      some ⟨digitsValue (before ++ places), -places.length⟩
    else none

/-- An unsigned decimal as the double nearest to it. -/
def double? (text : String) : Option Double :=
  (unsigned? text.toList).bind (Decimal.toDouble? false)

/-- A decimal with an optional sign: whether it is a minus, and the rest. -/
def signed? : List Char → Option (Bool × Decimal)
  | '-' :: text => (unsigned? text).map (true, ·)
  | '+' :: text => (unsigned? text).map (false, ·)
  | text => (unsigned? text).map (false, ·)

end ParamSchema.Numeral
