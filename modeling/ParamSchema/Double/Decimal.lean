import ParamSchema.Double

/-!
Decimal numerals and doubles: reading rounds `digits * 10 ^ exponent` to the nearest double, and
`shortest` gives the fewest digits that read back as the same double, of those the nearest, a tie
going to the even last digit.
-/

namespace ParamSchema

/-- A decimal numeral `significand * 10 ^ exponent`. -/
structure Decimal where
  significand : Nat
  exponent : Int
deriving DecidableEq, Inhabited

namespace Decimal

/-- Numerals with a non-zero significand and an exponent from here on overflow. -/
def overflowExponent : Int := 310

/-- Whether the numeral is below `2 ^ -1080`, which rounds to zero: `10 ^ exponent` is below
`2 ^ (3 * exponent)` for a negative exponent. -/
def vanishes (d : Decimal) : Bool :=
  decide (d.significand.log2 + 1081 + 3 * d.exponent < 0)

/-- The nearest double, if it does not overflow. A numeral far out of range is settled before the
power of ten is formed. -/
def toDouble? (negative : Bool) (d : Decimal) : Option Double :=
  if d.significand = 0 || d.vanishes then some (.zero negative)
  else if overflowExponent ≤ d.exponent then none
  else
    match d.exponent with
    | .ofNat e => Double.ofRatio? negative (d.significand * 10 ^ e) 1
    | .negSucc e => Double.ofRatio? negative d.significand (10 ^ (e + 1))

/-- The digits of a whole number, most significant first. -/
def digits (n : Nat) : List Char :=
  Nat.toDigits 10 n

/-- The number without its trailing zeros; each raises the exponent by one. -/
def trimZeros (d : Decimal) : Decimal :=
  let zeros := ((digits d.significand).reverse.takeWhile (· == '0')).length
  if d.significand = 0 then ⟨0, 0⟩ else ⟨d.significand / 10 ^ zeros, d.exponent + zeros⟩

end Decimal

namespace Double

/-- The decimal exponent of the first digit of a positive double: scaled by `10 ^ 340`, even the
smallest has digits before the point. -/
def leadingExponent (d : Double) : Int :=
  (Decimal.digits (d.units * 10 ^ 340 / unitsPerOne)).length - 341

/-- The multiple of `10 ^ grid` nearest to the magnitude, among the two next to it that read back
as `d`. -/
def onGrid? (d : Double) (grid : Int) : Option Decimal :=
  let num := d.units * 10 ^ (-grid).toNat
  let den := unitsPerOne * 10 ^ grid.toNat
  let below : Decimal := ⟨num / den, grid⟩
  let above : Decimal := ⟨num / den + 1, grid⟩
  let readsBack (c : Decimal) : Bool := (c.toDouble? d.negative) = some d
  match readsBack below, readsBack above with
  | false, false => none
  | true, false => some below
  | false, true => some above
  | true, true => if roundHalfEven num den = num / den then some below else some above

/-- The most significant digits a double needs to read back. -/
def maxDigits : Nat := 17

/-- The shortest decimal that reads back as the magnitude of a double. -/
def shortest (d : Double) : Decimal :=
  let first := d.leadingExponent
  if d.units = 0 then ⟨0, 0⟩
  else
    match (List.range maxDigits).findSome? fun extra => d.onGrid? (first - (extra : Nat)) with
    | some decimal => decimal.trimZeros
    | none => ⟨d.units * 10 ^ 340 / unitsPerOne, -340⟩

end Double

end ParamSchema
