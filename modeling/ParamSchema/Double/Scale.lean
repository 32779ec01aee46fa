import ParamSchema.Double

/-!
Doubles times powers of ten, one product or quotient after another. Each of these rounds to the
nearest double, so what comes out need not be the double nearest to the exact value.
-/

namespace ParamSchema.Double

/-- The double nearest to the product, if it does not overflow. -/
def mul? (a b : Double) : Option Double :=
  ofRatio? (a.negative != b.negative) (a.units * b.units) (unitsPerOne * unitsPerOne)

/-- The double nearest to the quotient by a double that is not zero, if it does not overflow. -/
def div? (a b : Double) : Option Double :=
  ofRatio? (a.negative != b.negative) a.units b.units

/-- The greatest exponent of a power of ten that is within the range of doubles. -/
def maxPower : Nat := 308

/-- The double nearest to a power of ten, if the power is within the range. -/
def powerOfTen? (e : Nat) : Option Double :=
  if e ≤ maxPower then ofRatio? false (10 ^ e) 1 else none

/-- The double divided by another so many times, or until it is zero. -/
def divTimes? (d divisor : Double) : Nat → Option Double
  | 0 => some d
  | count + 1 =>
    if d.units = 0 then some d
    else (d.div? divisor).bind fun quotient => quotient.divTimes? divisor count

/-- The double times a power of ten. A power out of range is refused, unless the double is zero; its
inverse is taken in steps. -/
def scale? (d : Double) : Int → Option Double
  | .ofNat e =>
    if maxPower < e && d.units == 0 then some d
    else do d.mul? (← powerOfTen? e)
  | .negSucc e => do
    let greatest ← powerOfTen? maxPower
    let rest ← powerOfTen? (e % maxPower + 1)
    let lowered ← d.divTimes? greatest (e / maxPower)
    lowered.div? rest

end ParamSchema.Double
