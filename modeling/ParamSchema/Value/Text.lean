import ParamSchema.Double.Decimal
import ParamSchema.Value

/-!
The compact JSON text of a value: no blanks, members in order, non-ASCII characters as they are.
Doubles have the fewest digits that read back, positional near one and with an exponent elsewhere.
-/

namespace ParamSchema

/-- How the digits of a double are laid out. -/
structure DoubleLayout where
  /-- The least exponent of the first digit that is written with places. -/
  leastPlain : Int
  /-- The greatest such exponent. -/
  greatestPlain : Int
  /-- What comes before a positive exponent. -/
  plus : String

/-- Exponents from -5 to 15 are written with places; an exponent always has a sign. -/
def doubleLayout : DoubleLayout := ⟨-5, 15, "+"⟩

/-- The digits of `d` with places: a point inside them, or zeros before or after. -/
def Decimal.plainText (digits : List Char) (exponent : Int) : String :=
  let count : Int := digits.length
  if exponent < 0 then
    String.ofList ('0' :: '.' :: (List.replicate (-exponent - 1).toNat '0' ++ digits))
  else if count ≤ exponent + 1 then
    String.ofList (digits ++ List.replicate (exponent + 1 - count).toNat '0' ++ ['.', '0'])
  else
    let whole := (exponent + 1).toNat
    String.ofList (digits.take whole ++ '.' :: digits.drop whole)

/-- The digits of `d` with a point after the first and an exponent. -/
def Decimal.scientificText (layout : DoubleLayout) (digits : List Char) (exponent : Int) :
    String :=
  let body := match digits with
    | [] => ['0']
    | [first] => [first]
    | first :: rest => first :: '.' :: rest
  let sign := if exponent < 0 then "-" else layout.plus
  String.ofList body ++ "e" ++ sign ++ toString exponent.natAbs

/-- The text of a double. -/
def Double.text (d : Double) : String :=
  let decimal := d.shortest
  let digits := Decimal.digits decimal.significand
  let exponent := decimal.exponent + digits.length - 1
  let plain := doubleLayout.leastPlain ≤ exponent && exponent ≤ doubleLayout.greatestPlain
  (if d.negative then "-" else "") ++
    if plain then Decimal.plainText digits exponent
    else Decimal.scientificText doubleLayout digits exponent

/-- The text of a number. -/
def Number.text : Number → String
  | whole w => toString w.val
  | double d => d.text

namespace Value

/-- A control character by its two last hexadecimal digits. -/
def controlEscape (c : Char) : String :=
  let digits := Nat.toDigits 16 c.toNat
  "\\u" ++ String.ofList (List.replicate (4 - digits.length) '0' ++ digits)

/-- A character inside a JSON string: the quote, the backslash and control characters are
escaped. -/
def escaped (c : Char) : String :=
  match c with
  | '"' => "\\\""
  | '\\' => "\\\\"
  | '\x08' => "\\b"
  | '\x0c' => "\\f"
  | '\n' => "\\n"
  | '\r' => "\\r"
  | '\t' => "\\t"
  | c => if c.toNat < 0x20 then controlEscape c else c.toString

/-- A string as JSON text. -/
def quoted (s : String) : String :=
  s.foldl (fun out c => out ++ escaped c) "\"" ++ "\""

mutual

/-- The JSON text of a value. -/
def text : Value → String
  | null => "null"
  | bool true => "true"
  | bool false => "false"
  | number n => n.text
  | string s => quoted s
  | array items => "[" ++ ",".intercalate (itemTexts items) ++ "]"
  | object members => "\x7b" ++ ",".intercalate (memberTexts members) ++ "\x7d"

def itemTexts : List Value → List String
  | [] => []
  | v :: rest => text v :: itemTexts rest

def memberTexts : List (String × Value) → List String
  | [] => []
  | (key, v) :: rest => (quoted key ++ ":" ++ text v) :: memberTexts rest

end

end Value

end ParamSchema
