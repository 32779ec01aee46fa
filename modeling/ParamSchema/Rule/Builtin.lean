import ParamSchema.Numeral
import ParamSchema.Pattern.Reader
import ParamSchema.Registry
import ParamSchema.Rule
import ParamSchema.Value.Text

/-!
The built-in rule functions. The text rules read strings, numbers and booleans as text; the ranges
compare numbers, and text in the form of one, as doubles.
-/

namespace ParamSchema

namespace Value

/-- The text that the rules see in a value; null, arrays and objects have none. -/
def asText? : Value → Option String
  | string s => some s
  | number n => some n.text
  | bool true => some "true"
  | bool false => some "false"
  | _ => none

/-- Equal values, or values of the same text. -/
def looselyEqual (a b : Value) : Bool :=
  a.same b ||
    match a.asText?, b.asText? with
    | some x, some y => x == y
    | _, _ => false

end Value

/-- Where a decimal lies on the line of doubles, in units. All that overflow lie together, past the
largest. -/
def Decimal.position (negative : Bool) (d : Decimal) : Int :=
  match d.toDouble? negative with
  | some double => double.signedUnits
  | none => if negative then -overflowUnits else overflowUnits

namespace Rule

/-- The digits from 0 to 9. -/
def digitSet : CharSet := ⟨[(0x30, 0x39)]⟩

/-- The ASCII letters and digits. -/
def alnumSet : CharSet := ⟨[(0x30, 0x39), (0x41, 0x5A), (0x61, 0x7A)]⟩

/-- An optional sign, then digits, or a point with digits after it and perhaps digits before. -/
def numericPattern : Pattern CharSet Look :=
  .inOrder [.look .start, .optional (.char ⟨[(0x2B, 0x2B), (0x2D, 0x2D)]⟩),
    .optional (.both (.star (.char digitSet)) (.char (.single '.'))), .plus (.char digitSet),
    .look .stop]

/-- What may stand before the at sign of an address. -/
def localSet : CharSet :=
  ⟨[(0x21, 0x21), (0x23, 0x27), (0x2A, 0x2B), (0x2D, 0x39), (0x3D, 0x3D), (0x3F, 0x3F),
    (0x41, 0x5A), (0x5E, 0x7E)]⟩

/-- A label of a host name: letters, digits and inner hyphens, at most 63 in all. -/
def labelPattern : Pattern CharSet Look :=
  .both (.char alnumSet)
    (.optional (.both (.many (.char ⟨(0x2D, 0x2D) :: alnumSet.ranges⟩) 0 (some 61) false)
      (.char alnumSet)))

/-- An address: a local part, an at sign, and two or more labels with points between. -/
def emailPattern : Pattern CharSet Look :=
  .inOrder [.look .start, .plus (.char localSet), .char (.single '@'), labelPattern,
    .plus (.both (.char (.single '.')) labelPattern), .look .stop]

/-- Where a value lies on the line of doubles, if it is a number or text in the form of one. -/
def position? : Value → Option Int
  | .number (.whole w) => some (Decimal.position (decide (w.val < 0)) ⟨w.val.natAbs, 0⟩)
  | .number (.double d) => some d.signedUnits
  | .string s =>
    if numericPattern.isFoundIn s then
      (Numeral.signed? s.toList).map fun (negative, d) => d.position negative
    else none
  | _ => none

/-- Whether the characters of `part` stand in a row somewhere. -/
def hasPart (part : List Char) : List Char → Bool
  | [] => part.isEmpty
  | c :: rest => part.isPrefixOf (c :: rest) || hasPart part rest

/-- The value is loosely equal to the first argument. -/
def equals : RuleFn := fun v args =>
  args.head?.any fun expected => v.looselyEqual expected

/-- An array has an item loosely equal to the first argument, or the text has its text in it. -/
def contains : RuleFn := fun v args =>
  match v, args with
  | _, [] => false
  | .array items, seed :: _ => items.any fun item => item.looselyEqual seed
  | v, seed :: _ =>
    match v.asText?, seed.asText? with
    | some text, some part => hasPart part.toList text.toList
    | _, _ => false

/-- The value is loosely equal to an item of the first argument, an array. -/
def isIn : RuleFn := fun v args =>
  match args with
  | .array options :: _ => options.any fun option => v.looselyEqual option
  | _ => false

/-- How long a value is: the items of an array or the characters of a text. -/
def length? : Value → Option Nat
  | .array items => some items.length
  | v => v.asText?.map String.length

/-- The bounds of a length: one object with `min` and `max`, or one or two numbers. What is no
unsigned whole number is no bound. -/
def lengthBounds : List Value → Option Nat × Option Nat
  | [] => (none, none)
  | [.object bounds] =>
    ((bounds.lookup "min").bind Value.toUnsigned?, (bounds.lookup "max").bind Value.toUnsigned?)
  | [least] => (least.toUnsigned?, none)
  | least :: most :: _ => (least.toUnsigned?, most.toUnsigned?)

/-- The length is within the bounds given. -/
def isLength : RuleFn := fun v args =>
  match length? v with
  | none => false
  | some length =>
    let (least, most) := lengthBounds args
    least.all (· ≤ length) && most.all (length ≤ ·)

/-- The text has a match of the pattern in the first argument; an `i` in the second makes the
pattern ignore case. A pattern that cannot be read matches nothing. -/
def matchesPattern : RuleFn := fun v args =>
  match v.asText?, args with
  | some text, .string source :: flags =>
    let ignoreCase := match flags with
      | .string letters :: _ => letters.toList.contains 'i'
      | _ => false
    (Pattern.read source ignoreCase).any (·.isFoundIn text)
  | _, _ => false

/-- A string that is an address. -/
def isEmail : RuleFn := fun v _ =>
  match v with
  | .string s => emailPattern.isFoundIn s
  | _ => false

/-- A text in the form of a number. -/
def isNumeric : RuleFn := fun v _ =>
  v.asText?.any numericPattern.isFoundIn

/-- A string of ASCII letters and digits, at least one. -/
def isAlphanumeric : RuleFn := fun v _ =>
  match v with
  | .string s => !s.isEmpty && s.toList.all Char.isAlphanum
  | _ => false

/-- The value is a number from the first argument on. -/
def min : RuleFn := fun v args =>
  match position? v, args.head?.bind position? with
  | some n, some bound => bound ≤ n
  | _, _ => false

/-- The value is a number up to the first argument. -/
def max : RuleFn := fun v args =>
  match position? v, args.head?.bind position? with
  | some n, some bound => n ≤ bound
  | _, _ => false

/-- The built-in rule functions under their names. -/
def builtins : Registry RuleFn :=
  .ofList [("equals", equals), ("contains", contains), ("isIn", isIn), ("isLength", isLength),
    ("matches", matchesPattern), ("isEmail", isEmail), ("isNumeric", isNumeric),
    ("isAlphanumeric", isAlphanumeric), ("min", min), ("max", max)]

end Rule

end ParamSchema
