import ParamSchema.Double

/-!
JSON values. Whole numbers and doubles are different kinds of number, objects keep their members in
order, and `Value.same` is the equality of values: it ignores the order of members and the sign of
zero, but never takes a whole number for a double.
-/

namespace ParamSchema

/-- A whole number that fits 64 bits, signed or unsigned. -/
structure Whole where
  val : Int
  lower : -2 ^ 63 ≤ val
  upper : val < 2 ^ 64
deriving DecidableEq

/-- The whole number `i`, if it fits. -/
def Whole.ofInt? (i : Int) : Option Whole :=
  if h : -2 ^ 63 ≤ i ∧ i < 2 ^ 64 then some ⟨i, h.1, h.2⟩ else none

/-- The whole number `i`, if it fits 64 bits with a sign. -/
def Whole.ofInt64? (i : Int) : Option Whole :=
  if h : -2 ^ 63 ≤ i ∧ i < 2 ^ 63 then some ⟨i, h.1, by omega⟩ else none

/-- A JSON number. -/
inductive Number
  | whole (w : Whole)
  | double (d : Double)
deriving DecidableEq

namespace Number

/-- Numeric equality within a kind; the kinds never meet. -/
def same : Number → Number → Bool
  | whole a, whole b => a.val == b.val
  | double a, double b => a.signedUnits == b.signedUnits
  | _, _ => false

/-- The value of a whole number that fits 64 bits without a sign. -/
def toUnsigned? : Number → Option Nat
  | whole w => if 0 ≤ w.val then some w.val.toNat else none
  | double _ => none

/-- The value of a whole number that fits 64 bits with a sign. -/
def toSigned? : Number → Option Int
  | whole w => if w.val < 2 ^ 63 then some w.val else none
  | double _ => none

end Number

/-- A JSON value. The members of an object are in order; a read value has no key twice. -/
inductive Value
  | null
  | bool (b : Bool)
  | number (n : Number)
  | string (s : String)
  | array (items : List Value)
  | object (members : List (String × Value))
deriving Inhabited

/-- The members of an object, in order. -/
abbrev Members := List (String × Value)

namespace Members

/-- Sets the value of a key: in place if the key is there, else at the end. -/
def put (key : String) (value : Value) : Members → Members
  | [] => [(key, value)]
  | (k, v) :: rest => if k = key then (k, value) :: rest else (k, v) :: put key value rest

/-- Drops a key; the last member moves into its place. -/
def remove (key : String) (members : Members) : Members :=
  let before := members.takeWhile (·.1 ≠ key)
  match members.dropWhile (·.1 ≠ key) with
  | [] => members
  | _ :: rest =>
    match rest.getLast? with
    | none => before
    | some last => before ++ last :: rest.dropLast

end Members

namespace Value

/-- A whole number as a value. -/
def whole (w : Whole) : Value := number (.whole w)

def isNull : Value → Bool
  | null => true
  | _ => false

/-- The kind of a value, as schema errors name it. -/
def kind : Value → String
  | null => "null"
  | bool _ => "boolean"
  | number _ => "number"
  | string _ => "string"
  | array _ => "array"
  | object _ => "object"

def toUnsigned? : Value → Option Nat
  | number n => n.toUnsigned?
  | _ => none

def toSigned? : Value → Option Int
  | number n => n.toSigned?
  | _ => none

/-- The value of a member, if this is an object that has it. -/
def member? (key : String) : Value → Option Value
  | object members => members.lookup key
  | _ => none

mutual

/-- Equality of values: arrays by position, objects by key. -/
def same : Value → Value → Bool
  | null, null => true
  | bool a, bool b => a == b
  | number a, number b => a.same b
  | string a, string b => a == b
  | array xs, array ys => sameItems xs ys
  | object xs, object ys => xs.length == ys.length && sameMembers xs ys
  | _, _ => false

def sameItems : List Value → List Value → Bool
  | [], [] => true
  | x :: xs, y :: ys => same x y && sameItems xs ys
  | _, _ => false

/-- Every member of the first list has an equal one under its key in the second. -/
def sameMembers : List (String × Value) → List (String × Value) → Bool
  | [], _ => true
  | (key, x) :: xs, ys =>
    (match ys.lookup key with
      | some y => same x y
      | none => false) && sameMembers xs ys

end

end Value

end ParamSchema
