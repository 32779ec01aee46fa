import ParamSchema.CharSet

/-!
Tables of named character sets in a compact written form. A set is written as the gaps from each of
its edges to the next: how many code points are out, how many are in, and so on by turns.
-/

namespace ParamSchema.Unicode

/-- The value of a digit of the written form, from 0 to 63. -/
def digitValue (c : Char) : Nat :=
  if c.isUpper then c.toNat - 'A'.toNat
  else if c.isLower then c.toNat - 'a'.toNat + 26
  else if c.isDigit then c.toNat - '0'.toNat + 52
  else if c = '+' then 62
  else 63

/-- The numbers of a text in lines, each in base 32 with its most significant digit first; 32 is
added to every digit of a number but the last. -/
def numbers (code : List String) : List Nat :=
  let step := fun ((number, done) : Nat × List Nat) c =>
    let digit := digitValue c
    if digit < 32 then (0, (32 * number + digit) :: done) else (32 * number + (digit - 32), done)
  ((String.join code).foldl step (0, [])).2.reverse

/-- The ranges that the gaps after `edge` enclose. -/
def rangesFrom : Nat → List Nat → List (Nat × Nat)
  | edge, outside :: inside :: rest =>
    let first := edge + outside
    (first, first + inside - 1) :: rangesFrom (first + inside) rest
  | _, _ => []

/-- The set that a text describes. -/
def decoded (code : List String) : CharSet :=
  ⟨rangesFrom 0 (numbers code)⟩

/-- A character set under all its names. -/
structure NamedSet where
  names : List String
  code : List String

/-- A name as names are compared: only its ASCII characters count, without spaces, underscores and
hyphens, without regard to case, and without a leading `is`. -/
def looseName (name : List Char) : List Char :=
  let plain := fun (cs : List Char) =>
    (cs.filter fun c => c.toNat < 0x80 && !(c == ' ' || c == '_' || c == '-')).map Char.toLower
  match name with
  | 'i' :: 's' :: rest | 'I' :: 's' :: rest | 'i' :: 'S' :: rest | 'I' :: 'S' :: rest =>
    -- This one name begins so and is otherwise a name of something else.
    if plain rest = ['c'] then ['i', 's', 'c'] else plain rest
  | _ => plain name

namespace NamedSet

def set (s : NamedSet) : CharSet :=
  decoded s.code

/-- Whether a loose name is one of the names of the set. -/
def isCalled (key : List Char) (s : NamedSet) : Bool :=
  s.names.any fun name => looseName name.toList == key

/-- The set of a loose name in a table. -/
def find? (table : List NamedSet) (key : List Char) : Option CharSet :=
  (table.find? (isCalled key)).map set

end NamedSet

end ParamSchema.Unicode
