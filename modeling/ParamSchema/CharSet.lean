/-!
Sets of characters as ranges of code points. A set in normal form has its ranges in order, apart
and not touching; `union`, `inter` and `diff` of such sets are such sets.
-/

namespace ParamSchema

/-- A set of characters: the code points from the first to the second of each pair. -/
structure CharSet where
  ranges : List (Nat × Nat)
deriving DecidableEq, Inhabited

namespace CharSet

/-- The first code point past all characters. -/
def codeLimit : Nat := 0x110000

def hasCode (set : CharSet) (code : Nat) : Bool :=
  set.ranges.any fun (first, last) => first ≤ code && code ≤ last

/-- Whether a character is in the set. -/
def has (set : CharSet) (c : Char) : Bool :=
  set.hasCode c.toNat

def empty : CharSet := ⟨[]⟩

def single (c : Char) : CharSet := ⟨[(c.toNat, c.toNat)]⟩

def range (first last : Char) : CharSet := ⟨[(first.toNat, last.toNat)]⟩

/-- Adds a range that starts no earlier than all ranges so far, which are given last first. -/
def join (done : List (Nat × Nat)) (next : Nat × Nat) : List (Nat × Nat) :=
  match done with
  | [] => [next]
  | (first, last) :: rest =>
    if next.1 ≤ last + 1 then (first, max last next.2) :: rest else next :: done

/-- The normal form of a list of ranges; a range that ends before it starts is dropped. -/
def ofRanges (ranges : List (Nat × Nat)) : CharSet :=
  let sorted := (ranges.filter fun r => r.1 ≤ r.2).mergeSort fun a b => a.1 ≤ b.1
  ⟨(sorted.foldl join []).reverse⟩

def union (a b : CharSet) : CharSet :=
  if a.ranges.isEmpty then b
  else if b.ranges.isEmpty then a
  else ofRanges (a.ranges ++ b.ranges)

/-- The gaps of a normal set from `start` on, below `limit`. -/
def gaps (limit : Nat) : Nat → List (Nat × Nat) → List (Nat × Nat)
  | start, [] => if start < limit then [(start, limit - 1)] else []
  | start, (first, last) :: rest =>
    if start < first then (start, first - 1) :: gaps limit (last + 1) rest
    else gaps limit (last + 1) rest

/-- All code points that a normal set lacks. The surrogates are no characters and count with
neither side. -/
def compl (a : CharSet) : CharSet :=
  ⟨gaps codeLimit 0 a.ranges⟩

def inter (a b : CharSet) : CharSet :=
  ((a.compl).union b.compl).compl

def diff (a b : CharSet) : CharSet :=
  a.inter b.compl

def symmDiff (a b : CharSet) : CharSet :=
  (a.union b).diff (a.inter b)

end CharSet

end ParamSchema
