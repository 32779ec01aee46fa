import ParamSchema.Pattern.Simplify
import ParamSchema.Text.ByteRows

/-!
The size of a pattern in simple form: the memory of a machine that takes a text byte by byte and has
one state for each byte, choice and turn of the pattern. There are two machines, one for each
direction, and a pattern fits if both stay within a limit.
-/

namespace ParamSchema.Pattern

/-- The memory of a state. -/
def stateSize : Nat := 32

/-- What each range of bytes adds to the memory of a state. -/
def rangeSize : Nat := 8

/-- What each way on adds to the memory of a state that chooses. -/
def branchSize : Nat := 4

/-- The memory of a set in the forward machine, which shares states from which the same bytes lead
to the end. -/
def forwardSetSize (set : CharSet) : Nat :=
  let states := (Text.remainders 4 (Text.rowsOf set)).eraseDups
  let size (rows : List Text.ByteRow) := stateSize + rangeSize * (Text.rests rows).length
  (states.map size).foldl (· + ·) stateSize

/-- The memory of a set in the backward machine, which shares states that the same bytes have led
to. -/
def backwardSetSize (set : CharSet) : Nat :=
  let rows := Text.rowsOf set
  2 * stateSize + branchSize * rows.length + stateSize * Text.distinctStarts rows

/-- The memory of a set. One character takes a state for each byte, and sets within ASCII have one
state with all their ranges. -/
def setSize (backward : Bool) (set : CharSet) : Nat :=
  if set.isSingle then stateSize * (Text.rowsOf set).flatten.length
  else if set.ranges.all fun range => range.2 < 0x80 then
    2 * stateSize + rangeSize * set.ranges.length
  else if backward then backwardSetSize set
  else forwardSetSize set

/-- The bytes of a character. -/
def character? (p : Pattern CharSet Look) : Option Text.ByteRow :=
  p.set?.bind fun set => if set.isSingle then some (Text.rowsOf set).flatten else none

/-- The bytes of a row of characters. -/
def word? (p : Pattern CharSet Look) : Option Text.ByteRow :=
  if p.parts.isEmpty then none else (p.parts.mapM character?).map List.flatten

/-- The words between those that are empty. -/
def wordRuns : List Text.ByteRow → List (List Text.ByteRow)
  | [] => [[]]
  | [] :: words => [] :: wordRuns words
  | word :: words =>
    match wordRuns words with
    | run :: more => (word :: run) :: more
    | [] => [[word]]

/-- The memory of the states of a tree of words, which are given from a state on, in order, with the
length of the longest. Words share the states of the bytes that they start with, but not past a word
that ends there. The states where words only end are shared by all. -/
def wordTreeSize : (length : Nat) → List Text.ByteRow → Nat
  | 0, _ => 0
  | length + 1, words =>
    let runs := wordRuns <| match words with
      -- Further words that end there at once change nothing.
      | [] :: words => [] :: words.dropWhile List.isEmpty
      | words => words
    let byFirst (run : List Text.ByteRow) :=
      Text.rests (run.mergeSort fun v w => (v.headD (0, 0)).1 ≤ (w.headD (0, 0)).1)
    let ways := (runs.map byFirst).filter (!·.isEmpty)
    if ways.isEmpty then 0
    else
      let size (ways : List ((Nat × Nat) × List Text.ByteRow)) :=
        (if ways.length = 1 then stateSize else stateSize + rangeSize * ways.length) +
          (ways.map fun (_, rest) => wordTreeSize length rest).sum
      stateSize + branchSize * (ways.length + runs.length - 1) + (ways.map size).sum

/-- The memory of a choice of words. -/
def wordsSize (backward : Bool) (words : List Text.ByteRow) : Nat :=
  let words := if backward then words.map List.reverse else words
  stateSize + wordTreeSize ((words.map List.length).foldl max 0) words

/-- Whether the pattern matches where no character is left. -/
def mayTakeNone {α β : Type} : Pattern α β → Bool
  | .empty | .look _ => true
  | .char _ => false
  | .both p q => p.mayTakeNone && q.mayTakeNone
  | .either p q => p.mayTakeNone || q.mayTakeNone
  | .many p least _ _ => least == 0 || p.mayTakeNone
  | .group p => p.mayTakeNone

/-- The memory of a repetition of a part of the given size. -/
def manySize (part : Nat) (mayTakeNone : Bool) (least : Nat) (most : Option Nat) : Nat :=
  let choice := stateSize + 2 * branchSize
  match least, most with
  | 0, none =>
    if mayTakeNone then part + 2 * choice + stateSize else part + choice
  | least, none => least * part + choice
  | 0, some 0 => stateSize
  | least, some most =>
    if most ≤ least then least * part
    else if least = 0 && most = 1 then part + choice + stateSize
    else
      let first := if least = 0 then stateSize else least * part
      first + (most - least) * (part + choice) + stateSize

/-- The memory of a pattern. The alternatives of one choice share its state; `nested` tells that
such a state is there already. A choice of words is a tree of them. -/
def size (backward nested : Bool) : Pattern CharSet Look → Nat
  | .empty | .look _ => stateSize
  | .char set => setSize backward set
  | .both p q => p.size backward false + q.size backward false
  | .either p q =>
    let alternatives := p.size backward true + q.size backward true
    if nested then alternatives
    else
      let branches := (p.either q).branches
      match branches.mapM word? with
      | some words => wordsSize backward words
      | none => 2 * stateSize + branchSize * branches.length + alternatives
  | .many p least most _ => manySize (p.size backward false) p.mayTakeNone least most
  | .group p => p.size backward false + if backward then 0 else 2 * stateSize

/-- Whether each match is bound to the end of the text where the machine starts. -/
def isFixed (backward : Bool) : Pattern CharSet Look → Bool
  | .empty | .char _ => false
  | .look condition => condition = if backward then .stop else .start
  | .both p q =>
    if backward then q.isFixed true || q.takesNone && p.isFixed true
    else p.isFixed false || p.takesNone && q.isFixed false
  | .either p q => p.isFixed backward && q.isFixed backward
  | .many p least _ _ => least != 0 && p.isFixed backward
  | .group p => p.isFixed backward

/-- The memory of the states before and after a pattern: before one that is not fixed stand those
that pass over any bytes. -/
def frameSize (backward : Bool) (p : Pattern CharSet Look) : Nat :=
  let before :=
    if p.isFixed backward then stateSize
    else manySize (2 * stateSize + rangeSize) false 0 none
  let after := if backward then stateSize else 3 * stateSize
  before + after

/-- The most memory that a pattern may take. -/
def maxSize : Nat := 10 * 2 ^ 20

/-- So many words are looked for without a machine. -/
def manyWords : Nat := 3000

/-- Whether the machines of both directions stay within the limit. -/
def fits (p : Pattern CharSet Look) : Bool :=
  manyWords ≤ p.branches.length && p.branches.all (·.word?.isSome) ||
    [false, true].all fun backward => p.size backward false + p.frameSize backward ≤ maxSize

end ParamSchema.Pattern
