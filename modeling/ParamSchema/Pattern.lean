import ParamSchema.CharSet

/-!
Regular expressions over characters and whether one is found in a text. A search keeps the set of
all places that a match may have reached, one bit a place, so it takes polynomial time whatever the
expression: `ends` sends the places where an expression may start to those where it may end.
-/

namespace ParamSchema

-- Powers are the core library's, whatever else is imported.
attribute [default_instance 10000, instance (10000)] instPowNat

/-- A regular expression: `α` describes the characters that it takes, `β` the conditions on a place
between characters. -/
inductive Pattern (α β : Type)
  | empty
  | char (set : α)
  | look (condition : β)
  | both (p q : Pattern α β)
  | either (p q : Pattern α β)
  /-- From `least` to `most` times in a row, without an upper limit if there is no `most`. Whether
  `few` times are preferred plays no part in what matches. -/
  | many (p : Pattern α β) (least : Nat) (most : Option Nat) (few : Bool)
  /-- A part whose place in a match is of interest; it matches what the part matches. -/
  | group (p : Pattern α β)
deriving DecidableEq, Inhabited

/-- What a condition asks of the word characters around a place. -/
inductive Edge
  /-- One side is in a word and the other is not. -/
  | boundary
  | noBoundary
  | start
  | stop
  /-- No word character before. -/
  | halfStart
  /-- No word character after. -/
  | halfStop
deriving DecidableEq

/-- A condition on a place between two characters. -/
inductive Look
  | start
  | stop
  /-- At the start, or after a line feed. -/
  | lineStart
  /-- At the end, or before a line feed. -/
  | lineStop
  /-- Like `lineStart`, where a return, and a return with a line feed, end a line too. -/
  | returnLineStart
  | returnLineStop
  | edge (word : CharSet) (kind : Edge)
deriving DecidableEq

/-- Whether a condition holds between two characters, either of which may be missing. -/
def Look.holds (before after : Option Char) : Look → Bool
  | start => before.isNone
  | stop => after.isNone
  | lineStart => before.all (· == '\n')
  | lineStop => after.all (· == '\n')
  | returnLineStart => before.all (· == '\n') || before == some '\r' && after != some '\n'
  | returnLineStop => after.all (· == '\r') || after == some '\n' && before != some '\r'
  | edge word kind =>
    let inWord (c : Option Char) := c.any word.has
    match kind with
    | .boundary => inWord before != inWord after
    | .noBoundary => inWord before == inWord after
    | .start => !inWord before && inWord after
    | .stop => inWord before && !inWord after
    | .halfStart => !inWord before
    | .halfStop => !inWord after

/-- A set of places in a text, one bit a place. -/
abbrev Places := Nat

namespace Places

/-- The places, from the first on, at which the list is true. -/
def ofFlags (flags : List Bool) : Places :=
  flags.foldr (fun flag places => 2 * places + flag.toNat) 0

/-- All places of a text with `size` characters. -/
def all (size : Nat) : Places := 2 ^ (size + 1) - 1

/-- The places that `step` reaches in up to `fuel` steps; it stops when a step adds none. -/
def grow (step : Places → Places) : Nat → Places → Places
  | 0, here => here
  | fuel + 1, here =>
    let next := here ||| step here
    if next = here then here else grow step fuel next

/-- The places that `step` reaches in exactly `count` steps. -/
def repeated (step : Places → Places) : Nat → Places → Places
  | 0, here => here
  | count + 1, here => if here = 0 then 0 else repeated step count (step here)

end Places

namespace Pattern

section Combinators

variable {α β : Type}

def optional (p : Pattern α β) : Pattern α β := .many p 0 (some 1) false

def star (p : Pattern α β) : Pattern α β := .many p 0 none false

def plus (p : Pattern α β) : Pattern α β := .many p 1 none false

/-- The patterns one after the other. -/
def inOrder : List (Pattern α β) → Pattern α β
  | [] => .empty
  | [p] => p
  | p :: rest => .both p (inOrder rest)

/-- The first pattern or any of the others. -/
def anyOf (first : Pattern α β) : List (Pattern α β) → Pattern α β
  | [] => first
  | next :: rest => .either first (anyOf next rest)

/-- Whether a pattern has no place for a character, so that it takes none. -/
def takesNone : Pattern α β → Bool
  | .empty | .look _ => true
  | .char _ => false
  | .both p q | .either p q => p.takesNone && q.takesNone
  | .many p _ _ _ => p.takesNone
  | .group p => p.takesNone

/-- The pattern with its leaves replaced. -/
def mapLeaves {γ δ : Type} (onChar : α → γ) (onLook : β → δ) : Pattern α β → Pattern γ δ
  | .empty => .empty
  | .char set => .char (onChar set)
  | .look condition => .look (onLook condition)
  | .both p q => .both (p.mapLeaves onChar onLook) (q.mapLeaves onChar onLook)
  | .either p q => .either (p.mapLeaves onChar onLook) (q.mapLeaves onChar onLook)
  | .many p least most few => .many (p.mapLeaves onChar onLook) least most few
  | .group p => .group (p.mapLeaves onChar onLook)

end Combinators

/-- The places where a pattern may end when it may start at `here`. Each leaf is the set of places
at which it holds; `size` is the length of the text. -/
def ends (size : Nat) : Pattern Places Places → Places → Places
  | .empty, here => here
  | .char holding, here => (here &&& holding) <<< 1
  | .look holding, here => here &&& holding
  | .both p q, here => q.ends size (p.ends size here)
  | .either p q, here => p.ends size here ||| q.ends size here
  | .many p least most _, here =>
    let started := Places.repeated (p.ends size) least here
    match most with
    | none => Places.grow (p.ends size) size started
    | some most => Places.grow (p.ends size) (most - least) started
  | .group p, here => p.ends size here

/-- The conditions at the places of a text, from the first on; `before` is the character before
it. -/
def lookFlags (condition : Look) : Option Char → List Char → List Bool
  | before, [] => [condition.holds before none]
  | before, c :: rest => condition.holds before (some c) :: lookFlags condition (some c) rest

/-- A pattern with each leaf replaced by the places of a text at which it holds. -/
def located (text : List Char) (p : Pattern CharSet Look) : Pattern Places Places :=
  p.mapLeaves (fun set => Places.ofFlags (text.map set.has))
    (fun condition => Places.ofFlags (lookFlags condition none text))

/-- Whether some part of the text matches the pattern. -/
def isFoundIn (p : Pattern CharSet Look) (text : String) : Bool :=
  let chars := text.toList
  (p.located chars).ends chars.length (Places.all chars.length) != 0

end Pattern

end ParamSchema
