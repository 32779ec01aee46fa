import ParamSchema.Pattern

/-!
Patterns in simple form. A row of rows is one row and a choice of choices is one choice; a choice of
characters, or of sets, is one set; what all alternatives start with stands before their choice; and
a part that takes no character is not repeated.
-/

namespace ParamSchema

/-- Whether the set is one code point. -/
def CharSet.isSingle (set : CharSet) : Bool :=
  match set.ranges with
  | [(first, last)] => first == last
  | _ => false

namespace Pattern

section Flattening

variable {α β : Type}

/-- The patterns that stand one after the other in a pattern. -/
def parts : Pattern α β → List (Pattern α β)
  | .empty => []
  | .both p q => p.parts ++ q.parts
  | p => [p]

/-- The alternatives of a pattern. -/
def branches : Pattern α β → List (Pattern α β)
  | .either p q => p.branches ++ q.branches
  | p => [p]

/-- The patterns one after the other. -/
def sequence (ps : List (Pattern α β)) : Pattern α β :=
  inOrder (ps.flatMap parts)

/-- The pattern so many times in a row, where no time and one time are no repetition. -/
def plainRepetition (p : Pattern α β) (least : Nat) (most : Option Nat) (few : Bool) :
    Pattern α β :=
  if least = 0 ∧ most = some 0 then .empty
  else if least = 1 ∧ most = some 1 then p
  else .many p least most few

/-- The pattern so many times in a row. One that takes no character has at most one turn. -/
def repetition (p : Pattern α β) (least : Nat) (most : Option Nat) (few : Bool) : Pattern α β :=
  if p.takesNone then p.plainRepetition (min least 1) (some (min (most.getD 1) 1)) few
  else p.plainRepetition least most few

/-- The set of a pattern that is one. -/
def set? : Pattern α β → Option α
  | .char set => some set
  | _ => none

def hasGroup : Pattern α β → Bool
  | .empty | .char _ | .look _ => false
  | .both p q | .either p q => p.hasGroup || q.hasGroup
  | .many p _ _ _ => p.hasGroup
  | .group _ => true

end Flattening

variable (p : Pattern CharSet Look)

def isCharacter : Bool :=
  p.set?.any CharSet.isSingle

/-- The parts of a pattern, where characters that follow each other make one unit. -/
def units : List (List (Pattern CharSet Look)) :=
  p.parts.splitBy fun p q => p.isCharacter && q.isCharacter

/-- The units that two rows both start with. No group is the same as another. -/
def sharedUnits : (row other : List (List (Pattern CharSet Look))) →
    List (List (Pattern CharSet Look))
  | unit :: row, next :: other =>
    if unit = next && !unit.any hasGroup then unit :: sharedUnits row other else []
  | _, _ => []

/-- The units that all rows start with, if there are two rows or more and each has two units or
more. -/
def commonUnits (rows : List (List (List (Pattern CharSet Look)))) :
    List (List (Pattern CharSet Look)) :=
  match rows with
  | first :: second :: others =>
    if rows.all (2 ≤ ·.length) then (second :: others).foldl sharedUnits first else []
  | _ => []

/-- All sets in one, if all are single characters or none is. -/
def merged? (sets : List CharSet) : Option CharSet :=
  if sets.all CharSet.isSingle || sets.all (!·.isSingle) then
    some (.ofRanges (sets.flatMap CharSet.ranges))
  else none

/-- Any of the patterns, which are no choices. -/
def plainChoice (ps : List (Pattern CharSet Look)) : Pattern CharSet Look :=
  match ps with
  | [] => .char .empty
  | [p] => p
  | first :: others =>
    match (ps.mapM set?).bind merged? with
    | some set => .char set
    | none => anyOf first others

/-- Any of the patterns. The alternatives that are left when their common units are put first have
none in common again. -/
def choice (ps : List (Pattern CharSet Look)) : Pattern CharSet Look :=
  let ps := ps.flatMap branches
  let start := commonUnits (ps.map units)
  if start.isEmpty then plainChoice ps
  else
    let rest (p : Pattern CharSet Look) := inOrder (p.units.drop start.length).flatten
    sequence (start.flatten ++ [plainChoice (ps.flatMap fun p => (rest p).branches)])

end Pattern

end ParamSchema
