import ParamSchema.Pattern.Bracket
import ParamSchema.Pattern.Simplify
import ParamSchema.Pattern.Size

/-!
Reading the source text of a pattern. The reader keeps the groups that are open, each with its
alternatives so far; `Pattern.read` gives no pattern if the text is malformed, is nested too deep or
describes a pattern that is too large.
-/

namespace ParamSchema.Pattern

namespace Reader

/-- A part of a pattern that has been read. -/
structure Piece where
  pattern : Pattern CharSet Look := .empty
  /-- How deep its parts are nested. -/
  depth : Nat := 0
  /-- Whether it may be repeated, as a change of settings may not. -/
  isRepeatable : Bool := true

/-- How deep the parts of a row are nested: one part by itself makes no row. -/
def nesting (pieces : List Piece) : Nat :=
  match pieces with
  | [] => 0
  | [piece] => piece.depth
  | pieces => pieces.foldl (fun depth piece => max depth piece.depth) 0 + 1

/-- The pieces one after the other. -/
def inSequence (pieces : List Piece) : Piece where
  pattern := .sequence (pieces.map Piece.pattern)
  depth := nesting pieces

/-- A group that is open, or the whole pattern. -/
structure Level where
  isCapturing : Bool := false
  /-- The settings in force again after it. -/
  flagsAfter : Flags
  /-- Its finished alternatives, last first. -/
  branches : List Piece := []
  /-- The parts of the alternative in progress, last first. -/
  items : List Piece := []

namespace Level

def push (level : Level) (piece : Piece) : Level :=
  { level with items := piece :: level.items }

/-- Ends an alternative. -/
def branch (level : Level) : Level :=
  { level with branches := inSequence level.items.reverse :: level.branches, items := [] }

/-- All alternatives together. -/
def content (level : Level) : Piece :=
  let branches := level.branch.branches.reverse
  { pattern := .choice (branches.map Piece.pattern)
    depth := nesting branches }

/-- The group as a part of the one around it. -/
def close (level : Level) : Piece :=
  let content := level.content
  { pattern := if level.isCapturing then .group content.pattern else content.pattern
    depth := content.depth + 1 }

/-- The level with its last part repeated. There must be one that may be. -/
def repeatLast (level : Level) (least : Nat) (most : Option Nat) (few : Bool) : Option Level :=
  match level.items with
  | [] => none
  | piece :: items =>
    if piece.isRepeatable then
      let pattern := piece.pattern.repetition least most few
      some { level with items := { pattern, depth := piece.depth + 1 } :: items }
    else none

end Level

structure State where
  here : Level
  /-- The levels around it, innermost first. -/
  outer : List Level := []
  flags : Flags
  /-- The names of groups so far. -/
  names : List (List Char) := []

/-- Counts of repetitions are below this. -/
def countLimit : Nat := 2 ^ 32

/-- Reads a decimal number with blanks around it. -/
def readCount (spaced : Bool) (text : List Char) : Option (Nat × List Char) :=
  let (digits, rest) := gather spaced Char.isDigit false (text.dropWhile Text.isBlank)
  let count := digits.foldl (fun n c => 10 * n + (c.toNat - '0'.toNat)) 0
  if digits.isEmpty || countLimit ≤ count then none
  else some (count, rest.dropWhile Text.isBlank)

/-- Reads how often to repeat, from after the opening brace: `n}`, `n,}` or `n,m}`. -/
def readCounts (spaced : Bool) (text : List Char) : Option (Nat × Option Nat × List Char) := do
  let (least, rest) ← readCount spaced (skipBlanks spaced text)
  match rest with
  | '\x7d' :: rest => some (least, some least, rest)
  | ',' :: rest =>
    match skipBlanks spaced rest with
    | '\x7d' :: rest => some (least, none, rest)
    | text =>
      let (most, rest) ← readCount spaced text
      match rest with
      | '\x7d' :: rest => if least ≤ most then some (least, some most, rest) else none
      | _ => none
  | _ => none

/-- Whether a character may stand in the name of a group. -/
def isNameChar (isFirst : Bool) (c : Char) : Bool :=
  let isAlphabetic := (Unicode.property? "alphabetic".toList).any (·.has c)
  if isFirst then c == '_' || isAlphabetic
  else
    c == '_' || c == '.' || c == '[' || c == ']' || isAlphabetic ||
      (Unicode.inCategories ["Nd", "Nl", "No"]).has c

/-- Reads the name of a group, up to the closing angle. -/
def readName (text : List Char) : Option (List Char × List Char) :=
  match text.span (· != '>') with
  | (first :: others, '>' :: rest) =>
    if isNameChar true first && others.all (isNameChar false) then some (first :: others, rest)
    else none
  | _ => none

namespace State

def push (state : State) (pattern : Pattern CharSet Look) (depth : Nat) : State :=
  { state with here := state.here.push { pattern, depth } }

/-- Opens a group with settings of its own. -/
def enter (state : State) (isCapturing : Bool) (flags : Flags) : State :=
  { state with
    here := { isCapturing, flagsAfter := state.flags }
    outer := state.here :: state.outer
    flags }

/-- Reads how a group starts, from after the parenthesis. Conditions on what stands before or after
a place are refused. -/
def openGroup (state : State) (text : List Char) : Option (State × List Char) :=
  let named (text : List Char) := do
    let (name, rest) ← readName text
    if state.names.contains name then none
    else some ({ state.enter true state.flags with names := name :: state.names }, rest)
  match skipBlanks (state.flags.has .spaced) text with
  | '?' :: '=' :: _ | '?' :: '!' :: _ | '?' :: '<' :: '=' :: _ | '?' :: '<' :: '!' :: _ => none
  | '?' :: 'P' :: '<' :: rest => named rest
  | '?' :: '<' :: rest => named rest
  | '?' :: rest => do
    let (changes, rest) ← Flags.readChanges true false [] rest
    let flags := state.flags.apply changes
    match rest with
    | ':' :: rest => some (state.enter false flags, rest)
    | ')' :: rest =>
      if changes.isEmpty then none
      else some ({ state with here := state.here.push { isRepeatable := false }, flags }, rest)
    | _ => none
  | text => some (state.enter true state.flags, text)

/-- Closes the innermost group. -/
def closeGroup (state : State) : Option State :=
  match state.outer with
  | [] => none
  | parent :: outer =>
    some { state with here := parent.push state.here.close, outer, flags := state.here.flagsAfter }

/-- Repeats the last part. A question mark turns around whether few turns are preferred. -/
def repeatLast (state : State) (least : Nat) (most : Option Nat) (text : List Char) :
    Option (Step State State) := do
  let (marked, rest) := match text with
    | '?' :: rest => (true, rest)
    | text => (false, text)
  let here ← state.here.repeatLast least most (state.flags.has .fewFirst != marked)
  some (.more { state with here } rest)

/-- Adds a primitive by itself. -/
def pushPrimitive (state : State) : Primitive → State
  | .char c => state.push (.char (state.flags.fold (.single c))) 0
  | .among set => state.push (.char set) 0
  | .look condition => state.push (.look condition) 0

end State

/-- Reads one part. -/
def step (state : State) (text : List Char) : Option (Step State State) := do
  let { flags, .. } := state
  let spaced := flags.has .spaced
  match skipBlanks spaced text with
  | [] => some (.done state [])
  | '(' :: rest =>
    let (state, rest) ← state.openGroup rest
    some (.more state rest)
  | ')' :: rest => some (.more (← state.closeGroup) rest)
  | '|' :: rest => some (.more { state with here := state.here.branch } rest)
  | '[' :: rest =>
    let (set, depth, rest) ← Bracket.read flags rest
    some (.more (state.push (.char set) depth) rest)
  | '?' :: rest => state.repeatLast 0 (some 1) rest
  | '*' :: rest => state.repeatLast 0 none rest
  | '+' :: rest => state.repeatLast 1 none rest
  | '\x7b' :: rest =>
    let (least, most, rest) ← readCounts spaced rest
    state.repeatLast least most (skipBlanks spaced rest)
  | '\\' :: rest =>
    let (primitive, rest) ← Escape.read flags rest
    some (.more (state.pushPrimitive primitive) rest)
  | '.' :: rest => some (.more (state.push (.char (← flags.point?)) 0) rest)
  | '^' :: rest => some (.more (state.push (.look flags.startLook) 0) rest)
  | '$' :: rest => some (.more (state.push (.look flags.stopLook) 0) rest)
  | c :: rest => some (.more (state.pushPrimitive (.char c)) rest)

/-- How deep the parts of a pattern may be nested. -/
def maxNesting : Nat := 250

end Reader

/-- The pattern of a source text, in which case may not count. -/
def read (source : String) (ignoreCase : Bool) : Option (Pattern CharSet Look) := do
  let flags : Flags := ({} : Flags).set .ignoreCase ignoreCase
  let (state, _) ← Step.run Reader.step { here := { flagsAfter := flags }, flags } source.toList
  let { pattern, depth, .. } := state.here.content
  if state.outer.isEmpty && depth ≤ Reader.maxNesting && pattern.fits then some pattern else none

end ParamSchema.Pattern
