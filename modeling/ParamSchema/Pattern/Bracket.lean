import ParamSchema.Pattern.Escape

/-!
Sets in brackets in the source text of a pattern: characters, ranges, escapes, sets of ASCII by
name, sets in brackets again, and operations between sets.
-/

namespace ParamSchema.Pattern.Bracket

inductive Operation
  | inter
  | diff
  | symmDiff

def Operation.apply : Operation → CharSet → CharSet → CharSet
  | inter => .inter
  | diff => .diff
  | symmDiff => .symmDiff

/-- A set in brackets so far. -/
structure Draft where
  negated : Bool
  /-- The operation before the items, with its left side and how deep that is nested. -/
  pending : Option (Operation × CharSet × Nat) := none
  items : CharSet := .empty
  count : Nat := 0
  /-- How deep the deepest item is nested. -/
  depth : Nat := 0

namespace Draft

def add (draft : Draft) (item : CharSet) (depth : Nat) : Draft :=
  { draft with
    items := draft.items.union item
    count := draft.count + 1
    depth := max draft.depth depth }

/-- What stands between the brackets, with how deep it is nested. Operations of all kinds bind
equally, to the left; case is disregarded on both sides first. -/
def content (flags : Flags) (draft : Draft) : CharSet × Nat :=
  let depth := if 2 ≤ draft.count then draft.depth + 1 else draft.depth
  match draft.pending with
  | none => (draft.items, depth)
  | some (operation, left, leftDepth) =>
    (operation.apply (flags.fold left) (flags.fold draft.items), max leftDepth depth + 1)

/-- The set after an operation: what came before becomes the left side. -/
def operate (flags : Flags) (draft : Draft) (operation : Operation) : Draft :=
  let (left, depth) := draft.content flags
  { negated := draft.negated, pending := some (operation, left, depth) }

/-- The whole set, with how deep it is nested. -/
def close? (flags : Flags) (draft : Draft) : Option (CharSet × Nat) :=
  let (content, depth) := draft.content flags
  (flags.settle? draft.negated content).map fun set => (set, depth + 1)

end Draft

/-- Reads the start of a set, from after the bracket: perhaps a caret, then hyphens that stand for
themselves, or, if there are none, a closing bracket that does. -/
def readOpening (spaced : Bool) (text : List Char) : Option (Draft × List Char) :=
  let (negated, text) := match skipBlanks spaced text with
    | '^' :: rest => (true, rest)
    | text => (false, text)
  let (hyphens, text) := gather spaced (· == '-') false text
  let draft : Draft := hyphens.foldl (fun draft c => draft.add (.single c) 0) { negated }
  match text with
  | [] => none
  | ']' :: rest =>
    if draft.count = 0 then some (draft.add (.single ']') 0, rest) else some (draft, text)
  | text => some (draft, text)

/-- The sets of ASCII characters that have names. -/
def asciiSet? (name : List Char) : Option CharSet :=
  match String.ofList name with
  | "alnum" => some ⟨[(0x30, 0x39), (0x41, 0x5A), (0x61, 0x7A)]⟩
  | "alpha" => some ⟨[(0x41, 0x5A), (0x61, 0x7A)]⟩
  | "ascii" => some ⟨[(0, 0x7F)]⟩
  | "blank" => some ⟨[(0x9, 0x9), (0x20, 0x20)]⟩
  | "cntrl" => some ⟨[(0, 0x1F), (0x7F, 0x7F)]⟩
  | "digit" => some ⟨[(0x30, 0x39)]⟩
  | "graph" => some ⟨[(0x21, 0x7E)]⟩
  | "lower" => some ⟨[(0x61, 0x7A)]⟩
  | "print" => some ⟨[(0x20, 0x7E)]⟩
  | "punct" => some ⟨[(0x21, 0x2F), (0x3A, 0x40), (0x5B, 0x60), (0x7B, 0x7E)]⟩
  | "space" => some ⟨[(0x9, 0xD), (0x20, 0x20)]⟩
  | "upper" => some ⟨[(0x41, 0x5A)]⟩
  | "word" => some ⟨[(0x30, 0x39), (0x41, 0x5A), (0x5F, 0x5F), (0x61, 0x7A)]⟩
  | "xdigit" => some ⟨[(0x30, 0x39), (0x41, 0x46), (0x61, 0x66)]⟩
  | _ => none

/-- Reads a set by name, as `:digit:]` or `:^digit:]`, from after the bracket: whether it is
negated, the set, and the text left. -/
def readNamed : List Char → Option (Bool × CharSet × List Char)
  | ':' :: text =>
    let (negated, text) := match text with
      | '^' :: rest => (true, rest)
      | text => (false, text)
    match text.span (· != ':') with
    | (name, ':' :: ']' :: rest) => (asciiSet? name).map fun set => (negated, set, rest)
    | _ => none
  | _ => none

/-- Reads a character or an escape. -/
def readPrimitive (flags : Flags) : List Char → Option (Primitive × List Char)
  | [] => none
  | '\\' :: rest => Escape.read flags rest
  | c :: rest => some (.char c, rest)

/-- The first character that may end a range, after a hyphen. A comment counts as its first
character. -/
def peek (spaced : Bool) (text : List Char) : Option Char :=
  if !spaced then text.head?
  else
    match text.dropWhile Text.isBlank with
    | '#' :: rest => (rest.dropWhile Text.isBlank).head?
    | text => text.head?

/-- Reads a character, an escape or a range. A hyphen before a closing bracket or another hyphen
makes no range. -/
def readItem (flags : Flags) (text : List Char) : Option (CharSet × List Char) := do
  let spaced := flags.has .spaced
  let (first, text) ← readPrimitive flags text
  match skipBlanks spaced text with
  | '-' :: after =>
    if peek spaced after == some ']' || peek spaced after == some '-' then
      some (← first.set? flags, '-' :: after)
    else
      let (last, rest) ← readPrimitive flags (skipBlanks spaced after)
      let (.char a, .char b) := (first, last) | none
      let _ ← flags.single? a
      let _ ← flags.single? b
      if a ≤ b then some (.range a b, rest) else none
  | text => some (← first.set? flags, text)

/-- Reads one part of the sets that are open, the innermost of which is the `draft`. -/
def step (flags : Flags) (state : Draft × List Draft) (text : List Char) :
    Option (Step (Draft × List Draft) (CharSet × Nat)) := do
  let spaced := flags.has .spaced
  let (draft, outer) := state
  match skipBlanks spaced text with
  | [] => none
  | '[' :: rest =>
    match readNamed rest with
    | some (negated, set, rest) =>
      some (.more (draft.add (← flags.settle? negated set) 0, outer) rest)
    | none =>
      let (inner, rest) ← readOpening spaced rest
      some (.more (inner, draft :: outer) rest)
  | ']' :: rest =>
    let (set, depth) ← draft.close? flags
    match outer with
    | [] => some (.done (set, depth) rest)
    | parent :: outer => some (.more (parent.add set depth, outer) rest)
  | '&' :: '&' :: rest => some (.more (draft.operate flags .inter, outer) rest)
  | '-' :: '-' :: rest => some (.more (draft.operate flags .diff, outer) rest)
  | '~' :: '~' :: rest => some (.more (draft.operate flags .symmDiff, outer) rest)
  | text =>
    let (set, rest) ← readItem flags text
    some (.more (draft.add set 0, outer) rest)

/-- Reads a set in brackets, from after the first bracket: the set, how deep it is nested, and the
text left. -/
def read (flags : Flags) (text : List Char) : Option (CharSet × Nat × List Char) := do
  let (draft, rest) ← readOpening (flags.has .spaced) text
  let ((set, depth), rest) ← Step.run (step flags) (draft, []) rest
  some (set, depth, rest)

end ParamSchema.Pattern.Bracket
