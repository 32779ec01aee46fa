import ParamSchema.Pattern
import ParamSchema.Text.Blank
import ParamSchema.Unicode.Folding
import ParamSchema.Unicode.Lookup

/-!
The settings that decide what the source text of a pattern means, and the sets of characters that
hang on them. Letters in parentheses turn settings on and off from where they stand.
-/

namespace ParamSchema.Pattern

inductive Flag
  | ignoreCase
  /-- Lines, and not only the whole text, start and end at `^` and `$`. -/
  | multiline
  /-- The point takes the end of a line too. -/
  | wholeLines
  /-- Repetitions prefer few turns, which does not change whether there is a match. -/
  | fewFirst
  /-- Characters of all scripts count, not only those of ASCII. -/
  | allScripts
  /-- Returns end lines too. -/
  | returns
  /-- Blanks and comments in the source text do not count. -/
  | spaced
deriving DecidableEq

/-- The setting of a letter. -/
def Flag.ofLetter? : Char → Option Flag
  | 'i' => some ignoreCase
  | 'm' => some multiline
  | 's' => some wholeLines
  | 'U' => some fewFirst
  | 'u' => some allScripts
  | 'R' => some returns
  | 'x' => some spaced
  | _ => none

/-- The settings in force. -/
structure Flags where
  active : List Flag := [.allScripts]

namespace Flags

def has (flags : Flags) (flag : Flag) : Bool :=
  flags.active.contains flag

/-- The settings after one is turned on or off. -/
def set (flags : Flags) (flag : Flag) (on : Bool) : Flags :=
  let others := flags.active.filter (· ≠ flag)
  ⟨if on then flag :: others else others⟩

/-- The settings after changes, none of which is about the same setting as another. -/
def apply (flags : Flags) (changes : List (Flag × Bool)) : Flags :=
  changes.foldl (fun flags (flag, on) => flags.set flag on) flags

/-- Reads letters up to a colon or a closing parenthesis, which stays. Those after a hyphen turn
their settings off; there is at most one, and at least one letter after it. -/
def readChanges (on dangling : Bool) (changes : List (Flag × Bool)) :
    List Char → Option (List (Flag × Bool) × List Char)
  | [] => none
  | c :: rest =>
    if c = ':' || c = ')' then
      if dangling then none else some (changes, c :: rest)
    else if c = '-' then
      if on then readChanges false true changes rest else none
    else
      match Flag.ofLetter? c with
      | none => none
      | some flag =>
        if changes.any (·.1 = flag) then none
        else readChanges on false ((flag, on) :: changes) rest

/-- The set with what differs from its characters in case only, if case does not count. -/
def fold (flags : Flags) (set : CharSet) : CharSet :=
  if !flags.has .ignoreCase then set
  else if flags.has .allScripts then Unicode.closeUnder Unicode.caseClasses set
  else Unicode.closeUnder Unicode.asciiCaseClasses set

/-- The complement of a set. There is none within ASCII. -/
def complement? (flags : Flags) (set : CharSet) : Option CharSet :=
  if flags.has .allScripts then some set.compl else none

/-- The set as it counts, complemented if it is `negated`: first case is disregarded. -/
def settle? (flags : Flags) (negated : Bool) (set : CharSet) : Option CharSet :=
  let folded := flags.fold set
  if negated then flags.complement? folded else some folded

/-- The set of one character where it stands in a set. -/
def single? (flags : Flags) (c : Char) : Option CharSet :=
  if flags.has .allScripts || c.toNat < 0x80 then some (.single c) else none

def digits (flags : Flags) : CharSet :=
  if flags.has .allScripts then Unicode.digits else ⟨[(0x30, 0x39)]⟩

def blanks (flags : Flags) : CharSet :=
  if flags.has .allScripts then Text.blankSet else ⟨[(0x9, 0xD), (0x20, 0x20)]⟩

def wordCharacters (flags : Flags) : CharSet :=
  if flags.has .allScripts then Unicode.wordCharacters
  else ⟨[(0x30, 0x39), (0x41, 0x5A), (0x5F, 0x5F), (0x61, 0x7A)]⟩

/-- All characters that the point takes. -/
def point? (flags : Flags) : Option CharSet :=
  let excluded : CharSet :=
    if flags.has .wholeLines then .empty
    else if flags.has .returns then ⟨[(0xA, 0xA), (0xD, 0xD)]⟩
    else .single '\n'
  flags.complement? excluded

/-- What `^` asks for. -/
def startLook (flags : Flags) : Look :=
  if !flags.has .multiline then .start
  else if flags.has .returns then .returnLineStart
  else .lineStart

/-- What `$` asks for. -/
def stopLook (flags : Flags) : Look :=
  if !flags.has .multiline then .stop
  else if flags.has .returns then .returnLineStop
  else .lineStop

end Flags

end ParamSchema.Pattern
