import ParamSchema.Pattern
import ParamSchema.Pattern.Flags
import ParamSchema.Pattern.Scan
import ParamSchema.Text.Hex

/-!
Escapes in the source text of a pattern: what stands after a backslash.
-/

namespace ParamSchema.Pattern

/-- The least parts of a pattern. -/
inductive Primitive
  | char (c : Char)
  | among (set : CharSet)
  | look (condition : Look)

/-- A primitive where it stands in a set; a condition cannot. -/
def Primitive.set? (flags : Flags) : Primitive → Option CharSet
  | char c => flags.single? c
  | among set => some set
  | look _ => none

namespace Escape

/-- Reads so many hexadecimal digits. -/
def readHexDigits (spaced : Bool) : Nat → List Char → Option (List Char × List Char)
  | 0, text => some ([], text)
  | count + 1, text =>
    match skipBlanks spaced text with
    | [] => none
    | c :: rest => (readHexDigits spaced count rest).map fun (digits, left) => (c :: digits, left)

/-- Reads a character by its code point: so many digits, or any number of them in braces. Two
digits without braces name a byte, and a byte is a character only within ASCII if other scripts do
not count. -/
def readCode (flags : Flags) (count : Nat) (text : List Char) :
    Option (Primitive × List Char) := do
  let spaced := flags.has .spaced
  match skipBlanks spaced text with
  | '\x7b' :: inner =>
    match gather spaced (· ≠ '\x7d') false inner with
    | (d :: digits, '\x7d' :: rest) =>
      some (.char (← Text.charOfCode? (← Text.hexValue? (d :: digits))), rest)
    | _ => none
  | text =>
    let (digits, rest) ← readHexDigits spaced count text
    let c ← Text.charOfCode? (← Text.hexValue? digits)
    if count = 2 && !flags.has .allScripts && 0x80 ≤ c.toNat then none
    else some (.char c, rest)

/-- The characters of a property: `name`, `name=value` or `name:value`. An exclamation mark before
the equals sign changes nothing. -/
def property? (text : List Char) : Option CharSet :=
  let rec splitAtMark (before : List Char) : List Char → Option (List Char × List Char)
    | [] => none
    | '!' :: '=' :: value => some (before.reverse, value)
    | c :: rest => splitAtMark (c :: before) rest
  let splitAt (mark : Char) :=
    if text.contains mark then
      some (text.takeWhile (· ≠ mark), (text.dropWhile (· ≠ mark)).drop 1)
    else none
  match splitAtMark [] text <|> splitAt ':' <|> splitAt '=' with
  | some (name, value) => Unicode.withValue? name value
  | none => Unicode.named? text

/-- Reads the name of a property, one letter or in braces. -/
def readProperty (flags : Flags) (negated : Bool) (text : List Char) :
    Option (Primitive × List Char) := do
  if !flags.has .allScripts then none
  let spaced := flags.has .spaced
  let (name, rest) ← match skipBlanks spaced text with
    | '\x7b' :: inner =>
      match gather spaced (· ≠ '\x7d') false inner with
      | (name, '\x7d' :: rest) => some (name, rest)
      | _ => none
    | '\\' :: _ | [] => none
    | c :: rest => some ([c], rest)
  some (.among (← flags.settle? negated (← property? name)), rest)

/-- The edge of a word that a name in braces stands for. -/
def edgeOfName? (name : List Char) : Option Edge :=
  match String.ofList name with
  | "start" => some .start
  | "end" => some .stop
  | "start-half" => some .halfStart
  | "end-half" => some .halfStop
  | _ => none

/-- Reads which edge of a word is meant. Braces that start with neither a letter nor a hyphen belong
to a repetition. -/
def readEdge (flags : Flags) (text : List Char) : Option (Primitive × List Char) :=
  let spaced := flags.has .spaced
  let edge (kind : Edge) : Primitive := .look (.edge flags.wordCharacters kind)
  let inName (c : Char) := c.isAlpha || c == '-'
  match text with
  | '\x7b' :: inner =>
    match gather spaced inName false inner with
    | ([], []) => none
    | ([], _) => some (edge .boundary, text)
    | (name, '\x7d' :: rest) => (edgeOfName? name).map fun kind => (edge kind, rest)
    | _ => none
  | text => some (edge .boundary, text)

/-- Whether a character stands for itself after a backslash. -/
def isPlain (c : Char) : Bool :=
  c.toNat < 0x80 && !c.isAlphanum && c != '<' && c != '>'

/-- Reads an escape, from after the backslash. -/
def read (flags : Flags) : List Char → Option (Primitive × List Char)
  | [] => none
  | c :: rest =>
    let edge (kind : Edge) : Primitive := .look (.edge flags.wordCharacters kind)
    let set (set : CharSet) := some (Primitive.among set, rest)
    let others (set : CharSet) := (flags.complement? set).map fun set => (Primitive.among set, rest)
    match c with
    | 'x' => readCode flags 2 rest
    | 'u' => readCode flags 4 rest
    | 'U' => readCode flags 8 rest
    | 'p' => readProperty flags false rest
    | 'P' => readProperty flags true rest
    | 'd' => set flags.digits
    | 's' => set flags.blanks
    | 'w' => set flags.wordCharacters
    | 'D' => others flags.digits
    | 'S' => others flags.blanks
    | 'W' => others flags.wordCharacters
    | 'a' => some (.char '\x07', rest)
    | 'f' => some (.char '\x0c', rest)
    | 't' => some (.char '\t', rest)
    | 'n' => some (.char '\n', rest)
    | 'r' => some (.char '\r', rest)
    | 'v' => some (.char '\x0b', rest)
    | 'A' => some (.look .start, rest)
    | 'z' => some (.look .stop, rest)
    | 'b' => readEdge flags rest
    | 'B' => some (edge .noBoundary, rest)
    | '<' => some (edge .start, rest)
    | '>' => some (edge .stop, rest)
    | c => if isPlain c then some (.char c, rest) else none

end Escape

end ParamSchema.Pattern
