import ParamSchema.Double.Scale
import ParamSchema.Text.Hex
import ParamSchema.Value

/-!
Reading JSON text. The reader is a machine that takes one character at a time and keeps a stack of
open containers; `Value.read` runs it over a text. A text is refused either because it ended inside
or before a value, or because of a character that cannot stand where it does. Of a number it keeps
as many digits as fit 64 bits and scales these as a double, so a number with a fraction, an exponent
or more digits is read as a double near it that may not be the nearest.
-/

namespace ParamSchema

/-- Why a text is not JSON. -/
inductive SyntaxFault
  /-- The text ended inside a value or before one. -/
  | ended
  /-- Something stands where it cannot. -/
  | malformed
deriving DecidableEq

/-- The wording of what is wrong with a JSON text is not this library's. -/
def SyntaxFault.message (_ : SyntaxFault) : String := "<syntax>"

namespace Reader

open Text (hexDigit?)

/-- A container that awaits a value. -/
inductive Frame
  /-- An array with the items so far, last first. -/
  | array (items : List Value)
  /-- An object with the members so far and the key whose value is awaited. -/
  | object (members : Members) (key : String)

/-- What a string in progress will be. -/
inductive Slot
  | value
  | key (members : Members)

/-- How far an escape in a string has been read. -/
inductive Escape
  | none
  | backslash
  /-- Hexadecimal digits: the high surrogate before them, the bytes seen, and the code so far
  unless one of the bytes was no digit. -/
  | hex (high : Option Nat) (seen : Nat) (code : Option Nat)
  /-- A high surrogate, after which only the escape of a low one may stand. -/
  | low (high : Nat)
  /-- A high surrogate and a backslash. -/
  | lowMark (high : Nat)

/-- How far a number has been read. -/
inductive Phase
  | sign | zero | integer | point | fraction | mark | markSign | exponent
deriving DecidableEq

/-- A number in progress. -/
structure Numeral where
  phase : Phase
  negative : Bool := false
  /-- The digits taken from before the exponent. -/
  significand : Nat := 0
  /-- The power of ten that belongs to them, but for the exponent. -/
  scale : Int := 0
  /-- Whether a digit on this side of the point was not taken. Those after it are not taken
  either. -/
  full : Bool := false
  exponentNegative : Bool := false
  exponent : Nat := 0

/-- Where in the grammar the reader stands. -/
inductive Mode
  /-- Before a value. -/
  | value
  /-- After an opening bracket. -/
  | openArray
  /-- After an opening brace. -/
  | openObject
  /-- After a comma in an object. -/
  | nextKey (members : Members)
  | colon (members : Members) (key : String)
  | afterItem (items : List Value)
  | afterMember (members : Members)
  /-- After the whole document. -/
  | finished (v : Value)
  | text (slot : Slot) (done : String) (escape : Escape)
  | numeral (n : Numeral)
  /-- Inside a literal name: the characters that must follow. -/
  | word (rest : List Char) (v : Value)

structure State where
  frames : List Frame := []
  mode : Mode := .value

/-- The most containers that may be open at once. -/
def maxNesting : Nat := 127

def isBlank (c : Char) : Bool :=
  c == ' ' || c == '\t' || c == '\n' || c == '\r'

/-- The state after a whole value. -/
def complete (frames : List Frame) (v : Value) : State :=
  match frames with
  | [] => ⟨[], .finished v⟩
  | .array items :: rest => ⟨rest, .afterItem (v :: items)⟩
  | .object members key :: rest => ⟨rest, .afterMember (members.put key v)⟩

/-- The greatest significand. -/
def maxSignificand : Nat := 2 ^ 64 - 1

/-- Exponents beyond this make a number zero or too large. -/
def maxExponent : Nat := 2 ^ 31 - 1

/-- The power of ten that the significand is to be multiplied by. -/
def Numeral.power (n : Numeral) : Int :=
  if n.exponentNegative then n.scale - n.exponent else n.scale + n.exponent

/-- The double that a finished numeral stands for. -/
def Numeral.double? (n : Numeral) : Option Double :=
  if maxExponent < n.exponent then
    if n.significand = 0 || n.exponentNegative then some (.zero n.negative) else none
  else (Double.ofRatio? n.negative n.significand 1).bind (·.scale? n.power)

/-- The number that a finished numeral stands for. -/
def Numeral.number? (n : Numeral) : Option Number :=
  let plain := (n.phase = .zero || n.phase = .integer) && !n.full
  let signed : Int := if n.negative then -n.significand else n.significand
  let minusZero := n.negative && n.significand == 0
  match if plain && !minusZero then Whole.ofInt? signed else none with
  | some w => some (.whole w)
  | none => n.double?.map .double

/-- The numeral after a digit that has a place in the significand, or else only raises the power of
ten if it stands before the point. -/
def Numeral.take (n : Numeral) (beforePoint : Bool) (d : Nat) : Numeral :=
  let significand := n.significand * 10 + d
  if n.full || maxSignificand < significand then
    { n with full := true, scale := if beforePoint then n.scale + 1 else n.scale }
  else { n with significand, scale := if beforePoint then n.scale else n.scale - 1 }

/-- The numeral after a digit, if a digit may stand there. -/
def Numeral.digit? (n : Numeral) (d : Nat) : Option Numeral :=
  match n.phase with
  | .sign => some { n with phase := if d = 0 then .zero else .integer, significand := d }
  | .zero => none
  | .integer => some (n.take true d)
  | .point | .fraction => some ({ n with phase := .fraction }.take false d)
  | .mark | .markSign | .exponent =>
    some { n with phase := .exponent, exponent := n.exponent * 10 + d }

/-- Whether the numeral is a whole number text as it stands. -/
def Numeral.isFinished (n : Numeral) : Bool :=
  match n.phase with
  | .zero | .integer | .fraction | .exponent => true
  | .sign | .point | .mark | .markSign => false

/-- The state at the start of a value. -/
def startValue (frames : List Frame) (c : Char) : Except SyntaxFault State :=
  match c with
  | '[' => if frames.length < maxNesting then .ok ⟨frames, .openArray⟩ else .error .malformed
  | '\x7b' => if frames.length < maxNesting then .ok ⟨frames, .openObject⟩ else .error .malformed
  | '"' => .ok ⟨frames, .text .value "" .none⟩
  | '-' => .ok ⟨frames, .numeral { phase := .sign, negative := true }⟩
  | 'n' => .ok ⟨frames, .word ['u', 'l', 'l'] .null⟩
  | 't' => .ok ⟨frames, .word ['r', 'u', 'e'] (.bool true)⟩
  | 'f' => .ok ⟨frames, .word ['a', 'l', 's', 'e'] (.bool false)⟩
  | c =>
    if c.isDigit then
      match ({ phase := .sign } : Numeral).digit? (c.toNat - '0'.toNat) with
      | some n => .ok ⟨frames, .numeral n⟩
      | none => .error .malformed
    else .error .malformed

/-- The state after a character that follows a whole value. -/
def follow (state : State) (c : Char) : Except SyntaxFault State :=
  if isBlank c then .ok state
  else
    match state.mode, c with
    | .afterItem items, ',' => .ok ⟨.array items :: state.frames, .value⟩
    | .afterItem items, ']' => .ok (complete state.frames (.array items.reverse))
    | .afterMember members, ',' => .ok ⟨state.frames, .nextKey members⟩
    | .afterMember members, '\x7d' => .ok (complete state.frames (.object members))
    | _, _ => .error .malformed

/-- The state after four hexadecimal digits. -/
def finishHex (frames : List Frame) (slot : Slot) (done : String) (high : Option Nat)
    (code : Nat) : Except SyntaxFault State :=
  let isLow := 0xDC00 ≤ code && code ≤ 0xDFFF
  let isHigh := 0xD800 ≤ code && code ≤ 0xDBFF
  match high with
  | none =>
    if isLow then .error .malformed
    else if isHigh then .ok ⟨frames, .text slot done (.low code)⟩
    else .ok ⟨frames, .text slot (done.push (Char.ofNat code)) .none⟩
  | some first =>
    if isLow then
      let joined := 0x10000 + (first - 0xD800) * 0x400 + (code - 0xDC00)
      .ok ⟨frames, .text slot (done.push (Char.ofNat joined)) .none⟩
    else .error .malformed

/-- The state after a character inside a string. -/
def stepText (frames : List Frame) (slot : Slot) (done : String) (escape : Escape) (c : Char) :
    Except SyntaxFault State :=
  let push (d : Char) : Except SyntaxFault State := .ok ⟨frames, .text slot (done.push d) .none⟩
  match escape with
  | .none =>
    match c with
    | '"' =>
      match slot with
      | .value => .ok (complete frames (.string done))
      | .key members => .ok ⟨frames, .colon members done⟩
    | '\\' => .ok ⟨frames, .text slot done .backslash⟩
    | c => if c.toNat < 0x20 then .error .malformed else push c
  | .backslash =>
    match c with
    | '"' => push '"'
    | '\\' => push '\\'
    | '/' => push '/'
    | 'b' => push '\x08'
    | 'f' => push '\x0c'
    | 'n' => push '\n'
    | 'r' => push '\r'
    | 't' => push '\t'
    | 'u' => .ok ⟨frames, .text slot done (.hex none 0 (some 0))⟩
    | _ => .error .malformed
  | .hex high seen code =>
    let seen := seen + c.utf8Size
    let code := code.bind fun n => (hexDigit? c).map fun d => 16 * n + d
    if seen < 4 then .ok ⟨frames, .text slot done (.hex high seen code)⟩
    else
      match code with
      | some n => finishHex frames slot done high n
      | none => .error .malformed
  | .low high => if c = '\\' then .ok ⟨frames, .text slot done (.lowMark high)⟩
      else .error .malformed
  | .lowMark high => if c = 'u' then .ok ⟨frames, .text slot done (.hex (some high) 0 (some 0))⟩
      else .error .malformed

/-- The state after a character inside or right after a number. -/
def stepNumeral (frames : List Frame) (n : Numeral) (c : Char) : Except SyntaxFault State :=
  let keep (n : Numeral) : Except SyntaxFault State := .ok ⟨frames, .numeral n⟩
  if c.isDigit then
    match n.digit? (c.toNat - '0'.toNat) with
    | some n => keep n
    | none => .error .malformed
  else if c = '.' && (n.phase = .zero || n.phase = .integer) then
    keep { n with phase := .point, full := false }
  else if (c = 'e' || c = 'E') && n.isFinished && n.phase ≠ .exponent then
    keep { n with phase := .mark }
  else if (c = '+' || c = '-') && n.phase = .mark then
    keep { n with phase := .markSign, exponentNegative := c = '-' }
  else if n.isFinished then
    match n.number? with
    | some number => follow (complete frames (.number number)) c
    | none => .error .malformed
  else .error .malformed

/-- The state after one more character. -/
def step (state : State) (c : Char) : Except SyntaxFault State :=
  let { frames, mode } := state
  match mode with
  | .text slot done escape => stepText frames slot done escape c
  | .numeral n => stepNumeral frames n c
  | .word (next :: rest) v =>
    if c ≠ next then .error .malformed
    else if rest.isEmpty then .ok (complete frames v)
    else .ok ⟨frames, .word rest v⟩
  | .word [] _ => .error .malformed
  | .afterItem _ | .afterMember _ | .finished _ => follow state c
  | mode =>
    if isBlank c then .ok state
    else
      match mode, c with
      | .openArray, ']' => .ok (complete frames (.array []))
      | .openArray, c => startValue (.array [] :: frames) c
      | .openObject, '\x7d' => .ok (complete frames (.object []))
      | .openObject, '"' => .ok ⟨frames, .text (.key []) "" .none⟩
      | .nextKey members, '"' => .ok ⟨frames, .text (.key members) "" .none⟩
      | .colon members key, ':' => .ok ⟨.object members key :: frames, .value⟩
      | .value, c => startValue frames c
      | _, _ => .error .malformed

/-- The value read, when the text ends in this state. -/
def finish (state : State) : Except SyntaxFault Value :=
  match state.frames, state.mode with
  | [], .finished v => .ok v
  | frames, .numeral n =>
    if n.isFinished then
      match n.number? with
      | some number => if frames.isEmpty then .ok (.number number) else .error .ended
      | none => .error .malformed
    else .error .ended
  | _, _ => .error .ended

end Reader

/-- The value that a JSON text stands for. -/
def Value.read (text : String) : Except SyntaxFault Value := do
  Reader.finish (← text.toList.foldlM Reader.step {})

end ParamSchema
