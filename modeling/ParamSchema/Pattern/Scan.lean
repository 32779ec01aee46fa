import ParamSchema.Text.Blank

/-!
Stepping through the source text of a pattern. Where blanks may stand between the parts of a
pattern, so may comments, which reach from a number sign to the end of the line.
-/

namespace ParamSchema.Pattern

open Text (isBlank)

/-- The characters up to the first that does not pass, and the text from that one on. Blanks and
comments between them are dropped if the text is `spaced`; `comment` tells that it starts in one. -/
def gather (spaced : Bool) (pass : Char → Bool) (comment : Bool) :
    List Char → List Char × List Char
  | [] => ([], [])
  | c :: rest =>
    if comment then gather spaced pass (c != '\n') rest
    else if spaced && (c == '#' || isBlank c) then gather spaced pass (c == '#') rest
    else if pass c then
      let (taken, left) := gather spaced pass false rest
      (c :: taken, left)
    else ([], c :: rest)

/-- The text from its first character that is no blank and in no comment, if it is `spaced`. -/
def skipBlanks (spaced : Bool) (text : List Char) : List Char :=
  (gather spaced (fun _ => false) false text).2

/-- What a step of a reader comes to: more to read or a result, and the text that is left. -/
inductive Step (σ α : Type)
  | more (state : σ) (rest : List Char)
  | done (result : α) (rest : List Char)

/-- Takes steps until one gives a result or fails. A step without a result has to take some of the
text. -/
def Step.run {σ α : Type} (step : σ → List Char → Option (Step σ α)) (state : σ)
    (text : List Char) : Option (α × List Char) :=
  match step state text with
  | none => none
  | some (.done result rest) => some (result, rest)
  | some (.more state rest) =>
    if rest.length < text.length then run step state rest else none
termination_by text.length

end ParamSchema.Pattern
