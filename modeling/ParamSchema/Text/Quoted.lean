import ParamSchema.Unicode.Lookup

/-!
Text between quotes in messages: quotes, backslashes and what cannot be seen are escaped.
-/

namespace ParamSchema.Text

open Unicode

/-- A character by its code point. -/
def codeEscape (c : Char) : String :=
  "\\u\x7b" ++ String.ofList (Nat.toDigits 16 c.toNat) ++ "\x7d"

/-- The characters that cannot be told apart from others by sight or cannot be seen: controls,
formats, separators but the space, what is unassigned or private, and what extends the character
before it. -/
def unseenSet : CharSet :=
  let separators := (inCategories ["Zl", "Zp", "Zs"]).diff (.single ' ')
  (((inCategories ["Cc", "Cf", "Co"]).union unassigned).union separators).union
    ((property? (looseName "Grapheme_Extend".toList)).getD .empty)

/-- A character as it stands between quotes. -/
def shown (c : Char) : String :=
  match c with
  | '\x00' => "\\0"
  | '\t' => "\\t"
  | '\r' => "\\r"
  | '\n' => "\\n"
  | '\\' => "\\\\"
  | '"' => "\\\""
  | c => if unseenSet.has c then codeEscape c else c.toString

/-- A text between quotes. -/
def quoted (s : String) : String :=
  s.foldl (fun out c => out ++ shown c) "\"" ++ "\""

end ParamSchema.Text
