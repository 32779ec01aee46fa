import ParamSchema.CharSet

/-!
Blank characters: spaces of any width and the ends of lines and paragraphs.
-/

namespace ParamSchema.Text

def blankSet : CharSet := ⟨[(0x9, 0xD), (0x20, 0x20), (0x85, 0x85), (0xA0, 0xA0), (0x1680, 0x1680),
  (0x2000, 0x200A), (0x2028, 0x2029), (0x202F, 0x202F), (0x205F, 0x205F), (0x3000, 0x3000)]⟩

def isBlank (c : Char) : Bool :=
  blankSet.has c

end ParamSchema.Text
