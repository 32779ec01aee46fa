import ParamSchema.Unicode.Lookup

/-!
How many columns a text takes on a terminal.
-/

namespace ParamSchema.Text

open Unicode

/-- Characters of two columns. -/
def wideSet : CharSet := decoded
  ["koAjAktaCNCleEDBCBwJCVCaIQMhLBKGDBNBICRCFCIBFBVBHCBBEBCBHBECcBhDBBBEDBBhdDYBOB6bChTBEB5KaBiZMm",
   "WaiPCiWCjHFhLBieBiWJhQBhII8xdDhXhkZd0Dq9EoqcwA4QKWhDBTBEkVjAjfH7=ZFLCOl=YIhmWhJKo3HEBHBCBpDPBd",
   "DCBOEIsMogEiXJXnkNBmKBleBCKjFDNhMEJHCOGkahBMJBiGBWMhLEFMRDBDiHBBBlbChfNEBYSBaCNBiWiVhQiGGBDDCD",
   "EELCHJnDMEBobhPBKBlZjQNDKFhYHPCLGJhoHh==eCh==e"]

/-- Characters that are drawn over the one before or not at all: those that extend it, the middle
and last parts of a Korean syllable, and those that are ignored by default. -/
def zeroWidthSet : CharSet :=
  let property (name : String) := (property? (looseName name.toList)).getD .empty
  ((property "Grapheme_Extend").union (property "Default_Ignorable_Code_Point")).union
    ⟨[(0x1160, 0x11FF), (0xD7B0, 0xD7C6), (0xD7CB, 0xD7FB)]⟩

/-- The columns that a character takes. -/
def charWidth (c : Char) : Nat :=
  if c.toNat < 0x80 then 1
  else if zeroWidthSet.has c then 0
  else if wideSet.has c then 2
  else 1

/-- The columns that a text takes. -/
def width (s : String) : Nat :=
  s.foldl (fun n c => n + charWidth c) 0

end ParamSchema.Text
