import ParamSchema.Unicode.NamedSet

/-!
Characters that differ in case only. Characters of one class stand for each other where case does
not count.
-/

namespace ParamSchema.Unicode

/-- Runs of characters with the character that each folds to. A run is three numbers: the gap from
the start of the run before, twice its length less two with one added if it takes every second code
point, and the way from a character to what it folds to, doubled and less one if it goes down. -/
def foldingCode : List String :=
  ["iBhSiAjUAhwOLhMiAYMiAhIhPChSFCHPCRhNChOAnRBFCGAwXCAtEBDCEAscBACCCsaCACDAkeBAsUBAsWBACCAsaBAseC",
   "AtGBAtCBACEAtGBAtKCAtMBFCGAtUBACCAtUDACCAtUBACCCtSCDCEAtWBACEACIAEBACCAEBACCAEBRCTRCTAEBDCEAmB",
   "BAjPBhHChIAoDCRCYA1iWBACCAqFBA1iQDACCAsFBAkKBAkOBJCnfAnIhLDCGACJAnIHAiMCEiKEAkACCjeDhAiASQiAfA",
   "CNAQBAhbBAhREAdBAhLCXCYAjLBAifDAjXBAjfCACCANBACDEoDDelAQheiAiQhBChKhVChWAeBNCPifCjBiKjAi7PiKum",
   "AhHAumAGAumA5LKPikIAskbBAskZBAskHBCskDCAskFBAsjXBAsiHBAik8GBACHiUl7fhNEl7fqDkVCkbAjTDAu7dCifCj",
   "IOPQKPQOPQOPQKPRHPPOPhAOPQOPQOPQCPCCkTCARCAugJKGlLEARMCPCCmHOCPCCmfCANMCnfCCnbCARpKAu1ZEAwrdBA",
   "wkLHAhYhOehAhDAC5ThShUh6KiejAjAACCA0=NBAnuLBA0+NDFCGA1hXBA0=ZBA1hdBA1hbCACDACJC1jdCjDCjLDCHAC+",
   "qOhNCiAbClCNCQhdCiHDCEAilgHBJCNACCAiyyPDDCGTCUAiy0HBAiy0dBAiy0VBAiy0BBAiy0HCAiyxDBAiyyTBAiyxJB",
   "Ah6ABPCQAifBAiy0FBAiljPBDCEAiy2NBACEACGFCGAizkBZAC7bkeir8f09RhSiAhmfiOiQlQiGiQmAUiOMciOQMiOICi",
   "Oh3MjEkAmQhKiAi6QheiA1tAheiA+2AiCiE"]

/-- The characters of the runs after `start`, each after the character that it folds to. -/
def foldingsFrom : Nat → List Nat → List (Nat × Nat)
  | start, gap :: shape :: way :: rest =>
    let first := start + gap
    let step := shape % 2 + 1
    let run := (List.range (shape / 2 + 1)).map fun i =>
      let code := first + i * step
      (if way % 2 = 0 then code + way / 2 else code - (way + 1) / 2, code)
    run ++ foldingsFrom first rest
  | _, _ => []

/-- Adds a character to the class of what it folds to, which is the last class if there is one. -/
def addToClass (classes : List (List Nat)) (folding : Nat × Nat) : List (List Nat) :=
  match classes with
  | (target :: rest) :: others =>
    if target = folding.1 then (target :: folding.2 :: rest) :: others
    else [folding.1, folding.2] :: classes
  | _ => [folding.1, folding.2] :: classes

/-- The classes of characters that differ in case only, without those of one character. -/
def caseClasses : List (List Nat) :=
  let foldings := (foldingsFrom 0 (numbers foldingCode)).mergeSort fun a b => a.1 ≤ b.1
  foldings.foldl addToClass []

/-- The classes of the ASCII letters. -/
def asciiCaseClasses : List (List Nat) :=
  (List.range 26).map fun i => ['A'.toNat + i, 'a'.toNat + i]

/-- The set with all that shares a class with one of its characters. -/
def closeUnder (classes : List (List Nat)) (set : CharSet) : CharSet :=
  let touched := classes.filter fun members => members.any set.hasCode
  if touched.isEmpty then set
  else .ofRanges (set.ranges ++ touched.flatten.map fun code => (code, code))

end ParamSchema.Unicode
