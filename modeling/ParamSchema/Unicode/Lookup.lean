import ParamSchema.Unicode.Ages
import ParamSchema.Unicode.Categories
import ParamSchema.Unicode.Properties
import ParamSchema.Unicode.ScriptExtensions
import ParamSchema.Unicode.Scripts
import ParamSchema.Unicode.Segments

/-!
Character sets by name: general categories, scripts, yes-or-no properties, and the values of a few
other properties.
-/

namespace ParamSchema.Unicode

/-- The surrogates, which have code points but are no characters. -/
def surrogates : CharSet := ⟨[(0xD800, 0xDFFF)]⟩

/-- All characters. -/
def everything : CharSet := CharSet.empty.compl

def ascii : CharSet := ⟨[(0, 0x7F)]⟩

/-- The characters of some general categories, by their short names. -/
def inCategories (shorts : List String) : CharSet :=
  .ofRanges ((categories.filter fun s => s.names.head?.any shorts.contains).flatMap (·.set.ranges))

/-- The code points that are no character yet. -/
def unassigned : CharSet :=
  CharSet.compl (.ofRanges (surrogates.ranges ++ categories.flatMap (·.set.ranges)))

/-- The names of the groups of general categories, with the short names of the members. -/
def categoryGroups : List (List String × List String) := [
  (["L", "Letter"], ["Lu", "Ll", "Lt", "Lm", "Lo"]),
  (["LC", "Cased_Letter"], ["Lu", "Ll", "Lt"]),
  (["M", "Mark", "Combining_Mark"], ["Mn", "Mc", "Me"]),
  (["N", "Number"], ["Nd", "Nl", "No"]),
  (["P", "Punctuation", "punct"], ["Pc", "Pd", "Pe", "Pf", "Pi", "Po", "Ps"]),
  (["S", "Symbol"], ["Sc", "Sk", "Sm", "So"]),
  (["Z", "Separator"], ["Zl", "Zp", "Zs"])]

/-- The general categories that are not made of listed ones alone. -/
def openCategories : List (List String × CharSet) := [
  (["Cn", "Unassigned"], unassigned),
  (["C", "Other"], (inCategories ["Cc", "Cf", "Co"]).union unassigned),
  (["Any"], everything),
  (["Assigned"], unassigned.compl),
  (["ASCII"], ascii)]

/-- The entry of a loose name among entries with all their names. -/
def findNamed? {α : Type} (table : List (List String × α)) (key : List Char) : Option α :=
  (table.find? fun entry => entry.1.any fun name => looseName name.toList == key).map (·.2)

/-- The general category of a loose name. -/
def category? (key : List Char) : Option CharSet :=
  NamedSet.find? categories key <|> (findNamed? categoryGroups key).map inCategories <|>
    findNamed? openCategories key

/-- The script of a loose name. -/
def script? (key : List Char) : Option CharSet :=
  NamedSet.find? scripts key

/-- The characters used in the script of a loose name. -/
def scriptExtension? (key : List Char) : Option CharSet := do
  let script ← scripts.find? (NamedSet.isCalled key)
  match extensionChanges.find? fun s => s.names == script.names with
  | none => some script.set
  | some changes => some (script.set.symmDiff changes.set)

/-- The characters assigned in the version of a loose name or before. -/
def age? (key : List Char) : Option CharSet :=
  let earlier := ages.takeWhile fun s => !s.isCalled key
  (ages.find? (NamedSet.isCalled key)).map fun last =>
    .ofRanges ((earlier ++ [last]).flatMap (·.set.ranges))

/-- The properties that add to what general categories say, made of what they add to it. -/
def extraProperties : List (List String × CharSet) :=
  let property (name : String) := (NamedSet.find? properties (looseName name.toList)).getD .empty
  let beyond (name : String) (shorts : List String) := (property name).diff (inCategories shorts)
  [(["OAlpha", "Other_Alphabetic"], beyond "Alphabetic" ["Lu", "Ll", "Lt", "Lm", "Lo", "Nl"]),
    (["OLower", "Other_Lowercase"], beyond "Lowercase" ["Ll"]),
    (["OUpper", "Other_Uppercase"], beyond "Uppercase" ["Lu"]),
    (["OMath", "Other_Math"], beyond "Math" ["Sm"]),
    (["OGr_Ext", "Other_Grapheme_Extend"], beyond "Grapheme_Extend" ["Me", "Mn"]),
    (["ODI", "Other_Default_Ignorable_Code_Point"],
      (beyond "Default_Ignorable_Code_Point" ["Cf"]).diff (property "Variation_Selector")),
    (["OIDS", "Other_ID_Start"], ⟨[(0x1885, 0x1886), (0x2118, 0x2118), (0x212E, 0x212E),
      (0x309B, 0x309C)]⟩),
    (["OIDC", "Other_ID_Continue"], ⟨[(0xB7, 0xB7), (0x387, 0x387), (0x1369, 0x1371),
      (0x19DA, 0x19DA), (0x200C, 0x200D), (0x30FB, 0x30FB), (0xFF65, 0xFF65)]⟩)]

/-- The characters with the yes-or-no property of a loose name. -/
def property? (key : List Char) : Option CharSet :=
  NamedSet.find? properties key <|> findNamed? extraProperties key

/-- The set that a name by itself stands for: a property, else a general category, else a script. -/
def named? (name : List Char) : Option CharSet :=
  let key := looseName name
  property? key <|> category? key <|> script? key

/-- How the values of each property are looked up, by its names. -/
def valueTables : List (List String × (List Char → Option CharSet)) := [
  (["gc", "General_Category"], category?),
  (["sc", "Script"], script?),
  (["scx", "Script_Extensions"], scriptExtension?),
  (["age"], age?),
  (["GCB", "Grapheme_Cluster_Break"], NamedSet.find? graphemeBreaks),
  (["WB", "Word_Break"], NamedSet.find? wordBreaks),
  (["SB", "Sentence_Break"], NamedSet.find? sentenceBreaks)]

/-- The characters whose property of the first name has the value of the second. -/
def withValue? (name value : List Char) : Option CharSet := do
  (← findNamed? valueTables (looseName name)) (looseName value)

/-- The decimal digits of all scripts. -/
def digits : CharSet := inCategories ["Nd"]

/-- The characters that words consist of: letters, marks, decimal digits, connectors, and the
characters that join or part those beside them. -/
def wordCharacters : CharSet :=
  ((property? "alphabetic".toList).getD .empty).union
    (.ofRanges ((inCategories ["Mn", "Mc", "Me", "Nd", "Pc"]).ranges ++ [(0x200C, 0x200D)]))

end ParamSchema.Unicode
