import PatternAutomata.Unicode.GeneralCategory
import PatternAutomata.Unicode.Listed

/-!
# Properties of characters

The properties that the standard defines from general categories and listed properties, and
`property?`, which finds a property that a character has or has not by its long name.
-/
namespace PatternAutomata.Unicode

/-- A set of characters in a few ranges of code points. -/
def exactly (codes : List (Nat × Nat)) : CharSet := .ofCodes codes

def lowercase : CharSet := (categories ["Ll"]).union (listed "Other_Lowercase")

def uppercase : CharSet := (categories ["Lu"]).union (listed "Other_Uppercase")

def alphabetic : CharSet :=
  (categories ["Lu", "Ll", "Lt", "Lm", "Lo", "Nl"]).union (listed "Other_Alphabetic")

def math : CharSet := (categories ["Sm"]).union (listed "Other_Math")

def cased : CharSet := (lowercase.union uppercase).union (categories ["Lt"])

def graphemeExtend : CharSet :=
  (categories ["Mn", "Me"]).union (listed "Other_Grapheme_Extend")

def graphemeBase : CharSet :=
  (categories ["Cc", "Cf", "Cs", "Co", "Cn", "Zl", "Zp"]).negate.difference graphemeExtend

/-- Characters that are passed over when the letters around them are compared. -/
def caseIgnorable : CharSet :=
  (categories ["Mn", "Me", "Cf", "Lm", "Sk"]).union <|
    exactly [(0x27, 0x27), (0x2E, 0x2E), (0x3A, 0x3A), (0xB7, 0xB7), (0x387, 0x387),
      (0x55F, 0x55F), (0x5F4, 0x5F4), (0x2018, 0x2019), (0x2024, 0x2024), (0x2027, 0x2027),
      (0xFE13, 0xFE13), (0xFE52, 0xFE52), (0xFE55, 0xFE55), (0xFF07, 0xFF07), (0xFF0E, 0xFF0E),
      (0xFF1A, 0xFF1A)]

/-- Characters that have no title-case form of their own although they have an upper-case form,
and those of which the converse holds. -/
def changesWhenTitlecased : CharSet :=
  ((listed "Changes_When_Uppercased").difference
    (exactly [(0x1C5, 0x1C5), (0x1C8, 0x1C8), (0x1CB, 0x1CB), (0x1F2, 0x1F2), (0x10D0, 0x10FA),
      (0x10FD, 0x10FF), (0x1F88, 0x1F8F), (0x1F98, 0x1F9F), (0x1FA8, 0x1FAF), (0x1FBC, 0x1FBC),
      (0x1FCC, 0x1FCC), (0x1FFC, 0x1FFC)])).union
    (exactly [(0x1C4, 0x1C4), (0x1C7, 0x1C7), (0x1CA, 0x1CA), (0x1F1, 0x1F1)])

/-- Folding differs from lower-casing for the Cherokee capitals, which stay, and for characters
that fold to a letter other than themselves although they are in lower case. -/
def changesWhenCasefolded : CharSet :=
  ((listed "Changes_When_Lowercased").difference (exactly [(0x13A0, 0x13F5)])).union
    (exactly [(0xB5, 0xB5), (0xDF, 0xDF), (0x149, 0x149), (0x17F, 0x17F), (0x345, 0x345),
      (0x3C2, 0x3C2), (0x3D0, 0x3D1), (0x3D5, 0x3D6), (0x3F0, 0x3F1), (0x3F5, 0x3F5),
      (0x587, 0x587), (0x13F8, 0x13FD), (0x1C80, 0x1C88), (0x1E9A, 0x1E9B), (0x1F80, 0x1F87),
      (0x1F90, 0x1F97), (0x1FA0, 0x1FA7), (0x1FB2, 0x1FB4), (0x1FB7, 0x1FB7), (0x1FC2, 0x1FC4),
      (0x1FC7, 0x1FC7), (0x1FF2, 0x1FF4), (0x1FF7, 0x1FF7), (0xAB70, 0xABBF), (0xFB00, 0xFB06),
      (0xFB13, 0xFB17)])

def changesWhenCasemapped : CharSet :=
  ((listed "Changes_When_Lowercased").union (listed "Changes_When_Uppercased")).union
    changesWhenTitlecased

/-- Characters kept for patterns, which no identifier holds. -/
def patternCharacters : CharSet :=
  (listed "Pattern_Syntax").union (listed "Pattern_White_Space")

def idStart : CharSet :=
  ((categories ["Lu", "Ll", "Lt", "Lm", "Lo", "Nl"]).union (listed "Other_ID_Start")).difference
    patternCharacters

def idContinue : CharSet :=
  ((idStart.union (categories ["Mn", "Mc", "Nd", "Pc"])).union
    (listed "Other_ID_Continue")).difference patternCharacters

/-- What compatibility decomposition could turn into something that is no identifier. -/
def decomposable : CharSet :=
  exactly [(0x37A, 0x37A), (0x309B, 0x309C), (0xFC5E, 0xFC63), (0xFDFA, 0xFDFB), (0xFE70, 0xFE70),
    (0xFE72, 0xFE72), (0xFE74, 0xFE74), (0xFE76, 0xFE76), (0xFE78, 0xFE78), (0xFE7A, 0xFE7A),
    (0xFE7C, 0xFE7C), (0xFE7E, 0xFE7E)]

def xidStart : CharSet :=
  (idStart.difference decomposable).difference
    (exactly [(0xE33, 0xE33), (0xEB3, 0xEB3), (0xFF9E, 0xFF9F)])

def xidContinue : CharSet := idContinue.difference decomposable

/-- Characters without a look of their own: format characters but those that stand for
annotations, for the shape of hieroglyphs, or before a number. -/
def defaultIgnorable : CharSet :=
  ((((listed "Other_Default_Ignorable_Code_Point").union (categories ["Cf"])).union
    (listed "Variation_Selector")).difference (listed "White_Space")).difference
    ((exactly [(0xFFF9, 0xFFFB), (0x13430, 0x13440)]).union
      (listed "Prepended_Concatenation_Mark"))

/-- A property by its long name. -/
def property? (name : String) : Option CharSet :=
  match name with
  | "Alphabetic" => some alphabetic
  | "Case_Ignorable" => some caseIgnorable
  | "Cased" => some cased
  | "Changes_When_Casefolded" => some changesWhenCasefolded
  | "Changes_When_Casemapped" => some changesWhenCasemapped
  | "Changes_When_Titlecased" => some changesWhenTitlecased
  | "Default_Ignorable_Code_Point" => some defaultIgnorable
  | "Grapheme_Base" => some graphemeBase
  | "Grapheme_Extend" => some graphemeExtend
  | "ID_Continue" => some idContinue
  | "ID_Start" => some idStart
  | "Lowercase" => some lowercase
  | "Math" => some math
  | "Uppercase" => some uppercase
  | "XID_Continue" => some xidContinue
  | "XID_Start" => some xidStart
  | _ => (listedProperties.find? (·.name = name)).map (·.set)

/-- Decimal digits of all scripts. -/
def digits : CharSet := categories ["Nd"]

/-- White space of all scripts. -/
def whiteSpace : CharSet := listed "White_Space"

/-- Letters, marks, decimal digits, connecting punctuation and the two joiners. -/
def wordCharacters : CharSet :=
  (alphabetic.union (categories ["Mn", "Mc", "Me", "Nd", "Pc"])).union (listed "Join_Control")

/-- Characters of numbers of every kind. -/
def numeric : CharSet := categories ["Nd", "Nl", "No"]

end PatternAutomata.Unicode
