import PatternAutomata.Unicode.Property
import PatternAutomata.Unicode.Script

/-!
# Classes for breaking text

The classes by which text is broken into graphemes, words and sentences, each under its long name
and then its short one. They follow from general categories, properties and scripts but for a few
characters.
-/
namespace PatternAutomata.Unicode

/-- A class of characters under a long name and its short one. -/
structure BreakClass where
  name : String
  short : String
  set : Unit → CharSet

/-- Whether a syllable of the Hangul block has no final consonant. -/
def hangulWithoutFinal (code : Nat) : Bool := (code - 0xAC00) % 28 == 0

def hangulSyllables (withoutFinal : Bool) : CharSet :=
  exactly <| ((List.range' 0xAC00 11172).filter (hangulWithoutFinal · == withoutFinal)).map
    fun code => (code, code)

/-- The characters of a script by its long name. -/
def scriptSet (name : String) : CharSet :=
  match scripts.find? (·.name = name) with
  | some entry => entry.set
  | none => .empty

def prependedMarks : CharSet := listed "Prepended_Concatenation_Mark"

def graphemePrepend : CharSet :=
  prependedMarks.union <|
    exactly [(0xD4E, 0xD4E), (0x111C2, 0x111C3), (0x113D1, 0x113D1), (0x1193F, 0x1193F),
      (0x11941, 0x11941), (0x11A3A, 0x11A3A), (0x11A84, 0x11A89), (0x11D46, 0x11D46),
      (0x11F02, 0x11F02)]

/-- Characters that stay with the one before them in a grapheme. -/
def graphemeFollower : CharSet := graphemeExtend.union (listed "Emoji_Modifier")

def graphemeClasses : List BreakClass := [
  ⟨"CR", "CR", fun _ => .single '\r'⟩,
  ⟨"Control", "CN", fun _ =>
    (((categories ["Zl", "Zp", "Cc", "Cf"]).union
      ((categories ["Cn"]).intersect defaultIgnorable)).difference
      (exactly [(0xA, 0xA), (0xD, 0xD), (0x200C, 0x200D)])).difference
      (graphemePrepend.union graphemeExtend)⟩,
  ⟨"Extend", "EX", fun _ => graphemeFollower⟩,
  ⟨"L", "L", fun _ => exactly [(0x1100, 0x115F), (0xA960, 0xA97C)]⟩,
  ⟨"LF", "LF", fun _ => .single '\n'⟩,
  ⟨"LV", "LV", fun _ => hangulSyllables true⟩,
  ⟨"LVT", "LVT", fun _ => hangulSyllables false⟩,
  ⟨"Prepend", "PP", fun _ => graphemePrepend⟩,
  ⟨"Regional_Indicator", "RI", fun _ => listed "Regional_Indicator"⟩,
  ⟨"SpacingMark", "SM", fun _ =>
    (((categories ["Mc"]).union (exactly [(0xE33, 0xE33), (0xEB3, 0xEB3)])).difference
      graphemeExtend).difference
      (exactly [(0x102B, 0x102C), (0x1038, 0x1038), (0x1062, 0x1064), (0x1067, 0x106D),
        (0x1083, 0x1083), (0x1087, 0x108C), (0x108F, 0x108F), (0x109A, 0x109C), (0x1A61, 0x1A61),
        (0x1A63, 0x1A64), (0xAA7B, 0xAA7B), (0xAA7D, 0xAA7D), (0x11720, 0x11721)])⟩,
  ⟨"T", "T", fun _ => exactly [(0x11A8, 0x11FF), (0xD7CB, 0xD7FB)]⟩,
  ⟨"V", "V", fun _ => exactly [(0x1160, 0x11A7), (0xD7B0, 0xD7C6), (0x16D63, 0x16D63),
    (0x16D67, 0x16D6A)]⟩,
  ⟨"ZWJ", "ZWJ", fun _ => exactly [(0x200D, 0x200D)]⟩]

/-- Characters that never begin a word or a sentence. -/
def wordExtend : CharSet :=
  (graphemeFollower.union (categories ["Mc"])).difference (exactly [(0x200D, 0x200D)])

/-- The marks that are written before a number; the Syriac abbreviation mark is written before
letters. -/
def numberMarks : CharSet := prependedMarks.difference (exactly [(0x70F, 0x70F)])

/-- Digits, the Arabic decimal separator, and marks written before a number. -/
def wordNumeric : CharSet :=
  (digits.union (exactly [(0x66B, 0x66B), (0x19DA, 0x19DA)])).union numberMarks

def wordKatakana : CharSet :=
  (scriptSet "Katakana").union <|
    exactly [(0x3031, 0x3035), (0x309B, 0x309C), (0x30A0, 0x30A0), (0x30FC, 0x30FC),
      (0xFF70, 0xFF70)]

def wordHebrew : CharSet := (scriptSet "Hebrew").intersect (categories ["Lo"])

/-- Characters of scripts that are written without spaces between words. -/
def unspacedScripts : CharSet :=
  exactly [(0xE01, 0xE3A), (0xE40, 0xE4E), (0xE81, 0xE82), (0xE84, 0xE84), (0xE86, 0xE8A),
    (0xE8C, 0xEA3), (0xEA5, 0xEA5), (0xEA7, 0xEBD), (0xEC0, 0xEC4), (0xEC6, 0xEC6),
    (0xEC8, 0xECE), (0xEDC, 0xEDF), (0x1000, 0x103F), (0x1050, 0x108F), (0x109A, 0x109F),
    (0x1780, 0x17D3), (0x17D7, 0x17D7), (0x17DC, 0x17DD), (0x1950, 0x196D), (0x1970, 0x1974),
    (0x1980, 0x19AB), (0x19B0, 0x19C9), (0x19DA, 0x19DA), (0x19DE, 0x19DF), (0x1A20, 0x1A5E),
    (0x1A60, 0x1A7C), (0x1AA0, 0x1AAD), (0xA9E0, 0xA9EF), (0xA9FA, 0xA9FE), (0xAA60, 0xAAC2),
    (0xAADB, 0xAADF), (0x11700, 0x1171A), (0x1171D, 0x1172B), (0x1173A, 0x1173B),
    (0x1173F, 0x11746)]

/-- Characters that count as letters of words although they are not alphabetic. -/
def letterLike : CharSet :=
  exactly [(0x2C2, 0x2C5), (0x2D2, 0x2D7), (0x2DE, 0x2DF), (0x2E5, 0x2EB), (0x2ED, 0x2ED),
    (0x2EF, 0x2FF), (0x55A, 0x55C), (0x55E, 0x55E), (0x58A, 0x58A), (0x5F3, 0x5F3),
    (0x70F, 0x70F), (0xA708, 0xA716), (0xA720, 0xA721), (0xA789, 0xA78A), (0xAB5B, 0xAB5B)]

def wordClasses : List BreakClass := [
  ⟨"ALetter", "LE", fun _ =>
    ((alphabetic.union letterLike).difference ((listed "Ideographic").union unspacedScripts)).difference
      ((((wordKatakana.union (scriptSet "Hiragana")).union wordExtend).union wordHebrew).union
        digits)⟩,
  ⟨"CR", "CR", fun _ => .single '\r'⟩,
  ⟨"Double_Quote", "DQ", fun _ => .single '"'⟩,
  ⟨"Extend", "Extend", fun _ => wordExtend⟩,
  ⟨"ExtendNumLet", "EX", fun _ => (categories ["Pc"]).union (exactly [(0x202F, 0x202F)])⟩,
  ⟨"Format", "FO", fun _ =>
    ((categories ["Cf"]).difference (exactly [(0x200B, 0x200D)])).difference
      (wordExtend.union prependedMarks)⟩,
  ⟨"Hebrew_Letter", "HL", fun _ => wordHebrew⟩,
  ⟨"Katakana", "KA", fun _ => wordKatakana⟩,
  ⟨"LF", "LF", fun _ => .single '\n'⟩,
  ⟨"MidLetter", "ML", fun _ => exactly [(0x3A, 0x3A), (0xB7, 0xB7), (0x387, 0x387), (0x55F, 0x55F),
    (0x5F4, 0x5F4), (0x2027, 0x2027), (0xFE13, 0xFE13), (0xFE55, 0xFE55), (0xFF1A, 0xFF1A)]⟩,
  ⟨"MidNum", "MN", fun _ => exactly [(0x2C, 0x2C), (0x3B, 0x3B), (0x37E, 0x37E), (0x589, 0x589),
    (0x60C, 0x60D), (0x66C, 0x66C), (0x7F8, 0x7F8), (0x2044, 0x2044), (0xFE50, 0xFE50),
    (0xFE54, 0xFE54), (0xFF0C, 0xFF0C), (0xFF1B, 0xFF1B)]⟩,
  ⟨"MidNumLet", "MB", fun _ => exactly [(0x2E, 0x2E), (0x2018, 0x2019), (0x2024, 0x2024),
    (0xFE52, 0xFE52), (0xFF07, 0xFF07), (0xFF0E, 0xFF0E)]⟩,
  ⟨"Newline", "NL", fun _ => exactly [(0xB, 0xC), (0x85, 0x85), (0x2028, 0x2029)]⟩,
  ⟨"Numeric", "NU", fun _ => wordNumeric⟩,
  ⟨"Regional_Indicator", "RI", fun _ => listed "Regional_Indicator"⟩,
  ⟨"Single_Quote", "SQ", fun _ => .single '\''⟩,
  ⟨"WSegSpace", "WSegSpace", fun _ => exactly [(0x20, 0x20), (0x1680, 0x1680), (0x2000, 0x2006),
    (0x2008, 0x200A), (0x205F, 0x205F), (0x3000, 0x3000)]⟩,
  ⟨"ZWJ", "ZWJ", fun _ => exactly [(0x200D, 0x200D)]⟩]

def sentenceExtend : CharSet :=
  (graphemeExtend.union (categories ["Mc"])).union (exactly [(0x200D, 0x200D)])

/-- Georgian letters have both cases but no sentence begins with one of the other case. -/
def sentenceLower : CharSet :=
  (lowercase.difference graphemeExtend).difference (exactly [(0x10D0, 0x10FA), (0x10FD, 0x10FF)])

def sentenceUpper : CharSet :=
  ((categories ["Lt"]).union uppercase).difference (exactly [(0x1C90, 0x1CBA), (0x1CBD, 0x1CBF)])

def sentenceTerminators : CharSet :=
  exactly [(0x2E, 0x2E), (0x2024, 0x2024), (0xFE52, 0xFE52), (0xFF0E, 0xFF0E)]

def sentenceClasses : List BreakClass := [
  ⟨"ATerm", "AT", fun _ => sentenceTerminators⟩,
  ⟨"CR", "CR", fun _ => .single '\r'⟩,
  ⟨"Close", "CL", fun _ =>
    (categories ["Ps", "Pe", "Pi", "Pf"]).union <|
      exactly [(0x22, 0x22), (0x27, 0x27), (0x275B, 0x2760), (0x2E00, 0x2E01), (0x2E06, 0x2E08),
        (0x2E0B, 0x2E0B), (0x1F676, 0x1F678)]⟩,
  ⟨"Extend", "EX", fun _ => sentenceExtend⟩,
  ⟨"Format", "FO", fun _ =>
    ((categories ["Cf"]).difference (exactly [(0x200C, 0x200D)])).difference
      (sentenceExtend.union numberMarks)⟩,
  ⟨"LF", "LF", fun _ => .single '\n'⟩,
  ⟨"Lower", "LO", fun _ => sentenceLower⟩,
  ⟨"Numeric", "NU", fun _ => wordNumeric.union (exactly [(0x66C, 0x66C)])⟩,
  ⟨"OLetter", "LE", fun _ =>
    ((alphabetic.union (exactly [(0x5F3, 0x5F3)])).difference
      (sentenceLower.union sentenceUpper)).difference sentenceExtend⟩,
  ⟨"SContinue", "SC", fun _ => exactly [(0x2C, 0x2D), (0x3A, 0x3B), (0x37E, 0x37E), (0x55D, 0x55D),
    (0x60C, 0x60D), (0x7F8, 0x7F8), (0x1802, 0x1802), (0x1808, 0x1808), (0x2013, 0x2014),
    (0x3001, 0x3001), (0xFE10, 0xFE11), (0xFE13, 0xFE14), (0xFE31, 0xFE32), (0xFE50, 0xFE51),
    (0xFE54, 0xFE55), (0xFE58, 0xFE58), (0xFE63, 0xFE63), (0xFF0C, 0xFF0D), (0xFF1A, 0xFF1B),
    (0xFF64, 0xFF64)]⟩,
  ⟨"STerm", "ST", fun _ => (listed "Sentence_Terminal").difference sentenceTerminators⟩,
  ⟨"Sep", "SE", fun _ => exactly [(0x85, 0x85), (0x2028, 0x2029)]⟩,
  ⟨"Sp", "SP", fun _ =>
    whiteSpace.difference (exactly [(0xA, 0xA), (0xD, 0xD), (0x85, 0x85), (0x2028, 0x2029)])⟩,
  ⟨"Upper", "UP", fun _ => sentenceUpper⟩]

end PatternAutomata.Unicode
