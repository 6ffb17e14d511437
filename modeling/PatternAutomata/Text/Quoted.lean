import PatternAutomata.Unicode.Additions
import PatternAutomata.Unicode.Property

/-!
# Quoted characters and texts

A quoted character or text can be read on any screen: what has no look of its own, joins the
character before it or may be ignored is written by its number. The quote that surrounds the text is
escaped, the other one is not.
-/
namespace PatternAutomata.Text

/-- The categories of characters that are written by their number. -/
def unprintableCategories : List String := ["Cc", "Cf", "Cs", "Co", "Cn", "Zl", "Zp", "Zs"]

/-- Marks that join the character before them; the letters among those that extend a grapheme stand
by themselves. -/
def joiningMarks : CharSet := Unicode.graphemeExtend.difference (Unicode.categories ["Lm"])

/-- Characters beyond ASCII that are written by their number. -/
def unprintable : CharSet :=
  (((Unicode.categories unprintableCategories).union joiningMarks).union
    Unicode.defaultIgnorable).difference Unicode.Additions.visible

/-- Whether a character is written as itself. -/
def isPrintable (c : Char) : Bool :=
  if c.toNat < 0x80 then 0x20 ≤ c.toNat && c.toNat != 0x7F else !unprintable.contains c

/-- A number in hexadecimal digits, between braces. -/
def byNumber (c : Char) : List Char :=
  "\\u\x7b".toList ++ Nat.toDigits 16 c.toNat ++ ['\x7d']

/-- A character as it is written between two quotes of the given kind. -/
def escape (quote c : Char) : List Char :=
  if c = '\x00' then ['\\', '0']
  else if c = '\t' then ['\\', 't']
  else if c = '\r' then ['\\', 'r']
  else if c = '\n' then ['\\', 'n']
  else if c = '\\' ∨ c = quote then ['\\', c]
  else if isPrintable c then [c]
  else byNumber c

/-- A character between single quotes. -/
def quoteChar (c : Char) : String :=
  .ofList (['\''] ++ escape '\'' c ++ ['\''])

/-- A text between double quotes. -/
def quoteText (text : String) : String :=
  .ofList (['"'] ++ text.toList.flatMap (escape '"') ++ ['"'])

end PatternAutomata.Text
