import PatternAutomata.Regex.Node
import PatternAutomata.Regex.SyntaxError
import PatternAutomata.Unicode.CaseGroup

/-!
# Members of classes

The set that a class stands for: a set of characters, or without Unicode a set of bytes. Where case
is ignored, a set is closed under case before it is negated or an operator is applied.
-/
namespace PatternAutomata.Regex

/-- What flags say about the meaning of a regular expression. -/
structure Flags where
  caseInsensitive : Bool
  multiLine : Bool
  dotMatchesNewLine : Bool
  swapGreed : Bool
  unicode : Bool
  crlf : Bool
  deriving DecidableEq, Repr

namespace Flags

/-- The flags before anything is said about them. -/
def initial (caseInsensitive : Bool) : Flags :=
  ⟨caseInsensitive, false, false, false, true, false⟩

def set (flags : Flags) (flag : Flag) (on : Bool) : Flags :=
  match flag with
  | .caseInsensitive => { flags with caseInsensitive := on }
  | .multiLine => { flags with multiLine := on }
  | .dotMatchesNewLine => { flags with dotMatchesNewLine := on }
  | .swapGreed => { flags with swapGreed := on }
  | .unicode => { flags with unicode := on }
  | .crlf => { flags with crlf := on }
  | .ignoreWhitespace => flags

def apply (flags : Flags) (settings : FlagSettings) : Flags :=
  settings.foldl (fun flags (flag, on) => flags.set flag on) flags

end Flags

/-- The ASCII ranges of a named class. -/
def AsciiClass.ranges : AsciiClass → List (Char × Char)
  | alnum => [('0', '9'), ('A', 'Z'), ('a', 'z')]
  | alpha => [('A', 'Z'), ('a', 'z')]
  | ascii => [('\x00', '\x7F')]
  | blank => [('\t', '\t'), (' ', ' ')]
  | cntrl => [('\x00', '\x1F'), ('\x7F', '\x7F')]
  | digit => [('0', '9')]
  | graph => [('!', '~')]
  | lower => [('a', 'z')]
  | print => [(' ', '~')]
  | punct => [('!', '/'), (':', '@'), ('[', '\x60'), ('\x7b', '~')]
  | space => [('\t', '\r'), (' ', ' ')]
  | upper => [('A', 'Z')]
  | word => [('0', '9'), ('A', 'Z'), ('_', '_'), ('a', 'z')]
  | xdigit => [('0', '9'), ('A', 'F'), ('a', 'f')]

def AsciiClass.chars (kind : AsciiClass) : CharSet :=
  .ofRanges (kind.ranges.map fun (low, high) => .between low high)

/-- The byte of an ASCII character. -/
def asciiByte (c : Char) : UInt8 := UInt8.ofNat c.toNat

def AsciiClass.bytes (kind : AsciiClass) : ByteSet :=
  .ofRanges (kind.ranges.map fun (low, high) => .between (asciiByte low) (asciiByte high))

namespace LetterClass

/-- The class of ASCII characters that a letter stands for without Unicode. -/
def asciiClass : LetterClass → AsciiClass
  | digit => .digit
  | space => .space
  | word => .word

/-- The characters of a class by its letter; it is closed under case already. -/
def chars (kind : LetterClass) (negated : Bool) : CharSet :=
  let set :=
    match kind with
    | digit => Unicode.digits
    | space => Unicode.whiteSpace
    | word => Unicode.wordCharacters
  if negated then set.negate else set

end LetterClass

/-- The greatest ASCII character. -/
def greatestAscii : Nat := 0x7F

/-- Refuses a set of bytes that has more than ASCII. -/
def requireAscii (span : Span) (set : ByteSet) : Except SyntaxError ByteSet :=
  if set.within greatestAscii then .ok set else refuse .invalidUtf8 span

/-- The bytes of a class by its letter. -/
def LetterClass.bytes (span : Span) (kind : LetterClass) (negated : Bool) :
    Except SyntaxError ByteSet :=
  requireAscii span <| if negated then kind.asciiClass.bytes.negate else kind.asciiClass.bytes

/-- The set with the letters of the other case, where case is ignored. -/
def Flags.foldChars (flags : Flags) (set : CharSet) : CharSet :=
  if flags.caseInsensitive then Unicode.foldCase set else set

/-- The set of bytes with the letters of the other case, where case is ignored. -/
def Flags.foldBytes (flags : Flags) (set : ByteSet) : ByteSet :=
  if flags.caseInsensitive then Unicode.foldAsciiCase set else set

/-- Folds a set, and then negates it if it is to be. -/
def Flags.foldNegateChars (flags : Flags) (negated : Bool) (set : CharSet) : CharSet :=
  if negated then (flags.foldChars set).negate else flags.foldChars set

/-- Folds a set of bytes, and then negates it if it is to be. -/
def Flags.foldNegateBytes (flags : Flags) (negated : Bool) (set : ByteSet) : ByteSet :=
  if negated then (flags.foldBytes set).negate else flags.foldBytes set

/-- The characters that a name asks for. -/
def unicodeClass (flags : Flags) (span : Span) (query : Unicode.Query) (negated : Bool) :
    Except SyntaxError CharSet :=
  if !flags.unicode then refuse .unicodeNotAllowed span
  else
    match query.set? with
    | .ok set => .ok (flags.foldNegateChars negated set)
    | .error .propertyNotFound => refuse .unicodePropertyNotFound span
    | .error .valueNotFound => refuse .unicodePropertyValueNotFound span

/-- The byte that a literal stands for in a class of bytes. -/
def Literal.byte (literal : Literal) : Except SyntaxError UInt8 :=
  if literal.symbol.toNat ≤ greatestAscii then .ok (asciiByte literal.symbol)
  else if literal.isByte then refuse .invalidUtf8 literal.span
  else refuse .unicodeNotAllowed literal.span

namespace SetOperator

/-- The operator on sets. -/
def apply {α : Type} [Endpoint α] (operator : SetOperator) (left right : RangeSet α) : RangeSet α :=
  match operator with
  | intersection => left.intersect right
  | difference => left.difference right
  | symmetricDifference => left.symmetricDifference right

end SetOperator

namespace ClassNode

mutual

/-- The characters of a class, as separated ranges. -/
def chars (flags : Flags) : ClassNode → Except SyntaxError CharSet
  | empty _ => .ok .empty
  | literal lit => .ok (.single lit.symbol)
  | range _ low high => .ok (.ofRanges [.between low.symbol high.symbol])
  | ascii _ kind negated => .ok (flags.foldNegateChars negated kind.chars).joined
  | unicode span query negated => do
    let set ← unicodeClass flags span query negated
    .ok set.joined
  | letter _ kind negated => .ok (kind.chars negated).joined
  | bracketed _ negated body => do
    let set ← body.chars flags
    .ok (flags.foldNegateChars negated set).joined
  | union _ items => allChars flags items
  | binary _ operator left right => do
    let left ← left.chars flags
    let right ← right.chars flags
    .ok (operator.apply (flags.foldChars left) (flags.foldChars right))

/-- The characters of several classes together. -/
def allChars (flags : Flags) : List ClassNode → Except SyntaxError CharSet
  | [] => .ok .empty
  | item :: rest => do
    let set ← item.chars flags
    let others ← allChars flags rest
    .ok (set.union others)

end

mutual

/-- The bytes of a class without Unicode. -/
def bytes (flags : Flags) : ClassNode → Except SyntaxError ByteSet
  | empty _ => .ok .empty
  | literal lit => do
    let byte ← lit.byte
    .ok (.single byte)
  | range _ low high => do
    let low ← low.byte
    let high ← high.byte
    .ok (.ofRanges [.between low high])
  | ascii span kind negated => requireAscii span (flags.foldNegateBytes negated kind.bytes)
  | unicode span .. => refuse .unicodeNotAllowed span
  | letter span kind negated => kind.bytes span negated
  | bracketed span negated body => do
    let set ← body.bytes flags
    requireAscii span (flags.foldNegateBytes negated set)
  | union _ items => allBytes flags items
  | binary _ operator left right => do
    let left ← left.bytes flags
    let right ← right.bytes flags
    .ok (operator.apply (flags.foldBytes left) (flags.foldBytes right))

/-- The bytes of several classes together. -/
def allBytes (flags : Flags) : List ClassNode → Except SyntaxError ByteSet
  | [] => .ok .empty
  | item :: rest => do
    let set ← item.bytes flags
    let others ← allBytes flags rest
    .ok (set.union others)

end

end ClassNode

end PatternAutomata.Regex
