import PatternAutomata.Regex.Span
import PatternAutomata.Unicode.Query

/-!
# Trees of regular expressions

The tree of a regular expression as it is written. Every node knows the span of its text, so that
what is wrong with it can be shown.
-/
namespace PatternAutomata.Regex

/-- One character, written as itself or by an escape. -/
structure Literal where
  span : Span
  symbol : Char
  /-- Written as `\x` and two digits, which without Unicode stands for a byte. -/
  isByte : Bool
  deriving DecidableEq, Repr

/-- A place that must be matched but takes no character. -/
inductive Assertion where
  | startLine
  | endLine
  | startText
  | endText
  | wordBoundary
  | notWordBoundary
  | wordStart
  | wordEnd
  | wordStartHalf
  | wordEndHalf
  deriving DecidableEq, Repr

/-- The classes that one letter stands for. -/
inductive LetterClass where
  | digit
  | space
  | word
  deriving DecidableEq, Repr

/-- The classes of ASCII characters that are named within brackets. -/
inductive AsciiClass where
  | alnum
  | alpha
  | ascii
  | blank
  | cntrl
  | digit
  | graph
  | lower
  | print
  | punct
  | space
  | upper
  | word
  | xdigit
  deriving DecidableEq, Repr

/-- The operators on classes. -/
inductive SetOperator where
  | intersection
  | difference
  | symmetricDifference
  deriving DecidableEq, Repr

/-- A class in brackets, or a part of one. -/
inductive ClassNode where
  | empty (span : Span)
  | literal (literal : Literal)
  | range (span : Span) (low high : Literal)
  | ascii (span : Span) (kind : AsciiClass) (negated : Bool)
  | unicode (span : Span) (query : Unicode.Query) (negated : Bool)
  | letter (span : Span) (kind : LetterClass) (negated : Bool)
  | bracketed (span : Span) (negated : Bool) (body : ClassNode)
  | union (span : Span) (items : List ClassNode)
  | binary (span : Span) (operator : SetOperator) (left right : ClassNode)
  deriving Repr, Inhabited

/-- The switches of the reader and of the meaning of what is read. -/
inductive Flag where
  | caseInsensitive
  | multiLine
  | dotMatchesNewLine
  | swapGreed
  | unicode
  | crlf
  | ignoreWhitespace
  deriving DecidableEq, Repr

/-- Flags that are switched on or off. -/
abbrev FlagSettings := List (Flag × Bool)

/-- What a pair of parentheses does. -/
inductive GroupKind where
  /-- The `index`-th capturing group, which may have a name. -/
  | capture (index : Nat) (name? : Option (List Char))
  /-- Groups, and sets flags for what is inside. -/
  | plain (settings : FlagSettings)
  deriving DecidableEq, Repr

/-- How often an operand is repeated, and whether more is tried before less. -/
structure Repeats where
  min : Nat
  max? : Option Nat
  greedy : Bool
  deriving DecidableEq, Repr

/-- A regular expression, or a part of one. -/
inductive Node where
  | empty (span : Span)
  | flags (span : Span) (settings : FlagSettings)
  | literal (literal : Literal)
  | dot (span : Span)
  | assertion (span : Span) (kind : Assertion)
  | unicode (span : Span) (query : Unicode.Query) (negated : Bool)
  | letter (span : Span) (kind : LetterClass) (negated : Bool)
  | bracketed (span : Span) (negated : Bool) (body : ClassNode)
  | repetition (span : Span) (repeats : Repeats) (body : Node)
  | group (span : Span) (kind : GroupKind) (body : Node)
  | alternation (span : Span) (branches : List Node)
  | concat (span : Span) (items : List Node)
  deriving Repr, Inhabited

namespace ClassNode

def span : ClassNode → Span
  | empty span => span
  | literal lit => lit.span
  | range span .. => span
  | ascii span .. => span
  | unicode span .. => span
  | letter span .. => span
  | bracketed span .. => span
  | union span _ => span
  | binary span .. => span

end ClassNode

namespace Node

def span : Node → Span
  | empty span => span
  | flags span _ => span
  | literal lit => lit.span
  | dot span => span
  | assertion span _ => span
  | unicode span .. => span
  | letter span .. => span
  | bracketed span .. => span
  | repetition span .. => span
  | group span .. => span
  | alternation span _ => span
  | concat span _ => span

end Node

end PatternAutomata.Regex
