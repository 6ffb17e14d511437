/-!
# Places in a text

A position is counted in characters from the beginning of the text, and by line and column for
showing it. A span is what lies between two positions.
-/
namespace PatternAutomata.Regex

/-- A place between two characters. Lines and columns count from one. -/
structure Position where
  index : Nat
  line : Nat
  column : Nat
  deriving DecidableEq, Repr, Inhabited

namespace Position

/-- The beginning of a text. -/
def start : Position := ⟨0, 1, 1⟩

/-- The position after a character. -/
def after (position : Position) (c : Char) : Position :=
  if c = '\n' then ⟨position.index + 1, position.line + 1, 1⟩
  else ⟨position.index + 1, position.line, position.column + 1⟩

/-- The position after some characters. -/
def afterAll (position : Position) (text : List Char) : Position := text.foldl after position

end Position

/-- The text from one position to another. -/
structure Span where
  start : Position
  stop : Position
  deriving DecidableEq, Repr, Inhabited

namespace Span

/-- The empty span at a position. -/
def point (position : Position) : Span := ⟨position, position⟩

def isOneLine (span : Span) : Bool := span.start.line == span.stop.line

/-- The order in which spans are shown. -/
def before (left right : Span) : Bool :=
  left.start.index < right.start.index ||
    (left.start.index == right.start.index && left.stop.index ≤ right.stop.index)

end Span

end PatternAutomata.Regex
