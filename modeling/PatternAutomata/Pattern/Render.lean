import PatternAutomata.Pattern

/-!
# Rendering patterns

A pattern is written with the fewest brackets: an operand is bracketed if it binds less tightly than
the operator around it. Symbols are never escaped.
-/
namespace PatternAutomata.Pattern

/-- How tightly the outermost operator binds. -/
def precedence : Pattern → Nat
  | empty => 3
  | literal _ => 3
  | star _ => 2
  | concat .. => 1
  | choice .. => 0

/-- A text in brackets, if they are needed. -/
def enclose (needed : Bool) (text : List Char) : List Char :=
  if needed then '(' :: text ++ [')'] else text

/-- The characters of the written pattern. -/
def chars : Pattern → List Char
  | empty => []
  | literal symbol => [symbol]
  | star body => enclose (body.precedence < 2) body.chars ++ ['*']
  | concat first second =>
    enclose (first.precedence < 1) first.chars ++ enclose (second.precedence < 1) second.chars
  | choice first second => first.chars ++ '|' :: second.chars

/-- The written pattern. -/
def render (pattern : Pattern) : String := .ofList pattern.chars

/-- The written pattern between slashes. -/
def renderDelimited (pattern : Pattern) : String := .ofList ('/' :: pattern.chars ++ ['/'])

/-- The pattern as an operand of an operator that binds with strength `outer`. -/
def bracket (pattern : Pattern) (outer : Nat) : String :=
  .ofList (enclose (pattern.precedence < outer) pattern.chars)

end PatternAutomata.Pattern
