/-!
# Patterns

The five-operator algebra of patterns and its meaning: `Pattern.Denotes` says which texts a pattern
stands for, by recursion on the tree.
-/
namespace PatternAutomata

/-- A pattern over characters. -/
inductive Pattern where
  /-- The empty text. -/
  | empty
  /-- One character. -/
  | literal (symbol : Char)
  /-- A text of the first pattern, then one of the second. -/
  | concat (first second : Pattern)
  /-- A text of either pattern. -/
  | choice (first second : Pattern)
  /-- Any number of texts of the body, one after the other. -/
  | star (body : Pattern)
  deriving DecidableEq, Repr, Inhabited

namespace Pattern

/-- The pattern stands for the text. -/
def Denotes : Pattern → List Char → Prop
  | empty, text => text = []
  | literal symbol, text => text = [symbol]
  | concat first second, text =>
    ∃ front back, text = front ++ back ∧ first.Denotes front ∧ second.Denotes back
  | choice first second, text => first.Denotes text ∨ second.Denotes text
  | star body, text =>
    ∃ pieces : List (List Char), text = pieces.flatten ∧ ∀ piece ∈ pieces, body.Denotes piece

end Pattern

end PatternAutomata
