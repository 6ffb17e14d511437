import PatternAutomata.Pattern

/-!
# Joining many patterns

A list of patterns is joined in rounds: each round joins neighbours in pairs and passes an odd one
on, until one pattern is left. So the depth grows with the logarithm of the length.
-/
namespace PatternAutomata

/-- Joins the first element with the second, the third with the fourth, and so on. -/
def joinPairs {α : Type} (join : α → α → α) : List α → List α
  | first :: second :: rest => join first second :: joinPairs join rest
  | rest => rest

theorem joinPairs_length {α : Type} (join : α → α → α) (list : List α) :
    (joinPairs join list).length = (list.length + 1) / 2 := by
  fun_induction joinPairs join list with
  | case1 first second rest ih => simp only [List.length_cons, ih]; omega
  | case2 rest short =>
    match rest, short with
    | [], _ => simp
    | [_], _ => simp
    | first :: second :: rest, short => exact (short first second rest rfl).elim

/-- Joins neighbours in pairs until one element is left; there is none in the empty list only. -/
def joinBalanced {α : Type} (join : α → α → α) : List α → Option α
  | [] => none
  | [only] => some only
  | first :: second :: rest => joinBalanced join (joinPairs join (first :: second :: rest))
termination_by list => list.length
decreasing_by simp only [joinPairs_length, List.length_cons]; omega

namespace Pattern

/-- The pattern of one text. -/
def string (text : List Char) : Pattern := (joinBalanced concat (text.map literal)).getD empty

end Pattern

end PatternAutomata
