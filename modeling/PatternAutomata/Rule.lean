import PatternAutomata.State

/-!
# Rules

A rule is one edge of an automaton. Without a symbol it is an epsilon rule, which is followed
without reading. Where only the set of edges is fixed by a construction and not the order in which
epsilon rules into one state are listed, `settle` picks the order.
-/
namespace PatternAutomata

/-- An edge from a state to a state, on a symbol or on none. -/
structure Rule where
  source : State
  symbol? : Option Char
  target : State
  deriving DecidableEq, Repr

namespace Rule

/-- The rule that reads a symbol. -/
def reading (source : State) (symbol : Char) (target : State) : Rule := ⟨source, some symbol, target⟩

/-- The rule that reads nothing. -/
def epsilon (source target : State) : Rule := ⟨source, none, target⟩

/-- Whether the rule leaves `s` on `symbol?`; an epsilon rule leaves on no symbol only. -/
def appliesTo (rule : Rule) (s : State) (symbol? : Option Char) : Bool :=
  rule.source = s && rule.symbol? = symbol?

def isEpsilon (rule : Rule) : Bool := rule.symbol?.isNone

/-- The states and between them the symbol, or `ε`. -/
def render (rule : Rule) : String :=
  let symbol := match rule.symbol? with
    | some symbol => symbol.toString
    | none => "ε"
  rule.source.render ++ " --" ++ symbol ++ "--> " ++ rule.target.render

/-- Whether two rules are epsilon rules into the same state. -/
def joinAt (r s : Rule) : Bool := r.isEpsilon && s.isEpsilon && r.target = s.target

/-- Lists every longest run of epsilon rules into one state by their sources; all other rules keep
their places. -/
def settle (rules : List Rule) : List Rule :=
  (rules.splitBy joinAt).flatMap (·.mergeSort fun r s => r.source.rank ≤ s.source.rank)

end Rule

end PatternAutomata
