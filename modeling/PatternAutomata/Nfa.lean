import PatternAutomata.Rule.Closure

/-!
# Nondeterministic automata

An automaton is a start state, a set of accept states and a table of rules. A run keeps the set of
states that it may be in before epsilon rules are followed; `Run.current` follows them.
-/
namespace PatternAutomata

/-- A nondeterministic automaton with epsilon rules. -/
structure Nfa where
  start : State
  accept : StateSet
  table : RuleTable
  deriving DecidableEq

namespace Nfa

/-- The automaton with the given rules. -/
def ofRules (start : State) (accept : StateSet) (rules : List Rule) : Nfa :=
  ⟨start, accept, .ofList rules⟩

/-- The rules in the order of the table. -/
def rules (nfa : Nfa) : List Rule := nfa.table.toList

/-- The rules in the order in which they are shown. -/
def shownRules (nfa : Nfa) : List Rule := Rule.settle nfa.rules

/-- The automaton with further rules, after its own, and further accept states. -/
def extend (nfa : Nfa) (rules : List Rule) (accept : List State) : Nfa :=
  .ofRules nfa.start (nfa.accept.union (.ofList accept)) (nfa.rules ++ rules)

/-- The start state and all states that rules mention. -/
def states (nfa : Nfa) : StateSet := nfa.table.states.insert nfa.start

/-- Whether no state is in both automata. -/
def isDisjoint (left right : Nfa) : Bool := !left.states.meets right.states

/-- An automaton that is reading, and the states that it has come to by the last symbol. -/
structure Run where
  nfa : Nfa
  frontier : StateSet

/-- The run that begins in some states. -/
def runAt (nfa : Nfa) (frontier : StateSet) : Run := ⟨nfa, frontier⟩

/-- The run that begins in the start state. -/
def run (nfa : Nfa) : Run := nfa.runAt (.singleton nfa.start)

namespace Run

/-- The states that the run may be in. -/
def current (run : Run) : StateSet := run.nfa.table.closure run.frontier

def isAccepting (run : Run) : Bool := run.current.meets run.nfa.accept

def read (run : Run) (symbol : Char) : Run :=
  { run with frontier := run.nfa.table.move run.current (some symbol) }

def readText (run : Run) (text : List Char) : Run := text.foldl read run

end Run

/-- Whether some way of reading the text ends in an accept state. -/
def accepts (nfa : Nfa) (text : List Char) : Bool := (nfa.run.readText text).isAccepting

end Nfa

end PatternAutomata
