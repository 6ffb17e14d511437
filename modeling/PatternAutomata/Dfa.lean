import PatternAutomata.Rule.Filing
import PatternAutomata.Text.Quoted

/-!
# Deterministic automata

A deterministic automaton has no epsilon rules. That at most one rule leaves a state on a symbol is
not required: where none or several do, reading fails, and the run stays where it was.
-/
namespace PatternAutomata

namespace Dfa

/-- Why a deterministic automaton cannot be made, or cannot go on. -/
inductive Error where
  /-- The number of rules that leave the state on the symbol is not one. -/
  | missingTransition (state : State) (symbol : Char) (candidates : Nat)
  /-- A rule out of the state reads nothing. -/
  | epsilonRule (state : State)
  deriving DecidableEq, Repr

def Error.message : Error → String
  | missingTransition state symbol 0 =>
    s!"no transition from state {state.render} on {Text.quoteChar symbol}"
  | missingTransition state symbol candidates =>
    s!"ambiguous transition from state {state.render} on {Text.quoteChar symbol}: " ++
      s!"{candidates} rules apply"
  | epsilonRule state => s!"epsilon rule from state {state.render} in a deterministic rulebook"

end Dfa

/-- An automaton all of whose rules read a symbol. -/
structure Dfa where
  start : State
  accept : StateSet
  table : RuleTable
  reads : ∀ rule ∈ table.toList, rule.isEpsilon = false
  deriving DecidableEq

namespace Dfa

/-- The automaton with the given rules, which all read a symbol. -/
def ofReading (start : State) (accept : StateSet) (rules : List Rule)
    (reads : ∀ rule ∈ rules, rule.isEpsilon = false) : Dfa :=
  ⟨start, accept, .ofList rules, reads⟩

/-- The automaton with the given rules, unless one of them is an epsilon rule; the error names the
first of those. -/
def ofRules (start : State) (accept : StateSet) (rules : List Rule) : Except Error Dfa :=
  match absent : rules.find? (·.isEpsilon) with
  | some rule => .error (.epsilonRule rule.source)
  | none => .ok <| .ofReading start accept rules fun rule h =>
    Bool.eq_false_iff.2 (List.find?_eq_none.1 absent rule h)

/-- The rules in the order of the table. -/
def rules (dfa : Dfa) : List Rule := dfa.table.toList

/-- The symbols that rules are filed under. -/
def alphabet (dfa : Dfa) : List Char :=
  RuleIndex.symbols (RuleIndex.filed Rule.symbolKey? dfa.rules)

/-- The one rule that leaves a state on a symbol. -/
def ruleFor (dfa : Dfa) (s : State) (symbol : Char) : Except Error Rule :=
  match dfa.table.rulesFor s (some symbol) with
  | [rule] => .ok rule
  | found => .error (.missingTransition s symbol found.length)

/-- The state that the one rule leads to. -/
def nextState (dfa : Dfa) (s : State) (symbol : Char) : Except Error State :=
  (dfa.ruleFor s symbol).map (·.target)

/-- An automaton that is reading, and the state that it is in. -/
structure Run where
  dfa : Dfa
  state : State

/-- The run that begins in a state. -/
def runAt (dfa : Dfa) (state : State) : Run := ⟨dfa, state⟩

/-- The run that begins in the start state. -/
def run (dfa : Dfa) : Run := dfa.runAt dfa.start

namespace Run

def isAccepting (run : Run) : Bool := run.state ∈ run.dfa.accept

def read (run : Run) (symbol : Char) : Except Error Run :=
  (run.dfa.nextState run.state symbol).map fun state => { run with state }

/-- Reads until the text ends or reading a symbol fails; then the run is in the state that it had
before that symbol. -/
def readText (run : Run) : List Char → Run × Option Error
  | [] => (run, none)
  | symbol :: rest =>
    match run.read symbol with
    | .ok run => run.readText rest
    | .error error => (run, some error)

end Run

/-- Whether the text leads to an accept state. -/
def accepts (dfa : Dfa) (text : List Char) : Except Error Bool :=
  match dfa.run.readText text with
  | (run, none) => .ok run.isAccepting
  | (_, some error) => .error error

end Dfa

end PatternAutomata
