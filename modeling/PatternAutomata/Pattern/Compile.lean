import PatternAutomata.Nfa
import PatternAutomata.Pattern

/-!
# Compiling patterns

A pattern is compiled from its parts: the automata of the operands are joined by epsilon rules, and
every state is taken from a supply, so that no two parts share one. A fragment may have several
accept states; a rule is added for each of them where the fragment is continued.
-/
namespace PatternAutomata

/-- The part of an automaton that reads the texts of one subpattern. -/
structure Fragment where
  start : State
  accept : StateSet
  rules : List Rule
  deriving DecidableEq

namespace Fragment

/-- Epsilon rules from the accept states to a state. -/
def bridges (fragment : Fragment) (target : State) : List Rule :=
  fragment.accept.toList.map (.epsilon · target)

/-- Reads nothing. -/
def empty (start : State) : Fragment := ⟨start, .singleton start, []⟩

/-- Reads one symbol. -/
def literal (start : State) (symbol : Char) (accept : State) : Fragment :=
  ⟨start, .singleton accept, [.reading start symbol accept]⟩

/-- Goes on with the second fragment wherever the first one accepts. -/
def concat (first second : Fragment) : Fragment :=
  ⟨first.start, second.accept, first.rules ++ second.rules ++ first.bridges second.start⟩

/-- Begins with either fragment. -/
def choice (start : State) (first second : Fragment) : Fragment :=
  ⟨start, first.accept.union second.accept,
    first.rules ++ second.rules ++ [.epsilon start first.start, .epsilon start second.start]⟩

/-- Accepts at once, or after going through the body any number of times. -/
def star (start : State) (body : Fragment) : Fragment :=
  ⟨start, body.accept.insert start,
    body.rules ++ .epsilon start body.start :: body.bridges body.start⟩

def toNfa (fragment : Fragment) : Nfa := .ofRules fragment.start fragment.accept fragment.rules

end Fragment

namespace Pattern

/-- The fragment of a pattern, its states taken from the supply at `next`, and what is next in the
supply after them. -/
def fragment : Pattern → (next : Nat) → Fragment × Nat
  | empty, next =>
    let (start, next) := State.take next
    (.empty start, next)
  | literal symbol, next =>
    let (start, next) := State.take next
    let (accept, next) := State.take next
    (.literal start symbol accept, next)
  | concat first second, next =>
    let (first, next) := first.fragment next
    let (second, next) := second.fragment next
    (.concat first second, next)
  | choice first second, next =>
    let (first, next) := first.fragment next
    let (second, next) := second.fragment next
    let (start, next) := State.take next
    (.choice start first second, next)
  | star body, next =>
    let (body, next) := body.fragment next
    let (start, next) := State.take next
    (.star start body, next)

/-- The automaton of a pattern, and what is next in the supply of states after it. -/
def compile (pattern : Pattern) (next : Nat) : Nfa × Nat :=
  let (fragment, next) := pattern.fragment next
  (fragment.toNfa, next)

/-- Whether the pattern stands for the text, decided by its automaton; the states of that automaton
are taken from the supply. -/
def matchesFrom (pattern : Pattern) (next : Nat) (text : List Char) : Bool × Nat :=
  let (nfa, next) := pattern.compile next
  (nfa.accepts text, next)

end Pattern

end PatternAutomata
