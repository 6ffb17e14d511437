import PatternAutomata.Nfa.Determinize
import PatternAutomata.Pattern.Compile
import PatternAutomata.Pattern.Parse
import PatternAutomata.Pattern.Render

/-!
# Demonstration

A report on a list of regular expressions, each with its automaton, and on three automata made by
hand. The states of all automata of one report are taken from one supply.
-/
namespace PatternAutomata.Demo

/-- The expressions of a report for which none are given. -/
def defaultExpressions : List String :=
  ["", "a", "ab", "a|b", "a*", "(ab|a)*", "a(b|c)*d", "[xyz]+", "ab?c"]

/-- The parts of an automaton. -/
def describe (nfa : Nfa) : List String :=
  ["Start state: " ++ nfa.start.render,
    "Accepting states: " ++ ", ".intercalate (nfa.accept.toList.map (·.render)),
    "Rules:"] ++
  nfa.shownRules.map fun rule => "  " ++ rule.render

/-- An expression with its automaton, and what is next in the supply of states after it. -/
def entry (expression : String) (next : Nat) : List String × Nat :=
  let title := ["", "=== Pattern: " ++ Text.quoteText expression ++ " ==="]
  match Pattern.parse {} expression.toList with
  | .error error => (title ++ ["Failed to parse pattern: " ++ error.message], next)
  | .ok pattern =>
    let (nfa, next) := pattern.compile next
    (title ++ ["Rendered: " ++ pattern.renderDelimited] ++ describe nfa, next)

/-- All expressions with their automata, and what is next in the supply of states after them. -/
def entries : List String → (next : Nat) → List String × Nat
  | [], next => ([], next)
  | expression :: rest, next =>
    let (first, next) := entry expression next
    let (others, next) := entries rest next
    (first ++ others, next)

/-- Accepts the texts whose third symbol from the end is `b`. -/
def thirdFromEnd : Nfa :=
  .ofRules (.labelled 1) (.singleton (.labelled 4)) [
    .reading (.labelled 1) 'a' (.labelled 1),
    .reading (.labelled 1) 'b' (.labelled 1),
    .reading (.labelled 1) 'b' (.labelled 2),
    .reading (.labelled 2) 'a' (.labelled 3),
    .reading (.labelled 2) 'b' (.labelled 3),
    .reading (.labelled 3) 'a' (.labelled 4),
    .reading (.labelled 3) 'b' (.labelled 4)]

/-- Accepts the texts that contain `ab`. -/
def containsAb : Dfa :=
  .ofReading (.labelled 1) (.singleton (.labelled 3)) [
    .reading (.labelled 1) 'a' (.labelled 2),
    .reading (.labelled 1) 'b' (.labelled 1),
    .reading (.labelled 2) 'a' (.labelled 2),
    .reading (.labelled 2) 'b' (.labelled 3),
    .reading (.labelled 3) 'a' (.labelled 3),
    .reading (.labelled 3) 'b' (.labelled 3)] (by decide)

/-- Whether a text is accepted. -/
def verdict (text : String) (accepted : Bool) : String :=
  "accepts(" ++ Text.quoteText text ++ ") = " ++ toString accepted

/-- Whether a text is accepted, or why it cannot be read. -/
def verdictOf (dfa : Dfa) (text : String) : String :=
  match dfa.accepts text.toList with
  | .ok accepted => verdict text accepted
  | .error error => "accepts(" ++ Text.quoteText text ++ ") failed: " ++ error.message

/-- The automata made by hand. -/
def byHand (next : Nat) : List String :=
  let (dfa, _) := thirdFromEnd.determinize next
  ["", "=== Manual Construction Examples ===", "", "--- Hand-written NFA ---"] ++
  describe thirdFromEnd ++
  ["bab", "bbbbb", "bbabb"].map (fun text => verdict text (thirdFromEnd.accepts text.toList)) ++
  ["", "--- Equivalent DFA by subset construction ---", "Rules: " ++ toString dfa.rules.length] ++
  ["bab", "bbbbb", "bbabb", "bxb"].map (verdictOf dfa) ++
  ["", "--- Hand-written DFA ---"] ++
  ["a", "baa", "baba"].map (verdictOf containsAb)

/-- The report on some expressions, or on the default ones if there are none. -/
def report (expressions : List String) : String :=
  let expressions := if expressions.isEmpty then defaultExpressions else expressions
  let (parts, next) := entries expressions 0
  let lines := ["Finite automata - compiled design demo", "======================================"] ++
    parts ++ byHand next
  String.join (lines.map (· ++ "\n"))

end PatternAutomata.Demo
