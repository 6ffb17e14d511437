import PatternAutomata.Dfa
import PatternAutomata.Nfa
import PatternAutomata.State.Subsets

/-!
# Determinisation

The states of the deterministic automaton stand for sets of states of the nondeterministic one: the
closure of its start and every set that symbols lead to from there, the empty set included. One loop
finds the sets and builds the automaton: a set gets a state from the supply when it is found for the
first time, and its rules when it is taken off the worklist. The loop ends because the sets hold only
states that rules lead to (`Construction.step_measure`).
-/
namespace PatternAutomata.Nfa

/-- The set of states after a symbol, with epsilon rules followed. -/
def after (nfa : Nfa) (set : StateSet) (symbol : Char) : StateSet :=
  nfa.table.closure (nfa.table.move set (some symbol))

theorem after_mem_subsets_allTargets (nfa : Nfa) (set : StateSet) (symbol : Char) :
    nfa.after set symbol ∈ StateSet.subsets nfa.table.allTargets :=
  StateSet.mem_subsets fun _ member =>
    (RuleTable.mem_of_mem_closure member).elim RuleTable.mem_allTargets_of_mem_move id

/-- The states before anything is read. -/
def initial (nfa : Nfa) : StateSet := nfa.table.closure (.singleton nfa.start)

/-- How far a determinisation has come. -/
structure Construction where
  /-- For every set found so far, the state that stands for it. -/
  states : Std.HashMap StateSet State
  accept : StateSet
  rules : Array Rule
  /-- The sets found and not taken yet with their states, latest first. -/
  pending : List (StateSet × State)
  /-- What is next in the supply. -/
  next : Nat
  reads : ∀ rule ∈ rules.toList, rule.isEpsilon = false

namespace Construction

/-- Nothing has been found. -/
def start (next : Nat) : Construction :=
  ⟨∅, .empty, #[], [], next, fun _ absent => absurd absent List.not_mem_nil⟩

/-- The state that stands for a set. A set that has none takes one from the supply, which accepts if
the set meets `accept`; then the set is pending. -/
def find (accept : StateSet) (construction : Construction) (set : StateSet) :
    State × Construction :=
  match construction.states[set]? with
  | some known => (known, construction)
  | none =>
    let (new, next) := State.take construction.next
    let accepting := construction.accept
    (new, { construction with
      states := construction.states.insert set new
      accept := if set.meets accept then accepting.insert new else accepting
      pending := (set, new) :: construction.pending
      next })

/-- Puts a rule that reads a symbol behind the others. -/
def addRule (construction : Construction) (source : State) (symbol : Char) (target : State) :
    Construction :=
  { construction with
    rules := construction.rules.push (.reading source symbol target)
    reads := by
      intro rule member
      rw [Array.toList_push, List.mem_append, List.mem_singleton] at member
      rcases member with before | rfl
      · exact construction.reads rule before
      · rfl }

variable (nfa : Nfa)

/-- Finds what a symbol leads to from `set`, and lists the rule there from the state of the set. -/
def follow (set : StateSet) (source : State) (construction : Construction) (symbol : Char) :
    Construction :=
  let (target, construction) := construction.find nfa.accept (nfa.after set symbol)
  construction.addRule source symbol target

/-- Takes `set` and its state off the worklist, of which `rest` remains, and follows each symbol. -/
def step (construction : Construction) (set : StateSet) (source : State)
    (rest : List (StateSet × State)) : Construction :=
  nfa.table.alphabet.foldl (follow nfa set source) { construction with pending := rest }

/-- What the loop still has to take at most: the sets that are pending, and those of `sets` that have
not been found. -/
def measure (construction : Construction) (sets : List StateSet) : Nat :=
  sets.countP (fun set => !construction.states.contains set) + construction.pending.length

theorem find_measure (accept : StateSet) (construction : Construction) {set : StateSet}
    {sets : List StateSet} (known : set ∈ sets) :
    (construction.find accept set).2.measure sets ≤ construction.measure sets := by
  unfold find
  split
  · exact Nat.le_refl _
  · next absent =>
    have new : construction.states.contains set = false := by
      rw [Std.HashMap.contains_eq_isSome_getElem?, absent, Option.isSome_none]
    have lt : (sets.countP fun other =>
          !(construction.states.insert set (State.take construction.next).1).contains other) <
        sets.countP fun other => !construction.states.contains other :=
      Search.countP_lt_of_marked (fun other seen => by simp [seen]) known new (by simp)
    simp only [measure, List.length_cons]
    omega

theorem follow_measure (set : StateSet) (source : State) (construction : Construction)
    (symbol : Char) :
    (follow nfa set source construction symbol).measure (StateSet.subsets nfa.table.allTargets) ≤
      construction.measure (StateSet.subsets nfa.table.allTargets) :=
  find_measure nfa.accept construction (nfa.after_mem_subsets_allTargets set symbol)

theorem foldl_follow_measure (set : StateSet) (source : State) (construction : Construction)
    (symbols : List Char) :
    (symbols.foldl (follow nfa set source) construction).measure
        (StateSet.subsets nfa.table.allTargets) ≤
      construction.measure (StateSet.subsets nfa.table.allTargets) := by
  induction symbols generalizing construction with
  | nil => exact Nat.le_refl _
  | cons symbol rest ih =>
    exact Nat.le_trans (ih _) (follow_measure nfa set source construction symbol)

/-- A step uses up one set at least. -/
theorem step_measure {construction : Construction} {set : StateSet} {source : State}
    {rest : List (StateSet × State)} (taken : construction.pending = (set, source) :: rest) :
    (construction.step nfa set source rest).measure (StateSet.subsets nfa.table.allTargets) <
      construction.measure (StateSet.subsets nfa.table.allTargets) := by
  refine Nat.lt_of_le_of_lt (foldl_follow_measure nfa set source _ _) ?_
  simp [measure, taken]

/-- Steps until nothing is pending. -/
def run (construction : Construction) : Construction :=
  match _ : construction.pending with
  | [] => construction
  | (set, source) :: rest => run (construction.step nfa set source rest)
termination_by construction.measure (StateSet.subsets nfa.table.allTargets)
decreasing_by exact step_measure nfa (by assumption)

end Construction

/-- The start state of the deterministic automaton, and the beginning of its construction. -/
def begun (nfa : Nfa) (next : Nat) : State × Construction :=
  (Construction.start next).find nfa.accept nfa.initial

/-- The deterministic automaton, its states taken from the supply at `next`, and what is next in
the supply after them. -/
def determinize (nfa : Nfa) (next : Nat) : Dfa × Nat :=
  let (start, construction) := nfa.begun next
  let last := construction.run nfa
  (.ofReading start last.accept last.rules.toList last.reads, last.next)

end PatternAutomata.Nfa
