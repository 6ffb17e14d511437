import PatternAutomata.Proofs.Compile
import PatternAutomata.Proofs.SubsetAutomaton

/-!
# The supply of states

Whatever takes states from the supply uses each of those that it takes and no others, so two results
never share a state (`steps_share_no_state`). For a pattern this is an invariant of fragments
(`Fragment.Fills`): a part keeps all its states when it is built into a larger fragment. That a part
accepts somewhere matters here, since only a bridge makes the start of a second part known.
-/
namespace PatternAutomata

namespace State

theorem IsFreshIn.split {low high : Nat} {s : State} (fresh : s.IsFreshIn low high) (middle : Nat) :
    s.IsFreshIn low middle ∨ s.IsFreshIn middle high := by
  obtain ⟨id, rfl, least, most⟩ := fresh
  by_cases early : id < middle
  · exact .inl ⟨id, rfl, least, early⟩
  · exact .inr ⟨id, rfl, by omega, most⟩

end State

/-- A set of all states of an interval of the supply lists them in order. -/
theorem StateSet.toList_of_isFreshIn {set : StateSet} {low high : Nat}
    (members : ∀ s, s ∈ set ↔ s.IsFreshIn low high) :
    set.toList = (List.range' low (high - low)).map .fresh := by
  refine eq_of_sorted set.sorted ?_ fun s => ?_
  · have increasing : (List.range' low (high - low)).Pairwise (· < ·) := List.pairwise_lt_range'
    refine List.pairwise_map.mpr (increasing.imp fun before => ?_)
    simp only [State.lt_def, State.rank]
    omega
  · rw [mem_toList, members, List.mem_map]
    simp only [List.mem_range'_1, State.IsFreshIn]
    constructor
    · rintro ⟨id, rfl, least, most⟩
      exact ⟨id, by omega, rfl⟩
    · rintro ⟨id, ⟨least, most⟩, rfl⟩
      exact ⟨id, rfl, least, by omega⟩

theorem StateSet.length_of_isFreshIn {set : StateSet} {low high : Nat}
    (members : ∀ s, s ∈ set ↔ s.IsFreshIn low high) : set.toList.length = high - low := by
  rw [toList_of_isFreshIn members, List.length_map, List.length_range']

namespace Fragment

theorem states_of_epsilon {fragment : Fragment} {s t : State}
    (member : Rule.epsilon s t ∈ fragment.rules) :
    s ∈ fragment.toNfa.allStates ∧ t ∈ fragment.toNfa.allStates := by
  have member : Rule.epsilon s t ∈ fragment.toNfa.rules := member
  exact ⟨Nfa.source_mem_allStates member, Nfa.target_mem_allStates member⟩

theorem Within.of_mem_allStates {fragment : Fragment} {low high : Nat}
    (within : fragment.Within low high) {s : State} (member : s ∈ fragment.toNfa.allStates) :
    s.IsFreshIn low high := by
  rcases Nfa.mem_allStates.mp member with rfl | accepts | ⟨rule, listed, rfl | rfl⟩
  · exact within.start
  · exact within.accept s accepts
  · exact within.source rule listed
  · exact within.target rule listed

/-- The states of a fragment are exactly those of one interval of the supply, and it accepts
somewhere. -/
structure Fills (fragment : Fragment) (low high : Nat) : Prop
    extends fragment.Within low high where
  accepts : ∃ s, s ∈ fragment.accept
  uses : ∀ s : State, s.IsFreshIn low high → s ∈ fragment.toNfa.allStates

theorem fills_empty (next : Nat) : (empty (.fresh next)).Fills next (next + 1) := by
  refine ⟨within_empty next, ⟨_, StateSet.mem_singleton.mpr rfl⟩, fun s fresh => ?_⟩
  obtain ⟨id, rfl, least, most⟩ := fresh
  have only : id = next := by omega
  subst only
  exact Nfa.start_mem_allStates _

theorem fills_literal (next : Nat) (symbol : Char) :
    (literal (.fresh next) symbol (.fresh (next + 1))).Fills next (next + 2) := by
  refine ⟨within_literal next symbol, ⟨_, StateSet.mem_singleton.mpr rfl⟩, fun s fresh => ?_⟩
  obtain ⟨id, rfl, least, most⟩ := fresh
  by_cases first : id = next
  · subst first
    exact Nfa.start_mem_allStates _
  · have second : id = next + 1 := by omega
    subst second
    exact Nfa.accept_mem_allStates (StateSet.mem_singleton.mpr rfl)

section Parts

variable {start : State} {first second body : Fragment} {low middle high : Nat}

/-- Bridges leave from where the first part accepts. -/
theorem first_states_concat : ∀ s ∈ first.toNfa.allStates,
    s ∈ (concat first second).toNfa.allStates := by
  refine Nfa.allStates_of_part (Nfa.start_mem_allStates _) (fun s accepts => ?_)
    fun rule member => mem_rules_concat.mpr (.inl member)
  have bridge : Rule.epsilon s second.start ∈ (concat first second).rules :=
    mem_rules_concat.mpr (.inr (.inr ⟨s, accepts, rfl⟩))
  exact (states_of_epsilon bridge).1

/-- The start of the second part is where bridges lead, if there are any. -/
theorem second_states_concat (accepts : ∃ s, s ∈ first.accept) :
    ∀ s ∈ second.toNfa.allStates, s ∈ (concat first second).toNfa.allStates := by
  obtain ⟨a, accepts⟩ := accepts
  have bridge : Rule.epsilon a second.start ∈ (concat first second).rules :=
    mem_rules_concat.mpr (.inr (.inr ⟨a, accepts, rfl⟩))
  exact Nfa.allStates_of_part (states_of_epsilon bridge).2
    (fun s accepted => Nfa.accept_mem_allStates accepted)
    fun rule member => mem_rules_concat.mpr (.inr (.inl member))

theorem first_states_choice : ∀ s ∈ first.toNfa.allStates,
    s ∈ (choice start first second).toNfa.allStates := by
  have enter : Rule.epsilon start first.start ∈ (choice start first second).rules :=
    mem_rules_choice.mpr (.inr (.inr (.inl rfl)))
  exact Nfa.allStates_of_part (states_of_epsilon enter).2
    (fun s accepts => Nfa.accept_mem_allStates (StateSet.mem_union.mpr (.inl accepts)))
    fun rule member => mem_rules_choice.mpr (.inl member)

theorem second_states_choice : ∀ s ∈ second.toNfa.allStates,
    s ∈ (choice start first second).toNfa.allStates := by
  have enter : Rule.epsilon start second.start ∈ (choice start first second).rules :=
    mem_rules_choice.mpr (.inr (.inr (.inr rfl)))
  exact Nfa.allStates_of_part (states_of_epsilon enter).2
    (fun s accepts => Nfa.accept_mem_allStates (StateSet.mem_union.mpr (.inr accepts)))
    fun rule member => mem_rules_choice.mpr (.inr (.inl member))

theorem body_states_star : ∀ s ∈ body.toNfa.allStates, s ∈ (star start body).toNfa.allStates := by
  have enter : Rule.epsilon start body.start ∈ (star start body).rules :=
    mem_rules_star.mpr (.inr (.inl rfl))
  exact Nfa.allStates_of_part (states_of_epsilon enter).2
    (fun s accepts => Nfa.accept_mem_allStates (StateSet.mem_insert.mpr (.inr accepts)))
    fun rule member => mem_rules_star.mpr (.inl member)

/-- A fragment that takes one more state for its start uses that one too. -/
theorem uses_succ {fragment : Fragment} (start : fragment.start = .fresh high)
    (parts : ∀ s : State, s.IsFreshIn low high → s ∈ fragment.toNfa.allStates) (s : State)
    (fresh : s.IsFreshIn low (high + 1)) : s ∈ fragment.toNfa.allStates := by
  rcases fresh.split high with part | new
  · exact parts s part
  · obtain ⟨id, rfl, _, _⟩ := new
    have last : id = high := by omega
    rw [last, ← start]
    exact Nfa.start_mem_allStates fragment.toNfa

theorem fills_concat (hf : first.Fills low middle) (hs : second.Fills middle high)
    (least : low ≤ middle) (most : middle ≤ high) : (concat first second).Fills low high := by
  refine ⟨within_concat hf.toWithin hs.toWithin least most, hs.accepts, fun s fresh => ?_⟩
  rcases fresh.split middle with early | late
  · exact first_states_concat s (hf.uses s early)
  · exact second_states_concat hf.accepts s (hs.uses s late)

theorem fills_choice (hf : first.Fills low middle) (hs : second.Fills middle high)
    (least : low ≤ middle) (most : middle ≤ high) :
    (choice (.fresh high) first second).Fills low (high + 1) := by
  obtain ⟨a, accepts⟩ := hf.accepts
  refine ⟨within_choice hf.toWithin hs.toWithin least most,
    ⟨a, StateSet.mem_union.mpr (.inl accepts)⟩, uses_succ rfl fun s fresh => ?_⟩
  rcases fresh.split middle with early | late
  · exact first_states_choice s (hf.uses s early)
  · exact second_states_choice s (hs.uses s late)

theorem fills_star (hb : body.Fills low high) (least : low ≤ high) :
    (star (.fresh high) body).Fills low (high + 1) :=
  ⟨within_star hb.toWithin least, ⟨_, StateSet.mem_insert.mpr (.inl rfl)⟩,
    uses_succ rfl fun s fresh => body_states_star s (hb.uses s fresh)⟩

end Parts

end Fragment

namespace Pattern

/-- How many states the automaton of a pattern has. -/
def stateCount : Pattern → Nat
  | empty => 1
  | literal _ => 2
  | concat first second => first.stateCount + second.stateCount
  | choice first second => first.stateCount + second.stateCount + 1
  | star body => body.stateCount + 1

theorem next_fragment (pattern : Pattern) (next : Nat) :
    (pattern.fragment next).2 = next + pattern.stateCount := by
  induction pattern generalizing next with
  | empty => rfl
  | literal symbol => rfl
  | concat first second hf hs =>
    have whole : (second.fragment (first.fragment next).2).2 =
        next + first.stateCount + second.stateCount := by rw [hs, hf]
    exact whole.trans (Nat.add_assoc _ _ _)
  | choice first second hf hs =>
    have parts : (second.fragment (first.fragment next).2).2 =
        next + first.stateCount + second.stateCount := by rw [hs, hf]
    exact congrArg (· + 1) (parts.trans (Nat.add_assoc _ _ _))
  | star body hb => exact congrArg (· + 1) (hb next)

/-- Compiling uses all states that it takes. -/
theorem fills_fragment (pattern : Pattern) (next : Nat) :
    (pattern.fragment next).1.Fills next (pattern.fragment next).2 := by
  induction pattern generalizing next with
  | empty => exact Fragment.fills_empty next
  | literal symbol => exact Fragment.fills_literal next symbol
  | concat first second hf hs =>
    exact Fragment.fills_concat (hf next) (hs _) (within_fragment first next).1
      (within_fragment second _).1
  | choice first second hf hs =>
    exact Fragment.fills_choice (hf next) (hs _) (within_fragment first next).1
      (within_fragment second _).1
  | star body hb => exact Fragment.fills_star (hb next) (within_fragment body next).1

theorem mem_allStates_compile {pattern : Pattern} {next : Nat} {s : State} :
    s ∈ (pattern.compile next).1.allStates ↔ s.IsFreshIn next (pattern.compile next).2 := by
  have fills := fills_fragment pattern next
  exact ⟨fills.toWithin.of_mem_allStates, fills.uses s⟩

end Pattern

namespace Nfa

variable {nfa : Nfa} {next : Nat} {s : State}

/-- Determinising uses all states that it takes: each names a set. -/
theorem mem_states_determinize_iff_isFreshIn :
    s ∈ (nfa.determinize next).1.states ↔ s.IsFreshIn next (nfa.determinize next).2 := by
  rw [mem_states_determinize, next_determinize]
  constructor
  · rintro ⟨set, found, rfl⟩
    have place := List.idxOf_lt_length_of_mem found
    exact State.isFreshIn_fresh (Nat.le_add_right _ _) (Nat.add_lt_add_left place next)
  · rintro ⟨id, rfl, least, most⟩
    have place : id - next < nfa.subsets.length := by omega
    refine ⟨nfa.subsets[id - next], List.getElem_mem place, ?_⟩
    rw [subsetName, nfa.nodup_subsets.idxOf_getElem, Nat.add_sub_cancel' least]

theorem mem_allStates_determinize :
    s ∈ (nfa.determinize next).1.allStates ↔ s.IsFreshIn next (nfa.determinize next).2 := by
  rw [Dfa.allStates, StateSet.mem_union, ← mem_states_determinize_iff_isFreshIn]
  exact or_iff_left_of_imp (mem_states_of_mem_accept next)

end Nfa

/-- What takes states from the supply. Patterns and automata may be any, also what was built before. -/
inductive Operation where
  /-- Takes one state. -/
  | fresh
  | compile (pattern : Pattern)
  /-- Compiles a pattern to see whether it stands for a text. -/
  | matching (pattern : Pattern) (text : List Char)
  | determinize (nfa : Nfa)

namespace Operation

/-- What is next in the supply after an operation. -/
def after : Operation → (next : Nat) → Nat
  | fresh, next => (State.take next).2
  | compile pattern, next => (pattern.compile next).2
  | matching pattern text, next => (pattern.matchesFrom next text).2
  | determinize nfa, next => (nfa.determinize next).2

/-- The states of what an operation builds; matching builds the automaton that answers. -/
def introduced : Operation → (next : Nat) → StateSet
  | fresh, next => .singleton (State.take next).1
  | compile pattern, next => (pattern.compile next).1.allStates
  | matching pattern _, next => (pattern.compile next).1.allStates
  | determinize nfa, next => (nfa.determinize next).1.allStates

/-- How many states an operation takes: for an automaton that is determinised, as many as the result
has on its rules and as its start. -/
def cost : Operation → (next : Nat) → Nat
  | fresh, _ => 1
  | compile pattern, _ => pattern.stateCount
  | matching pattern _, _ => pattern.stateCount
  | determinize nfa, next => (nfa.determinize next).1.states.toList.length

/-- An operation introduces exactly the states that it takes. -/
theorem mem_introduced {operation : Operation} {next : Nat} {s : State} :
    s ∈ operation.introduced next ↔ s.IsFreshIn next (operation.after next) := by
  cases operation with
  | fresh =>
    rw [introduced, StateSet.mem_singleton, after, State.take, State.IsFreshIn]
    constructor
    · rintro rfl
      exact ⟨next, rfl, by omega, by omega⟩
    · rintro ⟨id, rfl, least, most⟩
      rw [Nat.le_antisymm (Nat.le_of_lt_succ most) least]
  | compile pattern => exact Pattern.mem_allStates_compile
  | matching pattern text => exact Pattern.mem_allStates_compile
  | determinize nfa => exact Nfa.mem_allStates_determinize

theorem after_eq_add_cost (operation : Operation) (next : Nat) :
    operation.after next = next + operation.cost next := by
  cases operation with
  | fresh => rfl
  | compile pattern => exact Pattern.next_fragment pattern next
  | matching pattern text => exact Pattern.next_fragment pattern next
  | determinize nfa =>
    rw [after, cost, StateSet.length_of_isFreshIn fun _ => Nfa.mem_states_determinize_iff_isFreshIn,
      Nfa.next_determinize, Nat.add_sub_cancel_left]

/-- An operation at its turn: the supply has come to `before`. -/
structure Step where
  operation : Operation
  before : Nat

namespace Step

def after (step : Step) : Nat := step.operation.after step.before

def introduced (step : Step) : StateSet := step.operation.introduced step.before

def cost (step : Step) : Nat := step.operation.cost step.before

end Step

/-- Operations one after the other, each with the supply that the one before it has left. -/
def steps : List Operation → (next : Nat) → List Step
  | [], _ => []
  | operation :: rest, next => ⟨operation, next⟩ :: steps rest (operation.after next)

theorem le_before_of_mem_steps {operations : List Operation} {next : Nat} {step : Step}
    (member : step ∈ steps operations next) : next ≤ step.before := by
  induction operations generalizing next with
  | nil => exact absurd member List.not_mem_nil
  | cons operation rest ih =>
    rcases List.mem_cons.mp member with rfl | later
    · exact Nat.le_refl _
    · have forward := after_eq_add_cost operation next
      exact Nat.le_trans (by omega) (ih later)

/-- What is introduced later is introduced for the first time. -/
theorem pairwise_steps (operations : List Operation) (next : Nat) :
    (steps operations next).Pairwise fun earlier later =>
      ∀ s ∈ earlier.introduced, s ∉ later.introduced := by
  induction operations generalizing next with
  | nil => exact .nil
  | cons operation rest ih =>
    refine List.pairwise_cons.mpr ⟨fun later member s inFirst inLater => ?_, ih _⟩
    have first : s.IsFreshIn next (operation.after next) := mem_introduced.mp inFirst
    have second : s.IsFreshIn later.before later.after := mem_introduced.mp inLater
    have apart := second.mono (le_before_of_mem_steps member) (Nat.le_refl _)
    exact State.not_isFreshIn_of_isFreshIn first apart

/-- In any sequence of operations each introduces exactly the states from where the supply was to
where it leaves it, as many as it costs. So no two operations introduce the same state, and none
introduces a labelled one. -/
theorem steps_share_no_state (operations : List Operation) (next : Nat) :
    (∀ step ∈ steps operations next,
      step.before ≤ step.after ∧ step.after = step.before + step.cost ∧
        ∀ s, s ∈ step.introduced ↔ ∃ id, s = .fresh id ∧ step.before ≤ id ∧ id < step.after) ∧
    ((steps operations next).Pairwise fun earlier later =>
      ∀ s ∈ earlier.introduced, s ∉ later.introduced) ∧
    ∀ step ∈ steps operations next, ∀ label, .labelled label ∉ step.introduced := by
  refine ⟨fun step _ => ?_, pairwise_steps operations next, fun step _ label member => ?_⟩
  · have forward : step.after = step.before + step.cost := after_eq_add_cost _ _
    exact ⟨by omega, forward, fun s => mem_introduced⟩
  · obtain ⟨_, same, _⟩ := mem_introduced.mp member
    cases same

end Operation

end PatternAutomata
