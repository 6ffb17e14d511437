import Mathlib.Data.Set.Function
import PatternAutomata.Proofs.Determinize
import PatternAutomata.Proofs.States

/-!
# The accessible subset automaton

The states of a determinised automaton stand, one to one, for the sets of states that texts over the
alphabet lead to. Its rules are complete: one rule leaves every state on every symbol, into the state
that stands for what the symbol leads to, and there are no others
(`determinize_isSubsetAutomaton`). Accessible sets are said by walks, without the search that finds
them (`accessible_iff_mem_subsets`).
-/
namespace PatternAutomata.Nfa

variable {nfa : Nfa} {set : StateSet}

/-- The states that walks from the start lead to, for some text over the alphabet. -/
def Accessible (nfa : Nfa) (set : StateSet) : Prop :=
  ∃ text : List Char, (∀ symbol ∈ text, nfa.Knows symbol) ∧
    ∀ t, t ∈ set ↔ Walk nfa.rules nfa.start text t

/-- The states of `dfa` stand for the accessible sets of `nfa`, and its rules and accept states are
those of the sets that they stand for. -/
structure IsSubsetAutomaton (nfa : Nfa) (dfa : Dfa) (setOf : State → StateSet) : Prop where
  bijective : Set.BijOn setOf {s | s ∈ dfa.states} {set | nfa.Accessible set}
  start : ∀ t, t ∈ setOf dfa.start ↔ Walk nfa.rules nfa.start [] t
  /-- One rule, listed once, leaves a state on a symbol, and leads to the closure of what the symbol
  leads to from the set. -/
  complete : ∀ s ∈ dfa.states, ∀ symbol ∈ nfa.table.alphabet, ∃ target,
    dfa.rules.filter (·.appliesTo s (some symbol)) = [.reading s symbol target] ∧
      ∀ t, t ∈ setOf target ↔
        ∃ r ∈ setOf s, ∃ r', Rule.reading r symbol r' ∈ nfa.rules ∧ Walk nfa.rules r' [] t
  only : ∀ rule ∈ dfa.rules, rule.source ∈ dfa.states ∧
    ∃ symbol ∈ nfa.table.alphabet, rule.symbol? = some symbol
  accept : ∀ s ∈ dfa.states, s ∈ dfa.accept ↔ ∃ t ∈ setOf s, t ∈ nfa.accept
  accept_states : ∀ s ∈ dfa.accept, s ∈ dfa.states
  alphabet : dfa.alphabet = nfa.table.alphabet

theorem mem_initial {t : State} : t ∈ nfa.initial ↔ Walk nfa.rules nfa.start [] t := by
  rw [initial, RuleTable.mem_closure]
  simp only [StateSet.mem_singleton, exists_eq_left]
  rfl

theorem mem_after {symbol : Char} {t : State} : t ∈ nfa.after set symbol ↔
    ∃ r ∈ set, ∃ r', Rule.reading r symbol r' ∈ nfa.rules ∧ Walk nfa.rules r' [] t := by
  rw [after, RuleTable.mem_closure]
  constructor
  · rintro ⟨r', moved, free⟩
    obtain ⟨r, member, rule⟩ := RuleTable.mem_move.mp moved
    exact ⟨r, member, r', rule, free⟩
  · rintro ⟨r, member, r', rule, free⟩
    exact ⟨r', RuleTable.mem_move.mpr ⟨r, member, rule⟩, free⟩

section Accessible

/-- The sets that are accessible are those that runs come to. -/
theorem accessible_iff_current : nfa.Accessible set ↔
    ∃ text : List Char, (∀ symbol ∈ text, nfa.Knows symbol) ∧
      set = (nfa.run.readText text).current := by
  have current : ∀ text t, t ∈ (nfa.run.readText text).current ↔ Walk nfa.rules nfa.start text t := by
    intro text t
    rw [Run.mem_current_readText]
    simp only [nfa_run, frontier_run, StateSet.mem_singleton, exists_eq_left]
  constructor
  · rintro ⟨text, known, members⟩
    exact ⟨text, known, StateSet.ext fun t => (members t).trans (current text t).symm⟩
  · rintro ⟨text, known, rfl⟩
    exact ⟨text, known, current text⟩

theorem Accessible.initial (nfa : Nfa) : nfa.Accessible nfa.initial :=
  accessible_iff_current.mpr ⟨[], by simp, rfl⟩

theorem Accessible.after (accessible : nfa.Accessible set) {symbol : Char}
    (known : nfa.Knows symbol) : nfa.Accessible (nfa.after set symbol) := by
  obtain ⟨text, before, rfl⟩ := accessible_iff_current.mp accessible
  refine accessible_iff_current.mpr ⟨text ++ [symbol], fun c member => ?_, ?_⟩
  · rcases List.mem_append.mp member with member | member
    · exact before c member
    · rw [List.mem_singleton.mp member]
      exact known
  · have moved : nfa.run.readText (text ++ [symbol]) = (nfa.run.readText text).read symbol := by
      rw [Run.readText, List.foldl_append]
      rfl
    rw [moved, Run.current_read, Run.nfa_readText, nfa_run]

/-- The search finds exactly the accessible sets. -/
theorem accessible_iff_mem_subsets : nfa.Accessible set ↔ set ∈ nfa.subsets := by
  constructor
  · intro accessible
    obtain ⟨text, known, rfl⟩ := accessible_iff_current.mp accessible
    exact (run_determinize 0 known).1
  · intro found
    obtain ⟨seed, isSeed, path⟩ := mem_subsets_iff.mp found
    induction path with
    | refl =>
      rw [List.mem_singleton.mp isSeed]
      exact .initial nfa
    | tail before next ih =>
      obtain ⟨symbol, listed, rfl⟩ := List.mem_map.mp next
      have accessible := ih (mem_subsets_iff.mpr ⟨seed, isSeed, before⟩)
      exact accessible.after (mem_alphabet_iff_knows.mp listed)

end Accessible

section Determinize

variable (next : Nat)

theorem mem_rules_determinize {rule : Rule} : rule ∈ (nfa.determinize next).1.rules ↔
    ∃ set ∈ nfa.subsets, ∃ symbol, nfa.Knows symbol ∧ rule = nfa.subsetRule next set symbol := by
  have taken : ∀ set, set ∈ (nfa.subsetSearch nfa.table.alphabet).inOrderTaken ↔
      set ∈ nfa.subsets := fun set => (taken_perm_subsets nfa).mem_iff
  rw [Dfa.rules, toList_determinize, subsetRules, List.mem_flatMap]
  constructor
  · rintro ⟨set, listed, member⟩
    obtain ⟨symbol, known, rfl⟩ := List.mem_map.mp member
    exact ⟨set, (taken set).mp listed, symbol, mem_alphabet_iff_knows.mp known, rfl⟩
  · rintro ⟨set, found, symbol, known, rfl⟩
    exact ⟨set, (taken set).mpr found, List.mem_map_of_mem (mem_alphabet_iff_knows.mpr known)⟩

/-- The state of a set that is found is used: a set other than the first is where some rule leads. -/
theorem subsetName_mem_states (found : set ∈ nfa.subsets) :
    nfa.subsetName next set ∈ (nfa.determinize next).1.states := by
  rw [Dfa.mem_states, start_determinize]
  obtain ⟨seed, isSeed, path⟩ := mem_subsets_iff.mp found
  cases path with
  | refl =>
    rw [List.mem_singleton.mp isSeed]
    exact .inl rfl
  | @tail before _ path next_set =>
    obtain ⟨symbol, listed, rfl⟩ := List.mem_map.mp next_set
    have earlier : before ∈ nfa.subsets := mem_subsets_iff.mpr ⟨seed, isSeed, path⟩
    have rule := (mem_rules_determinize next).mpr
      ⟨before, earlier, symbol, mem_alphabet_iff_knows.mp listed, rfl⟩
    exact .inr ⟨_, rule, .inr rfl⟩

/-- The states of the deterministic automaton are those of the sets that are found. -/
theorem mem_states_determinize {s : State} : s ∈ (nfa.determinize next).1.states ↔
    ∃ set ∈ nfa.subsets, s = nfa.subsetName next set := by
  constructor
  · intro member
    rw [Dfa.mem_states, start_determinize] at member
    rcases member with rfl | ⟨rule, member, mentioned⟩
    · exact ⟨nfa.initial, nfa.initial_mem_subsets, rfl⟩
    · obtain ⟨set, found, symbol, known, rfl⟩ := (mem_rules_determinize next).mp member
      rcases mentioned with rfl | rfl
      · exact ⟨set, found, rfl⟩
      · exact ⟨_, after_mem_subsets found known, rfl⟩
  · rintro ⟨set, found, rfl⟩
    exact subsetName_mem_states next found

theorem mem_states_of_mem_accept {s : State} (accepted : s ∈ (nfa.determinize next).1.accept) :
    s ∈ (nfa.determinize next).1.states := by
  rw [accept_determinize, StateSet.mem_ofList] at accepted
  obtain ⟨set, kept, rfl⟩ := List.mem_map.mp accepted
  exact subsetName_mem_states next (List.mem_filter.mp kept).1

/-- One rule, listed once, leaves the state of a set on a symbol of the alphabet. -/
theorem filter_rules_determinize (found : set ∈ nfa.subsets) {symbol : Char}
    (known : symbol ∈ nfa.table.alphabet) :
    (nfa.determinize next).1.rules.filter
        (·.appliesTo (nfa.subsetName next set) (some symbol)) =
      [nfa.subsetRule next set symbol] := by
  rw [Dfa.rules, ← RuleTable.rulesFor_eq_filter]
  exact rulesFor_determinize_of_knows next found (mem_alphabet_iff_knows.mp known)

/-- The start has a rule on every symbol, so no symbol is lost. -/
theorem alphabet_determinize (nfa : Nfa) :
    (nfa.determinize next).1.table.alphabet = nfa.table.alphabet := by
  apply RuleTable.alphabet_eq_of_mem_iff
  intro symbol
  rw [RuleTable.mem_alphabet, mem_alphabet_iff_knows]
  constructor
  · rintro ⟨rule, member, reads⟩
    obtain ⟨_, _, c, known, rfl⟩ := (mem_rules_determinize next).mp member
    cases reads
    exact known
  · intro known
    have rule := (mem_rules_determinize next).mpr
      ⟨nfa.initial, nfa.initial_mem_subsets, symbol, known, rfl⟩
    exact ⟨_, rule, rfl⟩

/-- The set that a state stands for, by its place among the sets. -/
def subsetOf (nfa : Nfa) (next : Nat) : State → StateSet
  | .fresh id => nfa.subsets.getD (id - next) .empty
  | .labelled _ => .empty

@[simp] theorem subsetOf_subsetName (found : set ∈ nfa.subsets) :
    nfa.subsetOf next (nfa.subsetName next set) = set := by
  rw [subsetName, subsetOf, Nat.add_sub_cancel_left, List.getD_eq_getElem?_getD,
    List.getElem?_idxOf found, Option.getD_some]

theorem bijOn_subsetOf (nfa : Nfa) : Set.BijOn (nfa.subsetOf next)
    {s | s ∈ (nfa.determinize next).1.states} {set | nfa.Accessible set} := by
  refine ⟨fun s member => ?_, fun s hs t ht same => ?_, fun set accessible => ?_⟩
  · obtain ⟨set, found, rfl⟩ := (mem_states_determinize next).mp member
    change nfa.Accessible (nfa.subsetOf next (nfa.subsetName next set))
    rw [subsetOf_subsetName next found]
    exact accessible_iff_mem_subsets.mpr found
  · obtain ⟨left, inLeft, rfl⟩ := (mem_states_determinize next).mp hs
    obtain ⟨right, inRight, rfl⟩ := (mem_states_determinize next).mp ht
    rw [subsetOf_subsetName next inLeft, subsetOf_subsetName next inRight] at same
    rw [same]
  · have found := accessible_iff_mem_subsets.mp accessible
    exact ⟨nfa.subsetName next set, subsetName_mem_states next found,
      subsetOf_subsetName next found⟩

/-- Determinising gives the accessible subset automaton: its states stand one to one for the accessible
sets, each with one rule on every symbol of the alphabet and with no other rules. -/
theorem determinize_isSubsetAutomaton (nfa : Nfa) (next : Nat) :
    ∃ setOf, nfa.IsSubsetAutomaton (nfa.determinize next).1 setOf := by
  refine ⟨nfa.subsetOf next, bijOn_subsetOf next nfa, fun t => ?_, fun s member symbol known => ?_,
    fun rule member => ?_, fun s member => ?_, fun s accepted => mem_states_of_mem_accept next accepted,
    (Dfa.alphabet_eq _).trans (alphabet_determinize next nfa)⟩
  · rw [start_determinize, subsetOf_subsetName next nfa.initial_mem_subsets]
    exact mem_initial
  · obtain ⟨set, found, rfl⟩ := (mem_states_determinize next).mp member
    have after := after_mem_subsets found (mem_alphabet_iff_knows.mp known)
    refine ⟨_, filter_rules_determinize next found known, fun t => ?_⟩
    rw [subsetOf_subsetName next after, subsetOf_subsetName next found]
    exact mem_after
  · obtain ⟨set, found, symbol, known, rfl⟩ := (mem_rules_determinize next).mp member
    exact ⟨subsetName_mem_states next found, symbol, mem_alphabet_iff_knows.mpr known, rfl⟩
  · obtain ⟨set, found, rfl⟩ := (mem_states_determinize next).mp member
    rw [subsetName_mem_accept next found, subsetOf_subsetName next found]
    exact StateSet.meets_iff

end Determinize

end PatternAutomata.Nfa
