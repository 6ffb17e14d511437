import PatternAutomata.Proofs.Agreement
import PatternAutomata.Proofs.Renaming
import PatternAutomata.Proofs.Supply

/-!
# Determinising twice

A determinised automaton is already deterministic, so determinising it once more finds only sets of
one state: the state of a set is found when the set was (`mirrors_determinize`). The second result
is therefore the first one with its states numbered from somewhere else (`determinize_determinize`);
the dead state, which stood for no states at all, is an ordinary state the second time.
-/
namespace PatternAutomata

/-- The state that stands as far after `new` in the supply as the given one after `old`. -/
def State.renumber (old new : Nat) : State → State
  | labelled label => labelled label
  | fresh id => fresh (id - old + new)

/-- The automaton with other states in place of its own. -/
def Dfa.rename (f : State → State) (dfa : Dfa) : Dfa :=
  .ofReading (f dfa.start) (dfa.accept.image f) (dfa.rules.map (·.rename f)) <| by
    intro rule member
    obtain ⟨own, listed, rfl⟩ := List.mem_map.mp member
    exact dfa.reads own listed

section Rename

variable (f : State → State) (dfa : Dfa)

@[simp] theorem Dfa.start_rename : (dfa.rename f).start = f dfa.start := rfl

@[simp] theorem Dfa.accept_rename : (dfa.rename f).accept = dfa.accept.image f := rfl

@[simp] theorem Dfa.rules_rename : (dfa.rename f).rules = dfa.rules.map (·.rename f) := rfl

end Rename

namespace Nfa

variable {nfa : Nfa} {set : StateSet} {symbol : Char}

section Renumber

variable (old new : Nat)

theorem renumber_subsetName (nfa : Nfa) (set : StateSet) :
    (nfa.subsetName old set).renumber old new = nfa.subsetName new set := by
  simp only [subsetName, State.renumber, Nat.add_sub_cancel_left, Nat.add_comm]

theorem rename_subsetRule (nfa : Nfa) (set : StateSet) (symbol : Char) :
    (nfa.subsetRule old set symbol).rename (.renumber old new) = nfa.subsetRule new set symbol := by
  simp only [Rule.rename, subsetRule, Rule.reading, renumber_subsetName]

/-- Determinising with the supply at another place numbers the states from there. -/
theorem determinize_eq_rename (nfa : Nfa) :
    (nfa.determinize new).1 = (nfa.determinize old).1.rename (.renumber old new) := by
  refine Dfa.eq_of_same ?_ ?_ ?_
  · rw [Dfa.start_rename, start_determinize, start_determinize, renumber_subsetName]
  · apply StateSet.ext
    intro s
    rw [Dfa.accept_rename, StateSet.mem_image, accept_determinize, accept_determinize]
    simp only [StateSet.mem_ofList, List.mem_map, exists_exists_and_eq_and, renumber_subsetName]
  · rw [Dfa.rules_rename, Dfa.rules, Dfa.rules, toList_determinize, toList_determinize,
      subsetRules, subsetRules, List.map_flatMap]
    refine List.flatMap_congr fun set _ => ?_
    rw [List.map_map]
    exact List.map_congr_left fun symbol _ => (rename_subsetRule old new nfa set symbol).symm

end Renumber

section Again

variable (next : Nat)

/-- A symbol leads from the state of a set to the state of the set after it, and nowhere else. -/
theorem after_toNfa_determinize (found : set ∈ nfa.subsets) (known : nfa.Knows symbol) :
    (nfa.determinize next).1.toNfa.after (.singleton (nfa.subsetName next set)) symbol =
      .singleton (nfa.subsetName next (nfa.after set symbol)) := by
  apply StateSet.ext
  intro t
  have only : (nfa.determinize next).1.candidates (nfa.subsetName next set) symbol =
      [nfa.subsetRule next set symbol] :=
    filter_rules_determinize next found (mem_alphabet_iff_knows.mpr known)
  rw [after, Dfa.closure_toNfa, Dfa.mem_move_toNfa, only]
  simp only [StateSet.mem_singleton, List.mem_singleton, exists_eq_left]
  exact eq_comm

theorem mirrors_determinize (nfa : Nfa) :
    nfa.Mirrors (fun set => .singleton (nfa.subsetName next set))
      (nfa.determinize next).1.toNfa where
  alphabet := by
    rw [Dfa.table_toNfa]
    exact alphabet_determinize next nfa
  initial := by
    rw [initial, Dfa.closure_toNfa, ← start_determinize]
    rfl
  after _ found _ listed := after_toNfa_determinize next found (mem_alphabet_iff_knows.mp listed)
  injective left right inLeft _ same := by
    have member : nfa.subsetName next left ∈ StateSet.singleton (nfa.subsetName next right) := by
      rw [← same]
      exact StateSet.mem_singleton.mpr rfl
    exact (subsetName_inj inLeft).mp (StateSet.mem_singleton.mp member)
  accepts set found := by
    have named := subsetName_mem_accept next found
    rw [Bool.eq_iff_iff, StateSet.meets_iff, ← named]
    simp only [StateSet.mem_singleton, exists_eq_left]
    rfl

end Again

/-- Determinising a second time gives the first result with its states, which are all from the
supply, numbered from where the supply is the second time: the same start and accept states, and
the same rules in the same order. -/
theorem determinize_determinize (nfa : Nfa) (first second : Nat) :
    (∀ s ∈ (nfa.determinize first).1.allStates, ∃ id, s = .fresh id ∧ first ≤ id) ∧
    ((nfa.determinize first).1.toNfa.determinize second).1 =
      (nfa.determinize first).1.rename (.renumber first second) := by
  refine ⟨fun s member => ?_, ?_⟩
  · obtain ⟨id, rfl, least, _⟩ := mem_allStates_determinize.mp member
    exact ⟨id, rfl, least⟩
  · -- the second run is a run on the first automaton's sets from the second place in the supply
    rw [determinize_eq_of_mirrors (mirrors_determinize first nfa) second]
    exact determinize_eq_rename first second nfa

end Nfa

end PatternAutomata
