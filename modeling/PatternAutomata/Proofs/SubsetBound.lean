import Mathlib.Algebra.Group.Nat.Defs
import Mathlib.Data.List.Perm.Subperm
import PatternAutomata.Proofs.Supply
import PatternAutomata.Proofs.Worklist

/-!
# How large a determinisation gets

The sets that are found hold only the start and states that rules lead to. So with `k` such states
there are at most `2 ^ k` sets, and the loop that finds them takes each of them once and then ends.
The automaton has a state for each set that was put onto the worklist and a block of rules for each
that was taken off it (`determinize_bounded`).
-/
namespace PatternAutomata

theorem StateSet.length_subsets (list : List State) : (subsets list).length = 2 ^ list.length := by
  induction list with
  | nil => rfl
  | cons s rest ih =>
    rw [subsets, List.length_append, List.length_map, ih, List.length_cons, Nat.pow_succ]
    omega

namespace Nfa

variable {nfa : Nfa} {set : StateSet}

/-- The start state and the states that rules lead to. -/
def entered (nfa : Nfa) : StateSet := .ofList (nfa.start :: nfa.table.allTargets)

theorem mem_entered {s : State} :
    s ∈ nfa.entered ↔ s = nfa.start ∨ ∃ rule ∈ nfa.rules, rule.target = s := by
  rw [entered, StateSet.mem_ofList, List.mem_cons, RuleTable.allTargets, List.mem_map]
  rfl

/-- A walk ends where it begins or where a rule leads. -/
theorem mem_entered_of_walk {s t : State} {text : List Char} (walk : Walk nfa.rules s text t)
    (inside : s ∈ nfa.entered) : t ∈ nfa.entered := by
  induction walk with
  | done => exact inside
  | step member _ ih => exact ih (mem_entered.mpr (.inr ⟨_, member, rfl⟩))

theorem mem_entered_of_mem_subsets (found : set ∈ nfa.subsets) : ∀ s ∈ set, s ∈ nfa.entered := by
  intro s member
  obtain ⟨text, _, members⟩ := accessible_iff_mem_subsets.mpr found
  exact mem_entered_of_walk ((members s).mp member) (mem_entered.mpr (.inl rfl))

/-- There are no more sets than subsets of what can be entered. -/
theorem length_subsets_le (nfa : Nfa) : nfa.subsets.length ≤ 2 ^ nfa.entered.toList.length := by
  have within : nfa.subsets ⊆ StateSet.subsets nfa.entered.toList := by
    intro set found
    exact StateSet.mem_subsets (mem_entered_of_mem_subsets found)
  calc nfa.subsets.length
      ≤ (StateSet.subsets nfa.entered.toList).length :=
        (nfa.nodup_subsets.subperm within).length_le
    _ = 2 ^ nfa.entered.toList.length := StateSet.length_subsets _

section Determinize

variable (nfa : Nfa) (next : Nat)

/-- In the order in which sets are found their names are in the order of the supply. -/
theorem map_subsetName_subsets :
    nfa.subsets.map (nfa.subsetName next) =
      (List.range' next nfa.subsets.length).map .fresh := by
  refine List.ext_getElem (by simp) fun place inSets inRange => ?_
  rw [List.getElem_map, List.getElem_map, List.getElem_range', subsetName,
    nfa.nodup_subsets.idxOf_getElem, Nat.one_mul]

/-- A determinised automaton has a state for every set. -/
theorem toList_allStates_determinize :
    (nfa.determinize next).1.allStates.toList = nfa.subsets.map (nfa.subsetName next) := by
  rw [StateSet.toList_of_isFreshIn fun _ => mem_allStates_determinize, next_determinize,
    Nat.add_sub_cancel_left, map_subsetName_subsets]

theorem length_allStates_determinize :
    (nfa.determinize next).1.allStates.toList.length = nfa.subsets.length := by
  rw [toList_allStates_determinize, List.length_map]

/-- It has a rule for every set and every symbol. -/
theorem length_rules_determinize :
    (nfa.determinize next).1.rules.length = nfa.subsets.length * nfa.table.alphabet.length := by
  rw [Dfa.rules, toList_determinize, subsetRules, List.length_flatMap]
  simp [(taken_perm_subsets nfa).length_eq]

/-- The loop that determinises ends: it puts every set that texts lead to onto its worklist once and
takes it off once, in the course that a search through the sets has. The states of the automaton are
those that stand for the sets put onto it, in this order, and its rules are those out of the sets taken
off it, again in order. So what comes of it is at most exponential in the number of states that can be
entered. -/
theorem determinize_bounded :
    (∃ pushed popped,
      (Search.ofList [nfa.initial]).pending = [nfa.initial] ∧
      Search.Loop (nfa.row nfa.table.alphabet) (.ofList [nfa.initial]) pushed popped
        (nfa.subsetSearch nfa.table.alphabet) ∧
      (nfa.begun next).2.pending = [nfa.named next nfa.initial] ∧
      Construction.Loop nfa (nfa.begun next).2 (pushed.map (nfa.named next))
        (popped.map (nfa.named next)) ((nfa.begun next).2.run nfa) ∧
      (nfa.initial :: pushed).Nodup ∧ popped.Perm (nfa.initial :: pushed) ∧
      (∀ set, set ∈ popped ↔ nfa.Accessible set) ∧
      (nfa.determinize next).1.allStates.toList =
        (nfa.initial :: pushed).map (nfa.subsetName next) ∧
      (nfa.determinize next).1.rules =
        popped.flatMap fun set => nfa.table.alphabet.map (nfa.subsetRule next set)) ∧
    (nfa.determinize next).1.allStates.toList.length ≤ 2 ^ nfa.entered.toList.length ∧
    (nfa.determinize next).1.rules.length ≤
      2 ^ nfa.entered.toList.length * nfa.table.alphabet.length := by
  have bound := nfa.length_subsets_le
  refine ⟨?_, ?_, ?_⟩
  · obtain ⟨pushed, popped, course, found, taken, nodup, perm, members⟩ :=
      Search.loop_ofList (nfa.row nfa.table.alphabet) (nfa.row_bounded nfa.table.alphabet)
        [nfa.initial]
    have pending := Search.pending_ofList_singleton nfa.initial
    have begun := (tracks_begun nfa next).2
    rw [pending, List.reverse_singleton, List.singleton_append] at found nodup perm
    refine ⟨pushed, popped, pending, course, ?_, (begun.loop course rfl).1, nodup, perm,
      fun set => ?_, ?_, ?_⟩
    · rw [begun.pending, pending]
      rfl
    · rw [members, ← mem_subsets_iff, accessible_iff_mem_subsets]
    · rw [toList_allStates_determinize, ← found]
      rfl
    · rw [Dfa.rules, toList_determinize, ← taken]
      rfl
  · rw [length_allStates_determinize]
    exact bound
  · rw [length_rules_determinize]
    exact Nat.mul_le_mul_right _ bound

end Determinize

end Nfa

end PatternAutomata
