import PatternAutomata.State.Set

/-!
# Subsets of a list of states

A list of states has finitely many subsets, which bounds every search through sets of states.
-/
namespace PatternAutomata.StateSet

/-- The sets whose members are all in a list. -/
def subsets : List State → List StateSet
  | [] => [empty]
  | s :: rest => subsets rest ++ (subsets rest).map (·.insert s)

theorem mem_subsets {list : List State} {set : StateSet} (within : ∀ s ∈ set, s ∈ list) :
    set ∈ subsets list := by
  induction list generalizing set with
  | nil =>
    have : set = empty := ext fun s => ⟨fun h => absurd (within s h) List.not_mem_nil,
      fun h => absurd h (not_mem_empty s)⟩
    simp [subsets, this]
  | cons s rest ih =>
    unfold subsets
    by_cases member : s ∈ set
    · refine List.mem_append_right _ (List.mem_map.2 ⟨ofList (set.toList.filter (· ≠ s)), ?_, ?_⟩)
      · refine ih fun t ht => ?_
        have ⟨inSet, other⟩ := List.mem_filter.1 (mem_ofList.1 ht)
        exact (List.mem_cons.1 (within t inSet)).resolve_left (of_decide_eq_true other)
      · refine ext fun t => ?_
        rw [mem_insert, mem_ofList, List.mem_filter, decide_eq_true_eq, mem_toList]
        by_cases same : t = s
        · simp [same, member]
        · simp [same]
    · refine List.mem_append_left _ (ih fun t ht => ?_)
      exact (List.mem_cons.1 (within t ht)).resolve_left fun same => member (same ▸ ht)

end PatternAutomata.StateSet
