import PatternAutomata.Proofs.Discovery
import PatternAutomata.Proofs.States
import PatternAutomata.Proofs.Walk

/-!
# The course of a closure

The closure of a set comes from a search along epsilon rules that begins with the states of the set on
its worklist. In whichever order they are put there, the search ends, has taken each state of the
closure once and no other state, and what it has found is the same (`closure_takes_each_once`).
-/
namespace PatternAutomata.RuleTable

variable {table : RuleTable} {set : StateSet}

/-- The closure of a set is what any number of epsilon rules lead to from its members. -/
theorem mem_closure_iff_path {t : State} : t ∈ table.closure set ↔
    ∃ s ∈ set, Relation.ReflTransGen (fun a b => Rule.epsilon a b ∈ table.toList) s t := by
  rw [closure, StateSet.mem_ofList, freeSearch, Search.mem_found_run, Search.Reachable]
  simp only [mem_freeMoves, StateSet.mem_toList]

theorem mem_closure_iff_reachable {order : List State} (listed : order.Perm set.toList) {t : State} :
    t ∈ table.closure set ↔ Search.Reachable table.freeMoves order t := by
  rw [closure, StateSet.mem_ofList, freeSearch, Search.mem_found_run, Search.Reachable,
    Search.Reachable]
  simp only [listed.mem_iff]

/-- Whatever the order in which the states of a set are put onto the worklist, the loop that follows
epsilon rules ends, takes each state of the closure off the worklist once, and finds nothing else. The
closure has exactly the states that epsilon rules lead to from the set. -/
theorem closure_takes_each_once (table : RuleTable) (set : StateSet) (order : List State)
    (listed : order.Perm set.toList) :
    let search := Search.run table.freeMoves table.freeMoves_bounded (.ofList order)
    (Search.ofList order).pending = order.reverse ∧
    (∃ pushed popped, Search.Loop table.freeMoves (.ofList order) pushed popped search ∧
      (order ++ pushed).Nodup ∧ popped.Nodup ∧ ∀ t, t ∈ popped ↔ t ∈ table.closure set) ∧
    StateSet.ofList search.found = table.closure set ∧
    ∀ t, t ∈ table.closure set ↔
      ∃ s ∈ set, Relation.ReflTransGen (fun a b => Rule.epsilon a b ∈ table.toList) s t := by
  intro search
  have pending : (Search.ofList order).pending = order.reverse :=
    Search.pending_ofList_of_nodup (listed.nodup_iff.mpr set.nodup_toList)
  refine ⟨pending, ?_, ?_, fun t => mem_closure_iff_path⟩
  · obtain ⟨pushed, popped, course, _, _, once, all, members⟩ :=
      Search.loop_ofList table.freeMoves table.freeMoves_bounded order
    rw [pending, List.reverse_reverse] at once all
    refine ⟨pushed, popped, course, once, all.nodup_iff.mpr once, fun t => ?_⟩
    rw [members, mem_closure_iff_reachable listed]
  · apply StateSet.ext
    intro t
    rw [StateSet.mem_ofList, Search.mem_found_run, mem_closure_iff_reachable listed]

/-- A cycle of epsilon rules, one of them listed twice, with a rule from a state to itself. -/
def cycle : RuleTable :=
  .ofList [.epsilon (.labelled 1) (.labelled 2), .epsilon (.labelled 2) (.labelled 2),
    .epsilon (.labelled 2) (.labelled 3), .epsilon (.labelled 1) (.labelled 2),
    .epsilon (.labelled 3) (.labelled 1), .reading (.labelled 3) 'a' (.labelled 4)]

/-- A state of the cycle, and one that no rule mentions. -/
def seeds : StateSet := (StateSet.singleton (.labelled 9)).insert (.labelled 1)

theorem cycle_taken_once :
    [State.labelled 9, .labelled 1].Perm seeds.toList ∧
      (Search.ofList [State.labelled 9, .labelled 1]).pending = [.labelled 1, .labelled 9] ∧
      ∃ pushed popped, Search.Loop cycle.freeMoves (.ofList [.labelled 9, .labelled 1]) pushed popped
          (.run cycle.freeMoves cycle.freeMoves_bounded (.ofList [.labelled 9, .labelled 1])) ∧
        popped.Nodup ∧ State.labelled 3 ∈ popped ∧ State.labelled 9 ∈ popped := by
  have listed : [State.labelled 9, .labelled 1].Perm seeds.toList := by decide
  obtain ⟨pending, ⟨pushed, popped, course, _, once, members⟩, _, reached⟩ :=
    closure_takes_each_once cycle seeds [.labelled 9, .labelled 1] listed
  refine ⟨listed, pending, pushed, popped, course, once, ?_, ?_⟩
  · have first : Rule.epsilon (.labelled 1) (.labelled 2) ∈ cycle.toList := by decide
    have second : Rule.epsilon (.labelled 2) (.labelled 3) ∈ cycle.toList := by decide
    exact (members _).mpr ((reached _).mpr ⟨.labelled 1, by decide, .tail (.single first) second⟩)
  · exact (members _).mpr ((reached _).mpr ⟨.labelled 9, by decide, .refl⟩)

end PatternAutomata.RuleTable
