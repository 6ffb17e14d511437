import Mathlib.Data.List.Nodup
import PatternAutomata.Proofs.Search

/-!
# The worklist of a search

`Loop` is the course of a search with all that is put onto its worklist and taken off it. Every
search through finitely many nodes has such a course and ends with nothing left (`loop_run`); each
node that can be reached from its seeds is put onto the worklist once and taken off it once
(`loop_ofList`).
-/
namespace PatternAutomata.Search

variable {α : Type} [BEq α] [Hashable α]

/-- A search runs until its worklist is empty: it takes off the nodes `popped` and puts on the nodes
`pushed`, both in the order in which it does so. -/
inductive Loop (successors : α → List α) :
    Search α → (pushed popped : List α) → Search α → Prop
  | done {search : Search α} (empty : search.pending = []) : Loop successors search [] [] search
  | turn {search last : Search α} {node : α} {rest new pushed popped : List α}
      (taken : search.pending = node :: rest)
      (put : (search.step successors node rest).pending = new.reverse ++ rest)
      (later : Loop successors (search.step successors node rest) pushed popped last) :
      Loop successors search (new ++ pushed) (node :: popped) last

/-- What is found goes onto the worklist, and nothing else does. -/
theorem exists_new_foldl_discover (search : Search α) (nodes : List α) :
    ∃ new : List α,
      (nodes.foldl discover search).pending = new.reverse ++ search.pending ∧
      (nodes.foldl discover search).found = new.reverse ++ search.found := by
  induction nodes generalizing search with
  | nil => exact ⟨[], rfl, rfl⟩
  | cons node rest ih =>
    obtain ⟨new, pending, found⟩ := ih (search.discover node)
    rw [List.foldl_cons, pending, found]
    unfold discover
    split
    · exact ⟨new, rfl, rfl⟩
    · exact ⟨node :: new, by simp, by simp⟩

theorem exists_new_step (successors : α → List α) (search : Search α) (node : α) (rest : List α) :
    ∃ new : List α,
      (search.step successors node rest).pending = new.reverse ++ rest ∧
      (search.step successors node rest).found = new.reverse ++ search.found :=
  exists_new_foldl_discover _ _

theorem suffix_found_foldl_discover (search : Search α) (nodes : List α) :
    search.found <:+ (nodes.foldl discover search).found := by
  obtain ⟨new, _, found⟩ := exists_new_foldl_discover search nodes
  exact found ▸ List.suffix_append _ _

theorem suffix_found_step (successors : α → List α) (search : Search α) (node : α)
    (rest : List α) : search.found <:+ (search.step successors node rest).found := by
  obtain ⟨new, _, found⟩ := exists_new_step successors search node rest
  exact found ▸ List.suffix_append _ _

/-- What has been found stays found, in its place. -/
theorem Loop.suffix_found {successors : α → List α} {search last : Search α}
    {pushed popped : List α} (loop : Loop successors search pushed popped last) :
    search.found <:+ last.found := by
  induction loop with
  | done _ => exact List.suffix_refl _
  | turn _ _ _ ih => exact (suffix_found_step _ _ _ _).trans ih

theorem visited_step (successors : α → List α) (search : Search α) (node : α) (rest : List α) :
    (search.step successors node rest).visited = node :: search.visited :=
  visited_foldl_discover _ _

/-- The loop ends, and the search has kept what it put on and what it took off. -/
theorem loop_run [LawfulBEq α] (successors : α → List α) (bounded : Bounded successors)
    (search : Search α) :
    ∃ pushed popped, Loop successors search pushed popped (run successors bounded search) ∧
      (run successors bounded search).found = pushed.reverse ++ search.found ∧
      (run successors bounded search).visited = popped.reverse ++ search.visited := by
  fun_induction run successors bounded search with
  | case1 search done => exact ⟨[], [], .done done, rfl, rfl⟩
  | case2 search node rest taken ih =>
    -- the search keeps the newest first, the two records keep the oldest first
    obtain ⟨pushed, popped, later, found, visited⟩ := ih
    obtain ⟨new, put, more⟩ := exists_new_step successors search node rest
    refine ⟨new ++ pushed, node :: popped, .turn taken put later, ?_, ?_⟩
    · rw [found, more, List.reverse_append, List.append_assoc]
    · rw [visited, visited_step, List.reverse_cons, List.append_assoc, List.singleton_append]

/-- At the beginning everything that has been found is on the worklist. -/
theorem pending_ofList (seeds : List α) :
    (ofList seeds).pending = (ofList seeds).found ∧ (ofList seeds).visited = [] := by
  obtain ⟨new, pending, found⟩ := exists_new_foldl_discover (start : Search α) seeds
  refine ⟨?_, visited_foldl_discover _ _⟩
  rw [ofList, pending, found]
  rfl

theorem pending_ofList_singleton (seed : α) : (ofList [seed]).pending = [seed] := by
  simp [ofList, discover, start]

/-- A search from some seeds puts onto its worklist, then or later, each node that can be reached,
no node twice, and takes off each of them once. -/
theorem loop_ofList [LawfulBEq α] (successors : α → List α) (bounded : Bounded successors)
    (seeds : List α) :
    ∃ pushed popped,
      Loop successors (ofList seeds) pushed popped (run successors bounded (ofList seeds)) ∧
      (run successors bounded (ofList seeds)).inOrderFound =
        (ofList seeds).pending.reverse ++ pushed ∧
      (run successors bounded (ofList seeds)).inOrderTaken = popped ∧
      ((ofList seeds).pending.reverse ++ pushed).Nodup ∧
      popped.Perm ((ofList seeds).pending.reverse ++ pushed) ∧
      ∀ a, a ∈ popped ↔ Reachable successors seeds a := by
  obtain ⟨pushed, popped, course, found, visited⟩ := loop_run successors bounded (ofList seeds)
  obtain ⟨pending, nothing⟩ := pending_ofList seeds
  have all_pushed : (run successors bounded (ofList seeds)).inOrderFound =
      (ofList seeds).pending.reverse ++ pushed := by
    rw [inOrderFound, found, pending, List.reverse_append, List.reverse_reverse]
  have all_popped : (run successors bounded (ofList seeds)).inOrderTaken = popped := by
    rw [inOrderTaken, visited, nothing, List.append_nil, List.reverse_reverse]
  have taken : popped.Perm (run successors bounded (ofList seeds)).found := by
    rw [← all_popped]
    exact (List.reverse_perm _).trans (visited_perm_found successors bounded seeds)
  refine ⟨pushed, popped, course, all_pushed, all_popped, ?_, ?_, fun a => ?_⟩
  · rw [← all_pushed]
    exact List.nodup_reverse.mpr (nodup_found_run successors bounded seeds)
  · rw [← all_pushed]
    exact taken.trans (List.reverse_perm _).symm
  · rw [taken.mem_iff, mem_found_run]

end PatternAutomata.Search
