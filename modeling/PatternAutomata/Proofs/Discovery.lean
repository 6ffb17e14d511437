import Mathlib.Data.List.Dedup
import Mathlib.Order.Bounds.Basic
import PatternAutomata.Proofs.Worklist

/-!
# The order in which a search finds its nodes

A search meets its seeds and then the successors of each node that it takes; what it has found is
what it has met, each node where it was met first (`Recorded.found_eq`). The worklist keeps the order
of finding, so the node that is taken is always the one found last among those not taken yet
(`Recorded.isGreatest_taken`), and each node met is an old one or has the next place
(`Recorded.place_of_met`).
-/
namespace PatternAutomata.Search

variable {α : Type}

/-- What a search meets from its seeds on while it takes some nodes, as often as it meets it. -/
def met (successors : α → List α) (seeds taken : List α) : List α := seeds ++ taken.flatMap successors

theorem met_concat (successors : α → List α) (seeds taken : List α) (node : α) :
    met successors seeds (taken ++ [node]) = met successors seeds taken ++ successors node := by
  simp [met]

/-- In a list without repetitions nothing of a sublist stands in front of its head. -/
theorem exists_cut_of_sublist {node : α} {rest list : List α} (sub : (node :: rest).Sublist list)
    (nodup : list.Nodup) :
    ∃ newer older, list = newer ++ node :: older ∧ ∀ a ∈ newer, a ∉ node :: rest := by
  generalize whole : node :: rest = part at sub
  induction sub with
  | slnil => cases whole
  | @cons part list a sub ih =>
    subst whole
    have ⟨absent, nodup⟩ := List.nodup_cons.mp nodup
    obtain ⟨newer, older, rfl, apart⟩ := ih nodup rfl
    refine ⟨a :: newer, older, rfl, fun b member => ?_⟩
    rcases List.mem_cons.mp member with rfl | member
    · exact fun inside => absent (sub.subset inside)
    · exact apart b member
  | @cons_cons part list a sub ih =>
    cases whole
    exact ⟨[], list, rfl, fun b absent => absurd absent List.not_mem_nil⟩

variable [DecidableEq α]

theorem suffix_dedup_append (newer older : List α) : older.dedup <:+ (newer ++ older).dedup := by
  rw [List.dedup_append]
  exact List.suffix_union_right newer older.dedup

/-- Of the nodes met, `node` was met last for the first time among those not taken. -/
def IsLatest (met taken : List α) (node : α) : Prop :=
  ∃ newer older, met.reverse.dedup = newer ++ node :: older ∧ (∀ a ∈ newer, a ∈ taken) ∧ node ∉ taken

variable [Hashable α]

/-- Of a list with the latest first, `dedup` keeps each node where it came first. -/
theorem found_foldl_discover_eq_dedup {search : Search α} (accounted : search.Accounted)
    {latestFirst : List α} (before : search.found = latestFirst.dedup) (nodes : List α) :
    (nodes.foldl discover search).found = (nodes.reverse ++ latestFirst).dedup := by
  induction nodes generalizing search latestFirst with
  | nil => exact before
  | cons node rest ih =>
    have one : (search.discover node).found = (node :: latestFirst).dedup := by
      by_cases known : node ∈ latestFirst
      · have seen : search.seen.contains node = true := by
          rw [accounted.seen_iff, before, List.mem_dedup]
          exact known
        rw [discover, if_pos seen, List.dedup_cons_of_mem known, before]
      · have unseen : ¬ search.seen.contains node = true := by
          rw [accounted.seen_iff, before, List.mem_dedup]
          exact known
        rw [discover, if_neg unseen, List.dedup_cons_of_notMem known, before]
    rw [List.foldl_cons, ih (accounted.discover node) one, List.reverse_cons, List.append_assoc,
      List.singleton_append]

theorem found_ofList (seeds : List α) : (ofList seeds).found = seeds.reverse.dedup := by
  have found : (ofList seeds).found = (seeds.reverse ++ []).dedup :=
    found_foldl_discover_eq_dedup accounted_start rfl seeds
  rwa [List.append_nil] at found

theorem pending_ofList_of_nodup {seeds : List α} (nodup : seeds.Nodup) :
    (ofList seeds).pending = seeds.reverse := by
  rw [(pending_ofList seeds).1, found_ofList, (List.nodup_reverse.mpr nodup).dedup]

/-- Between two steps of a search from `seeds`: what has been found has been met, pending nodes are in
the order of finding, and each node was the latest when it was taken. -/
structure Recorded (successors : α → List α) (seeds : List α) (search : Search α) : Prop
    extends search.Accounted where
  found_eq : search.found = (met successors seeds search.inOrderTaken).reverse.dedup
  pending_sublist : search.pending.Sublist search.found
  latest : ∀ after node before, search.visited = after ++ node :: before →
    IsLatest (met successors seeds before.reverse) before.reverse node

theorem recorded_ofList (successors : α → List α) (seeds : List α) :
    (ofList seeds).Recorded successors seeds := by
  obtain ⟨pending, nothing⟩ := pending_ofList seeds
  refine ⟨accounted_start.foldl_discover seeds, ?_, ?_, fun after node before taken => ?_⟩
  · rw [found_ofList, inOrderTaken, nothing]
    simp [met]
  · rw [pending]
  · rw [nothing] at taken
    simp at taken

variable {successors : α → List α} {seeds : List α} {search : Search α}

/-- The node that is taken next was found last among those not taken. -/
theorem Recorded.isLatest (recorded : search.Recorded successors seeds) {node : α} {rest : List α}
    (taken : search.pending = node :: rest) :
    IsLatest (met successors seeds search.inOrderTaken) search.inOrderTaken node := by
  have sub := recorded.pending_sublist
  have parted := recorded.parted
  rw [taken] at sub parted
  obtain ⟨newer, older, cut, apart⟩ := exists_cut_of_sublist sub recorded.nodup
  refine ⟨newer, older, recorded.found_eq.symm.trans cut, fun a member => ?_, ?_⟩
  · -- what is found and not pending has been taken
    have found : a ∈ search.found := by
      rw [cut]
      exact List.mem_append_left _ member
    rcases List.mem_append.mp (parted.mem_iff.mp found) with pending | visited
    · exact absurd pending (apart a member)
    · exact List.mem_reverse.mpr visited
  · have nodup := parted.nodup_iff.mp recorded.nodup
    intro visited
    exact List.disjoint_of_nodup_append nodup List.mem_cons_self (List.mem_reverse.mp visited)

theorem Recorded.step (recorded : search.Recorded successors seeds) {node : α} {rest : List α}
    (taken : search.pending = node :: rest) :
    (search.step successors node rest).Recorded successors seeds := by
  have moved := recorded.toAccounted.take taken
  have order : (search.step successors node rest).inOrderTaken = search.inOrderTaken ++ [node] := by
    rw [inOrderTaken, visited_step, List.reverse_cons, inOrderTaken]
  obtain ⟨new, pending, found⟩ := exists_new_step successors search node rest
  refine ⟨moved.foldl_discover _, ?_, ?_, fun after other before cut => ?_⟩
  · rw [order, met_concat, List.reverse_append]
    exact found_foldl_discover_eq_dedup moved recorded.found_eq (successors node)
  · rw [pending, found]
    have kept := recorded.pending_sublist
    rw [taken] at kept
    exact ((List.sublist_cons_self node rest).trans kept).append_left _
  · rw [visited_step] at cut
    cases after with
    | nil =>
      cases cut
      exact recorded.isLatest taken
    | cons last earlier =>
      -- what was met before an earlier node was taken does not change
      obtain ⟨_, cut⟩ := List.cons.inj cut
      exact recorded.latest earlier other before cut

theorem Recorded.run (recorded : search.Recorded successors seeds) (bounded : Bounded successors) :
    (run successors bounded search).Recorded successors seeds :=
  run_preserves bounded (fun taken recorded => recorded.step taken) recorded

/-! ### Places -/

/-- The place of a node in the order of finding. -/
def place (search : Search α) (a : α) : Nat := search.inOrderFound.idxOf a

/-- A node's place is the number of nodes found before it. -/
theorem place_of_suffix (nodup : search.found.Nodup) {a : α} {older : List α}
    (suffix : a :: older <:+ search.found) : search.place a = older.length := by
  obtain ⟨newer, cut⟩ := suffix
  rw [← cut] at nodup
  have absent : a ∉ older := (List.nodup_cons.mp nodup.of_append_right).1
  rw [place, inOrderFound, ← cut, List.reverse_append, List.reverse_cons, List.append_assoc,
    List.idxOf_append_of_notMem (fun inside => absent (List.mem_reverse.mp inside)),
    List.length_reverse, List.singleton_append, List.idxOf_cons_self, Nat.add_zero]

theorem place_lt_of_suffix (nodup : search.found.Nodup) {a b : α} {older : List α}
    (suffix : a :: older <:+ search.found) (member : b ∈ older) : search.place b < search.place a := by
  obtain ⟨front, back, rfl⟩ := List.append_of_mem member
  have earlier : b :: back <:+ search.found :=
    ((List.suffix_append front (b :: back)).trans (List.suffix_cons a _)).trans suffix
  rw [place_of_suffix nodup suffix, place_of_suffix nodup earlier, List.length_append,
    List.length_cons]
  omega

/-- Of the nodes up to a place, the one there has the greatest. -/
theorem isGreatest_place (nodup : search.found.Nodup) {a : α} {older : List α}
    (suffix : a :: older <:+ search.found) :
    IsGreatest (search.place '' {b | b ∈ a :: older}) (search.place a) := by
  refine ⟨⟨a, List.mem_cons_self, rfl⟩, ?_⟩
  rintro _ ⟨b, member, rfl⟩
  rcases List.mem_cons.mp member with rfl | member
  · exact Nat.le_refl _
  · exact Nat.le_of_lt (place_lt_of_suffix nodup suffix member)

/-- What was found by some moment is the end of what is found. -/
theorem Recorded.suffix_found (recorded : search.Recorded successors seeds) {front back : List α}
    (cut : met successors seeds search.inOrderTaken = front ++ back) :
    front.reverse.dedup <:+ search.found := by
  rw [recorded.found_eq, cut, List.reverse_append]
  exact suffix_dedup_append _ _

/-- A node that is taken has the greatest place among those that have been met by then and have not
been taken. -/
theorem Recorded.isGreatest_taken (recorded : search.Recorded successors seeds)
    {before after : List α} {node : α} (taken : search.inOrderTaken = before ++ node :: after) :
    IsGreatest (search.place '' {a | a ∈ met successors seeds before ∧ a ∉ before})
      (search.place node) := by
  have visited : search.visited = after.reverse ++ node :: before.reverse := by
    rw [← List.reverse_reverse search.visited, ← inOrderTaken, taken]
    simp
  have latest := recorded.latest _ _ _ visited
  rw [List.reverse_reverse] at latest
  obtain ⟨newer, older, cut, all_taken, pending⟩ := latest
  have met_later : met successors seeds search.inOrderTaken =
      met successors seeds before ++ (node :: after).flatMap successors := by
    rw [taken, met, met, List.flatMap_append, List.append_assoc]
  have suffix := recorded.suffix_found met_later
  rw [cut] at suffix
  have suffix := (List.suffix_append newer (node :: older)).trans suffix
  have members : ∀ a, a ∈ met successors seeds before ↔ a ∈ newer ++ node :: older := by
    intro a
    rw [← cut, List.mem_dedup, List.mem_reverse]
  refine ⟨⟨node, ⟨(members node).mpr (by simp), pending⟩, rfl⟩, ?_⟩
  rintro _ ⟨a, ⟨known, untaken⟩, rfl⟩
  rcases List.mem_append.mp ((members a).mp known) with newer | rest
  · exact absurd (all_taken a newer) untaken
  · exact (isGreatest_place recorded.nodup suffix).2 ⟨a, rest, rfl⟩

/-- A node that is met was met before or has the place after all that were met before. -/
theorem Recorded.place_of_met (recorded : search.Recorded successors seeds)
    {before after : List α} {node : α} (nonempty : before ≠ [])
    (cut : met successors seeds search.inOrderTaken = before ++ node :: after) :
    node ∈ before ∨ ∃ highest, IsGreatest (search.place '' {a | a ∈ before}) highest ∧
      search.place node = highest + 1 := by
  by_cases known : node ∈ before
  · exact .inl known
  · right
    rw [← List.singleton_append, ← List.append_assoc] at cut
    have suffix := recorded.suffix_found cut
    rw [List.reverse_append, List.reverse_singleton, List.singleton_append,
      List.dedup_cons_of_notMem fun inside => known (List.mem_reverse.mp inside)] at suffix
    have members : ∀ a, a ∈ before ↔ a ∈ before.reverse.dedup := by
      intro a
      rw [List.mem_dedup, List.mem_reverse]
    simp only [members]
    cases older : before.reverse.dedup with
    | nil => simp [nonempty] at older
    | cons last rest =>
      rw [older] at suffix
      have earlier := (List.suffix_cons node (last :: rest)).trans suffix
      refine ⟨search.place last, isGreatest_place recorded.nodup earlier, ?_⟩
      rw [place_of_suffix recorded.nodup suffix, place_of_suffix recorded.nodup earlier,
        List.length_cons]

end PatternAutomata.Search
