import Mathlib.Logic.Relation
import PatternAutomata.Search

/-!
# What a search finds

A finished search has found exactly what can be reached from where it began (`mem_found_run`), and
has taken each of those nodes once (`visited_perm_found`). `Accounted` holds between any two steps;
`Explores` adds what relates a search to its seeds and successors.
-/
namespace PatternAutomata.Search

variable {α : Type}

/-- The nodes that successors lead to from some seed, in any number of steps. -/
def Reachable (successors : α → List α) (seeds : List α) (a : α) : Prop :=
  ∃ seed ∈ seeds, Relation.ReflTransGen (fun b c => c ∈ successors b) seed a

theorem Reachable.next {successors : α → List α} {seeds : List α} {a b : α}
    (reachable : Reachable successors seeds a) (next : b ∈ successors a) :
    Reachable successors seeds b := by
  obtain ⟨seed, member, path⟩ := reachable
  exact ⟨seed, member, path.tail next⟩

variable [BEq α] [Hashable α]

/-- Every node found is listed once as found, and once as pending or as taken. -/
structure Accounted (search : Search α) : Prop where
  seen_iff : ∀ a, search.seen.contains a = true ↔ a ∈ search.found
  nodup : search.found.Nodup
  parted : search.found.Perm (search.pending ++ search.visited)

theorem accounted_start : (start : Search α).Accounted :=
  ⟨fun a => by simp [start], List.nodup_nil, List.Perm.refl _⟩

theorem mem_found_discover {search : Search α} (accounted : search.Accounted) {node a : α} :
    a ∈ (search.discover node).found ↔ a = node ∨ a ∈ search.found := by
  unfold Search.discover
  split
  next known =>
    have member := (accounted.seen_iff node).mp known
    constructor
    · exact Or.inr
    · rintro (rfl | found)
      · exact member
      · exact found
  · exact List.mem_cons

theorem visited_discover (search : Search α) (node : α) :
    (search.discover node).visited = search.visited := by
  unfold Search.discover
  split <;> rfl

theorem visited_foldl_discover (search : Search α) (nodes : List α) :
    (nodes.foldl Search.discover search).visited = search.visited := by
  induction nodes generalizing search with
  | nil => rfl
  | cons node rest ih => rw [List.foldl_cons, ih, visited_discover]

/-- Taking a node off the worklist moves it to the nodes taken. -/
theorem Accounted.take {search : Search α} (accounted : search.Accounted) {node : α}
    {rest : List α} (taken : search.pending = node :: rest) :
    Accounted { search with pending := rest, visited := node :: search.visited } := by
  refine ⟨accounted.seen_iff, accounted.nodup, ?_⟩
  have parted := accounted.parted
  rw [taken] at parted
  exact parted.trans List.perm_middle.symm

variable [LawfulBEq α]

theorem Accounted.discover {search : Search α} (accounted : search.Accounted) (node : α) :
    (search.discover node).Accounted := by
  unfold Search.discover
  split
  · exact accounted
  next new =>
    have absent : node ∉ search.found := fun member => new ((accounted.seen_iff node).mpr member)
    refine ⟨fun a => ?_, List.nodup_cons.mpr ⟨absent, accounted.nodup⟩, accounted.parted.cons node⟩
    simp only [Std.HashSet.contains_insert, Bool.or_eq_true, beq_iff_eq, accounted.seen_iff,
      List.mem_cons]
    rw [eq_comm]

theorem Accounted.foldl_discover {search : Search α} (accounted : search.Accounted)
    (nodes : List α) : (nodes.foldl Search.discover search).Accounted := by
  induction nodes generalizing search with
  | nil => exact accounted
  | cons node rest ih => exact ih (accounted.discover node)

theorem mem_found_foldl_discover {search : Search α} (accounted : search.Accounted)
    {nodes : List α} {a : α} :
    a ∈ (nodes.foldl Search.discover search).found ↔ a ∈ nodes ∨ a ∈ search.found := by
  induction nodes generalizing search with
  | nil => simp
  | cons node rest ih =>
    rw [List.foldl_cons, ih (accounted.discover node), mem_found_discover accounted,
      List.mem_cons, or_left_comm, or_assoc]

/-- Between two steps of a search from `seeds`: what has been found is reachable, and what follows
a node that has been taken has been found. -/
structure Explores (successors : α → List α) (seeds : List α) (search : Search α) : Prop
    extends search.Accounted where
  reachable : ∀ a ∈ search.found, Reachable successors seeds a
  expanded : ∀ a ∈ search.visited, ∀ b ∈ successors a, b ∈ search.found
  seeded : ∀ a ∈ seeds, a ∈ search.found

theorem explores_ofList (successors : α → List α) (seeds : List α) :
    (ofList seeds).Explores successors seeds := by
  have members : ∀ a, a ∈ (ofList seeds).found ↔ a ∈ seeds := by
    intro a
    rw [ofList, mem_found_foldl_discover accounted_start]
    simp [start]
  refine ⟨accounted_start.foldl_discover seeds, ?_, ?_, fun a => (members a).mpr⟩
  · intro a found
    exact ⟨a, (members a).mp found, .refl⟩
  · intro a taken
    rw [ofList, visited_foldl_discover] at taken
    exact absurd taken List.not_mem_nil

theorem Explores.step {successors : α → List α} {seeds : List α} {search : Search α}
    (explores : search.Explores successors seeds) {node : α} {rest : List α}
    (taken : search.pending = node :: rest) :
    (search.step successors node rest).Explores successors seeds := by
  have moved := explores.toAccounted.take taken
  have node_found : node ∈ search.found := by
    apply explores.parted.mem_iff.mpr
    simp [taken]
  have members : ∀ a, a ∈ (search.step successors node rest).found ↔
      a ∈ successors node ∨ a ∈ search.found := fun a => mem_found_foldl_discover moved
  refine ⟨moved.foldl_discover _, ?_, ?_, ?_⟩
  · intro a found
    rcases (members a).mp found with next | before
    · exact (explores.reachable node node_found).next next
    · exact explores.reachable a before
  · intro a visited b next
    rw [Search.step, visited_foldl_discover] at visited
    apply (members b).mpr
    rcases List.mem_cons.mp visited with rfl | visited
    · exact Or.inl next
    · exact Or.inr (explores.expanded a visited b next)
  · intro a seed
    exact (members a).mpr (Or.inr (explores.seeded a seed))

/-- What every step keeps holds when a search is finished. -/
theorem run_preserves {P : Search α → Prop} {successors : α → List α} (bounded : Bounded successors)
    (step : ∀ {search : Search α} {node : α} {rest : List α}, search.pending = node :: rest →
      P search → P (search.step successors node rest))
    {search : Search α} (holds : P search) : P (run successors bounded search) := by
  fun_induction Search.run successors bounded search with
  | case1 => exact holds
  | case2 search node rest taken ih => exact ih (step taken holds)

theorem Explores.run {successors : α → List α} {seeds : List α} {search : Search α}
    (explores : search.Explores successors seeds) (bounded : Bounded successors) :
    (run successors bounded search).Explores successors seeds :=
  run_preserves bounded (fun taken explores => explores.step taken) explores

theorem pending_run (successors : α → List α) (bounded : Bounded successors)
    (search : Search α) : (run successors bounded search).pending = [] := by
  fun_induction Search.run successors bounded search with
  | case1 search done => exact done
  | case2 search node rest taken ih => exact ih

section Finished

variable (successors : α → List α) (bounded : Bounded successors) (seeds : List α)

/-- A finished search has taken every node that it has found. -/
theorem visited_perm_found : (run successors bounded (ofList seeds)).visited.Perm
    (run successors bounded (ofList seeds)).found := by
  have parted := ((explores_ofList successors seeds).run bounded).parted
  rw [pending_run, List.nil_append] at parted
  exact parted.symm

theorem nodup_found_run : (run successors bounded (ofList seeds)).found.Nodup :=
  ((explores_ofList successors seeds).run bounded).nodup

/-- What follows a node that has been found has been found. -/
theorem found_run_closed {a b : α} (found : a ∈ (run successors bounded (ofList seeds)).found)
    (next : b ∈ successors a) : b ∈ (run successors bounded (ofList seeds)).found :=
  ((explores_ofList successors seeds).run bounded).expanded a
    ((visited_perm_found successors bounded seeds).mem_iff.mpr found) b next

/-- A finished search has found exactly the nodes that can be reached from its seeds. -/
theorem mem_found_run {a : α} :
    a ∈ (run successors bounded (ofList seeds)).found ↔ Reachable successors seeds a := by
  have explores := (explores_ofList successors seeds).run bounded
  constructor
  · exact explores.reachable a
  · rintro ⟨seed, member, path⟩
    induction path with
    | refl => exact explores.seeded seed member
    | tail _ next ih => exact found_run_closed successors bounded seeds ih next

end Finished

end PatternAutomata.Search
