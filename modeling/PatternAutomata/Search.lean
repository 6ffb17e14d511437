import Std.Data.HashSet

/-!
# Depth-first search with a worklist

A search takes the latest node off its worklist and puts every successor that it has not found
before onto it, until nothing is left. It ends because the successors come from finitely many
nodes: `Search.step_measure` shows that each step uses up one node that is pending or unseen.
-/
namespace PatternAutomata

/-- All successors are among finitely many nodes. -/
def Bounded {α : Type} (successors : α → List α) : Prop :=
  ∃ nodes : List α, ∀ a, ∀ b ∈ successors a, b ∈ nodes

/-- How far a search has come. All lists have the latest node first. -/
structure Search (α : Type) [BEq α] [Hashable α] where
  /-- The nodes found so far, for looking up. -/
  seen : Std.HashSet α
  /-- The nodes found so far. -/
  found : List α
  /-- The nodes found and not taken yet. -/
  pending : List α
  /-- The nodes taken so far. -/
  visited : List α

namespace Search

variable {α : Type} [BEq α] [Hashable α]

/-- The nodes found, in the order in which they were. -/
def inOrderFound (search : Search α) : List α := search.found.reverse

/-- The nodes taken, in the order in which they were. -/
def inOrderTaken (search : Search α) : List α := search.visited.reverse

/-- The search that has found nothing. -/
def start : Search α := ⟨∅, [], [], []⟩

/-- Finds a node, which then is pending, unless it was found before. -/
def discover (search : Search α) (node : α) : Search α :=
  if search.seen.contains node then search
  else { search with
    seen := search.seen.insert node
    found := node :: search.found
    pending := node :: search.pending }

/-- The search that begins at some nodes. -/
def ofList (nodes : List α) : Search α := nodes.foldl discover start

/-- Takes `node` off the worklist, of which `rest` remains, and finds its successors. -/
def step (successors : α → List α) (search : Search α) (node : α) (rest : List α) : Search α :=
  (successors node).foldl discover { search with pending := rest, visited := node :: search.visited }

/-- The number of nodes of a list that have not been found. -/
def unseen (search : Search α) (nodes : List α) : Nat :=
  nodes.countP fun node => !search.seen.contains node

/-- What a search still has to take at most, if all successors are in `nodes`. -/
def measure (search : Search α) (nodes : List α) : Nat :=
  search.unseen nodes + search.pending.length

omit [BEq α] [Hashable α] in
/-- Fewer elements of a list are unmarked once another one of them is marked. -/
theorem countP_lt_of_marked {before after : α → Bool} {node : α} {nodes : List α}
    (kept : ∀ a, before a = true → after a = true) (known : node ∈ nodes)
    (unmarked : before node = false) (marked : after node = true) :
    nodes.countP (fun a => !after a) < nodes.countP fun a => !before a := by
  have only : ∀ a, (!after a) = true → (!before a) = true := by
    intro a still
    rw [Bool.not_eq_true'] at still ⊢
    exact Bool.eq_false_iff.2 fun marked => Bool.false_ne_true (still.symm.trans (kept a marked))
  induction nodes with
  | nil => exact absurd known List.not_mem_nil
  | cons a rest ih =>
    rw [List.countP_cons, List.countP_cons]
    rcases List.mem_cons.1 known with rfl | later
    · have le : rest.countP (fun a => !after a) ≤ rest.countP fun a => !before a :=
        List.countP_mono_left fun b _ => only b
      simp only [unmarked, marked, Bool.not_true, Bool.not_false, Bool.false_eq_true, if_true,
        if_false]
      omega
    · have lt := ih later
      by_cases still : (!after a) = true
      · rw [if_pos still, if_pos (only a still)]
        omega
      · rw [if_neg still]
        omega

theorem discover_measure [LawfulBEq α] {search : Search α} {node : α} {nodes : List α}
    (known : node ∈ nodes) :
    (search.discover node).measure nodes ≤ search.measure nodes := by
  unfold discover
  split
  · exact Nat.le_refl _
  · next new =>
    have lt : (nodes.countP fun a => !(search.seen.insert node).contains a) <
        nodes.countP fun a => !search.seen.contains a :=
      countP_lt_of_marked (fun a seen => by simp [seen]) known (by simpa using new) (by simp)
    simp only [measure, unseen, List.length_cons]
    omega

theorem foldl_discover_measure [LawfulBEq α] {search : Search α} {list nodes : List α}
    (known : ∀ a ∈ list, a ∈ nodes) :
    (list.foldl discover search).measure nodes ≤ search.measure nodes := by
  induction list generalizing search with
  | nil => exact Nat.le_refl _
  | cons a rest ih =>
    exact Nat.le_trans (ih fun b hb => known b (List.mem_cons_of_mem _ hb))
      (discover_measure (known a List.mem_cons_self))

/-- A step uses up one node at least. -/
theorem step_measure [LawfulBEq α] {successors : α → List α} {search : Search α} {node : α}
    {rest nodes : List α} (taken : search.pending = node :: rest)
    (known : ∀ a, ∀ b ∈ successors a, b ∈ nodes) :
    (search.step successors node rest).measure nodes < search.measure nodes := by
  refine Nat.lt_of_le_of_lt (foldl_discover_measure (known node)) ?_
  simp [measure, unseen, taken]

/-- Steps until nothing is pending. -/
def run [LawfulBEq α] (successors : α → List α) (bounded : Bounded successors)
    (search : Search α) : Search α :=
  match _ : search.pending with
  | [] => search
  | node :: rest => run successors bounded (search.step successors node rest)
termination_by search.measure bounded.choose
decreasing_by exact step_measure (by assumption) bounded.choose_spec

theorem found_discover {P : α → Prop} {search : Search α} {node : α} (holds : P node)
    (before : ∀ a ∈ search.found, P a) : ∀ a ∈ (search.discover node).found, P a := by
  unfold discover
  split
  · exact before
  · intro a ha
    rcases List.mem_cons.1 ha with rfl | ha
    · exact holds
    · exact before a ha

theorem found_foldl_discover {P : α → Prop} {search : Search α} {nodes : List α}
    (holds : ∀ a ∈ nodes, P a) (before : ∀ a ∈ search.found, P a) :
    ∀ a ∈ (nodes.foldl discover search).found, P a := by
  induction nodes generalizing search with
  | nil => exact before
  | cons a rest ih =>
    exact ih (fun b hb => holds b (List.mem_cons_of_mem _ hb))
      (found_discover (holds a List.mem_cons_self) before)

/-- What holds of the nodes found so far and of all successors holds of all that is found. -/
theorem found_run [LawfulBEq α] {P : α → Prop} {successors : α → List α}
    {bounded : Bounded successors} {search : Search α} (holds : ∀ a, ∀ b ∈ successors a, P b)
    (before : ∀ a ∈ search.found, P a) : ∀ a ∈ (run successors bounded search).found, P a := by
  fun_induction run successors bounded search with
  | case1 => exact before
  | case2 search node rest _ ih => exact ih (found_foldl_discover (holds node) before)

end Search

end PatternAutomata
