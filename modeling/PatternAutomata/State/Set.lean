import PatternAutomata.State

/-!
# Finite sets of states

A set is kept as the strictly increasing list of its members, so equal sets are equal values and
the order in which members arrived cannot be observed. The lemmas describe each operation through
membership; `StateSet.ext` turns equal membership into equality.
-/
namespace PatternAutomata

/-- A finite set of states, listed in increasing order. -/
structure StateSet where
  toList : List State
  sorted : toList.Pairwise (· < ·)
  deriving DecidableEq, Repr

namespace StateSet

instance : Hashable StateSet := ⟨fun set => hash set.toList⟩

instance : Membership State StateSet := ⟨fun set s => s ∈ set.toList⟩

instance (s : State) (set : StateSet) : Decidable (s ∈ set) :=
  inferInstanceAs (Decidable (s ∈ set.toList))

@[simp] theorem mem_toList {s : State} {set : StateSet} : s ∈ set.toList ↔ s ∈ set := Iff.rfl

/-- The set without members. -/
def empty : StateSet := ⟨[], .nil⟩

instance : Inhabited StateSet := ⟨empty⟩

def singleton (s : State) : StateSet := ⟨[s], List.pairwise_singleton _ _⟩

/-- Puts a state into its place in an increasing list, which does not change if it is there. -/
def place (s : State) : List State → List State
  | [] => [s]
  | t :: rest => if s < t then s :: t :: rest else if s = t then t :: rest else t :: place s rest

theorem mem_place {s t : State} {list : List State} : t ∈ place s list ↔ t = s ∨ t ∈ list := by
  induction list with
  | nil => simp [place]
  | cons u rest ih =>
    unfold place
    split
    · simp
    · split
      · next h => subst h; simp
      · simp only [List.mem_cons, ih]
        constructor
        · rintro (h | h | h) <;> simp [h]
        · rintro (h | h | h) <;> simp [h]

theorem place_sorted {s : State} {list : List State} (sorted : list.Pairwise (· < ·)) :
    (place s list).Pairwise (· < ·) := by
  induction list with
  | nil => exact List.pairwise_singleton _ _
  | cons t rest ih =>
    have ⟨first, others⟩ := List.pairwise_cons.1 sorted
    unfold place
    split
    · next h =>
      refine List.pairwise_cons.2 ⟨fun u hu => ?_, sorted⟩
      rcases List.mem_cons.1 hu with rfl | hu
      · exact h
      · exact State.lt_trans h (first u hu)
    · next before =>
      split
      · exact sorted
      · next different =>
        refine List.pairwise_cons.2 ⟨fun u hu => ?_, ih others⟩
        rcases mem_place.1 hu with rfl | hu
        · exact (State.lt_or_lt_of_ne different).resolve_left before
        · exact first u hu

def insert (set : StateSet) (s : State) : StateSet :=
  ⟨place s set.toList, place_sorted set.sorted⟩

/-- Keeps one of equal neighbours. -/
def thin : List State → List State
  | s :: t :: rest => if s = t then thin (t :: rest) else s :: thin (t :: rest)
  | rest => rest

theorem mem_thin {s : State} {list : List State} : s ∈ thin list ↔ s ∈ list := by
  fun_induction thin list with
  | case1 t rest ih => simp [ih]
  | case2 t u rest _ ih => simp only [List.mem_cons] at ih ⊢; rw [ih]
  | case3 => rfl

theorem thin_sorted {list : List State} (sorted : list.Pairwise fun s t => s.rank ≤ t.rank) :
    (thin list).Pairwise (· < ·) := by
  fun_induction thin list with
  | case1 t rest ih => exact ih (List.pairwise_cons.1 sorted).2
  | case2 s t rest different ih =>
    have ⟨first, others⟩ := List.pairwise_cons.1 sorted
    refine List.pairwise_cons.2 ⟨fun u hu => ?_, ih others⟩
    have before : s < t := Nat.lt_of_le_of_ne (first t List.mem_cons_self)
      fun same => different (State.rank_injective same)
    rcases List.mem_cons.1 (mem_thin.1 hu) with rfl | hu
    · exact before
    · exact Nat.lt_of_lt_of_le before ((List.pairwise_cons.1 others).1 u hu)
  | case3 rest short =>
    match rest, short with
    | [], _ => exact .nil
    | [s], _ => exact List.pairwise_singleton _ _
    | s :: t :: rest, short => exact (short s t rest rfl).elim

/-- Whether a state comes no later than another. -/
def notAfter (s t : State) : Bool := s.rank ≤ t.rank

theorem mergeSort_notAfter (list : List State) :
    (list.mergeSort notAfter).Pairwise fun s t => s.rank ≤ t.rank := by
  have sorted : (list.mergeSort notAfter).Pairwise fun s t => notAfter s t = true :=
    List.pairwise_mergeSort
      (fun s t u hst htu => by simp only [notAfter, decide_eq_true_eq] at *; omega)
      (fun s t => by simp only [notAfter, Bool.or_eq_true, decide_eq_true_eq]; omega) list
  exact sorted.imp fun h => of_decide_eq_true h

/-- The set of the members of a list. -/
def ofList (list : List State) : StateSet :=
  ⟨thin (list.mergeSort notAfter), thin_sorted (mergeSort_notAfter list)⟩

def union (left right : StateSet) : StateSet :=
  ofList (left.toList ++ right.toList)

/-- Whether two increasing lists share a member. -/
def overlap : List State → List State → Bool
  | [], _ => false
  | _ :: _, [] => false
  | s :: left, t :: right =>
    if s = t then true
    else if s < t then overlap left (t :: right)
    else overlap (s :: left) right
termination_by left right => left.length + right.length

/-- Whether two sets share a member. -/
def meets (left right : StateSet) : Bool := overlap left.toList right.toList

@[simp] theorem not_mem_empty (s : State) : ¬ s ∈ empty := List.not_mem_nil

@[simp] theorem mem_singleton {s t : State} : t ∈ singleton s ↔ t = s := List.mem_singleton

@[simp] theorem mem_insert {s t : State} {set : StateSet} :
    t ∈ set.insert s ↔ t = s ∨ t ∈ set := mem_place

@[simp] theorem mem_ofList {s : State} {list : List State} : s ∈ ofList list ↔ s ∈ list :=
  mem_thin.trans List.mem_mergeSort

@[simp] theorem mem_union {s : State} {left right : StateSet} :
    s ∈ left.union right ↔ s ∈ left ∨ s ∈ right :=
  mem_ofList.trans List.mem_append

/-- What is before the first member of an increasing list is not in the list. -/
theorem not_mem_of_lt_head {s t : State} {list : List State} (before : s < t)
    (sorted : (t :: list).Pairwise (· < ·)) : s ∉ t :: list := by
  intro member
  rcases List.mem_cons.1 member with rfl | member
  · exact State.lt_irrefl s before
  · exact State.lt_irrefl s (State.lt_trans before ((List.pairwise_cons.1 sorted).1 s member))

theorem overlap_iff {left right : List State} (hl : left.Pairwise (· < ·))
    (hr : right.Pairwise (· < ·)) : overlap left right = true ↔ ∃ s ∈ left, s ∈ right := by
  fun_induction overlap left right with
  | case1 => simp
  | case2 => simp
  | case3 => simp
  | case4 s left t right _ before ih =>
    have absent := not_mem_of_lt_head before hr
    rw [ih (List.pairwise_cons.1 hl).2 hr]
    constructor
    · rintro ⟨u, hu, h⟩; exact ⟨u, List.mem_cons_of_mem _ hu, h⟩
    · rintro ⟨u, hu, h⟩
      rcases List.mem_cons.1 hu with rfl | hu
      · exact absurd h absent
      · exact ⟨u, hu, h⟩
  | case5 s left t right different other ih =>
    have after : t < s := (State.lt_or_lt_of_ne different).resolve_left other
    have absent := not_mem_of_lt_head after hl
    rw [ih hl (List.pairwise_cons.1 hr).2]
    constructor
    · rintro ⟨u, hu, h⟩; exact ⟨u, hu, List.mem_cons_of_mem _ h⟩
    · rintro ⟨u, hu, h⟩
      rcases List.mem_cons.1 h with rfl | h
      · exact absurd hu absent
      · exact ⟨u, hu, h⟩

theorem meets_iff {left right : StateSet} : left.meets right = true ↔ ∃ s ∈ left, s ∈ right :=
  overlap_iff left.sorted right.sorted

/-- Increasing lists with the same members are the same list. -/
theorem eq_of_sorted {left right : List State} (hl : left.Pairwise (· < ·))
    (hr : right.Pairwise (· < ·)) (same : ∀ s, s ∈ left ↔ s ∈ right) : left = right := by
  induction left generalizing right with
  | nil =>
    cases right with
    | nil => rfl
    | cons t _ => exact absurd ((same t).2 List.mem_cons_self) List.not_mem_nil
  | cons s rest ih =>
    cases right with
    | nil => exact absurd ((same s).1 List.mem_cons_self) List.not_mem_nil
    | cons t others =>
      have ⟨firstL, restL⟩ := List.pairwise_cons.1 hl
      have ⟨firstR, restR⟩ := List.pairwise_cons.1 hr
      have heads : s = t := by
        rcases List.mem_cons.1 ((same s).1 List.mem_cons_self) with h | h
        · exact h
        · rcases List.mem_cons.1 ((same t).2 List.mem_cons_self) with k | k
          · exact k.symm
          · exact absurd (State.lt_trans (firstL t k) (firstR s h)) (State.lt_irrefl s)
      subst heads
      refine congrArg (s :: ·) (ih restL restR fun u => ?_)
      have := same u
      simp only [List.mem_cons] at this
      constructor
      · intro h
        exact (this.1 (.inr h)).resolve_left fun e => State.lt_irrefl s (e ▸ firstL u h)
      · intro h
        exact (this.2 (.inr h)).resolve_left fun e => State.lt_irrefl s (e ▸ firstR u h)

/-- Sets with the same members are equal. -/
theorem ext {left right : StateSet} (same : ∀ s, s ∈ left ↔ s ∈ right) : left = right := by
  cases left; cases right
  simp only [mk.injEq]
  exact eq_of_sorted ‹_› ‹_› same

end StateSet

end PatternAutomata
