import Mathlib.Data.List.SplitBy
import PatternAutomata.Rule

/-!
# Rule lists up to the order in runs

A run of a rule list is a longest stretch of epsilon rules into one state. Lists that differ only in
the order of neighbours within runs settle to the same list (`Reordered.settle_eq`). The rules of a
list are put before its runs one by one, so that a run may go on over any place where two lists were
joined.
-/
namespace PatternAutomata.Rule

variable {r s t : Rule} {left right : List Rule}

theorem joinAt_iff :
    r.joinAt s = true ↔ r.symbol? = none ∧ s.symbol? = none ∧ r.target = s.target := by
  simp only [joinAt, isEpsilon, Bool.and_eq_true, Option.isNone_iff_eq_none, decide_eq_true_eq,
    and_assoc]

theorem joinAt_symm (joined : r.joinAt s = true) : s.joinAt r = true := by
  obtain ⟨first, second, same⟩ := joinAt_iff.mp joined
  exact joinAt_iff.mpr ⟨second, first, same.symm⟩

theorem joinAt_trans (first : r.joinAt s = true) (second : s.joinAt t = true) :
    r.joinAt t = true := by
  obtain ⟨begins, _, same⟩ := joinAt_iff.mp first
  obtain ⟨_, ends, same'⟩ := joinAt_iff.mp second
  exact joinAt_iff.mpr ⟨begins, ends, same.trans same'⟩

/-- Rules that join each other join the same rules. -/
theorem joinAt_congr (joined : s.joinAt t = true) : r.joinAt s = r.joinAt t :=
  Bool.eq_iff_iff.mpr
    ⟨fun h => joinAt_trans h joined, fun h => joinAt_trans h (joinAt_symm joined)⟩

/-- Rules that join each other and have one source are the same. -/
theorem eq_of_joinAt (joined : r.joinAt s = true) (same : r.source = s.source) : r = s := by
  obtain ⟨first, second, targets⟩ := joinAt_iff.mp joined
  cases r
  cases s
  simp_all only

theorem joinAt_epsilon (p q target : State) :
    (epsilon p target).joinAt (epsilon q target) = true := joinAt_iff.mpr ⟨rfl, rfl, rfl⟩

/-! ### Runs -/

def runs (rules : List Rule) : List (List Rule) := rules.splitBy joinAt

/-- Puts a rule before runs: it joins the first of them or is a run of its own. -/
def prepend (r : Rule) : List (List Rule) → List (List Rule)
  | (s :: run) :: others =>
    if r.joinAt s then (r :: s :: run) :: others else [r] :: (s :: run) :: others
  | others => [r] :: others

theorem prepend_of_joinAt (joined : r.joinAt s = true) (run : List Rule)
    (others : List (List Rule)) :
    prepend r ((s :: run) :: others) = (r :: s :: run) :: others := if_pos joined

theorem prepend_of_not_joinAt (apart : r.joinAt s = false) (run : List Rule)
    (others : List (List Rule)) :
    prepend r ((s :: run) :: others) = [r] :: (s :: run) :: others :=
  if_neg (Bool.eq_false_iff.mp apart)

theorem runs_cons (r : Rule) (rules : List Rule) : runs (r :: rules) = prepend r (runs rules) := by
  cases split : runs rules with
  | nil =>
    rw [List.splitBy_eq_nil.mp split]
    rfl
  | cons run others =>
    obtain ⟨whole, nonempty, chains, apart⟩ := List.splitBy_eq_iff.mp split
    obtain ⟨chain, otherChains⟩ := List.forall_mem_cons.mp chains
    obtain ⟨ends, otherEnds⟩ := List.isChain_cons.mp apart
    cases run with
    | nil => exact absurd List.mem_cons_self nonempty
    | cons s run =>
      cases joined : r.joinAt s with
      | true =>
        rw [prepend_of_joinAt joined]
        refine List.splitBy_eq_iff.mpr ⟨congrArg (r :: ·) whole, fun member => ?_, ?_, ?_⟩
        · rcases List.mem_cons.mp member with none | member
          · cases none
          · exact nonempty (List.mem_cons_of_mem _ member)
        · exact List.forall_mem_cons.mpr ⟨List.isChain_cons_cons.mpr ⟨joined, chain⟩, otherChains⟩
        · refine List.isChain_cons.mpr ⟨fun next listed => ?_, otherEnds⟩
          obtain ⟨_, begins, differ⟩ := ends next listed
          exact ⟨List.cons_ne_nil _ _, begins, differ⟩
      | false =>
        have begins : ∀ last ∈ [r].getLast?, last.joinAt s = false := by
          intro last listed
          cases listed
          exact joined
        rw [prepend_of_not_joinAt joined, ← split, whole]
        exact List.splitBy_append_cons (run ++ others.flatten) begins

/-- Any two rules of the list join each other. -/
def IsRun (run : List Rule) : Prop := ∀ s ∈ run, ∀ t ∈ run, s ≠ t → s.joinAt t = true

theorem isRun_singleton (r : Rule) : IsRun [r] := by
  intro s first t second different
  rw [List.mem_singleton.mp first, List.mem_singleton.mp second] at different
  exact absurd rfl different

theorem isRun_cons {run : List Rule} (joined : r.joinAt s = true) (isRun : IsRun (s :: run)) :
    IsRun (r :: s :: run) := by
  have all : ∀ t ∈ s :: run, r.joinAt t = true := by
    intro t member
    by_cases same : s = t
    · exact same ▸ joined
    · exact joinAt_trans joined (isRun s List.mem_cons_self t member same)
  intro p first q second different
  rcases List.mem_cons.mp first with rfl | inFirst
  · rcases List.mem_cons.mp second with rfl | inSecond
    · exact absurd rfl different
    · exact all q inSecond
  · rcases List.mem_cons.mp second with rfl | inSecond
    · exact joinAt_symm (all p inFirst)
    · exact isRun p inFirst q inSecond different

theorem isRun_of_mem_runs (rules : List Rule) : ∀ run ∈ runs rules, IsRun run := by
  induction rules with
  | nil => exact fun _ absent => absurd absent List.not_mem_nil
  | cons r rest ih =>
    rw [runs_cons]
    generalize runs rest = listed at ih ⊢
    rcases listed with _ | ⟨_ | ⟨s, run⟩, others⟩
    · exact List.forall_mem_singleton.mpr (isRun_singleton r)
    · exact List.forall_mem_cons.mpr ⟨isRun_singleton r, ih⟩
    · cases joined : r.joinAt s with
      | true =>
        rw [prepend_of_joinAt joined]
        obtain ⟨first, rest⟩ := List.forall_mem_cons.mp ih
        exact List.forall_mem_cons.mpr ⟨isRun_cons joined first, rest⟩
      | false =>
        rw [prepend_of_not_joinAt joined]
        exact List.forall_mem_cons.mpr ⟨isRun_singleton r, ih⟩

/-- The rules of a run by their sources. -/
def sorted (run : List Rule) : List Rule :=
  run.mergeSort fun r s => r.source.rank ≤ s.source.rank

theorem pairwise_sorted (run : List Rule) :
    (sorted run).Pairwise fun r s => r.source.rank ≤ s.source.rank := by
  have trans : ∀ r s t : Rule, decide (r.source.rank ≤ s.source.rank) = true →
      decide (s.source.rank ≤ t.source.rank) = true →
      decide (r.source.rank ≤ t.source.rank) = true := by
    intro r s t first second
    exact decide_eq_true (Nat.le_trans (of_decide_eq_true first) (of_decide_eq_true second))
  have total : ∀ r s : Rule, (decide (r.source.rank ≤ s.source.rank) ||
      decide (s.source.rank ≤ r.source.rank)) = true := by
    intro r s
    rw [Bool.or_eq_true, decide_eq_true_eq, decide_eq_true_eq]
    exact Nat.le_total _ _
  exact (List.pairwise_mergeSort trans total run).imp of_decide_eq_true

/-- The order in which a run is listed is lost when it is sorted. -/
theorem sorted_eq_of_perm {run other : List Rule} (isRun : IsRun run) (perm : run.Perm other) :
    sorted run = sorted other := by
  have same : (sorted run).Perm (sorted other) :=
    (List.mergeSort_perm run _).trans (perm.trans (List.mergeSort_perm other _).symm)
  refine List.Perm.eq_of_pairwise (fun s t inRun inOther before after => ?_) (pairwise_sorted run)
    (pairwise_sorted other) same
  have first : s ∈ run := List.mem_mergeSort.mp inRun
  have second : t ∈ run := perm.mem_iff.mpr (List.mem_mergeSort.mp inOther)
  by_cases equal : s = t
  · exact equal
  · exact eq_of_joinAt (isRun s first t second equal)
      (State.rank_injective (Nat.le_antisymm before after))

/-- The same runs, each in some order. -/
def Alike (left right : List (List Rule)) : Prop := List.Forall₂ List.Perm left right

section Alike

variable {as bs cs : List (List Rule)}

theorem Alike.trans (first : Alike as bs) (second : Alike bs cs) : Alike as cs := by
  induction first generalizing cs with
  | nil => exact second
  | cons perm _ ih =>
    cases second with
    | cons perm' rest => exact .cons (perm.trans perm') (ih rest)

theorem Alike.prepend (alike : Alike as bs) (joined : ∀ run ∈ as, IsRun run) (r : Rule) :
    Alike (prepend r as) (prepend r bs) := by
  cases alike with
  | nil => exact .cons (.refl _) .nil
  | @cons a b as bs perm rest =>
    cases a with
    | nil =>
      cases perm.nil_eq
      exact .cons (.refl _) (.cons perm rest)
    | cons s run =>
      cases b with
      | nil => exact absurd perm.eq_nil (List.cons_ne_nil _ _)
      | cons t run' =>
        have heads : r.joinAt s = r.joinAt t := by
          by_cases same : s = t
          · rw [same]
          · have inRun : t ∈ s :: run := perm.mem_iff.mpr List.mem_cons_self
            exact joinAt_congr (joined _ List.mem_cons_self s List.mem_cons_self t inRun same)
        cases joins : r.joinAt s with
        | true =>
          rw [prepend_of_joinAt joins, prepend_of_joinAt (heads ▸ joins)]
          exact .cons (perm.cons r) rest
        | false =>
          rw [prepend_of_not_joinAt joins, prepend_of_not_joinAt (heads ▸ joins)]
          exact .cons (.refl _) (.cons perm rest)

theorem alike_swap (joined : r.joinAt s = true) (as : List (List Rule)) :
    Alike (prepend r (prepend s as)) (prepend s (prepend r as)) := by
  -- both rules join the first run, or neither does and they begin a new one
  have swapped : ∀ run others, prepend s as = (s :: run) :: others →
      prepend r as = (r :: run) :: others →
      Alike (prepend r (prepend s as)) (prepend s (prepend r as)) := by
    intro run others second first
    rw [first, second, prepend_of_joinAt joined, prepend_of_joinAt (joinAt_symm joined)]
    exact .cons (.swap s r run) (List.forall₂_same.mpr fun other _ => .refl other)
  rcases as with _ | ⟨_ | ⟨t, run⟩, others⟩
  · exact swapped [] [] rfl rfl
  · exact swapped [] ([] :: others) rfl rfl
  · have both : r.joinAt t = s.joinAt t := by
      rw [Bool.eq_iff_iff]
      exact ⟨joinAt_trans (joinAt_symm joined), joinAt_trans joined⟩
    cases joins : s.joinAt t with
    | true =>
      exact swapped (t :: run) others (prepend_of_joinAt joins run others)
        (prepend_of_joinAt (both.trans joins) run others)
    | false =>
      exact swapped [] ((t :: run) :: others) (prepend_of_not_joinAt joins run others)
        (prepend_of_not_joinAt (both.trans joins) run others)

theorem Alike.flatMap_sorted (alike : Alike as bs) (each : ∀ run ∈ as, IsRun run) :
    as.flatMap sorted = bs.flatMap sorted := by
  induction alike with
  | nil => rfl
  | cons perm _ ih =>
    obtain ⟨first, rest⟩ := List.forall_mem_cons.mp each
    rw [List.flatMap_cons, List.flatMap_cons, sorted_eq_of_perm first perm, ih rest]

end Alike

/-- The lists differ only in the order of neighbours that join each other. -/
inductive Reordered : List Rule → List Rule → Prop
  | nil : Reordered [] []
  | cons (r : Rule) {left right : List Rule} (rest : Reordered left right) :
      Reordered (r :: left) (r :: right)
  | swap {r s : Rule} (joined : r.joinAt s = true) (rest : List Rule) :
      Reordered (r :: s :: rest) (s :: r :: rest)
  | trans {left middle right : List Rule} (first : Reordered left middle)
      (second : Reordered middle right) : Reordered left right

namespace Reordered

theorem refl (rules : List Rule) : Reordered rules rules := by
  induction rules with
  | nil => exact .nil
  | cons r _ ih => exact .cons r ih

theorem symm (h : Reordered left right) : Reordered right left := by
  induction h with
  | nil => exact .nil
  | cons r _ ih => exact .cons r ih
  | swap joined rest => exact .swap (joinAt_symm joined) rest
  | trans _ _ ihFirst ihSecond => exact .trans ihSecond ihFirst

theorem perm (h : Reordered left right) : left.Perm right := by
  induction h with
  | nil => exact .nil
  | cons r _ ih => exact ih.cons r
  | swap _ rest => exact .swap _ _ rest
  | trans _ _ ihFirst ihSecond => exact ihFirst.trans ihSecond

theorem append_left (front : List Rule) (h : Reordered left right) :
    Reordered (front ++ left) (front ++ right) := by
  induction front with
  | nil => exact h
  | cons r _ ih => exact .cons r ih

theorem append_right (h : Reordered left right) (back : List Rule) :
    Reordered (left ++ back) (right ++ back) := by
  induction h with
  | nil => exact .refl back
  | cons r _ ih => exact .cons r ih
  | swap joined rest => exact .swap joined (rest ++ back)
  | trans _ _ ihFirst ihSecond => exact .trans ihFirst ihSecond

theorem append {left' right' : List Rule} (front : Reordered left right)
    (back : Reordered left' right') : Reordered (left ++ left') (right ++ right') :=
  .trans (front.append_right left') (back.append_left right)

/-- Epsilon rules into one state may be listed in any order. -/
theorem of_perm {left right : List State} (perm : left.Perm right) (target : State) :
    Reordered (left.map (epsilon · target)) (right.map (epsilon · target)) := by
  induction perm with
  | nil => exact .nil
  | cons s _ ih => exact .cons _ ih
  | swap s t rest => exact .swap (joinAt_epsilon t s target) _
  | trans _ _ ihFirst ihSecond => exact .trans ihFirst ihSecond

theorem alike (h : Reordered left right) : Alike (runs left) (runs right) := by
  induction h with
  | nil => exact .nil
  | cons r _ ih =>
    rw [runs_cons, runs_cons]
    exact ih.prepend (isRun_of_mem_runs _) r
  | swap joined rest =>
    simp only [runs_cons]
    exact alike_swap joined (runs rest)
  | trans _ _ ihFirst ihSecond => exact ihFirst.trans ihSecond

theorem settle_eq (h : Reordered left right) : settle left = settle right :=
  h.alike.flatMap_sorted (isRun_of_mem_runs left)

end Reordered

end PatternAutomata.Rule
