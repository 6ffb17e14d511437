import Mathlib.Data.List.Nodup
import Mathlib.Data.List.Perm.Subperm
import PatternAutomata.RangeSet

/-!
# What sets of ranges hold

A set covers the numbers that lie between the ends of one of its ranges. Sorting and joining ranges
changes no number that is covered, so the members of a set are those of the ranges it was made from.
The size of a separated set is at most the length of any list that holds all the numbers it covers.
-/
namespace PatternAutomata

open Endpoint (rank)

variable {α : Type} [Endpoint α]

namespace Range

/-- The number lies between the ends. -/
def Covers (r : Range α) (n : Nat) : Prop := rank r.low ≤ n ∧ n ≤ rank r.high

theorem contains_eq_true {r : Range α} {a : α} : r.contains a = true ↔ r.Covers (rank a) := by
  simp only [contains, Covers, Bool.and_eq_true, decide_eq_true_eq]

theorem covers_single {a : α} {n : Nat} : (single a).Covers n ↔ n = rank a := by
  simp only [single, Covers]
  omega

/-- Of two ranges that overlap or touch, the joined one covers what either does. -/
theorem covers_extend {r s : Range α} {n : Nat} (listed : rank r.low ≤ rank s.low)
    (touching : rank s.low ≤ rank r.high + 1) :
    (r.extend s).Covers n ↔ r.Covers n ∨ s.Covers n := by
  have := r.ordered
  have := s.ordered
  unfold extend Covers
  split
  · simp only
    omega
  · omega

/-- The numbers between the ends, in order. -/
def codes (r : Range α) : List Nat := List.range' (rank r.low) r.size

theorem mem_codes {r : Range α} {n : Nat} : n ∈ r.codes ↔ r.Covers n := by
  have := r.ordered
  simp only [codes, List.mem_range'_1, size, Covers]
  omega

end Range

namespace RangeSet

/-- The number lies between the ends of some range. -/
def Covers (set : RangeSet α) (n : Nat) : Prop := ∃ r ∈ set.ranges, r.Covers n

theorem contains_eq_true {set : RangeSet α} {a : α} :
    set.contains a = true ↔ set.Covers (rank a) := by
  simp only [contains, List.any_eq_true, Range.contains_eq_true, Covers]

theorem covers_glue {current : Range α} {rest : List (Range α)} {n : Nat}
    (listed : (current :: rest).Pairwise fun r s => rank r.low ≤ rank s.low) :
    (∃ r ∈ glue current rest, r.Covers n) ↔ ∃ r ∈ current :: rest, r.Covers n := by
  induction rest generalizing current with
  | nil => rfl
  | cons s rest ih =>
    have ⟨first, others⟩ := List.pairwise_cons.mp listed
    have ⟨second, tail⟩ := List.pairwise_cons.mp others
    unfold glue
    split
    · next touching =>
      have sorted : (current.extend s :: rest).Pairwise fun r s => rank r.low ≤ rank s.low := by
        refine List.pairwise_cons.mpr ⟨fun r hr => ?_, tail⟩
        rw [Range.extend_low]
        exact first r (List.mem_cons_of_mem _ hr)
      rw [ih sorted]
      simp only [List.mem_cons, exists_eq_or_imp,
        Range.covers_extend (first s List.mem_cons_self) touching, or_assoc]
    · simp only [List.mem_cons, exists_eq_or_imp] at ih ⊢
      rw [ih others]

/-- The union of some ranges covers what they cover. -/
theorem covers_ofRanges {list : List (Range α)} {n : Nat} :
    (ofRanges list).Covers n ↔ ∃ r ∈ list, r.Covers n := by
  have sorted : (list.mergeSort Range.before).Pairwise fun r s => rank r.low ≤ rank s.low :=
    (List.pairwise_mergeSort (fun r s t => before_trans r s t) before_total list).imp
      low_le_of_before
  have same : (∃ r ∈ list.mergeSort Range.before, r.Covers n) ↔ ∃ r ∈ list, r.Covers n := by
    simp only [List.mem_mergeSort]
  rw [← same]
  unfold Covers ofRanges
  generalize list.mergeSort Range.before = ordered at sorted
  cases ordered with
  | nil => rfl
  | cons r rest => exact covers_glue sorted

/-- The numbers that the ranges cover, range after range. -/
def codes (set : RangeSet α) : List Nat := set.ranges.flatMap Range.codes

theorem mem_codes {set : RangeSet α} {n : Nat} : n ∈ set.codes ↔ set.Covers n := by
  simp only [codes, List.mem_flatMap, Range.mem_codes, Covers]

theorem length_codes (set : RangeSet α) : set.codes.length = set.size := by
  unfold codes size
  induction set.ranges with
  | nil => rfl
  | cons r rest ih =>
    rw [List.flatMap_cons, List.length_append, ih, List.foldr_cons, Range.codes,
      List.length_range']

/-- Separated ranges cover the numbers in order. -/
theorem codes_sorted {set : RangeSet α} (separated : set.IsSeparated) :
    set.codes.Pairwise (· < ·) := by
  refine List.pairwise_flatMap.mpr ⟨fun r _ => List.pairwise_lt_range', separated.imp ?_⟩
  intro r s apart n inFirst m inSecond
  have first := Range.mem_codes.mp inFirst
  have second := Range.mem_codes.mp inSecond
  unfold Range.Covers at first second
  omega

/-- Separated ranges cover each number once. -/
theorem nodup_codes {set : RangeSet α} (separated : set.IsSeparated) : set.codes.Nodup :=
  (codes_sorted separated).imp Nat.ne_of_lt

theorem size_le_length {set : RangeSet α} (separated : set.IsSeparated) {list : List Nat}
    (bounded : ∀ n, set.Covers n → n ∈ list) : set.size ≤ list.length := by
  rw [← length_codes]
  exact (List.subperm_of_subset (nodup_codes separated) fun n hn =>
    bounded n (mem_codes.mp hn)).length_le

theorem ofRanges_ranges_eq_nil {list : List (Range α)} :
    (ofRanges list).ranges = [] ↔ list = [] := by
  constructor
  · intro h
    refine List.eq_nil_iff_forall_not_mem.mpr fun r hr => ?_
    have covered : (ofRanges list).Covers (rank r.low) :=
      covers_ofRanges.mpr ⟨r, hr, Nat.le_refl _, r.ordered⟩
    obtain ⟨s, hs, _⟩ := covered
    rw [h] at hs
    exact List.not_mem_nil hs
  · intro h
    subst h
    simp only [ofRanges, List.mergeSort_nil, join]

theorem covers_of_only? {set : RangeSet α} {a : α} (h : set.only? = some a) {n : Nat} :
    set.Covers n ↔ n = rank a := by
  unfold only? at h
  split at h
  · next r single =>
    unfold Covers
    rw [single]
    split at h
    · next one =>
      cases h
      simp only [List.mem_singleton, exists_eq_left, Range.Covers]
      omega
    · cases h
  · cases h

end RangeSet

namespace CharSet

theorem mem_members {set : CharSet} {c : Char} : c ∈ members set ↔ set.contains c = true := by
  rw [RangeSet.contains_eq_true, RangeSet.Covers, members, List.mem_flatMap]
  constructor
  · intro h
    obtain ⟨r, hr, member⟩ := h
    obtain ⟨code, hcode, same⟩ := List.mem_filterMap.mp member
    by_cases valid : code.isValidChar
    · rw [dif_pos valid] at same
      cases same
      exact ⟨r, hr, Range.mem_codes.mp hcode⟩
    · rw [dif_neg valid] at same
      cases same
  · intro h
    obtain ⟨r, hr, covered⟩ := h
    refine ⟨r, hr, List.mem_filterMap.mpr ⟨c.toNat, Range.mem_codes.mpr covered, ?_⟩⟩
    have valid : c.toNat.isValidChar := c.valid
    rw [dif_pos valid]
    rfl

theorem members_ne_nil {set : CharSet} (h : set.ranges ≠ []) : members set ≠ [] := by
  obtain ⟨r, hr⟩ := List.exists_mem_of_ne_nil _ h
  have inside : r.low ∈ members set :=
    mem_members.mpr (RangeSet.contains_eq_true.mpr ⟨r, hr, Nat.le_refl _, r.ordered⟩)
  exact List.ne_nil_of_mem inside

end CharSet

end PatternAutomata
