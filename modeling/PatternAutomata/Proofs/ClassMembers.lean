import Mathlib.Data.Set.Card
import PatternAutomata.Proofs.Translate

/-!
# How large a class is

A class becomes the choice between its members, in order and each once, unless it is too large. Its
size is taken from the ends of its ranges, and a range may begin before the surrogates and end after
them. Then the surrogates count as members though none of them is a character
(`ofChars_of_size`), so a class of two members can be refused as one of 2050 (`gap_refused`).
-/
namespace PatternAutomata

open Endpoint (rank surrogateGap)

namespace CharSet

/-- Some range has characters on both sides of the surrogates. -/
def spansSurrogates (set : CharSet) : Bool :=
  set.ranges.any fun r => r.contains surrogateGap.1 && r.contains surrogateGap.2

/-- The numbers of surrogates. -/
def surrogates : List Nat := List.range' 0xD800 0x800

theorem mem_surrogates {n : Nat} : n ∈ surrogates ↔ 0xD800 ≤ n ∧ n ≤ 0xDFFF := by
  rw [surrogates, List.mem_range'_1]
  omega

/-- Ranges end at characters, so one surrogate lies in a range if all do. -/
theorem covers_surrogate_iff {r : Range Char} {n : Nat} (surrogate : n ∈ surrogates) :
    r.Covers n ↔ r.contains surrogateGap.1 = true ∧ r.contains surrogateGap.2 = true := by
  obtain ⟨least, most⟩ := mem_surrogates.mp surrogate
  have low : r.low.toNat < 0xD800 ∨ 0xDFFF < r.low.toNat ∧ r.low.toNat < 0x110000 := r.low.valid
  have high : r.high.toNat < 0xD800 ∨ 0xDFFF < r.high.toNat ∧ r.high.toNat < 0x110000 :=
    r.high.valid
  have before : rank surrogateGap.1 = 0xD7FF := by decide
  have after : rank surrogateGap.2 = 0xE000 := by decide
  rw [Range.contains_eq_true, Range.contains_eq_true, before, after]
  unfold Range.Covers
  have lowRank : rank r.low = r.low.toNat := rfl
  have highRank : rank r.high = r.high.toNat := rfl
  omega

theorem spansSurrogates_iff {set : CharSet} {n : Nat} (surrogate : n ∈ surrogates) :
    set.spansSurrogates = true ↔ set.Covers n := by
  simp only [spansSurrogates, List.any_eq_true, Bool.and_eq_true, RangeSet.Covers,
    covers_surrogate_iff surrogate]

theorem isValidChar_iff_of_covers {set : CharSet} {n : Nat} (covered : set.Covers n) :
    n.isValidChar ↔ n ∉ surrogates := by
  obtain ⟨r, _, least, most⟩ := covered
  have high : r.high.toNat < 0xD800 ∨ 0xDFFF < r.high.toNat ∧ r.high.toNat < 0x110000 :=
    r.high.valid
  have highRank : rank r.high = r.high.toNat := rfl
  rw [mem_surrogates, Nat.isValidChar]
  omega

/-- The members by their numbers: of the numbers that the ranges cover, those of characters. -/
theorem toNat_members (set : CharSet) :
    (members set).map Char.toNat = set.codes.filter (·.isValidChar) := by
  have each : ∀ codes : List Nat,
      (codes.filterMap fun code =>
        if h : code.isValidChar then some (Char.ofNatAux code h) else none).map Char.toNat =
      codes.filter (·.isValidChar) := by
    intro codes
    induction codes with
    | nil => rfl
    | cons code rest ih =>
      by_cases valid : code.isValidChar
      · rw [List.filterMap_cons_some (dif_pos valid), List.map_cons, ih, List.filter_cons,
          if_pos (decide_eq_true valid)]
        rfl
      · rw [List.filterMap_cons_none (dif_neg valid), ih, List.filter_cons,
          if_neg fun marked => valid (of_decide_eq_true marked)]
  rw [members, RangeSet.codes, List.map_flatMap, List.filter_flatMap]
  exact List.flatMap_congr fun r _ => each r.codes

theorem members_sorted {set : CharSet} (separated : set.IsSeparated) :
    (members set).Pairwise (· < ·) := by
  have numbers : ((members set).map Char.toNat).Pairwise (· < ·) := by
    rw [toNat_members]
    exact (RangeSet.codes_sorted separated).filter _
  exact (List.pairwise_map.mp numbers).imp fun before => UInt32.lt_iff_toNat_lt.mpr before

/-- Of the numbers that are counted, those of no character are all surrogates or none. -/
theorem length_filter_not_isValidChar {set : CharSet} (separated : set.IsSeparated) :
    (set.codes.filter fun n => !decide n.isValidChar).length =
      if set.spansSurrogates then 0x800 else 0 := by
  have members : ∀ n, (n ∈ set.codes.filter fun n => !decide n.isValidChar) ↔
      set.Covers n ∧ n ∈ surrogates := by
    intro n
    rw [List.mem_filter, RangeSet.mem_codes, Bool.not_eq_true', decide_eq_false_iff_not]
    refine and_congr_right fun covered => ?_
    rw [isValidChar_iff_of_covers covered, not_not]
  by_cases spans : set.spansSurrogates = true
  · have all : (set.codes.filter fun n => !decide n.isValidChar).Perm surrogates := by
      refine (List.perm_ext_iff_of_nodup ((RangeSet.nodup_codes separated).filter _)
        List.nodup_range').mpr fun n => ?_
      rw [members]
      exact and_iff_right_of_imp fun surrogate => (spansSurrogates_iff surrogate).mp spans
    rw [if_pos spans, all.length_eq, surrogates, List.length_range']
  · have none : (set.codes.filter fun n => !decide n.isValidChar) = [] := by
      refine List.eq_nil_iff_forall_not_mem.mpr fun n member => ?_
      obtain ⟨covered, surrogate⟩ := (members n).mp member
      exact spans ((spansSurrogates_iff surrogate).mpr covered)
    rw [if_neg spans, none, List.length_nil]

/-- The size of a class is the number of its members, or that and the number of surrogates. -/
theorem size_eq_length_members {set : CharSet} (separated : set.IsSeparated) :
    set.size = (members set).length + if set.spansSurrogates then 0x800 else 0 := by
  have valid : (members set).length = (set.codes.filter (·.isValidChar)).length := by
    rw [← toNat_members, List.length_map]
  rw [valid, ← length_filter_not_isValidChar separated, ← RangeSet.length_codes]
  exact List.length_eq_length_filter_add _

theorem ncard_eq_length_members {set : CharSet} (separated : set.IsSeparated) :
    {c : Char | set.contains c = true}.ncard = (members set).length := by
  have nodup : (members set).Nodup :=
    (members_sorted separated).imp fun before => Char.ne_of_lt before
  rw [← List.toFinset_card_of_nodup nodup, ← Set.ncard_coe_finset]
  congr 1
  ext c
  rw [List.coe_toFinset]
  exact mem_members.symm

end CharSet

namespace Pattern

/-- The patterns between which nested choices choose, from left to right. -/
def alternatives : Pattern → List Pattern
  | choice first second => first.alternatives ++ second.alternatives
  | other => [other]

theorem alternatives_joinBalanced {patterns : List Pattern} {joined : Pattern}
    (h : joinBalanced choice patterns = some joined) :
    joined.alternatives = patterns.flatMap alternatives := by
  have folded : ∀ patterns : List Pattern,
      (patterns.map alternatives).foldr (· ++ ·) [] = patterns.flatMap alternatives := by
    intro patterns
    induction patterns with
    | nil => rfl
    | cons first rest ih => rw [List.map_cons, List.foldr_cons, ih, List.flatMap_cons]
  rw [← folded]
  exact value_joinBalanced List.append_assoc (fun _ _ => rfl) List.append_nil h

theorem alternatives_ofChars {limit : Nat} {set : CharSet} {pattern : Pattern}
    (h : ofChars limit set = .ok pattern) :
    pattern.alternatives = (CharSet.members set).map literal := by
  unfold ofChars at h
  split at h
  · cases h
  · split at h
    next joined pairs =>
      cases h
      rw [alternatives_joinBalanced pairs, List.flatMap_map]
      exact List.map_eq_flatMap.symm
    next => cases h

/-- A class that is not empty is refused exactly if the number of its characters, and of surrogates
if a range spans those, is above the limit; the error has that number. Else its pattern is the
choice between its characters, each once and in order. -/
theorem ofChars_of_size {set : CharSet} (separated : set.IsSeparated) (nonempty : set.ranges ≠ [])
    (limit : Nat) :
    let count := {c : Char | set.contains c = true}.ncard +
      if set.spansSurrogates then 0x800 else 0
    (limit < count → ofChars limit set = .error (.largeClass count limit)) ∧
    (count ≤ limit → ∃ pattern, ∃ symbols : List Char, ofChars limit set = .ok pattern ∧
      pattern.alternatives = symbols.map literal ∧ symbols.Pairwise (· < ·) ∧
      ∀ c, c ∈ symbols ↔ set.contains c = true) := by
  intro count
  have size : set.size = count := by
    rw [CharSet.size_eq_length_members separated, ← CharSet.ncard_eq_length_members separated]
  rw [← size]
  refine ⟨fun large => if_pos large, fun small => ?_⟩
  obtain ⟨pattern, translated⟩ := ofChars_isOk small nonempty
  exact ⟨pattern, CharSet.members set, translated, alternatives_ofChars translated,
    CharSet.members_sorted separated, fun c => CharSet.mem_members⟩

/-- `[a-c\uD7FE-\uE001]`: seven characters, and a range that spans the surrogates. -/
def spanning : CharSet := ⟨[.between 'a' 'c', .between '\uD7FE' '\uE001']⟩

theorem spanning_ofChars :
    spanning.IsSeparated ∧ spanning.ranges ≠ [] ∧
      ofChars 2054 spanning = .error (.largeClass 2055 2054) ∧
      ∃ pattern, ∃ symbols : List Char, ofChars 2055 spanning = .ok pattern ∧
        pattern.alternatives = symbols.map literal ∧ symbols.Pairwise (· < ·) ∧
        ∀ c, c ∈ symbols ↔ spanning.contains c = true := by
  have separated : spanning.IsSeparated := by
    unfold RangeSet.IsSeparated
    decide
  have nonempty : spanning.ranges ≠ [] := List.cons_ne_nil _ _
  have count : {c : Char | spanning.contains c = true}.ncard +
      (if spanning.spansSurrogates then 0x800 else 0) = 2055 := by
    rw [CharSet.ncard_eq_length_members separated, ← CharSet.size_eq_length_members separated]
    decide
  have refused := (ofChars_of_size separated nonempty 2054).1
  have accepted := (ofChars_of_size separated nonempty 2055).2
  rw [count] at refused accepted
  exact ⟨separated, nonempty, refused (by decide), accepted (Nat.le_refl _)⟩

/-- `[\uD7FF-\uE000]`, the characters on either side of the surrogates. -/
def gap : CharSet := ⟨[.between surrogateGap.1 surrogateGap.2]⟩

/-- A class of two characters is refused although 64 are allowed, and said to have 2050. -/
theorem gap_refused :
    gap.IsSeparated ∧ gap.ranges ≠ [] ∧ {c : Char | gap.contains c = true}.ncard = 2 ∧
      ofChars 64 gap = .error (.largeClass 2050 64) := by
  have separated : gap.IsSeparated := List.pairwise_singleton _ _
  refine ⟨separated, List.cons_ne_nil _ _, ?_, by decide⟩
  have size := CharSet.size_eq_length_members separated
  have counted : gap.size = 2050 := by decide
  rw [if_pos (by decide)] at size
  rw [CharSet.ncard_eq_length_members separated]
  omega

end Pattern

end PatternAutomata
