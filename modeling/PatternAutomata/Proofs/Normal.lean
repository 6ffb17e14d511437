import Mathlib.Algebra.BigOperators.Ring.List
import PatternAutomata.Expr.Normal
import PatternAutomata.Proofs.Translate

/-!
# What the normal form keeps

Expressions are put together flat, with literals merged, characters gathered in classes and common
beginnings taken out. None of this changes the language, as long as an alternation has a branch.
`Plain` says what such expressions are made of when they begin as literals over some symbols and are
joined by sequences, bars, stars and groups; it is what lets them be written as patterns.
-/
namespace PatternAutomata.Expr

open scoped Computability
open Endpoint (rank)

/-- Every number that the set covers is the code of a symbol of the list. -/
def CoversOnly (symbols : List Char) (set : CharSet) : Prop :=
  ∀ n, set.Covers n → n ∈ symbols.map Char.toNat

/-- What one node may be, given the symbols of the literals below it. -/
def PlainNode (symbols : List Char) : Expr → Prop
  | empty => True
  | literal encoded => ∃ text : List Char, encoded = text.utf8Encode ∧ ∀ c ∈ text, c ∈ symbols
  | chars set => set.IsSeparated ∧ set.ranges ≠ [] ∧ CoversOnly symbols set
  | bytes _ => False
  | look _ => False
  | repetition min max? _ _ => min = 0 ∧ (max? = none ∨ max? = some 1)
  | capture .. => True
  | concat _ => True
  | alternation branches => branches ≠ []

/-- Each node of the expression is plain. -/
def Plain (symbols : List Char) (expr : Expr) : Prop := expr.Everywhere (PlainNode symbols)

theorem plain_concat {symbols : List Char} {items : List Expr} :
    (concat items).Plain symbols ↔ ∀ item ∈ items, item.Plain symbols := by
  simp only [Plain, Everywhere, everywhereAll_iff, PlainNode, true_and]

theorem plain_alternation {symbols : List Char} {branches : List Expr} :
    (alternation branches).Plain symbols ↔
      branches ≠ [] ∧ ∀ branch ∈ branches, branch.Plain symbols := by
  simp only [Plain, Everywhere, everywhereAll_iff, PlainNode]

variable {symbols : List Char}

/-! ### Literals and classes -/

theorem language_literal_utf8Encode (text : List Char) :
    (literal text.utf8Encode).language = {text} := by
  ext word
  constructor
  · intro (same : word.utf8Encode = text.utf8Encode)
    have decoded := congrArg ByteArray.utf8Decode? same
    rw [List.utf8Decode?_utf8Encode, List.utf8Decode?_utf8Encode] at decoded
    cases decoded
    rfl
  · intro (same : word = text)
    subst same
    rfl

theorem text_eq_literal (characters : List Char) :
    text characters = literal characters.utf8Encode :=
  congrArg literal String.toByteArray_ofList

theorem language_text (characters : List Char) : (text characters).language = {characters} := by
  rw [text_eq_literal, language_literal_utf8Encode]

theorem plain_text {characters : List Char} (inside : ∀ c ∈ characters, c ∈ symbols) :
    (text characters).Plain symbols := by
  rw [text_eq_literal]
  exact ⟨characters, rfl, inside⟩

/-- The class of a set is written as a literal or not at all, where it can be. -/
theorem language_ofChars (set : CharSet) : (ofChars set).language = (chars set).language := by
  unfold ofChars
  split
  · next nothing =>
    ext word
    constructor
    · intro h
      obtain ⟨c, _, member, _⟩ := h
      cases member
    · intro h
      obtain ⟨c, member, _⟩ := h
      obtain ⟨r, hr, _⟩ := RangeSet.contains_eq_true.mp member
      rw [List.isEmpty_iff.mp nothing] at hr
      exact absurd hr List.not_mem_nil
  · split
    · next one =>
      ext word
      rw [language_text, mem_singleton]
      constructor
      · intro same
        exact ⟨_, RangeSet.contains_eq_true.mpr ((RangeSet.covers_of_only? one).mpr rfl), same⟩
      · intro h
        obtain ⟨c, member, same⟩ := h
        have code := (RangeSet.covers_of_only? one).mp (RangeSet.contains_eq_true.mp member)
        rw [← Endpoint.rank_injective code]
        exact same
    · rfl

theorem plain_ofChars {set : CharSet} (separated : set.IsSeparated) (nonempty : set.ranges ≠ [])
    (only : CoversOnly symbols set) : (ofChars set).Plain symbols := by
  unfold ofChars
  split
  · next nothing => exact absurd (List.isEmpty_iff.mp nothing) nonempty
  · split
    · next one =>
      refine plain_text fun c hc => ?_
      rw [List.mem_singleton.mp hc]
      have covered := only _ ((RangeSet.covers_of_only? one).mpr rfl)
      obtain ⟨symbol, inside, same⟩ := List.mem_map.mp covered
      rw [← Char.toNat_inj.mp same]
      exact inside
    · exact ⟨separated, nonempty, only⟩

/-! ### Repetitions -/

theorem powers_of_one {min : Nat} {max? : Option Nat} (possible : ∀ max ∈ max?, min ≤ max) :
    powers min max? (1 : Language Char) = 1 := by
  ext text
  simp only [mem_powers, one_pow]
  exact ⟨fun ⟨_, _, _, member⟩ => member, fun member => ⟨min, Nat.le_refl _, possible, member⟩⟩

mutual

/-- What takes nothing has the empty text only. -/
theorem language_of_takesNothing {expr : Expr} (plain : expr.Plain symbols)
    (nothing : expr.takesNothing = true) : expr.language = 1 := by
  cases expr <;> simp only [takesNothing] at nothing
  case empty => rfl
  case literal encoded =>
    obtain ⟨text, same, _⟩ := plain
    rw [same, language_literal_utf8Encode]
    have short : text.utf8Encode = ByteArray.empty := by
      rw [← same]
      exact ByteArray.size_eq_zero_iff.mp (beq_iff_eq.mp nothing)
    rw [List.utf8Encode_eq_empty.mp short]
    rfl
  case chars set => cases nothing
  case bytes set => cases nothing
  case look kind => rfl
  case repetition min max? greedy body =>
    rw [language, language_of_takesNothing plain.2 nothing]
    obtain ⟨⟨rfl, _⟩, _⟩ := plain
    exact powers_of_one fun max _ => Nat.zero_le max
  case capture index name? body =>
    rw [language, language_of_takesNothing plain.2 nothing]
  case concat items =>
    rw [language, languages_eq_map]
    exact List.prod_eq_one fun factor hfactor => by
      obtain ⟨item, hitem, rfl⟩ := List.mem_map.mp hfactor
      exact languages_of_takeNothing plain.2 nothing item hitem
  case alternation branches =>
    rw [language, languages_eq_map]
    have each := languages_of_takeNothing plain.2 nothing
    ext word
    rw [mem_sum]
    constructor
    · intro h
      obtain ⟨_, of_branch, member⟩ := h
      obtain ⟨branch, hbranch, rfl⟩ := List.mem_map.mp of_branch
      rwa [each branch hbranch] at member
    · intro member
      obtain ⟨branch, hbranch⟩ := List.exists_mem_of_ne_nil _ plain.1
      exact ⟨branch.language, List.mem_map_of_mem hbranch, by rwa [each branch hbranch]⟩

theorem languages_of_takeNothing {exprs : List Expr}
    (plain : EverywhereAll (PlainNode symbols) exprs) (nothing : allTakeNothing exprs = true) :
    ∀ expr ∈ exprs, expr.language = 1 := by
  cases exprs with
  | nil => exact fun _ absent => absurd absent List.not_mem_nil
  | cons first rest =>
    simp only [allTakeNothing, Bool.and_eq_true] at nothing
    intro expr member
    cases member with
    | head => exact language_of_takesNothing plain.1 nothing.1
    | tail _ member => exact languages_of_takeNothing plain.2 nothing.2 expr member

end

/-- To repeat any number of times is to iterate the language, also where once is enough. -/
theorem language_repeated {body : Expr} (plain : body.Plain symbols) (greedy : Bool) :
    (repeated 0 none greedy body).language = body.language∗ := by
  unfold repeated
  split
  next min max? bounds =>
  split at bounds
  · next nothing =>
    cases bounds
    rw [if_neg (by simp), if_neg (by simp), language, language_of_takesNothing plain nothing,
      kstar_one]
    exact powers_of_one fun max _ => Nat.zero_le max
  · cases bounds
    rw [if_neg (by simp), if_neg (by simp), language, powers_zero_none]

theorem plain_repeated {body : Expr} (plain : body.Plain symbols) (greedy : Bool) :
    (repeated 0 none greedy body).Plain symbols := by
  unfold repeated
  split
  next min max? bounds =>
  split at bounds
  · cases bounds
    rw [if_neg (by simp), if_neg (by simp)]
    exact ⟨⟨rfl, .inr rfl⟩, plain⟩
  · cases bounds
    rw [if_neg (by simp), if_neg (by simp)]
    exact ⟨⟨rfl, .inl rfl⟩, plain⟩

/-! ### Sequences -/

theorem prod_items (expr : Expr) : (expr.items.map language).prod = expr.language := by
  cases expr with
  | concat parts => rw [items, language, languages_eq_map]
  | empty => rfl
  | _ => exact List.prod_singleton

theorem plain_items {expr : Expr} (plain : expr.Plain symbols) :
    ∀ item ∈ expr.items, item.Plain symbols := by
  cases expr with
  | concat parts => exact plain_concat.mp plain
  | empty => exact fun _ absent => absurd absent List.not_mem_nil
  | _ =>
    intro item member
    rw [List.mem_singleton.mp member]
    exact plain

theorem prod_flatMap_items (parts : List Expr) :
    ((parts.flatMap items).map language).prod = (parts.map language).prod := by
  induction parts with
  | nil => rfl
  | cons part rest ih =>
    rw [List.flatMap_cons, List.map_append, List.prod_append, ih, prod_items, List.map_cons,
      List.prod_cons]

/-- Merging two literals changes neither the language nor what the sequence is made of. -/
theorem prepend_spec {item : Expr} {rest : List Expr} (plain : item.Plain symbols)
    (others : ∀ expr ∈ rest, expr.Plain symbols) :
    ((prepend item rest).map language).prod = item.language * (rest.map language).prod ∧
      ∀ expr ∈ prepend item rest, expr.Plain symbols := by
  unfold prepend
  split
  · next front back rest =>
    have ⟨second, tail⟩ := List.forall_mem_cons.mp others
    obtain ⟨before, rfl, inBefore⟩ := plain
    obtain ⟨after, rfl, inAfter⟩ := second
    rw [← List.utf8Encode_append]
    constructor
    · rw [List.map_cons, List.prod_cons, List.map_cons, List.prod_cons, ← mul_assoc]
      simp only [language_literal_utf8Encode, singleton_mul_singleton]
    · refine List.forall_mem_cons.mpr ⟨⟨before ++ after, rfl, fun c hc => ?_⟩, tail⟩
      cases List.mem_append.mp hc with
      | inl first => exact inBefore c first
      | inr last => exact inAfter c last
  · exact ⟨by rw [List.map_cons, List.prod_cons], List.forall_mem_cons.mpr ⟨plain, others⟩⟩

theorem foldr_prepend_spec {items : List Expr} (plain : ∀ item ∈ items, item.Plain symbols) :
    ((items.foldr prepend []).map language).prod = (items.map language).prod ∧
      ∀ item ∈ items.foldr prepend [], item.Plain symbols := by
  induction items with
  | nil => exact ⟨rfl, fun _ absent => absurd absent List.not_mem_nil⟩
  | cons item rest ih =>
    have ⟨first, others⟩ := List.forall_mem_cons.mp plain
    obtain ⟨product, tail⟩ := ih others
    obtain ⟨whole, all⟩ := prepend_spec first tail
    rw [List.foldr_cons, whole, product, List.map_cons, List.prod_cons]
    exact ⟨rfl, all⟩

/-- A sequence of plain parts is plain, and its language is the product of theirs. -/
theorem sequence_spec {parts : List Expr} (plain : ∀ part ∈ parts, part.Plain symbols) :
    (sequence parts).language = (parts.map language).prod ∧ (sequence parts).Plain symbols := by
  have flat : ∀ item ∈ parts.flatMap items, item.Plain symbols := by
    intro item member
    obtain ⟨part, hpart, hitem⟩ := List.mem_flatMap.mp member
    exact plain_items (plain part hpart) item hitem
  obtain ⟨product, all⟩ := foldr_prepend_spec flat
  rw [← prod_flatMap_items, ← product]
  unfold sequence
  split
  · next none =>
    rw [none]
    exact ⟨rfl, trivial⟩
  · next item one =>
    rw [one] at all ⊢
    exact ⟨List.prod_singleton.symm, all item List.mem_cons_self⟩
  · rw [language, languages_eq_map]
    exact ⟨rfl, plain_concat.mpr all⟩

/-! ### Alternations -/

theorem sum_branches (expr : Expr) : (expr.branches.map language).sum = expr.language := by
  cases expr with
  | alternation parts => rw [branches, language, languages_eq_map]
  | _ => exact List.sum_singleton

theorem plain_branches {expr : Expr} (plain : expr.Plain symbols) :
    expr.branches ≠ [] ∧ ∀ branch ∈ expr.branches, branch.Plain symbols := by
  cases expr with
  | alternation parts => exact plain_alternation.mp plain
  | _ => exact ⟨List.cons_ne_nil _ _, List.forall_mem_singleton.mpr plain⟩

theorem sum_flatMap_branches (parts : List Expr) :
    ((parts.flatMap branches).map language).sum = (parts.map language).sum := by
  induction parts with
  | nil => rfl
  | cons part rest ih =>
    rw [List.flatMap_cons, List.map_append, List.sum_append, ih, sum_branches, List.map_cons,
      List.sum_cons]

theorem plain_flatMap_branches {parts : List Expr} (nonempty : parts ≠ [])
    (plain : ∀ part ∈ parts, part.Plain symbols) :
    parts.flatMap branches ≠ [] ∧ ∀ branch ∈ parts.flatMap branches, branch.Plain symbols := by
  constructor
  · intro none
    obtain ⟨part, hpart⟩ := List.exists_mem_of_ne_nil _ nonempty
    exact (plain_branches (plain part hpart)).1 (List.flatMap_eq_nil_iff.mp none part hpart)
  · intro branch member
    obtain ⟨part, hpart, hbranch⟩ := List.mem_flatMap.mp member
    exact (plain_branches (plain part hpart)).2 branch hbranch

theorem exists_of_mapM {α β : Type} {f : α → Option β} {list : List α} {values : List β}
    (h : list.mapM f = some values) : ∀ b ∈ values, ∃ a ∈ list, f a = some b := by
  induction list generalizing values with
  | nil =>
    cases h
    exact fun _ absent => absurd absent List.not_mem_nil
  | cons a rest ih =>
    rw [List.mapM_cons] at h
    obtain ⟨first, hfirst, h⟩ := Option.bind_eq_some_iff.mp h
    obtain ⟨others, hothers, h⟩ := Option.bind_eq_some_iff.mp h
    cases h
    intro b member
    cases member with
    | head => exact ⟨a, List.mem_cons_self, hfirst⟩
    | tail _ member =>
      obtain ⟨a', ha', same⟩ := ih hothers b member
      exact ⟨a', List.mem_cons_of_mem _ ha', same⟩

theorem eq_nil_of_mapM {α β : Type} {f : α → Option β} {list : List α}
    (h : list.mapM f = some []) : list = [] := by
  cases list with
  | nil => rfl
  | cons a rest =>
    rw [List.mapM_cons] at h
    obtain ⟨first, _, h⟩ := Option.bind_eq_some_iff.mp h
    obtain ⟨others, _, h⟩ := Option.bind_eq_some_iff.mp h
    cases h

theorem sum_of_mapM {β : Type} {f : Expr → Option β} {value : β → Language Char}
    {parts : List Expr} {values : List β} (h : parts.mapM f = some values)
    (agree : ∀ part ∈ parts, ∀ b, f part = some b → part.language = value b) :
    (parts.map language).sum = (values.map value).sum := by
  induction parts generalizing values with
  | nil =>
    cases h
    rfl
  | cons part rest ih =>
    rw [List.mapM_cons] at h
    obtain ⟨first, hfirst, h⟩ := Option.bind_eq_some_iff.mp h
    obtain ⟨others, hothers, h⟩ := Option.bind_eq_some_iff.mp h
    cases h
    have ⟨here, there⟩ := List.forall_mem_cons.mp agree
    rw [List.map_cons, List.sum_cons, List.map_cons, List.sum_cons, ih hothers there,
      here first hfirst]

theorem mem_language_ofRanges {list : List (Range Char)} {word : List Char} :
    word ∈ (ofChars (.ofRanges list)).language ↔
      ∃ r ∈ list, ∃ c, r.Covers (rank c) ∧ word = [c] := by
  rw [language_ofChars]
  constructor
  · intro h
    obtain ⟨c, member, same⟩ := h
    obtain ⟨r, hr, covered⟩ := RangeSet.covers_ofRanges.mp (RangeSet.contains_eq_true.mp member)
    exact ⟨r, hr, c, covered, same⟩
  · intro h
    obtain ⟨r, hr, c, covered, same⟩ := h
    exact ⟨c, RangeSet.contains_eq_true.mpr (RangeSet.covers_ofRanges.mpr ⟨r, hr, covered⟩), same⟩

theorem plain_ofRanges {list : List (Range Char)} (nonempty : list ≠ [])
    (only : ∀ r ∈ list, ∀ n, r.Covers n → n ∈ symbols.map Char.toNat) :
    (ofChars (.ofRanges list)).Plain symbols := by
  refine plain_ofChars (RangeSet.isSeparated_ofRanges list)
    (fun none => nonempty (RangeSet.ofRanges_ranges_eq_nil.mp none)) fun n covered => ?_
  obtain ⟨r, hr, inside⟩ := RangeSet.covers_ofRanges.mp covered
  exact only r hr n inside

theorem eq_singleton_of_char? {characters : List Char} {c : Char}
    (h : (literal characters.utf8Encode).char? = some c) : characters = [c] := by
  delta char? at h
  dsimp only at h
  rw [List.utf8Decode?_utf8Encode] at h
  cases characters with
  | nil => cases h
  | cons symbol rest =>
    cases rest with
    | nil =>
      cases h
      rfl
    | cons _ _ => cases h

theorem language_of_char? {expr : Expr} {c : Char} (plain : expr.Plain symbols)
    (h : expr.char? = some c) : expr.language = {[c]} ∧ c ∈ symbols := by
  cases expr with
  | literal encoded =>
    obtain ⟨characters, rfl, inside⟩ := plain
    have one := eq_singleton_of_char? h
    subst one
    exact ⟨language_literal_utf8Encode _, inside c List.mem_cons_self⟩
  | _ => cases h

theorem eq_chars_of_charSet? {expr : Expr} {set : CharSet} (plain : expr.Plain symbols)
    (h : expr.charSet? = some set) : expr = chars set := by
  unfold charSet? at h
  split at h
  · cases h
    rfl
  · cases plain
  · cases h

/-- Branches that are single characters, as one class of these characters. -/
theorem collapse_characters {parts : List Expr} {characters : List Char} (nonempty : parts ≠ [])
    (plain : ∀ part ∈ parts, part.Plain symbols) (each : parts.mapM char? = some characters) :
    (ofChars (.ofRanges (characters.map .single))).language = (parts.map language).sum ∧
      (ofChars (.ofRanges (characters.map .single))).Plain symbols := by
  have found := exists_of_mapM each
  constructor
  · rw [sum_of_mapM each fun part hpart c hc => (language_of_char? (plain part hpart) hc).1]
    ext word
    simp only [mem_language_ofRanges, mem_sum, List.mem_map, exists_exists_and_eq_and,
      Range.covers_single, mem_singleton]
    constructor
    · intro h
      obtain ⟨symbol, inside, c, same, rfl⟩ := h
      rw [Endpoint.rank_injective same]
      exact ⟨symbol, inside, rfl⟩
    · intro h
      obtain ⟨symbol, inside, same⟩ := h
      exact ⟨symbol, inside, symbol, rfl, same⟩
  · refine plain_ofRanges (fun none => ?_) fun r hr n covered => ?_
    · rw [List.map_eq_nil_iff.mp none] at each
      exact nonempty (eq_nil_of_mapM each)
    · obtain ⟨symbol, inside, rfl⟩ := List.mem_map.mp hr
      obtain ⟨part, hpart, hc⟩ := found symbol inside
      rw [Range.covers_single.mp covered]
      exact List.mem_map_of_mem (language_of_char? (plain part hpart) hc).2

/-- Branches that are classes, as one class with the members of all. -/
theorem collapse_classes {parts : List Expr} {sets : List CharSet} (nonempty : parts ≠ [])
    (plain : ∀ part ∈ parts, part.Plain symbols) (each : parts.mapM charSet? = some sets) :
    (ofChars (.ofRanges (sets.flatMap (·.ranges)))).language = (parts.map language).sum ∧
      (ofChars (.ofRanges (sets.flatMap (·.ranges)))).Plain symbols := by
  have agree : ∀ part ∈ parts, ∀ set, part.charSet? = some set → part = chars set :=
    fun part hpart set hset => eq_chars_of_charSet? (plain part hpart) hset
  have within : ∀ set ∈ sets, (chars set).Plain symbols := by
    intro set hset
    obtain ⟨part, hpart, same⟩ := exists_of_mapM each set hset
    rw [← agree part hpart set same]
    exact plain part hpart
  constructor
  · rw [sum_of_mapM each fun part hpart set hset => congrArg language (agree part hpart set hset)]
    ext word
    simp only [mem_language_ofRanges, mem_sum, List.mem_map, exists_exists_and_eq_and,
      List.mem_flatMap]
    constructor
    · intro h
      obtain ⟨r, ⟨set, hset, hr⟩, c, covered, same⟩ := h
      exact ⟨set, hset, c, RangeSet.contains_eq_true.mpr ⟨r, hr, covered⟩, same⟩
    · intro h
      obtain ⟨set, hset, c, member, same⟩ := h
      obtain ⟨r, hr, covered⟩ := RangeSet.contains_eq_true.mp member
      exact ⟨r, ⟨set, hset, hr⟩, c, covered, same⟩
  · refine plain_ofRanges (fun none => ?_) fun r hr n covered => ?_
    · cases sets with
      | nil => exact nonempty (eq_nil_of_mapM each)
      | cons set rest =>
        have first := (within set List.mem_cons_self).2.1
        exact first (List.append_eq_nil_iff.mp none).1
    · obtain ⟨set, hset, hr⟩ := List.mem_flatMap.mp hr
      exact (within set hset).2.2 n ⟨r, hr, covered⟩

/-- Branches in one class have the language that they have apart. -/
theorem collapse_spec {parts : List Expr} {collapsed : Expr} (nonempty : parts ≠ [])
    (plain : ∀ part ∈ parts, part.Plain symbols) (h : collapse? parts = some collapsed) :
    collapsed.language = (parts.map language).sum ∧ collapsed.Plain symbols := by
  unfold collapse? at h
  split at h
  · next characters each =>
    cases h
    exact collapse_characters nonempty plain each
  · next none =>
    obtain ⟨sets, each, h⟩ := Option.map_eq_some_iff.mp h
    cases h
    exact collapse_classes nonempty plain each

/-- An alternation of plain parts is plain, and its language is the sum of theirs. -/
theorem choice_spec {parts : List Expr} (nonempty : parts ≠ [])
    (plain : ∀ part ∈ parts, part.Plain symbols) :
    (choice parts).language = (parts.map language).sum ∧ (choice parts).Plain symbols := by
  obtain ⟨branched, all⟩ := plain_flatMap_branches nonempty plain
  rw [← sum_flatMap_branches]
  unfold choice
  split
  · next none => exact absurd none branched
  · next branch one =>
    rw [one] at all ⊢
    exact ⟨List.sum_singleton.symm, all branch List.mem_cons_self⟩
  · cases collapsed : collapse? (parts.flatMap branches) with
    | some expr => exact collapse_spec branched all collapsed
    | none =>
      rw [Option.getD_none, language, languages_eq_map]
      exact ⟨rfl, plain_alternation.mpr ⟨branched, all⟩⟩

theorem commonItems_cons (item other : Expr) (left right : List Expr) :
    commonItems (item :: left) (other :: right) =
      if item.same other then item :: commonItems left right else [] := by
  unfold commonItems
  rw [List.zip_cons_cons, List.takeWhile_cons]
  by_cases same : item.same other = true
  · simp only [same, if_true, List.map_cons]
  · simp only [same, Bool.false_eq_true, if_false, List.map_nil]

theorem commonItems_prefix (left right : List Expr) :
    commonItems left right <+: left ∧ commonItems left right <+: right := by
  induction left generalizing right with
  | nil => exact ⟨List.nil_prefix, List.nil_prefix⟩
  | cons item left ih =>
    cases right with
    | nil => exact ⟨List.nil_prefix, List.nil_prefix⟩
    | cons other right =>
      rw [commonItems_cons]
      split
      · next same =>
        obtain ⟨inLeft, inRight⟩ := ih right
        rw [← eq_of_same same]
        exact ⟨(List.prefix_cons_inj item).mpr inLeft, (List.prefix_cons_inj item).mpr inRight⟩
      · exact ⟨List.nil_prefix, List.nil_prefix⟩

theorem foldl_commonItems_prefix (first : List Expr) (others : List (List Expr)) :
    ∀ list ∈ first :: others, others.foldl commonItems first <+: list := by
  induction others generalizing first with
  | nil =>
    intro list member
    rw [List.mem_singleton.mp member]
    exact List.prefix_refl first
  | cons other rest ih =>
    have ⟨common, tail⟩ := List.forall_mem_cons.mp (ih (commonItems first other))
    obtain ⟨inFirst, inOther⟩ := commonItems_prefix first other
    exact List.forall_mem_cons.mpr ⟨common.trans inFirst,
      List.forall_mem_cons.mpr ⟨common.trans inOther, tail⟩⟩

theorem eq_concat_of_concat? {expr : Expr} {items : List Expr} (h : expr.concat? = some items) :
    expr = concat items := by
  cases expr with
  | concat parts =>
    cases h
    rfl
  | _ => cases h

/-- Branches begin with what is taken out of them, and go on with what is left. -/
theorem commonPrefix_spec {parts : List Expr} {common : List Expr} {rests : List (List Expr)}
    (plain : ∀ part ∈ parts, part.Plain symbols) (h : commonPrefix? parts = some (common, rests)) :
    (parts.map language).sum =
        (common.map language).prod * (rests.map fun rest => (rest.map language).prod).sum ∧
      rests ≠ [] ∧ (∀ item ∈ common, item.Plain symbols) ∧
      ∀ rest ∈ rests, ∀ item ∈ rest, item.Plain symbols := by
  unfold commonPrefix? at h
  split at h
  · next first others each =>
    simp only at h
    split at h
    · cases h
    · cases h
      have begins := foldl_commonItems_prefix first others
      generalize others.foldl commonItems first = common at begins
      have divided : ∀ list ∈ first :: others, (list.map language).prod =
          (common.map language).prod * ((list.drop common.length).map language).prod := by
        intro list hlist
        rw [← List.prod_append, ← List.map_append,
          List.prefix_iff_eq_append.mp (begins list hlist)]
      have within : ∀ list ∈ first :: others, ∀ item ∈ list, item.Plain symbols := by
        intro list hlist
        obtain ⟨part, hpart, same⟩ := exists_of_mapM each list hlist
        have whole := plain part hpart
        rw [eq_concat_of_concat? same] at whole
        exact plain_concat.mp whole
      refine ⟨?_, List.cons_ne_nil _ _, fun item hitem => ?_, fun rest hrest item hitem => ?_⟩
      · rw [sum_of_mapM each fun part _ list same => by
          rw [eq_concat_of_concat? same, language, languages_eq_map]]
        rw [List.map_congr_left divided, List.sum_map_mul_left, List.map_map]
        rfl
      · have inFirst := (begins first List.mem_cons_self).subset hitem
        exact within first List.mem_cons_self item inFirst
      · obtain ⟨list, hlist, rfl⟩ := List.mem_map.mp hrest
        exact within list hlist item (List.mem_of_mem_drop hitem)
  · cases h

/-- The language of an alternation is also kept where a common beginning is taken out. -/
theorem either_spec {parts : List Expr} (nonempty : parts ≠ [])
    (plain : ∀ part ∈ parts, part.Plain symbols) :
    (either parts).language = (parts.map language).sum ∧ (either parts).Plain symbols := by
  obtain ⟨branched, all⟩ := plain_flatMap_branches nonempty plain
  rw [← sum_flatMap_branches]
  unfold either
  split
  · next none => exact absurd none branched
  · next branch one =>
    rw [one] at all ⊢
    exact ⟨List.sum_singleton.symm, all branch List.mem_cons_self⟩
  · split
    · next expr collapsed => exact collapse_spec branched all collapsed
    · split
      · next common rests shared =>
        obtain ⟨factored, remaining, plainCommon, plainRests⟩ := commonPrefix_spec all shared
        have each : ∀ rest ∈ rests, (sequence rest).language = (rest.map language).prod ∧
            (sequence rest).Plain symbols := fun rest hrest => sequence_spec (plainRests rest hrest)
        have sequences : rests.map sequence ≠ [] := fun none =>
          remaining (List.map_eq_nil_iff.mp none)
        obtain ⟨sums, plainChoice⟩ := choice_spec sequences fun part hpart => by
          obtain ⟨rest, hrest, rfl⟩ := List.mem_map.mp hpart
          exact (each rest hrest).2
        obtain ⟨product, plainWhole⟩ := sequence_spec (List.forall_mem_append.mpr
          ⟨plainCommon, List.forall_mem_singleton.mpr plainChoice⟩)
        refine ⟨?_, plainWhole⟩
        rw [product, factored, List.map_append, List.prod_append, List.map_singleton,
          List.prod_singleton, sums, List.map_map]
        exact congrArg _ (congrArg _ (List.map_congr_left fun rest hrest => (each rest hrest).1))
      · rw [language, languages_eq_map]
        exact ⟨rfl, plain_alternation.mpr ⟨branched, all⟩⟩

/-! ### Plain expressions have a pattern -/

theorem PlainNode.refusal?_eq_none {limit : Nat} (small : symbols.length ≤ limit) {node : Expr}
    (plain : PlainNode symbols node) : node.refusal? limit = none := by
  cases node with
  | literal encoded =>
    obtain ⟨text, rfl, _⟩ := plain
    simp only [refusal?, List.utf8Decode?_utf8Encode, reduceCtorEq, if_false]
  | chars set =>
    obtain ⟨separated, nonempty, only⟩ := plain
    have size := RangeSet.size_le_length separated only
    rw [List.length_map] at size
    rw [refusal?, if_neg (by omega), if_neg nonempty]
  | bytes set => cases plain
  | look kind => cases plain
  | repetition min max? greedy body =>
    obtain ⟨rfl, bounds⟩ := plain
    refine if_pos ?_
    rcases bounds with rfl | rfl
    · decide
    · decide
  | _ => rfl

/-- A plain expression has a pattern with the same language, unless there are more symbols than a
class may have members. -/
theorem Plain.exists_pattern {limit : Nat} (small : symbols.length ≤ limit) {expr : Expr}
    (plain : expr.Plain symbols) :
    ∃ pattern, Pattern.ofExpr limit expr = .ok pattern ∧ pattern.language = expr.language := by
  have sayable := Everywhere.imp (fun _ node => PlainNode.refusal?_eq_none small node) plain
  have branched : expr.Everywhere (· ≠ .alternation []) := by
    refine Everywhere.imp (fun node plainNode none => ?_) plain
    subst none
    exact plainNode rfl
  obtain ⟨pattern, translated⟩ := Pattern.ofExpr_isOk sayable
  exact ⟨pattern, translated, Pattern.language_ofExpr branched translated⟩

end PatternAutomata.Expr
