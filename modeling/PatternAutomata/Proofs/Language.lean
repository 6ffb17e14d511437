import Mathlib.Computability.Language
import PatternAutomata.Pattern.Balanced

/-!
# Languages of patterns

The language of a pattern is taken as an element of the semiring of languages: `*` puts texts
together, `+` is the union, and `∗` any number of texts in a row. What is joined in pairs has the
product, or the sum, of the languages of the parts, in whichever way the pairs fall.
-/
namespace PatternAutomata

open scoped Computability

section Balanced

variable {α β : Type} {join : α → α → α} {op : β → β → β} {value : α → β}

theorem foldr_joinPairs (associative : ∀ a b c, op (op a b) c = op a (op b c))
    (homomorphic : ∀ a b, value (join a b) = op (value a) (value b)) (unit : β) (list : List α) :
    ((joinPairs join list).map value).foldr op unit = (list.map value).foldr op unit := by
  fun_induction joinPairs join list with
  | case1 first second rest ih =>
    simp only [List.map_cons, List.foldr_cons, ih, homomorphic, associative]
  | case2 rest short => rfl

/-- A value that turns the join into an associative operation is the operation over the list. -/
theorem value_joinBalanced {unit : β} (associative : ∀ a b c, op (op a b) c = op a (op b c))
    (homomorphic : ∀ a b, value (join a b) = op (value a) (value b))
    (neutral : ∀ b, op b unit = b) {list : List α} {joined : α}
    (h : joinBalanced join list = some joined) :
    value joined = (list.map value).foldr op unit := by
  fun_induction joinBalanced join list with
  | case1 => cases h
  | case2 only =>
    cases h
    simp only [List.map_cons, List.map_nil, List.foldr_cons, List.foldr_nil, neutral]
  | case3 first second rest ih =>
    rw [ih h, foldr_joinPairs associative homomorphic]

theorem joinBalanced_eq_none {list : List α} : joinBalanced join list = none ↔ list = [] := by
  fun_induction joinBalanced join list with
  | case1 => simp only
  | case2 only => simp only [reduceCtorEq, List.cons_ne_nil]
  | case3 first second rest ih =>
    rw [ih]
    simp only [joinPairs, List.cons_ne_nil]

end Balanced

theorem mem_singleton {text word : List Char} : text ∈ ({word} : Language Char) ↔ text = word :=
  Iff.rfl

theorem singleton_mul_singleton (front back : List Char) :
    ({front} : Language Char) * {back} = {front ++ back} := by
  ext text
  rw [Language.mem_mul]
  constructor
  · intro h
    obtain ⟨_, rfl, _, rfl, rfl⟩ := h
    exact mem_singleton.mpr rfl
  · intro h
    exact ⟨front, rfl, back, rfl, h.symm⟩

theorem prod_singletons (text : List Char) :
    (text.map fun c => ({[c]} : Language Char)).prod = {text} := by
  induction text with
  | nil => rfl
  | cons c rest ih => rw [List.map_cons, List.prod_cons, ih, singleton_mul_singleton]; rfl

theorem mem_sum {text : List Char} {languages : List (Language Char)} :
    text ∈ languages.sum ↔ ∃ language ∈ languages, text ∈ language := by
  induction languages with
  | nil => simp
  | cons first rest ih =>
    rw [List.sum_cons, Language.mem_add, ih]
    simp only [List.mem_cons, exists_eq_or_imp]

namespace Pattern

/-- The texts that a pattern stands for. -/
def language (pattern : Pattern) : Language Char := {text | pattern.Denotes text}

theorem mem_language {pattern : Pattern} {text : List Char} :
    text ∈ pattern.language ↔ pattern.Denotes text := Iff.rfl

@[simp]
theorem language_empty : empty.language = 1 := rfl

@[simp]
theorem language_literal (symbol : Char) : (literal symbol).language = {[symbol]} := rfl

@[simp]
theorem language_concat (first second : Pattern) :
    (concat first second).language = first.language * second.language := by
  ext text
  rw [mem_language, Language.mem_mul, Denotes]
  constructor
  · intro h
    obtain ⟨front, back, rfl, hfront, hback⟩ := h
    exact ⟨front, hfront, back, hback, rfl⟩
  · intro h
    obtain ⟨front, hfront, back, hback, rfl⟩ := h
    exact ⟨front, back, rfl, hfront, hback⟩

@[simp]
theorem language_choice (first second : Pattern) :
    (choice first second).language = first.language + second.language := rfl

@[simp]
theorem language_star (body : Pattern) : (star body).language = body.language∗ := rfl

theorem language_joinBalanced_concat {patterns : List Pattern} {joined : Pattern}
    (h : joinBalanced concat patterns = some joined) :
    joined.language = (patterns.map language).prod := by
  rw [List.prod_eq_foldr]
  exact value_joinBalanced mul_assoc language_concat mul_one h

theorem language_joinBalanced_choice {patterns : List Pattern} {joined : Pattern}
    (h : joinBalanced choice patterns = some joined) :
    joined.language = (patterns.map language).sum := by
  rw [List.sum_eq_foldr]
  exact value_joinBalanced add_assoc language_choice add_zero h

/-- The pattern of a text stands for that text only. -/
theorem language_string (text : List Char) : (string text).language = {text} := by
  unfold string
  cases joined : joinBalanced concat (text.map literal) with
  | none =>
    have nothing : text = [] := List.map_eq_nil_iff.mp (joinBalanced_eq_none.mp joined)
    subst nothing
    rfl
  | some pattern =>
    rw [Option.getD_some, language_joinBalanced_concat joined, List.map_map]
    exact prod_singletons text

/-- The symbols of the literals, from left to right. -/
def literals : Pattern → List Char
  | empty => []
  | literal symbol => [symbol]
  | concat first second => first.literals ++ second.literals
  | choice first second => first.literals ++ second.literals
  | star body => body.literals

/-- How many patterns lie on the longest way down the tree. -/
def height : Pattern → Nat
  | empty => 1
  | literal _ => 1
  | concat first second => max first.height second.height + 1
  | choice first second => max first.height second.height + 1
  | star body => body.height + 1

theorem height_pos (pattern : Pattern) : 0 < pattern.height := by
  cases pattern <;> exact Nat.succ_pos _

end Pattern

end PatternAutomata
