import PatternAutomata.Expr.OfNode
import PatternAutomata.Proofs.Normal
import PatternAutomata.Regex.Depth

/-!
# What trees stand for

`Node.Means` says three things of a tree that was read under the first flags: how many levels it
has, that it becomes a plain expression and leaves the flags as they were, and which language that
expression has. There is one lemma for each node that a written pattern can give.
-/
namespace PatternAutomata.Regex

open scoped Computability

/-- The flags under which a written pattern is read. -/
def plainFlags : Flags := .initial false

namespace Node

/-- The tree has at most `depth` levels, and it stands for a language, given by a plain expression
with the symbols of a list. It is not a change of flags. -/
structure Means (node : Node) (symbols : List Char) (depth : Nat) (language : Language Char) :
    Prop where
  shallow : ∀ limit level, level + depth ≤ limit → node.checkDepth limit level = .ok ()
  expr : ∃ expr, Expr.ofNode plainFlags node = .ok (expr, plainFlags) ∧
    expr.Plain symbols ∧ expr.language = language
  repeatable : ∀ span settings, node ≠ .flags span settings

/-- The trees stand for some languages, one after the other, none with more than `depth` levels. -/
def Mean (nodes : List Node) (symbols : List Char) (depth : Nat)
    (languages : List (Language Char)) : Prop :=
  List.Forall₂ (fun node language => node.Means symbols depth language) nodes languages

variable {symbols : List Char} {depth : Nat}

theorem Means.mono {deeper : Nat} {node : Node} {language : Language Char}
    (means : node.Means symbols depth language) (le : depth ≤ deeper) :
    node.Means symbols deeper language :=
  ⟨fun limit level h => means.shallow limit level (by omega), means.expr, means.repeatable⟩

theorem Mean.mono {deeper : Nat} {nodes : List Node} {languages : List (Language Char)}
    (mean : Mean nodes symbols depth languages) (le : depth ≤ deeper) :
    Mean nodes symbols deeper languages :=
  List.Forall₂.imp (fun _ _ means => means.mono le) mean

theorem enter_of_le {limit level : Nat} {span : Span} (h : level ≤ limit) :
    enter limit level span = .ok () := if_neg (Nat.not_lt.mpr h)

theorem means_empty (span : Span) : (empty span).Means symbols 0 1 :=
  ⟨fun _ _ _ => rfl, ⟨.empty, rfl, trivial, rfl⟩, fun _ _ h => by cases h⟩

theorem means_literal (span : Span) {c : Char} (inside : c ∈ symbols) :
    (literal ⟨span, c, false⟩).Means symbols 0 {[c]} := by
  refine ⟨fun _ _ _ => rfl, ⟨.text [c], ?_, ?_, Expr.language_text [c]⟩, fun _ _ h => by cases h⟩
  · rfl
  · exact Expr.plain_text (List.forall_mem_singleton.mpr inside)

theorem means_repetition (span : Span) {body : Node} {language : Language Char}
    (means : body.Means symbols depth language) :
    (repetition span ⟨0, none, true⟩ body).Means symbols (depth + 1) language∗ := by
  obtain ⟨expr, read, plain, same⟩ := means.expr
  refine ⟨fun limit level h => ?_, ?_, fun _ _ h => by cases h⟩
  · rw [checkDepth, enter_of_le (by omega)]
    exact means.shallow limit (level + 1) (by omega)
  · refine ⟨.repeated 0 none true expr, ?_, Expr.plain_repeated plain true, ?_⟩
    · rw [Expr.ofNode, read]
      rfl
    · rw [Expr.language_repeated plain, same]

theorem means_group (span : Span) (index : Nat) {body : Node} {language : Language Char}
    (means : body.Means symbols depth language) :
    (group span (.capture index none) body).Means symbols (depth + 1) language := by
  obtain ⟨expr, read, plain, same⟩ := means.expr
  refine ⟨fun limit level h => ?_, ?_, fun _ _ h => by cases h⟩
  · rw [checkDepth, enter_of_le (by omega)]
    exact means.shallow limit (level + 1) (by omega)
  · refine ⟨.capture index none expr, ?_, ⟨trivial, plain⟩, same⟩
    rw [Expr.ofNode, read]
    rfl

theorem checkDepths_of_mean {nodes : List Node} {languages : List (Language Char)}
    (mean : Mean nodes symbols depth languages) {limit level : Nat} (h : level + depth ≤ limit) :
    checkDepths limit level nodes = .ok () := by
  induction mean with
  | nil => rfl
  | cons first _ ih =>
    rw [checkDepths, first.shallow limit level h]
    exact ih

theorem ofNodes_of_mean {nodes : List Node} {languages : List (Language Char)}
    (mean : Mean nodes symbols depth languages) :
    ∃ exprs, Expr.ofNodes plainFlags nodes = .ok (exprs, plainFlags) ∧
      (∀ expr ∈ exprs, expr.Plain symbols) ∧ exprs.map Expr.language = languages := by
  induction mean with
  | nil => exact ⟨[], rfl, fun _ absent => absurd absent List.not_mem_nil, rfl⟩
  | cons first _ ih =>
    obtain ⟨expr, read, plain, same⟩ := first.expr
    obtain ⟨exprs, reads, plains, sames⟩ := ih
    refine ⟨expr :: exprs, ?_, List.forall_mem_cons.mpr ⟨plain, plains⟩, ?_⟩
    · rw [Expr.ofNodes]
      exact bind_eq_ok.mpr ⟨_, read, bind_eq_ok.mpr ⟨_, reads, rfl⟩⟩
    · rw [List.map_cons, same, sames]

theorem means_concat (span : Span) {nodes : List Node} {languages : List (Language Char)}
    (mean : Mean nodes symbols depth languages) :
    (concat span nodes).Means symbols (depth + 1) languages.prod := by
  obtain ⟨exprs, reads, plains, sames⟩ := ofNodes_of_mean mean
  obtain ⟨product, plain⟩ := Expr.sequence_spec plains
  refine ⟨fun limit level h => ?_, ?_, fun _ _ h => by cases h⟩
  · rw [checkDepth, enter_of_le (by omega)]
    exact checkDepths_of_mean mean (by omega)
  · refine ⟨.sequence exprs, ?_, plain, by rw [product, sames]⟩
    rw [Expr.ofNode, reads]
    rfl

theorem means_alternation (span : Span) {nodes : List Node} {languages : List (Language Char)}
    (mean : Mean nodes symbols depth languages) (nonempty : nodes ≠ []) :
    (alternation span nodes).Means symbols (depth + 1) languages.sum := by
  obtain ⟨exprs, reads, plains, sames⟩ := ofNodes_of_mean mean
  have branched : exprs ≠ [] := by
    intro none
    subst none
    subst sames
    cases mean
    exact nonempty rfl
  obtain ⟨total, plain⟩ := Expr.either_spec branched plains
  refine ⟨fun limit level h => ?_, ?_, fun _ _ h => by cases h⟩
  · rw [checkDepth, enter_of_le (by omega)]
    exact checkDepths_of_mean mean (by omega)
  · refine ⟨.either exprs, ?_, plain, by rw [total, sames]⟩
    rw [Expr.ofNode, reads]
    rfl

end Node

end PatternAutomata.Regex
