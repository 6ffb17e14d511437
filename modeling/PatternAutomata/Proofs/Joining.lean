import Mathlib.Data.Nat.Log
import PatternAutomata.Pattern.Render
import PatternAutomata.Proofs.Language

/-!
# The tree of a balanced join

Whatever operation joins a list in rounds, the operands are put together in the same shape: a
`Joining`, which has the operands at its leaves and a node for each join. Its operands are the list,
in order, and the deepest of them is under one join for each round (`exists_joining`). The rounds
halve the length and round up, so there are as many as the logarithm of the length, rounded up. The
pattern of a text is such a tree of concatenations; it is written as the text.
-/
namespace PatternAutomata

/-- A way of joining operands two by two. -/
inductive Joining (α : Type) where
  | operand (a : α)
  | join (first second : Joining α)

namespace Joining

variable {α : Type}

/-- What the operands come to under an operation. -/
def value (op : α → α → α) : Joining α → α
  | operand a => a
  | join first second => op (first.value op) (second.value op)

/-- The operands, from left to right. -/
def operands : Joining α → List α
  | operand a => [a]
  | join first second => first.operands ++ second.operands

/-- How many joins there are. -/
def joins : Joining α → Nat
  | operand _ => 0
  | join first second => first.joins + second.joins + 1

/-- How many joins the deepest operand is under. -/
def depth : Joining α → Nat
  | operand _ => 0
  | join first second => max first.depth second.depth + 1

theorem depth_join (first second : Joining α) :
    (join first second).depth = max first.depth second.depth + 1 := rfl

theorem foldr_operands (list : List α) :
    ((list.map operand).map operands).foldr (· ++ ·) [] = list := by
  induction list with
  | nil => rfl
  | cons first rest ih => exact congrArg (first :: ·) ih

theorem length_operands (tree : Joining α) : tree.operands.length = tree.joins + 1 := by
  induction tree with
  | operand => rfl
  | join first second hf hs =>
    simp only [operands, joins, List.length_append, hf, hs]
    omega

end Joining

/-! ### The shape does not depend on the operation -/

section Images

variable {α β : Type} {join : α → α → α} {op : β → β → β} {image : α → β}
variable (homomorphic : ∀ a b, image (join a b) = op (image a) (image b))

include homomorphic

theorem joinPairs_map (list : List α) :
    joinPairs op (list.map image) = (joinPairs join list).map image := by
  fun_induction joinPairs join list with
  | case1 first second rest ih => simp [joinPairs, homomorphic, ih]
  | case2 rest short =>
    cases rest with
    | nil => rfl
    | cons first rest =>
      cases rest with
      | nil => rfl
      | cons second rest => exact (short first second rest rfl).elim

/-- What respects the join may be applied before joining as well as after it. -/
theorem joinBalanced_map (list : List α) :
    joinBalanced op (list.map image) = (joinBalanced join list).map image := by
  fun_induction joinBalanced join list with
  | case1 => simp [joinBalanced]
  | case2 only => simp [joinBalanced]
  | case3 first second rest ih =>
    have round := joinPairs_map homomorphic (first :: second :: rest)
    simp only [List.map_cons] at round
    rw [List.map_cons, List.map_cons, joinBalanced, round, ih]

end Images

/-- The elements of a list are joined as the operands of a tree are. -/
theorem joinBalanced_eq_value {α : Type} (join : α → α → α) (list : List α) :
    joinBalanced join list =
      (joinBalanced .join (list.map Joining.operand)).map (Joining.value join) := by
  have operands : (list.map Joining.operand).map (Joining.value join) = list := by
    rw [List.map_map]
    exact List.map_id list
  rw [← joinBalanced_map (fun _ _ => rfl), operands]

/-! ### Depth -/

/-- The first element of a list has depth `d`, and no other is deeper. This is what every round keeps,
since the first element is never the odd one. -/
structure DeepestFirst {α : Type} (depth : α → Nat) (d : Nat) (list : List α) : Prop where
  first : list.head?.map depth = some d
  bounded : ∀ a ∈ list, depth a ≤ d

section Depth

variable {α : Type} {join : α → α → α} {depth : α → Nat} {d : Nat} {list : List α}

theorem deepestFirst_of_forall (nonempty : list ≠ []) (alike : ∀ a ∈ list, depth a = d) :
    DeepestFirst depth d list := by
  cases list with
  | nil => exact absurd rfl nonempty
  | cons first rest =>
    exact ⟨congrArg some (alike first List.mem_cons_self), fun a member => (alike a member).le⟩

variable (deeper : ∀ a b, depth (join a b) = max (depth a) (depth b) + 1)

include deeper

theorem depth_le_of_mem_joinPairs (bounded : ∀ a ∈ list, depth a ≤ d) :
    ∀ a ∈ joinPairs join list, depth a ≤ d + 1 := by
  fun_induction joinPairs join list with
  | case1 first second rest ih =>
    simp only [List.forall_mem_cons] at bounded ⊢
    obtain ⟨ofFirst, ofSecond, ofRest⟩ := bounded
    refine ⟨?_, ih ofRest⟩
    rw [deeper]
    omega
  | case2 rest short => exact fun a member => Nat.le_succ_of_le (bounded a member)

/-- A round puts the first element of a list under one more join, and no other under more than one. -/
theorem DeepestFirst.round {first second : α} {rest : List α}
    (leads : DeepestFirst depth d (first :: second :: rest)) :
    DeepestFirst depth (d + 1) (joinPairs join (first :: second :: rest)) := by
  refine ⟨?_, depth_le_of_mem_joinPairs deeper leads.bounded⟩
  have deep : depth first = d := by simpa using leads.first
  have other : depth second ≤ d := leads.bounded second (by simp)
  simp only [joinPairs, List.head?_cons, Option.map_some, deeper, Option.some.injEq]
  omega

/-- What a list is joined to has a level more than its first element for each round. -/
theorem DeepestFirst.depth_joinBalanced (leads : DeepestFirst depth d list) {joined : α}
    (h : joinBalanced join list = some joined) : depth joined = d + Nat.clog 2 list.length := by
  fun_induction joinBalanced join list generalizing d with
  | case1 => cases h
  | case2 only =>
    cases h
    have deep : depth joined = d := by simpa using leads.first
    simpa using deep
  | case3 first second rest ih =>
    have halved : Nat.clog 2 (first :: second :: rest).length =
        Nat.clog 2 (joinPairs join (first :: second :: rest)).length + 1 := by
      rw [joinPairs_length]
      exact Nat.clog_of_two_le (by decide) (by simp)
    rw [ih (leads.round deeper) h, halved]
    omega

end Depth

/-- A list that is not empty is joined by every operation, and by all in the same shape: the operands
are the elements of the list in their order, and the deepest is under one join for each round. -/
theorem exists_joining {α : Type} {list : List α} (nonempty : list ≠ []) :
    ∃ tree : Joining α, tree.operands = list ∧ tree.depth = Nat.clog 2 list.length ∧
      ∀ join, joinBalanced join list = some (tree.value join) := by
  -- joining the elements as operands gives the shape, and every other join is an image of this one
  cases shape : joinBalanced .join (list.map Joining.operand) with
  | none => exact absurd (List.map_eq_nil_iff.mp (joinBalanced_eq_none.mp shape)) nonempty
  | some tree =>
    have inOrder : tree.operands =
        ((list.map Joining.operand).map Joining.operands).foldr (· ++ ·) [] :=
      value_joinBalanced List.append_assoc (fun _ _ => rfl) List.append_nil shape
    have leads : DeepestFirst Joining.depth 0 (list.map Joining.operand) :=
      deepestFirst_of_forall (by simpa using nonempty) (by simp [Joining.depth])
    have deep : tree.depth = 0 + Nat.clog 2 (list.map Joining.operand).length :=
      leads.depth_joinBalanced Joining.depth_join shape
    refine ⟨tree, inOrder.trans (Joining.foldr_operands list), by simpa using deep, fun join => ?_⟩
    rw [joinBalanced_eq_value, shape, Option.map_some]

namespace Pattern

/-! ### The pattern of a text -/

theorem precedence_value_concat {tree : Joining Pattern}
    (tight : ∀ p ∈ tree.operands, 1 ≤ p.precedence) : 1 ≤ (tree.value concat).precedence := by
  cases tree with
  | operand p => exact tight p List.mem_cons_self
  | join => exact Nat.le_refl 1

/-- Concatenations of operands that need no brackets are written one after the other. -/
theorem chars_value_concat {tree : Joining Pattern}
    (tight : ∀ p ∈ tree.operands, 1 ≤ p.precedence) :
    (tree.value concat).chars = tree.operands.flatMap chars := by
  have unbracketed : ∀ {p : Pattern}, 1 ≤ p.precedence →
      enclose (p.precedence < 1) p.chars = p.chars := by
    intro p binds
    simp [enclose, Nat.not_lt.mpr binds]
  induction tree with
  | operand p => simp [Joining.value, Joining.operands]
  | join first second hf hs =>
    simp only [Joining.operands, List.forall_mem_append] at tight
    obtain ⟨tightFirst, tightSecond⟩ := tight
    rw [Joining.value, chars, unbracketed (precedence_value_concat tightFirst),
      unbracketed (precedence_value_concat tightSecond), hf tightFirst, hs tightSecond,
      Joining.operands, List.flatMap_append]

variable {text : List Char}

theorem joinBalanced_eq_string (nonempty : text ≠ []) :
    joinBalanced concat (text.map literal) = some (string text) := by
  cases joined : joinBalanced concat (text.map literal) with
  | none => exact absurd (List.map_eq_nil_iff.mp (joinBalanced_eq_none.mp joined)) nonempty
  | some pattern => rw [string, joined, Option.getD_some]

theorem chars_string (nonempty : text ≠ []) : (string text).chars = text := by
  obtain ⟨tree, inOrder, _, joined⟩ :=
    exists_joining (mt List.map_eq_nil_iff.mp nonempty : text.map literal ≠ [])
  have same : string text = tree.value concat :=
    Option.some.inj ((joinBalanced_eq_string nonempty).symm.trans (joined concat))
  have tight : ∀ p ∈ tree.operands, 1 ≤ p.precedence := by
    rw [inOrder]
    simp [precedence]
  rw [same, chars_value_concat tight, inOrder, List.flatMap_map]
  exact List.flatMap_singleton' text

theorem height_string (nonempty : text ≠ []) :
    (string text).height = Nat.clog 2 text.length + 1 := by
  have leads : DeepestFirst height 1 (text.map literal) :=
    deepestFirst_of_forall (by simpa using nonempty) (by simp [height])
  have deeper : ∀ first second : Pattern,
      (concat first second).height = max first.height second.height + 1 := fun _ _ => rfl
  rw [leads.depth_joinBalanced deeper (joinBalanced_eq_string nonempty), List.length_map,
    Nat.add_comm]

/-- Joining fails on the empty list only. It makes every other list into a tree of one join less than
there are patterns, which are its operands in their order, the deepest under as many joins as the
logarithm of their number, rounded up. So the pattern of a text is written as the text, signs and all,
and its height is one more than that logarithm for the length of the text. -/
theorem joined_in_balance (patterns : List Pattern) (text : List Char) :
    (∀ join : Pattern → Pattern → Pattern, joinBalanced join patterns = none ↔ patterns = []) ∧
    (patterns ≠ [] → ∃ tree : Joining Pattern,
      tree.operands = patterns ∧ tree.joins = patterns.length - 1 ∧
      tree.depth = Nat.clog 2 patterns.length ∧
      ∀ join, joinBalanced join patterns = some (tree.value join)) ∧
    (text ≠ [] → (string text).render = .ofList text ∧
      (string text).height = Nat.clog 2 text.length + 1) := by
  refine ⟨fun join => joinBalanced_eq_none, fun nonempty => ?_, fun nonempty => ?_⟩
  · obtain ⟨tree, inOrder, deep, joined⟩ := exists_joining nonempty
    have counted := tree.length_operands
    rw [inOrder] at counted
    exact ⟨tree, inOrder, by omega, deep, joined⟩
  · exact ⟨congrArg String.ofList (chars_string nonempty), height_string nonempty⟩

/-- Five patterns, one of them listed twice and one that is a concatenation itself. -/
def five : List Pattern :=
  [literal 'a', empty, concat (literal 'a') (literal 'b'), star (literal 'b'), literal 'a']

theorem five_in_balance :
    (five ≠ [] ∧ ∃ tree : Joining Pattern, tree.operands = five ∧ tree.joins = 4 ∧ tree.depth = 3 ∧
      joinBalanced concat five = some (tree.value concat) ∧
      joinBalanced choice five = some (tree.value choice)) ∧
    ['a', '*', '(', '|', 'b'] ≠ [] ∧ (string ['a', '*', '(', '|', 'b']).render = "a*(|b" ∧
      (string ['a', '*', '(', '|', 'b']).height = 4 := by
  obtain ⟨_, joins, writes⟩ := joined_in_balance five ['a', '*', '(', '|', 'b']
  have patterns : five ≠ [] := List.cons_ne_nil _ _
  have symbols : ['a', '*', '(', '|', 'b'] ≠ [] := List.cons_ne_nil _ _
  have rounds : Nat.clog 2 5 = 3 := by decide
  obtain ⟨tree, inOrder, counted, deep, joined⟩ := joins patterns
  obtain ⟨written, high⟩ := writes symbols
  exact ⟨⟨patterns, tree, inOrder, counted, deep.trans rounds, joined concat, joined choice⟩,
    symbols, written, high.trans (congrArg (· + 1) rounds)⟩

end Pattern

end PatternAutomata
