import PatternAutomata.Pattern.Parse
import PatternAutomata.Pattern.Render
import PatternAutomata.Proofs.Reading
import PatternAutomata.Proofs.Tree

/-!
# Reading what was rendered

A rendered pattern is read back as a tree of another shape: sequences and alternations are flat, and
parentheses have become groups. What is kept is the language. A pattern that is no choice adds items
to the sequence it stands in, whose languages have the product for it; any pattern that fills the
room between two parentheses adds branches, whose languages have the sum for it. The bound on the
levels is twice the height, less two: a literal has none, and an operator adds two at most, its own
and that of the parentheses around an operand.
-/
namespace PatternAutomata.Pattern

open Regex
open scoped Computability

/-- No star is applied to the empty pattern itself. -/
def StarsHaveBodies : Pattern → Prop
  | empty => True
  | literal _ => True
  | concat first second => first.StarsHaveBodies ∧ second.StarsHaveBodies
  | choice first second => first.StarsHaveBodies ∧ second.StarsHaveBodies
  | star body => body ≠ empty ∧ body.StarsHaveBodies

/-! ### What a text adds to a reading -/

/-- Wherever a reader is, it reads the text as one more item of its sequence, which stands for the
language and has so many levels at most. -/
def AddsItem (text symbols : List Char) (levels : Nat) (language : Language Char) : Prop :=
  ∀ reader outer earlier items, Reader.At reader outer earlier items →
    ∃ after node, Reader.Reads text reader after ∧ after.At outer earlier (node :: items) ∧
      node.Means symbols levels language

/-- Wherever a reader is, it reads the text as more items, whose languages have the given product;
as a sequence of their own they have so many levels at most. -/
def AddsItems (text symbols : List Char) (levels : Nat) (language : Language Char) : Prop :=
  ∀ reader outer earlier items, Reader.At reader outer earlier items →
    ∃ after nodes depth languages, Reader.Reads text reader after ∧
      after.At outer earlier (nodes.reverse ++ items) ∧
      Node.Mean nodes symbols depth languages ∧ languages.prod = language ∧
      depth + min 1 (nodes.length - 1) ≤ levels

/-- At the beginning of a branch, a reader reads the text as that branch and others after it, whose
languages have the given sum; as an alternation of their own they have so many levels at most. -/
def AddsBranches (text symbols : List Char) (levels : Nat) (language : Language Char) : Prop :=
  ∀ reader outer earlier, Reader.At reader outer earlier [] → Closed outer →
    ∃ after before items branches depth languages, Reader.Reads text reader after ∧
      after.At outer before items ∧ after.sequence :: before = branches.reverse ++ earlier ∧
      Node.Mean branches symbols depth languages ∧ languages.sum = language ∧
      depth + min 1 (branches.length - 1) ≤ levels

variable {symbols : List Char}

theorem AddsItem.mono {text : List Char} {levels more : Nat} {language : Language Char}
    (adds : AddsItem text symbols levels language) (le : levels ≤ more) :
    AddsItem text symbols more language := by
  intro reader outer earlier items h
  obtain ⟨after, node, reads, there, means⟩ := adds reader outer earlier items h
  exact ⟨after, node, reads, there, means.mono le⟩

theorem AddsItems.mono {text : List Char} {levels more : Nat} {language : Language Char}
    (adds : AddsItems text symbols levels language) (le : levels ≤ more) :
    AddsItems text symbols more language := by
  intro reader outer earlier items h
  obtain ⟨after, nodes, depth, languages, reads, there, mean, product, bound⟩ :=
    adds reader outer earlier items h
  exact ⟨after, nodes, depth, languages, reads, there, mean, product, Nat.le_trans bound le⟩

theorem AddsBranches.mono {text : List Char} {levels more : Nat} {language : Language Char}
    (adds : AddsBranches text symbols levels language) (le : levels ≤ more) :
    AddsBranches text symbols more language := by
  intro reader outer earlier h closed
  obtain ⟨after, before, items, branches, depth, languages, reads, there, order, mean, total,
    bound⟩ := adds reader outer earlier h closed
  exact ⟨after, before, items, branches, depth, languages, reads, there, order, mean, total,
    Nat.le_trans bound le⟩

theorem AddsItem.items {text : List Char} {levels : Nat} {language : Language Char}
    (adds : AddsItem text symbols levels language) : AddsItems text symbols levels language := by
  intro reader outer earlier items h
  obtain ⟨after, node, reads, there, means⟩ := adds reader outer earlier items h
  exact ⟨after, [node], levels, [language], reads, there, .cons means .nil, List.prod_singleton,
    Nat.le_refl _⟩

theorem addsItems_nil : AddsItems [] symbols 0 1 := by
  intro reader outer earlier items h
  exact ⟨reader, [], 0, [], Reader.Reads.nil reader, h, .nil, rfl, Nat.le_refl _⟩

theorem addsItem_literal {c : Char} (inside : c ∈ symbols) (plain : c ∉ operators) :
    AddsItem [c] symbols 0 {[c]} := by
  intro reader outer earlier items h
  obtain ⟨after, span, reads, there⟩ := Reader.reads_literal h plain
  exact ⟨after, _, reads, there, Node.means_literal span inside⟩

theorem AddsItem.star {text : List Char} {levels : Nat} {language : Language Char}
    (adds : AddsItem text symbols levels language) :
    AddsItem (text ++ ['*']) symbols (levels + 1) language∗ := by
  intro reader outer earlier items h
  obtain ⟨middle, node, reads, there, means⟩ := adds reader outer earlier items h
  obtain ⟨after, span, star, last⟩ := Reader.reads_star there means.repeatable
  exact ⟨after, _, reads.append star (by decide), last, Node.means_repetition span means⟩

theorem AddsItems.append {front back : List Char} {levels : Nat} {first second : Language Char}
    (one : AddsItems front symbols levels first) (other : AddsItems back symbols levels second)
    (absent : '?' ∉ back) : AddsItems (front ++ back) symbols (levels + 1) (first * second) := by
  intro reader outer earlier items h
  obtain ⟨middle, nodes, depth, languages, reads, there, mean, product, bound⟩ :=
    one reader outer earlier items h
  obtain ⟨after, nodes', depth', languages', reads', there', mean', product', bound'⟩ :=
    other middle outer earlier _ there
  refine ⟨after, nodes ++ nodes', levels, languages ++ languages', reads.append reads' absent,
    ?_, ?_, ?_, by omega⟩
  · rw [List.reverse_append, List.append_assoc]
    exact there'
  · exact List.rel_append (mean.mono (by omega))
      (mean'.mono (by omega))
  · rw [List.prod_append, product, product']

/-- A bar between two texts puts their branches one after the other. -/
theorem AddsBranches.bar {front back : List Char} {levels : Nat} {first second : Language Char}
    (one : AddsBranches front symbols levels first)
    (other : AddsBranches back symbols levels second) (absent : '?' ∉ back) :
    AddsBranches (front ++ '|' :: back) symbols (levels + 1) (first + second) := by
  intro reader outer earlier h closed
  obtain ⟨middle, before, items, branches, depth, languages, reads, there, order, mean, total,
    bound⟩ := one reader outer earlier h closed
  obtain ⟨next, bar, begins⟩ := Reader.reads_bar there closed
  obtain ⟨after, before', items', branches', depth', languages', reads', there', order', mean',
    total', bound'⟩ := other next outer _ begins closed
  refine ⟨after, before', items', branches ++ branches', levels, languages ++ languages',
    ?_, there', ?_, ?_, ?_, by omega⟩
  · have noMark : '?' ∉ '|' :: back := List.not_mem_cons_of_ne_of_not_mem (by decide) absent
    exact reads.append (bar.append reads' absent) noMark
  · rw [order', order, List.reverse_append, List.append_assoc]
  · exact List.rel_append (mean.mono (by omega))
      (mean'.mono (by omega))
  · rw [List.sum_append, total, total']

/-! ### Sequences and alternations of a reader -/

theorem means_sequence {reader : Reader} {depth : Nat} {languages : List (Language Char)}
    (mean : Node.Mean reader.items.reverse symbols depth languages) :
    reader.sequence.Means symbols (depth + min 1 (reader.items.length - 1)) languages.prod := by
  unfold Reader.sequence
  generalize reader.items = items at mean
  match items, mean with
  | [], .nil => exact (Node.means_empty _).mono (Nat.zero_le _)
  | [node], .cons means .nil =>
    rw [List.prod_singleton]
    exact means
  | _ :: _ :: _, mean =>
    exact (Node.means_concat _ mean).mono (Nat.le_refl _)

/-- What stands between two parentheses, or is the whole text, stands for the sum. -/
theorem means_branches {reader : Reader} {outer : List Frame} {before items : List Node}
    {depth : Nat} {languages : List (Language Char)} (h : reader.At outer before items)
    (closed : Closed outer)
    (mean : Node.Mean (reader.sequence :: before).reverse symbols depth languages) :
    reader.branches.1.Means symbols (depth + min 1 before.length) languages.sum := by
  obtain ⟨_, alone, several⟩ := h.branches_eq closed
  match before, mean with
  | [], .cons means .nil =>
    rw [alone rfl, List.sum_singleton]
    exact means
  | _ :: _, mean =>
    obtain ⟨span, same⟩ := several (List.cons_ne_nil _ _)
    rw [same]
    refine (Node.means_alternation span mean ?_).mono (Nat.le_refl _)
    exact List.reverse_ne_nil_iff.mpr (List.cons_ne_nil _ _)

theorem AddsItems.branches {text : List Char} {levels : Nat} {language : Language Char}
    (adds : AddsItems text symbols levels language) :
    AddsBranches text symbols levels language := by
  intro reader outer earlier h closed
  obtain ⟨after, nodes, depth, languages, reads, there, mean, product, bound⟩ :=
    adds reader outer earlier [] h
  rw [List.append_nil] at there
  have items := there.items
  rw [← List.reverse_reverse nodes, ← items] at mean
  have means := means_sequence mean
  rw [product, items, List.length_reverse] at means
  exact ⟨after, earlier, _, [after.sequence], levels, [language], reads, there, rfl,
    .cons (means.mono bound) .nil, List.sum_singleton, Nat.le_refl _⟩

/-- Where there is nothing before it, a text is read as one tree. -/
theorem AddsBranches.whole {text : List Char} {levels : Nat} {language : Language Char}
    (adds : AddsBranches text symbols levels language) {reader : Reader} {outer : List Frame}
    (h : reader.At outer [] []) (closed : Closed outer) :
    ∃ after before items, Reader.Reads text reader after ∧ after.At outer before items ∧
      after.branches.1.Means symbols levels language := by
  obtain ⟨after, before, items, branches, depth, languages, reads, there, order, mean, total,
    bound⟩ := adds reader outer [] h closed
  rw [List.append_nil] at order
  have count := congrArg List.length order
  rw [List.length_cons, List.length_reverse] at count
  rw [← List.reverse_reverse branches, ← order] at mean
  have means := means_branches there closed mean
  rw [total] at means
  exact ⟨after, before, items, reads, there, means.mono (by omega)⟩

/-- What a text in parentheses adds is one group. -/
theorem AddsBranches.group {text : List Char} {levels : Nat} {language : Language Char}
    (adds : AddsBranches text symbols levels language) (absent : '?' ∉ text) :
    AddsItem ('(' :: text ++ [')']) symbols (levels + 1) language := by
  intro reader outer earlier items h
  obtain ⟨after, span, index, node, reads, there, means⟩ :=
    Reader.reads_group (P := fun body => body.Means symbols levels language) h absent
      fun _ _ h closed => adds.whole h closed
  exact ⟨after, _, reads, there, Node.means_group span index means⟩

/-! ### Patterns -/

/-- What is read of a rendered pattern: items if it is no choice, one item if it binds like a
single character, and branches in any case. -/
structure Readable (pattern : Pattern) (symbols : List Char) : Prop where
  branches : AddsBranches pattern.chars symbols (2 * pattern.height - 2) pattern.language
  items : 1 ≤ pattern.precedence →
    AddsItems pattern.chars symbols (2 * pattern.height - 2) pattern.language
  item : 2 ≤ pattern.precedence → pattern ≠ empty →
    AddsItem pattern.chars symbols (2 * pattern.height - 2) pattern.language

theorem not_mem_enclose {needed : Bool} {text : List Char} {c : Char} (absent : c ∉ text)
    (sign : c ∉ ['(', ')', '|', '*']) : c ∉ enclose needed text := by
  simp only [List.mem_cons, List.not_mem_nil, or_false, not_or] at sign
  unfold enclose
  split
  · simp only [List.cons_append, List.mem_cons, List.mem_append, List.not_mem_nil, or_false,
      not_or]
    exact ⟨sign.1, absent, sign.2.1⟩
  · exact absent

/-- A rendered pattern has no characters but those of its literals and four signs. -/
theorem not_mem_chars {pattern : Pattern} {c : Char} (absent : c ∉ pattern.literals)
    (sign : c ∉ ['(', ')', '|', '*']) : c ∉ pattern.chars := by
  induction pattern with
  | empty => exact List.not_mem_nil
  | literal symbol => exact absent
  | concat first second hf hs =>
    have ⟨notFirst, notSecond⟩ := not_or.mp (mt List.mem_append.mpr absent)
    exact List.not_mem_append (not_mem_enclose (hf notFirst) sign)
      (not_mem_enclose (hs notSecond) sign)
  | choice first second hf hs =>
    have ⟨notFirst, notSecond⟩ := not_or.mp (mt List.mem_append.mpr absent)
    have bar : c ≠ '|' := fun same => sign (by rw [same]; decide)
    exact List.not_mem_append (hf notFirst) (List.not_mem_cons_of_ne_of_not_mem bar (hs notSecond))
  | star body hb =>
    have star : c ∉ ['*'] := fun same => sign (by rw [List.mem_singleton.mp same]; decide)
    exact List.not_mem_append (not_mem_enclose (hb absent) sign) star

theorem question_not_mem_chars {pattern : Pattern} (plain : ∀ c ∈ pattern.literals, c ∉ operators) :
    '?' ∉ pattern.chars :=
  not_mem_chars (fun member => plain '?' member (by decide)) (by decide)

variable {pattern : Pattern}

/-- As an operand of a sequence, a choice is in parentheses. -/
theorem Readable.operand (readable : Readable pattern symbols) (absent : '?' ∉ pattern.chars) :
    AddsItems (enclose (pattern.precedence < 1) pattern.chars) symbols (2 * pattern.height - 1)
      pattern.language := by
  have := pattern.height_pos
  unfold enclose
  split
  · exact (readable.branches.group absent).items.mono (by omega)
  · next tight =>
    rw [decide_eq_true_eq] at tight
    exact (readable.items (by omega)).mono (by omega)

/-- As the body of a star, what is no single item is in parentheses. -/
theorem Readable.body (readable : Readable pattern symbols) (absent : '?' ∉ pattern.chars)
    (nonempty : pattern ≠ empty) :
    AddsItem (enclose (pattern.precedence < 2) pattern.chars) symbols (2 * pattern.height - 1)
      pattern.language := by
  have := pattern.height_pos
  unfold enclose
  split
  · exact (readable.branches.group absent).mono (by omega)
  · next tight =>
    rw [decide_eq_true_eq] at tight
    exact (readable.item (by omega) nonempty).mono (by omega)

theorem Readable.of_items {levels : Nat} (low : pattern.precedence < 2)
    (items : AddsItems pattern.chars symbols levels pattern.language)
    (le : levels ≤ 2 * pattern.height - 2) : Readable pattern symbols :=
  ⟨(items.mono le).branches, fun _ => items.mono le, fun high => by omega⟩

theorem Readable.of_item {levels : Nat}
    (item : AddsItem pattern.chars symbols levels pattern.language)
    (le : levels ≤ 2 * pattern.height - 2) : Readable pattern symbols :=
  ⟨(item.mono le).items.branches, fun _ => (item.mono le).items, fun _ _ => item.mono le⟩

/-- A pattern is read back wherever its rendering stands, if its literals are no operators. -/
theorem readable (pattern : Pattern) (bodies : pattern.StarsHaveBodies)
    (plain : ∀ c ∈ pattern.literals, c ∉ operators) (inside : pattern.literals ⊆ symbols) :
    Readable pattern symbols := by
  induction pattern with
  | empty => exact ⟨addsItems_nil.branches, fun _ => addsItems_nil, fun _ none => absurd rfl none⟩
  | literal symbol =>
    have member : symbol ∈ [symbol] := List.mem_cons_self
    exact .of_item (addsItem_literal (inside member) (plain symbol member)) (Nat.zero_le _)
  | concat first second hf hs =>
    have ⟨plainFirst, plainSecond⟩ := List.forall_mem_append.mp plain
    have ⟨inFirst, inSecond⟩ := List.append_subset.mp inside
    have absent := question_not_mem_chars plainSecond
    have one := (hf bodies.1 plainFirst inFirst).operand (question_not_mem_chars plainFirst)
    have other := (hs bodies.2 plainSecond inSecond).operand absent
    have := first.height_pos
    have together := (one.mono (Nat.le_max_left _ (2 * second.height - 1))).append
      (other.mono (Nat.le_max_right _ _)) (not_mem_enclose absent (by decide))
    rw [← language_concat] at together
    refine .of_items Nat.one_lt_two together ?_
    simp only [height]
    omega
  | choice first second hf hs =>
    have ⟨plainFirst, plainSecond⟩ := List.forall_mem_append.mp plain
    have ⟨inFirst, inSecond⟩ := List.append_subset.mp inside
    have one := (hf bodies.1 plainFirst inFirst).branches
    have other := (hs bodies.2 plainSecond inSecond).branches
    have := first.height_pos
    have either := (one.mono (Nat.le_max_left _ (2 * second.height - 2))).bar
      (other.mono (Nat.le_max_right _ _)) (question_not_mem_chars plainSecond)
    rw [← language_choice] at either
    refine ⟨either.mono ?_, fun tight => absurd tight (Nat.not_succ_le_zero 0),
      fun tight => absurd tight (Nat.not_succ_le_zero 1)⟩
    simp only [height]
    omega
  | star body hb =>
    have once := (hb bodies.2 plain inside).body (question_not_mem_chars plain) bodies.1
    have := body.height_pos
    have repeats := once.star
    rw [← language_star] at repeats
    refine .of_item repeats ?_
    simp only [height]
    omega

end PatternAutomata.Pattern
