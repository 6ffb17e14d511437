import PatternAutomata.Proofs.Grammar

/-!
# Written with the fewest brackets

A pattern without empty parts is read from its own writing (`isReadBack`), and no text that is read
as the pattern has fewer brackets: wherever the grammar reads a tree, the text opens at least the
brackets with which the tree is written at that place (`opened_operand_le`). The induction is on the
reading of the other text, which need not have its brackets where the writing has them.
-/
namespace PatternAutomata.Pattern

/-- How tightly a pattern has to bind to be this phrase without brackets. -/
def Phrase.strength : Phrase → Nat
  | atom => 3
  | part => 2
  | branch => 1
  | choice => 0

/-- No part of the pattern is the empty pattern. -/
def EmptyFree : Pattern → Prop
  | empty => False
  | literal _ => True
  | concat first second => first.EmptyFree ∧ second.EmptyFree
  | choice first second => first.EmptyFree ∧ second.EmptyFree
  | star body => body.EmptyFree

/-- How many brackets are opened. -/
def opened (text : List Char) : Nat := text.count '('

theorem opened_append (front back : List Char) :
    opened (front ++ back) = opened front + opened back := List.count_append

theorem opened_bar (text : List Char) : opened ('|' :: text) = opened text :=
  List.count_cons_of_ne (by decide)

section Operands

variable {pattern : Pattern} {inner outer : Nat}

theorem operand_of_lt (loose : pattern.precedence < outer) :
    pattern.operand outer = '(' :: pattern.chars ++ [')'] := by
  simp only [operand, enclose, loose, decide_true, if_true]

theorem operand_of_le (tight : outer ≤ pattern.precedence) :
    pattern.operand outer = pattern.chars := by
  simp only [operand, enclose, Nat.not_lt.mpr tight, decide_false, Bool.false_eq_true, if_false]

/-- Binding more tightly takes no fewer brackets. -/
theorem opened_operand_mono (pattern : Pattern) (below : outer ≤ inner) :
    opened (pattern.operand outer) ≤ opened (pattern.operand inner) := by
  by_cases tight : inner ≤ pattern.precedence
  · rw [operand_of_le tight, operand_of_le (Nat.le_trans below tight)]
  · rw [operand_of_lt (Nat.not_le.mp tight)]
    by_cases loose : pattern.precedence < outer
    · rw [operand_of_lt loose]
    · rw [operand_of_le (Nat.not_lt.mp loose), List.cons_append, opened, opened, List.count_cons,
        List.count_append]
      omega

/-- A pattern needs at most one pair of brackets around it. -/
theorem opened_operand_le_succ (pattern : Pattern) (outer : Nat) :
    opened (pattern.operand outer) ≤ opened pattern.chars + 1 := by
  by_cases loose : pattern.precedence < outer
  · rw [operand_of_lt loose, List.cons_append, opened, opened, List.count_cons_self,
      List.count_append]
    exact Nat.le_refl _
  · rw [operand_of_le (Nat.not_lt.mp loose)]
    exact Nat.le_succ _

end Operands

/-- Grouping is not written and does not change how tightly a pattern binds. -/
theorem Regroups.written_alike {left right : Pattern} (same : left.Regroups right) :
    left.chars = right.chars ∧ left.precedence = right.precedence := by
  induction same with
  | refl => exact ⟨rfl, rfl⟩
  | symm _ ih => exact ⟨ih.1.symm, ih.2.symm⟩
  | trans _ _ ihFirst ihSecond => exact ⟨ihFirst.1.trans ihSecond.1, ihFirst.2.trans ihSecond.2⟩
  | concat_assoc first second third => exact ⟨List.append_assoc _ _ _, rfl⟩
  | choice_assoc first second third =>
    refine ⟨?_, rfl⟩
    simp only [chars, List.append_assoc, List.cons_append]
  | concat _ _ ihFirst ihSecond =>
    refine ⟨?_, rfl⟩
    simp only [chars, ihFirst, ihSecond]
  | choice _ _ ihFirst ihSecond =>
    refine ⟨?_, rfl⟩
    simp only [chars, ihFirst, ihSecond]
  | star _ ih =>
    refine ⟨?_, rfl⟩
    simp only [chars, ih]

/-- A text that is read as a tree has at least the brackets with which the tree is written at the
same place. -/
theorem opened_operand_le {phrase : Phrase} {text : List Char} {tree : Pattern}
    (parses : Parses phrase text tree) : opened (tree.operand phrase.strength) ≤ opened text := by
  induction parses with
  | symbol plain => exact Nat.le_refl _
  | @brackets text tree _ ih =>
    have outside : opened ('(' :: text ++ [')']) = opened text + 1 := by
      rw [opened, List.cons_append, List.count_cons_self, List.count_append]
      rfl
    -- the pair may be needed or not: at most one is, and inside none is left out
    rw [outside]
    exact Nat.le_trans (opened_operand_le_succ tree 3) (Nat.succ_le_succ ih)
  | @atom text tree _ ih => exact Nat.le_trans (opened_operand_mono tree (by decide)) ih
  | @star text tree _ ih =>
    have written : (star tree).operand 2 = tree.operand 2 ++ ['*'] := rfl
    rw [Phrase.strength, written, opened_append, opened_append]
    exact Nat.add_le_add_right ih _
  | @part text tree _ ih => exact Nat.le_trans (opened_operand_mono tree (by decide)) ih
  | @concat front back first second _ _ ihFirst ihSecond =>
    have written : (concat first second).operand 1 = first.operand 1 ++ second.operand 1 := rfl
    rw [Phrase.strength, written, opened_append, opened_append]
    exact Nat.add_le_add (Nat.le_trans (opened_operand_mono first (by decide)) ihFirst) ihSecond
  | @branch text tree _ ih => exact Nat.le_trans (opened_operand_mono tree (by decide)) ih
  | @choice front back first second _ _ ihFirst ihSecond =>
    have written : (choice first second).operand 0 = first.chars ++ '|' :: second.chars := rfl
    have mine : opened first.chars ≤ opened front :=
      Nat.le_trans (opened_operand_mono first (by decide : 0 ≤ 1)) ihFirst
    have others : opened second.chars ≤ opened back := ihSecond
    rw [Phrase.strength, written, opened_append, opened_append, opened_bar, opened_bar]
    exact Nat.add_le_add mine others

/-! ### Reading a written pattern -/

/-- What the pattern is without brackets around it. -/
def phrase : Pattern → Phrase
  | empty => .atom
  | literal _ => .atom
  | concat .. => .branch
  | choice .. => .choice
  | star _ => .part

theorem strength_phrase (pattern : Pattern) : pattern.phrase.strength = pattern.precedence := by
  cases pattern with
  | empty | literal | concat | choice | star => rfl

theorem Phrase.strength_le (phrase : Phrase) : phrase.strength ≤ 3 := by
  cases phrase with
  | atom | part | branch | choice => decide

/-- What binds tightly may stand where something looser may. -/
theorem Parses.loosen {tight loose : Phrase} {text : List Char} {tree : Pattern}
    (parses : Parses tight text tree) (below : loose.strength ≤ tight.strength) :
    Parses loose text tree := by
  have ofBranch : Parses .branch text tree → loose.strength ≤ 1 → Parses loose text tree := by
    intro parses below
    cases loose with
    | branch => exact parses
    | choice => exact .branch parses
    | atom | part => exact absurd below (by decide)
  have ofPart : Parses .part text tree → loose.strength ≤ 2 → Parses loose text tree := by
    intro parses below
    cases loose with
    | part => exact parses
    | branch | choice => exact ofBranch (.part parses) (by decide)
    | atom => exact absurd below (by decide)
  cases tight with
  | atom =>
    cases loose with
    | atom => exact parses
    | part | branch | choice => exact ofPart (.atom parses) (by decide)
  | part => exact ofPart parses below
  | branch => exact ofBranch parses below
  | choice =>
    cases loose with
    | choice => exact parses
    | atom | part | branch => exact absurd below (by decide)

/-- What is written for the pattern is read as the pattern. -/
def IsReadBack (pattern : Pattern) : Prop :=
  ∃ tree, Parses pattern.phrase pattern.chars tree ∧ tree.Regroups pattern

/-- A pattern that is read back is so wherever it stands. -/
theorem IsReadBack.operand {pattern : Pattern} (back : pattern.IsReadBack) (phrase : Phrase) :
    ∃ tree, Parses phrase (pattern.operand phrase.strength) tree ∧ tree.Regroups pattern := by
  obtain ⟨tree, parses, same⟩ := back
  refine ⟨tree, ?_, same⟩
  by_cases tight : phrase.strength ≤ pattern.precedence
  · rw [operand_of_le tight]
    exact parses.loosen (by rwa [strength_phrase])
  · rw [operand_of_lt (Nat.not_le.mp tight)]
    have inside : Parses .choice pattern.chars tree := parses.loosen (Nat.zero_le _)
    exact (Parses.brackets inside).loosen phrase.strength_le

theorem isReadBack {pattern : Pattern} (full : pattern.EmptyFree)
    (symbols : ∀ c ∈ pattern.literals, c ∉ marks) : pattern.IsReadBack := by
  induction pattern with
  | empty => exact full.elim
  | literal symbol => exact ⟨_, .symbol (symbols symbol List.mem_cons_self), .refl _⟩
  | concat first second hf hs =>
    obtain ⟨p, begins, same⟩ :=
      (hf full.1 fun c member => symbols c (List.mem_append_left _ member)).operand .branch
    obtain ⟨q, ends, same'⟩ :=
      (hs full.2 fun c member => symbols c (List.mem_append_right _ member)).operand .branch
    obtain ⟨tree, whole, grouped⟩ := begins.append ends
    exact ⟨tree, whole, grouped.trans (.concat same same')⟩
  | choice first second hf hs =>
    obtain ⟨p, begins, same⟩ :=
      (hf full.1 fun c member => symbols c (List.mem_append_left _ member)).operand .choice
    obtain ⟨q, ends, same'⟩ :=
      (hs full.2 fun c member => symbols c (List.mem_append_right _ member)).operand .choice
    obtain ⟨tree, whole, grouped⟩ := begins.bar ends
    exact ⟨tree, whole, grouped.trans (.choice same same')⟩
  | star body hb =>
    obtain ⟨tree, inside, same⟩ := (hb full symbols).operand .part
    exact ⟨_, .star inside, .star same⟩

/-- A pattern without empty parts whose literals are no signs is read from its own writing, up to
grouping, and nothing else is; and every text that is read as the pattern opens at least as many
brackets as its writing. -/
theorem render_fewest_brackets {pattern : Pattern} (full : pattern.EmptyFree)
    (symbols : ∀ c ∈ pattern.literals, c ∉ marks) :
    pattern.WrittenAs pattern.render ∧
    (∀ other : Pattern, other.WrittenAs pattern.render → other.Regroups pattern) ∧
    ∀ text, pattern.WrittenAs text → opened pattern.render.toList ≤ opened text.toList := by
  have written : pattern.render.toList = pattern.chars := String.toList_ofList
  obtain ⟨tree, parses, same⟩ := (isReadBack full symbols).operand .choice
  have parses : Parses .choice pattern.render.toList tree := by rwa [written]
  refine ⟨⟨tree, parses, same⟩, fun other reads => ?_, fun text reads => ?_⟩
  · obtain ⟨tree', parses', same'⟩ := reads
    rw [parses.unique parses'] at same
    exact same'.symm.trans same
  · obtain ⟨tree', parses', same'⟩ := reads
    rw [written, ← same'.written_alike.1]
    exact opened_operand_le parses'

/-- The star of two choices in a row, and a star on its own among them. -/
def starredRow : Pattern :=
  star (concat (choice (literal 'a') (literal 'b')) (concat (star (literal 'c'))
    (choice (literal 'd') (literal 'e'))))

theorem starredRow_takes_three_brackets :
    (starredRow.EmptyFree ∧ ∀ c ∈ starredRow.literals, c ∉ marks) ∧
    starredRow.render = "((a|b)c*(d|e))*" ∧ starredRow.WrittenAs starredRow.render ∧
    ∀ text, starredRow.WrittenAs text → 3 ≤ opened text.toList := by
  have full : starredRow.EmptyFree := by simp [starredRow, EmptyFree]
  have symbols : ∀ c ∈ starredRow.literals, c ∉ marks := by simp [starredRow, literals, marks]
  obtain ⟨written, _, fewest⟩ := render_fewest_brackets full symbols
  have three : opened starredRow.render.toList = 3 := by
    rw [render, String.toList_ofList]
    decide
  exact ⟨⟨full, symbols⟩, by decide, written, fun text reads => three ▸ fewest text reads⟩

end PatternAutomata.Pattern
