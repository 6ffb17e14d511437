import PatternAutomata.Pattern.Render
import PatternAutomata.Proofs.Compile
import PatternAutomata.Proofs.Language

/-!
# What a written pattern stands for

The language of a written pattern can be read off from left to right, with no tree in between: a
`Level` holds what has been read inside one pair of brackets, and `meaning` reads a whole text. A
pattern written by `render` reads as its own language (`meaning_chars`), so what is written alike
stands for the same texts (`render_determines_matches`). The exception is a star over the empty
pattern, which is written as a star alone: after a symbol or a closing bracket it is read as
repeating what is before it (`captured_star_changes_matches`).
-/
namespace PatternAutomata

open scoped Computability

/-- The signs that a written pattern is read by. -/
def marks : List Char := ['(', ')', '|', '*']

/-- What has been read inside one pair of brackets: the branches that are finished, the items of the
branch that is being read, and its last item, which a star would repeat. -/
structure Level where
  branches : Language Char
  items : Language Char
  last : Language Char

namespace Level

/-- The level on which some branches are finished and nothing has been read since. -/
def after (branches : Language Char) : Level := ⟨branches, 1, 1⟩

/-- The branch that is being read, as far as it has been. -/
def branch (level : Level) : Language Char := level.items * level.last

/-- All branches, if the last one ends here. -/
def value (level : Level) : Language Char := level.branches + level.branch

def addItem (level : Level) (language : Language Char) : Level :=
  ⟨level.branches, level.branch, language⟩

def repeatLast (level : Level) : Level := { level with last := level.last∗ }

/-- A star would change nothing here. -/
def Settled (level : Level) : Prop := level.last∗ = level.last

theorem settled_after (branches : Language Char) : (after branches).Settled := kstar_one

theorem settled_repeatLast (level : Level) : level.repeatLast.Settled := kstar_idem level.last

theorem Settled.repeatLast_eq {level : Level} (settled : level.Settled) :
    level.repeatLast = level := by
  rw [repeatLast, settled]

@[simp] theorem branch_after (branches : Language Char) : (after branches).branch = 1 := mul_one 1

end Level

/-- The level that is being read, and those around it, the closest first. -/
structure Levels where
  level : Level
  outer : List Level

namespace Levels

/-- Reads one character. A closing bracket that nothing opened is passed over. -/
def read (levels : Levels) (c : Char) : Levels :=
  match c with
  | '(' => ⟨.after 0, levels.level :: levels.outer⟩
  | ')' =>
    match levels.outer with
    | [] => levels
    | around :: outer => ⟨around.addItem levels.level.value, outer⟩
  | '|' => ⟨.after levels.level.value, levels.outer⟩
  | '*' => ⟨levels.level.repeatLast, levels.outer⟩
  | c => ⟨levels.level.addItem {[c]}, levels.outer⟩

def readAll (levels : Levels) (text : List Char) : Levels := text.foldl read levels

@[simp] theorem readAll_cons (levels : Levels) (c : Char) (text : List Char) :
    levels.readAll (c :: text) = (levels.read c).readAll text := rfl

theorem readAll_append (levels : Levels) (front back : List Char) :
    levels.readAll (front ++ back) = (levels.readAll front).readAll back := List.foldl_append

theorem read_symbol {c : Char} (symbol : c ∉ marks) (levels : Levels) :
    levels.read c = ⟨levels.level.addItem {[c]}, levels.outer⟩ := by
  unfold read
  split
  · exact absurd (by decide) symbol
  · exact absurd (by decide) symbol
  · exact absurd (by decide) symbol
  · exact absurd (by decide) symbol
  · rfl

end Levels

/-- The language that a text is read as. -/
def meaning (text : List Char) : Language Char :=
  ((Levels.mk (.after 0) []).readAll text).level.value

/-! ### Texts and what they add -/

/-- The text is read as one item. -/
def IsItem (text : List Char) (language : Language Char) : Prop :=
  ∀ level outer, (Levels.mk level outer).readAll text = ⟨level.addItem language, outer⟩

/-- The text goes on with a branch and adds a language to it. A star at its beginning must not find
an item to repeat; a star at its end leaves nothing that another star would change. -/
def Adds (text : List Char) (language : Language Char) : Prop :=
  ∀ level outer, (text.head? = some '*' → level.Settled) →
    ∃ next : Level, (Levels.mk level outer).readAll text = ⟨next, outer⟩ ∧
      next.branches = level.branches ∧ next.branch = level.branch * language ∧
      (text.getLast? = some '*' → next.Settled)

/-- The text is read as branches, after those that are finished. -/
def Offers (text : List Char) (language : Language Char) : Prop :=
  ∀ branches outer, ∃ next : Level,
    (Levels.mk (.after branches) outer).readAll text = ⟨next, outer⟩ ∧
      next.value = branches + language

section Texts

variable {text front back : List Char} {language before after : Language Char}

theorem head?_append_of_some {c : Char} (begins : front.head? = some c) :
    (front ++ back).head? = some c := by
  rw [List.head?_append, begins, Option.some_or]

theorem IsItem.adds (item : IsItem text language) (plain : text.getLast? ≠ some '*') :
    Adds text language := by
  intro level outer _
  exact ⟨_, item level outer, rfl, rfl, fun star => absurd star plain⟩

theorem isItem_symbol {c : Char} (symbol : c ∉ marks) : IsItem [c] {[c]} := by
  intro level outer
  exact Levels.read_symbol symbol _

theorem Offers.isItem (offers : Offers text language) :
    IsItem ('(' :: text ++ [')']) language := by
  intro level outer
  obtain ⟨inner, reads, value⟩ := offers 0 (level :: outer)
  rw [zero_add] at value
  rw [List.cons_append, Levels.readAll_cons, Levels.readAll_append]
  have opened : (Levels.mk level outer).read '(' = ⟨.after 0, level :: outer⟩ := rfl
  rw [opened, reads, ← value]
  rfl

/-- A star after an item repeats it. -/
theorem IsItem.star (item : IsItem text language) : Adds (text ++ ['*']) language∗ := by
  intro level outer _
  refine ⟨(level.addItem language).repeatLast, ?_, rfl, rfl, fun _ => Level.settled_repeatLast _⟩
  rw [Levels.readAll_append, item]
  rfl

/-- A star after a star changes nothing. -/
theorem Adds.star (adds : Adds text language) (ends : text.getLast? = some '*') :
    Adds (text ++ ['*']) language := by
  intro level outer settled
  obtain ⟨next, reads, branches, branch, final⟩ :=
    adds level outer fun begins => settled (head?_append_of_some begins)
  refine ⟨next, ?_, branches, branch, fun _ => final ends⟩
  rw [Levels.readAll_append, reads]
  have again : (Levels.mk next outer).readAll ['*'] = ⟨next.repeatLast, outer⟩ := rfl
  rw [again, (final ends).repeatLast_eq]

theorem adds_nil : Adds [] 1 := by
  intro level outer _
  exact ⟨level, rfl, rfl, (mul_one _).symm, fun none => by cases none⟩

/-- A star that finds nothing to repeat. -/
theorem adds_star : Adds ['*'] 1 := by
  intro level outer settled
  have settled := settled rfl
  refine ⟨level, ?_, rfl, (mul_one _).symm, fun _ => settled⟩
  have reads : (Levels.mk level outer).readAll ['*'] = ⟨level.repeatLast, outer⟩ := rfl
  rw [reads, settled.repeatLast_eq]

/-- Texts follow each other if no star that the second begins with repeats the end of the first. -/
theorem Adds.append (first : Adds front before) (second : Adds back after)
    (apart : front = [] ∨ front.getLast? = some '*' ∨ back.head? ≠ some '*') :
    Adds (front ++ back) (before * after) := by
  intro level outer settled
  obtain ⟨middle, reads, same, branch, final⟩ :=
    first level outer fun begins => settled (head?_append_of_some begins)
  have ready : back.head? = some '*' → middle.Settled := by
    intro begins
    rcases apart with rfl | ends | other
    · cases reads
      exact settled begins
    · exact final ends
    · exact absurd begins other
  obtain ⟨next, goesOn, same', branch', final'⟩ := second middle outer ready
  refine ⟨next, ?_, same'.trans same, ?_, fun ends => ?_⟩
  · rw [Levels.readAll_append, reads, goesOn]
  · rw [branch', branch, mul_assoc]
  · rw [List.getLast?_append] at ends
    -- an empty second text ends where the first one does
    cases last : back.getLast? with
    | none =>
      have nothing := List.getLast?_eq_none_iff.mp last
      subst nothing
      cases goesOn
      rw [last, Option.none_or] at ends
      exact final ends
    | some c =>
      rw [last, Option.some_or] at ends
      exact final' (last.trans ends)

theorem Adds.offers (adds : Adds text language) : Offers text language := by
  intro branches outer
  obtain ⟨next, reads, same, branch, _⟩ :=
    adds (.after branches) outer fun _ => Level.settled_after branches
  refine ⟨next, reads, ?_⟩
  rw [Level.value, same, branch, Level.branch_after, one_mul]
  rfl

/-- Branches on both sides of a bar. -/
theorem Offers.bar (first : Offers front before) (second : Offers back after) :
    Offers (front ++ '|' :: back) (before + after) := by
  intro branches outer
  obtain ⟨middle, reads, value⟩ := first branches outer
  obtain ⟨next, goesOn, whole⟩ := second middle.value outer
  refine ⟨next, ?_, ?_⟩
  · rw [Levels.readAll_append, reads]
    exact goesOn
  · rw [whole, value, add_assoc]

end Texts

/-! ### Written patterns -/

namespace Pattern

/-- The characters of the pattern as an operand of an operator that binds with strength `outer`. -/
def operand (pattern : Pattern) (outer : Nat) : List Char :=
  enclose (pattern.precedence < outer) pattern.chars

/-- Nowhere in the pattern are two parts put in sequence of which the first is written with a symbol
or a closing bracket at its end and the second with a star at its beginning. -/
def StarsApart : Pattern → Prop
  | empty => True
  | literal _ => True
  | concat first second => first.StarsApart ∧ second.StarsApart ∧
      (first.operand 1 = [] ∨ (first.operand 1).getLast? = some '*' ∨
        (second.operand 1).head? ≠ some '*')
  | choice first second => first.StarsApart ∧ second.StarsApart
  | star body => body.StarsApart

/-- The pattern is read as its own language, where branches may stand and, unless it is a choice,
within a branch. -/
structure ReadsAsItself (pattern : Pattern) : Prop where
  adds : 0 < pattern.precedence → Adds pattern.chars pattern.language
  offers : Offers pattern.chars pattern.language

theorem ReadsAsItself.of_adds {pattern : Pattern} (adds : Adds pattern.chars pattern.language) :
    pattern.ReadsAsItself := ⟨fun _ => adds, adds.offers⟩

theorem ReadsAsItself.operand {pattern : Pattern} (reads : pattern.ReadsAsItself) :
    Adds (pattern.operand 1) pattern.language := by
  unfold Pattern.operand
  by_cases loose : pattern.precedence < 1
  · have item := reads.offers.isItem
    simp only [loose, decide_true, enclose, if_true]
    exact item.adds (by rw [List.getLast?_concat]; decide)
  · simp only [loose, decide_false, enclose, Bool.false_eq_true, if_false]
    exact reads.adds (by omega)

/-- The star of a pattern is read as repeating all of it: if it is written without brackets, then
it is one symbol, or nothing at all, or ends in a star. -/
theorem ReadsAsItself.star {body : Pattern} (reads : body.ReadsAsItself)
    (symbols : ∀ c ∈ body.literals, c ∉ marks) :
    Adds (body.operand 2 ++ ['*']) body.language∗ := by
  cases body with
  | empty =>
    rw [language_empty, kstar_one]
    exact adds_star
  | literal symbol => exact (isItem_symbol (symbols symbol List.mem_cons_self)).star
  | concat first second => exact reads.offers.isItem.star
  | choice first second => exact reads.offers.isItem.star
  | star body =>
    -- `body**` is read as `body*`
    rw [language_star, kstar_idem, ← language_star]
    exact (reads.adds Nat.two_pos).star List.getLast?_concat

theorem readsAsItself (pattern : Pattern) (symbols : ∀ c ∈ pattern.literals, c ∉ marks)
    (apart : pattern.StarsApart) : pattern.ReadsAsItself := by
  induction pattern with
  | empty => exact .of_adds adds_nil
  | literal symbol =>
    have plain := symbols symbol List.mem_cons_self
    refine .of_adds ((isItem_symbol plain).adds ?_)
    intro star
    cases star
    exact plain (by decide)
  | concat first second hf hs =>
    obtain ⟨inFirst, inSecond, between⟩ := apart
    have first := hf (fun c member => symbols c (List.mem_append_left _ member)) inFirst
    have second := hs (fun c member => symbols c (List.mem_append_right _ member)) inSecond
    have whole := first.operand.append second.operand between
    rw [← language_concat] at whole
    exact .of_adds whole
  | choice first second hf hs =>
    obtain ⟨inFirst, inSecond⟩ := apart
    have first := hf (fun c member => symbols c (List.mem_append_left _ member)) inFirst
    have second := hs (fun c member => symbols c (List.mem_append_right _ member)) inSecond
    exact ⟨fun tight => absurd tight (Nat.lt_irrefl 0), first.offers.bar second.offers⟩
  | star body hb => exact .of_adds ((hb symbols apart).star symbols)

/-- A written pattern is read as the language of the pattern. -/
theorem meaning_chars {pattern : Pattern} (symbols : ∀ c ∈ pattern.literals, c ∉ marks)
    (apart : pattern.StarsApart) : meaning pattern.chars = pattern.language := by
  obtain ⟨last, reads, value⟩ := (readsAsItself pattern symbols apart).offers 0 []
  rw [meaning, reads, value, zero_add]

/-- Patterns that are written alike stand for the same texts, and matching gives the same answers,
if no literal is one of the signs and no star is written after what it would then be read to
repeat. -/
theorem render_determines_matches (left right : Pattern)
    (leftSymbols : ∀ c ∈ left.literals, c ∉ marks) (rightSymbols : ∀ c ∈ right.literals, c ∉ marks)
    (leftApart : left.StarsApart) (rightApart : right.StarsApart)
    (same : left.render = right.render) :
    (∀ text, left.Denotes text ↔ right.Denotes text) ∧
      ∀ text next next', (left.matchesFrom next text).1 = (right.matchesFrom next' text).1 := by
  have chars : left.chars = right.chars := String.ofList_injective same
  have languages : left.language = right.language := by
    rw [← meaning_chars leftSymbols leftApart, chars, meaning_chars rightSymbols rightApart]
  have denotes : ∀ text, left.Denotes text ↔ right.Denotes text := by
    intro text
    rw [← mem_language, languages, mem_language]
  refine ⟨denotes, fun text next next' => Bool.eq_iff_iff.mpr ?_⟩
  exact (accepts_compile left next text).trans
    ((denotes text).trans (accepts_compile right next' text).symm)

/-- Two stars of a symbol, then a choice with an empty branch. -/
def twiceStarred : Pattern :=
  concat (star (star (literal 'a'))) (choice empty (literal 'b'))

/-- The same in writing, but the second star repeats nothing and more parts are empty. -/
def starredThenEmpty : Pattern :=
  concat (star (literal 'a'))
    (concat (star empty) (choice (concat empty empty) (literal 'b')))

theorem twiceStarred_matches :
    ((∀ c ∈ twiceStarred.literals, c ∉ marks) ∧ (∀ c ∈ starredThenEmpty.literals, c ∉ marks) ∧
      twiceStarred.StarsApart ∧ starredThenEmpty.StarsApart ∧
      twiceStarred.render = "a**(|b)" ∧ twiceStarred.render = starredThenEmpty.render) ∧
    (∀ text, twiceStarred.Denotes text ↔ starredThenEmpty.Denotes text) ∧
      ∀ text next next',
        (twiceStarred.matchesFrom next text).1 = (starredThenEmpty.matchesFrom next' text).1 := by
  have leftSymbols : ∀ c ∈ twiceStarred.literals, c ∉ marks := by
    simp [twiceStarred, literals, marks]
  have rightSymbols : ∀ c ∈ starredThenEmpty.literals, c ∉ marks := by
    simp [starredThenEmpty, literals, marks]
  have leftApart : twiceStarred.StarsApart := by
    simp [twiceStarred, StarsApart, operand, enclose, precedence, chars]
  have rightApart : starredThenEmpty.StarsApart := by
    simp [starredThenEmpty, StarsApart, operand, enclose, precedence, chars]
  have same : twiceStarred.render = starredThenEmpty.render := by decide
  exact ⟨⟨leftSymbols, rightSymbols, leftApart, rightApart, by decide, same⟩,
    render_determines_matches _ _ leftSymbols rightSymbols leftApart rightApart same⟩

/-- A star that repeats nothing is read as repeating the symbol before it: a pattern that stands
for one text only is written like one that stands for the empty text too. -/
theorem captured_star_changes_matches :
    (∀ c ∈ (concat (literal 'a') (star empty)).literals, c ∉ marks) ∧
    (∀ c ∈ (star (literal 'a')).literals, c ∉ marks) ∧
    (concat (literal 'a') (star empty)).render = (star (literal 'a')).render ∧
    ((concat (literal 'a') (star empty)).matchesFrom 0 []).1 = false ∧
    ((star (literal 'a')).matchesFrom 0 []).1 = true := by
  refine ⟨by simp [literals, marks], by simp [literals, marks], by decide, ?_, ?_⟩
  · apply Bool.eq_false_iff.mpr
    intro matching
    have one := (accepts_compile (concat (literal 'a') (star empty)) 0 []).mp matching
    simp [Denotes] at one
  · have none : (star (literal 'a')).Denotes [] := ⟨[], rfl, by simp⟩
    exact (accepts_compile (star (literal 'a')) 0 []).mpr none

end Pattern

end PatternAutomata
