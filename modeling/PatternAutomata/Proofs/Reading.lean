import PatternAutomata.Regex.Reader

/-!
# Steps of the reader

What a reader has before it and around it is viewed as three lists (`Reader.At`): the items of the
sequence that it is in, the branches before that sequence, and the frames outside. Each lemma says
for one character how these change, where nothing is ignored and no question mark follows. Positions
only go into spans, and none of the lemmas speaks of them.
-/
namespace PatternAutomata.Regex

/-- The signs that do not stand for themselves. -/
def operators : List Char := ['\\', '.', '+', '*', '?', '(', ')', '|', '[', '\x7b', '^', '$']

/-- The innermost frame, if there is one, is that of a group. -/
def Closed : List Frame → Prop
  | .alternation .. :: _ => False
  | _ => True

/-- The frames with some branches above them; without a branch there is no frame for them. -/
def withBranches (start : Position) : List Node → List Frame → List Frame
  | [], outer => outer
  | branch :: earlier, outer => .alternation start (branch :: earlier) :: outer

theorem Position.index_after (position : Position) (c : Char) :
    (position.after c).index = position.index + 1 := by
  unfold after
  split
  · rfl
  · rfl

theorem Cursor.skipBlank_of_not {cursor : Cursor} (spaces : cursor.ignoresSpace = false) :
    cursor.skipBlank = cursor := by
  rw [skipBlank, spaces]
  rfl

theorem Cursor.unmoved {cursor : Cursor} (spaces : cursor.ignoresSpace = false) :
    (cursor.skipBlank.position != cursor.position) = false := by
  rw [skipBlank_of_not spaces]
  exact bne_self_eq_false _

/-- A text is not next if what is left does not begin as the text does. -/
theorem Cursor.skip?_eq_none {cursor : Cursor} {sign : Char} (absent : sign ∉ cursor.rest)
    {text : String} {more : List Char} (begins : text.toList = sign :: more) :
    cursor.skip? text = none := by
  unfold skip?
  rw [begins, if_neg]
  intro (isPrefix : (sign :: more).isPrefixOf cursor.rest = true)
  exact absent ((List.isPrefixOf_iff_prefix.mp isPrefix).subset List.mem_cons_self)

theorem Cursor.sees_eq_false {cursor : Cursor} {sign : Char} (absent : sign ∉ cursor.rest) :
    cursor.sees sign = false := by
  unfold sees
  cases left : cursor.rest with
  | nil => rfl
  | cons c rest =>
    rw [left] at absent
    refine beq_eq_false_iff_ne.mpr fun same => absent ?_
    rw [← Option.some.inj same]
    exact List.mem_cons_self

theorem repeats?_eq_none {c : Char} (plain : c ∉ operators) {cursor : Cursor} {rest : List Char}
    (left : cursor.rest = c :: rest) : repeats? cursor = none := by
  have sign : signBounds? c = none := by
    unfold signBounds?
    split
    · exact absurd (by decide) plain
    · exact absurd (by decide) plain
    · exact absurd (by decide) plain
    · rfl
  have brace : c ≠ '\x7b' := fun same => plain (by rw [same]; decide)
  simp only [repeats?, left, sign, if_neg brace, Option.map_none]

/-- A parenthesis that no question mark follows opens a capturing group. -/
theorem opening_capture (index : Nat) (names : GroupNames) {cursor : Cursor}
    (spaces : cursor.ignoresSpace = false) (absent : '?' ∉ cursor.bump.rest) :
    opening index names cursor = .ok (.group (.capture index none), cursor.bump) := by
  have still : cursor.advance = cursor.bump := by
    refine Cursor.skipBlank_of_not ?_
    unfold Cursor.bump
    split
    · exact spaces
    · exact spaces
  have around : lookAround? cursor.bump = none := by
    unfold lookAround?
    rw [Cursor.skip?_eq_none absent rfl, Cursor.skip?_eq_none absent rfl,
      Cursor.skip?_eq_none absent rfl, Cursor.skip?_eq_none absent rfl]
    rfl
  have unnamed : (cursor.bump.skip? "?P<").or (cursor.bump.skip? "?<") = none := by
    rw [Cursor.skip?_eq_none absent rfl, Cursor.skip?_eq_none absent rfl]
    rfl
  simp only [opening, still, around, unnamed, Cursor.sees_eq_false absent, Bool.false_eq_true,
    if_false]

namespace Reader

/-- Where a reader is: in a sequence with some items, after some branches, latest first, and within
some frames. White space stands for itself. -/
structure At (reader : Reader) (outer : List Frame) (earlier items : List Node) : Prop where
  items : reader.items = items
  spaces : reader.ignoresSpace = false
  frames : ∃ start, reader.frames = withBranches start earlier outer

/-- A text takes one reader to another, whatever comes after it without a question mark. -/
def Reads (text : List Char) (before after : Reader) : Prop :=
  ∀ rest, '?' ∉ rest → run (text ++ rest) 0 before = run rest 0 after

theorem Reads.nil (reader : Reader) : Reads [] reader reader := fun _ _ => rfl

theorem Reads.append {front back : List Char} {first second third : Reader}
    (one : Reads front first second) (other : Reads back second third) (absent : '?' ∉ back) :
    Reads (front ++ back) first third := by
  intro rest h
  rw [List.append_assoc, one _ (List.not_mem_append absent h), other rest h]

/-- A step over one character. -/
theorem run_cons {before after : Reader} {c : Char} {rest : List Char}
    (step : before.step c ⟨c :: rest, before.position, before.ignoresSpace⟩ = .ok after)
    (moved : after.position = before.position.after c) :
    run (c :: rest) 0 before = run rest 0 after := by
  have once : after.position.index - before.position.index - 1 = 0 := by
    rw [moved, Position.index_after]
    omega
  rw [run, step]
  change run rest (after.position.index - before.position.index - 1) after = run rest 0 after
  rw [once]

variable {reader : Reader} {cursor : Cursor}

theorem primitive_literal {c : Char} (plain : c ∉ operators) :
    reader.primitive c cursor =
      .ok (reader.push (.literal ⟨cursor.nextSpan, c, false⟩) cursor.bump) := by
  unfold primitive
  split
  · exact absurd (by decide) plain
  · exact absurd (by decide) plain
  · exact absurd (by decide) plain
  · exact absurd (by decide) plain
  · rfl

theorem step_literal (spaces : cursor.ignoresSpace = false) {c : Char} {rest : List Char}
    (left : cursor.rest = c :: rest) (plain : c ∉ operators) :
    reader.step c cursor =
      .ok (reader.push (.literal ⟨cursor.nextSpan, c, false⟩) cursor.bump) := by
  unfold step
  rw [← primitive_literal plain]
  simp only [Cursor.unmoved spaces, Bool.false_eq_true, if_false]
  split
  · exact absurd (by decide) plain
  · exact absurd (by decide) plain
  · exact absurd (by decide) plain
  · exact absurd (by decide) plain
  · rw [repeats?_eq_none plain left]

theorem step_bar (spaces : cursor.ignoresSpace = false) :
    reader.step '|' cursor = .ok (reader.nextBranch cursor.bump) := by
  simp only [step, Cursor.unmoved spaces, Bool.false_eq_true, if_false]

/-- A parenthesis opens the next capturing group. -/
theorem step_open (spaces : cursor.ignoresSpace = false) (absent : '?' ∉ cursor.bump.rest) :
    reader.step '(' cursor =
      .ok { reader.openGroup cursor.nextSpan (.capture reader.nextCapture none) cursor.bump with
        nextCapture := reader.nextCapture + 1 } := by
  simp only [step, Cursor.unmoved spaces, Bool.false_eq_true, if_false, openParenthesis,
    opening_capture reader.nextCapture reader.names spaces absent]
  rfl

theorem step_close (spaces : cursor.ignoresSpace = false) :
    reader.step ')' cursor = reader.closeGroup cursor := by
  simp only [step, Cursor.unmoved spaces, Bool.false_eq_true, if_false]

/-- A star repeats the last item any number of times. -/
theorem step_star (spaces : cursor.ignoresSpace = false) {rest : List Char}
    (left : cursor.rest = '*' :: rest) (absent : '?' ∉ cursor.bump.rest) :
    reader.step '*' cursor =
      reader.repeatLast cursor (.ok (⟨0, none, true⟩, cursor.bump)) := by
  have sign : repeats? cursor = some (.ok (⟨0, none, true⟩, cursor.bump)) := by
    unfold repeats?
    rw [left]
    simp only [signBounds?, Cursor.sees_eq_false absent]
    rfl
  simp only [step, Cursor.unmoved spaces, Bool.false_eq_true, if_false, sign]
  rfl

theorem Reads.of_step {before after : Reader} {c : Char}
    (step : ∀ rest, '?' ∉ rest →
      before.step c ⟨c :: rest, before.position, before.ignoresSpace⟩ = .ok after)
    (moved : after.position = before.position.after c) : Reads [c] before after :=
  fun rest absent => run_cons (step rest absent) moved

/-! ### What a reading leaves -/

variable {outer : List Frame} {earlier items : List Node}

/-- The branches of a reader are put together only if there are several. -/
theorem At.branches_eq (h : reader.At outer earlier items) (closed : Closed outer) :
    reader.branches.2 = outer ∧
      (earlier = [] → reader.branches.1 = reader.sequence) ∧
      (earlier ≠ [] → ∃ span,
        reader.branches.1 = .alternation span (reader.sequence :: earlier).reverse) := by
  obtain ⟨start, frames⟩ := h.frames
  unfold branches
  rw [frames]
  cases earlier with
  | nil =>
    cases outer with
    | nil => exact ⟨rfl, fun _ => rfl, fun none => absurd rfl none⟩
    | cons frame rest =>
      cases frame with
      | group => exact ⟨rfl, fun _ => rfl, fun none => absurd rfl none⟩
      | alternation => exact closed.elim
  | cons branch earlier =>
    exact ⟨rfl, fun none => absurd none (List.cons_ne_nil _ _), fun _ => ⟨_, rfl⟩⟩

theorem reads_literal (h : reader.At outer earlier items) {c : Char} (plain : c ∉ operators) :
    ∃ after span, Reads [c] reader after ∧
      after.At outer earlier (.literal ⟨span, c, false⟩ :: items) := by
  let here : Cursor := ⟨[c], reader.position, reader.ignoresSpace⟩
  refine ⟨reader.push (.literal ⟨here.nextSpan, c, false⟩) here.bump, here.nextSpan, ?_, ?_⟩
  · exact Reads.of_step (fun rest _ => step_literal h.spaces rfl plain) rfl
  · exact ⟨congrArg _ h.items, h.spaces, h.frames⟩

theorem reads_star {body : Node} (h : reader.At outer earlier (body :: items))
    (repeatable : ∀ span settings, body ≠ .flags span settings) :
    ∃ after span, Reads ['*'] reader after ∧
      after.At outer earlier (.repetition span ⟨0, none, true⟩ body :: items) := by
  let here : Cursor := ⟨['*'], reader.position, reader.ignoresSpace⟩
  let span := here.bump.since body.span.start
  refine ⟨{ reader with
    items := .repetition span ⟨0, none, true⟩ body :: items, position := here.bump.position },
    span, Reads.of_step (fun rest absent => ?_) rfl, ⟨rfl, h.spaces, h.frames⟩⟩
  refine (step_star h.spaces rfl (by exact absent)).trans ?_
  unfold repeatLast
  rw [h.items]
  cases body with
  | flags flagSpan settings => exact absurd rfl (repeatable flagSpan settings)
  | _ => rfl

/-- A bar ends a branch and begins another one. -/
theorem reads_bar (h : reader.At outer earlier items) (closed : Closed outer) :
    ∃ after, Reads ['|'] reader after ∧ after.At outer (reader.sequence :: earlier) [] := by
  let here : Cursor := ⟨['|'], reader.position, reader.ignoresSpace⟩
  refine ⟨reader.nextBranch here.bump, ?_, ?_⟩
  · exact Reads.of_step (fun rest _ => step_bar h.spaces) rfl
  · obtain ⟨start, frames⟩ := h.frames
    refine ⟨rfl, h.spaces, ?_⟩
    unfold nextBranch
    simp only [frames]
    cases earlier with
    | nil =>
      cases outer with
      | nil => exact ⟨reader.start, rfl⟩
      | cons frame rest =>
        cases frame with
        | group => exact ⟨reader.start, rfl⟩
        | alternation => exact closed.elim
    | cons branch earlier => exact ⟨start, rfl⟩

theorem reads_open (reader : Reader) (spaces : reader.ignoresSpace = false) :
    ∃ after span index, Reads ['('] reader after ∧
      after.At (.group span (.capture index none) false reader.items reader.start :: reader.frames)
        [] [] := by
  let here : Cursor := ⟨['('], reader.position, reader.ignoresSpace⟩
  refine ⟨{ reader.openGroup here.nextSpan (.capture reader.nextCapture none) here.bump with
    nextCapture := reader.nextCapture + 1 }, here.nextSpan, reader.nextCapture, ?_, ?_⟩
  · exact Reads.of_step (fun rest absent => step_open spaces absent) rfl
  · refine ⟨rfl, spaces, reader.start, ?_⟩
    rw [withBranches, ← spaces]
    rfl

theorem reads_close {span : Span} {kind : GroupKind} {around : List Node} {start : Position}
    {frames : List Frame} {inner : List Node}
    (h : reader.At (.group span kind false around start :: frames) earlier inner) :
    ∃ after whole, Reads [')'] reader after ∧
      after.items = .group whole kind reader.branches.1 :: around ∧
      after.ignoresSpace = false ∧ after.frames = frames := by
  let here : Cursor := ⟨[')'], reader.position, reader.ignoresSpace⟩
  let whole := here.bump.since span.start
  have below := (h.branches_eq trivial).1
  refine ⟨{ reader with
    position := here.bump.position, ignoresSpace := false
    items := .group whole kind reader.branches.1 :: around, start, frames },
    whole, Reads.of_step (fun rest _ => ?_) rfl, rfl, rfl, rfl⟩
  refine (step_close h.spaces).trans ?_
  unfold closeGroup
  generalize reader.branches = both at below ⊢
  obtain ⟨body, outside⟩ := both
  cases below
  rfl

/-- A text in parentheses is read as one item, a group with what the text between them gives. -/
theorem reads_group {P : Node → Prop} (h : reader.At outer earlier items) {text : List Char}
    (absent : '?' ∉ text)
    (body : ∀ inner frames, inner.At frames [] [] → Closed frames →
      ∃ after branches last, Reads text inner after ∧ after.At frames branches last ∧
        P after.branches.1) :
    ∃ after span index node, Reads ('(' :: text ++ [')']) reader after ∧
      after.At outer earlier (.group span (.capture index none) node :: items) ∧ P node := by
  obtain ⟨inner, span, index, opens, atInner⟩ := reads_open reader h.spaces
  obtain ⟨full, branches, last, goes, atFull, holds⟩ := body inner _ atInner trivial
  obtain ⟨after, whole, closes, newItems, spaces, frames⟩ := reads_close atFull
  refine ⟨after, whole, index, full.branches.1, ?_, ⟨?_, spaces, ?_⟩, holds⟩
  · exact opens.append (goes.append closes (by decide)) (List.not_mem_append absent (by decide))
  · rw [newItems, h.items]
  · rw [frames]
    exact h.frames

end Reader

/-- The tree of a text that is read from the beginning, with no group left open. -/
theorem readTree_of_reads {text : List Char} {after : Reader} {earlier items : List Node}
    (reads : Reader.Reads text .initial after) (there : after.At [] earlier items) :
    readTree text = .ok after.branches.1 := by
  have read := reads [] List.not_mem_nil
  rw [List.append_nil] at read
  have below := (there.branches_eq trivial).1
  unfold readTree
  rw [read]
  change after.finish = _
  unfold Reader.finish
  generalize after.branches = both at below ⊢
  obtain ⟨node, frames⟩ := both
  cases below
  rfl

end PatternAutomata.Regex
