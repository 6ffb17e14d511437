import PatternAutomata.Regex.Escape

/-!
# Classes in brackets

A class in brackets is read with a stack: a frame for every bracket that is open, and between them
a frame for an operator that waits for its right operand. Operators bind less tightly than the
listing of items and group to the left.
-/
namespace PatternAutomata.Regex

/-- Items that are listed one after the other, latest first, and the span of their text. -/
structure Items where
  span : Span
  items : List ClassNode

namespace Items

/-- No items, at a position. -/
def none (position : Position) : Items := ⟨.point position, []⟩

def push (list : Items) (item : ClassNode) : Items :=
  let start := if list.items.isEmpty then item.span.start else list.span.start
  ⟨⟨start, item.span.stop⟩, item :: list.items⟩

/-- The items as one node. -/
def node (list : Items) : ClassNode :=
  match list.items with
  | [] => .empty list.span
  | [item] => item
  | items => .union list.span items.reverse

end Items

/-- Something that has been begun and waits for what comes after it. -/
inductive ClassFrame where
  /-- An open bracket; `outer` are the items before it. -/
  | opened (span : Span) (negated : Bool) (outer : Items)
  /-- An operator with its left operand. -/
  | operator (operator : SetOperator) (left : ClassNode)

/-- How far the reading of a class has come. -/
structure ClassReader where
  position : Position
  ignoresSpace : Bool
  items : Items
  frames : List ClassFrame

/-- The name of a class of ASCII characters. -/
def asciiClass? (name : List Char) : Option AsciiClass :=
  match String.ofList name with
  | "alnum" => some .alnum
  | "alpha" => some .alpha
  | "ascii" => some .ascii
  | "blank" => some .blank
  | "cntrl" => some .cntrl
  | "digit" => some .digit
  | "graph" => some .graph
  | "lower" => some .lower
  | "print" => some .print
  | "punct" => some .punct
  | "space" => some .space
  | "upper" => some .upper
  | "word" => some .word
  | "xdigit" => some .xdigit
  | _ => none

/-- A class of ASCII characters by its name between `[:` and `:]`; nothing, if the text is not of
this form or the name is not known. -/
def namedClass? (cursor : Cursor) : Option (ClassNode × Cursor) := do
  let first ← cursor.skip? "[:"
  let (negated, first) := if first.sees '^' then (true, first.bump) else (false, first)
  let (name, last) := first.takeWhile (· != ':')
  let after ← last.skip? ":]"
  let kind ← asciiClass? name
  return (.ascii (after.since cursor.position) kind negated, after)

/-- Takes the hyphens at the beginning of a class as themselves. -/
def leadingHyphens (start : Position) (list : Items) (cursor : Cursor) :
    Except SyntaxError (Items × Cursor) :=
  match _ : cursor.rest with
  | [] => refuse .classUnclosed (.point start)
  | c :: _ =>
    if c = '-' then
      leadingHyphens start (list.push (.literal ⟨cursor.nextSpan, '-', false⟩)) cursor.advance
    else .ok (list, cursor)
termination_by cursor.rest.length
decreasing_by exact Cursor.advance_length_lt (by assumption)

/-- The opening bracket of a class with what stands for itself there only: hyphens, or else a
closing bracket. -/
def openBracket (outer : Items) (cursor : Cursor) :
    Except SyntaxError (ClassFrame × Items × Cursor) := do
  let start := cursor.position
  let first := cursor.advance
  let negated := first.sees '^'
  let first := if negated then first.advance else first
  if first.isAtEnd then refuse .classUnclosed (first.since start)
  else
    let (items, last) ← leadingHyphens start (.none first.position) first
    let (items, last) :=
      if items.items.isEmpty && last.sees ']' then
        (items.push (.literal ⟨last.nextSpan, ']', false⟩), last.advance)
      else (items, last)
    if last.isAtEnd then refuse .classUnclosed (last.since start)
    else .ok (.opened (last.since start) negated outer, items, last)

/-- A character or an escape within a class. -/
def classPrimitive (cursor : Cursor) : Except SyntaxError (Node × Cursor) :=
  match cursor.rest with
  | [] => refuse .classUnclosed cursor.here
  | c :: _ =>
    if c = '\\' then escape cursor
    else .ok (.literal ⟨cursor.nextSpan, c, false⟩, cursor.bump)

/-- An escape as an item of a class; assertions are none. -/
def Node.asItem : Node → Except SyntaxError ClassNode
  | literal lit => .ok (.literal lit)
  | unicode span query negated => .ok (.unicode span query negated)
  | letter span kind negated => .ok (.letter span kind negated)
  | node => refuse .classEscapeInvalid node.span

/-- An escape as an end of a range; only single characters are. -/
def Node.asBound : Node → Except SyntaxError Literal
  | literal lit => .ok lit
  | node => refuse .classRangeLiteral node.span

namespace ClassReader

/-- Refuses a text that ends within a class, at the innermost bracket. -/
def unclosed {α : Type} (reader : ClassReader) : Except SyntaxError α :=
  let spans := reader.frames.filterMap fun frame =>
    match frame with
    | .opened span .. => some span
    | .operator .. => none
  refuse .classUnclosed (spans.headD (.point reader.position))

/-- An item, or the range that begins with it. -/
def item (reader : ClassReader) (cursor : Cursor) : Except SyntaxError (ClassNode × Cursor) := do
  let (first, after) ← classPrimitive cursor
  let after := after.skipBlank
  let second? := after.secondBeyondBlank?
  if after.isAtEnd then reader.unclosed
  else if !after.sees '-' || second? == some ']' || second? == some '-' then
    return (← first.asItem, after)
  else
    let next := after.advance
    if next.isAtEnd then reader.unclosed
    else
      let (second, last) ← classPrimitive next
      let span : Span := ⟨first.span.start, second.span.stop⟩
      let low ← first.asBound
      let high ← second.asBound
      if high.symbol < low.symbol then refuse .classRangeInvalid span
      else return (.range span low high, last)

/-- The items so far as the right operand of the operator that waits for it. -/
def operand (reader : ClassReader) : ClassNode × List ClassFrame :=
  let right := reader.items.node
  match reader.frames with
  | .operator operator left :: rest =>
    (.binary ⟨left.span.start, right.span.stop⟩ operator left right, rest)
  | frames => (right, frames)

/-- The operator that is written as two equal characters. -/
def operator? (cursor : Cursor) : Option SetOperator :=
  if (cursor.skip? "&&").isSome then some .intersection
  else if (cursor.skip? "--").isSome then some .difference
  else if (cursor.skip? "~~").isSome then some .symmetricDifference
  else none

/-- Reads on from the next character: the reader after what has been read, or the class if it has
been closed. -/
def step (reader : ClassReader) (cursor : Cursor) :
    Except SyntaxError ((ClassReader ⊕ ClassNode) × Cursor) := do
  let blank := cursor.skipBlank
  if blank.position != cursor.position then .ok (.inl reader, blank)
  else if cursor.sees '[' then
    match if reader.frames.isEmpty then none else namedClass? cursor with
    | some (named, after) => .ok (.inl { reader with items := reader.items.push named }, after)
    | none =>
      let (frame, items, after) ← openBracket reader.items cursor
      .ok (.inl { reader with items, frames := frame :: reader.frames }, after)
  else if cursor.sees ']' then
    match reader.operand with
    | (body, .opened span negated outer :: frames) =>
      let after := cursor.bump
      let closed := .bracketed (after.since span.start) negated body
      if frames.isEmpty then .ok (.inr closed, after)
      else .ok (.inl { reader with items := outer.push closed, frames }, after)
    | _ => reader.unclosed
  else
    match operator? cursor with
    | some operator =>
      let (left, frames) := reader.operand
      let after := cursor.bump.bump
      .ok (.inl { reader with
        items := .none after.position, frames := .operator operator left :: frames }, after)
    | none =>
      let (item, after) ← reader.item cursor
      .ok (.inl { reader with items := reader.items.push item }, after)

/-- Reads until the class is closed, passing over the `skip` characters that have been read. -/
def run : (text : List Char) → (skip : Nat) → ClassReader →
    Except SyntaxError (ClassNode × Cursor)
  | [], _, reader => reader.unclosed
  | _ :: rest, skip + 1, reader => run rest skip reader
  | c :: rest, 0, reader => do
    let (result, after) ← reader.step ⟨c :: rest, reader.position, reader.ignoresSpace⟩
    match result with
    | .inr closed => .ok (closed, after)
    | .inl next =>
      run rest (after.position.index - reader.position.index - 1)
        { next with position := after.position }

end ClassReader

/-- A class; begins at its opening bracket. -/
def bracketedClass (cursor : Cursor) : Except SyntaxError (ClassNode × Cursor) :=
  ClassReader.run cursor.rest 0
    ⟨cursor.position, cursor.ignoresSpace, .none cursor.position, []⟩

end PatternAutomata.Regex
