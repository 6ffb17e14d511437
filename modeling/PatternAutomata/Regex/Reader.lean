import PatternAutomata.Regex.Bracket
import PatternAutomata.Regex.Group
import PatternAutomata.Regex.Repetition

/-!
# Reading regular expressions

A regular expression is read from left to right with a stack: a frame for every group that is open,
and above it, once a bar has been read, a frame for the branches so far. `Reader.run` goes through
the text by recursion on it; a step that reads several characters says how many are to be passed
over.

Capturing groups are numbered without bound. A text uses no more numbers than it has parentheses, so
that 32 bits are enough for one with fewer than `2 ^ 32` of them.
-/
namespace PatternAutomata.Regex

/-- Something that has been begun and waits for what comes after it. -/
inductive Frame where
  /-- An open group. `items` and `start` are those of the sequence that the group is in, and
  `ignoredSpace` says whether white space is ignored after it. -/
  | group (span : Span) (kind : GroupKind) (ignoredSpace : Bool) (items : List Node)
    (start : Position)
  /-- Branches, latest first, that begin at `start`. -/
  | alternation (start : Position) (branches : List Node)
  deriving Repr

/-- How far the reading has come. -/
structure Reader where
  position : Position
  ignoresSpace : Bool
  /-- The index of the next capturing group. -/
  nextCapture : Nat
  names : GroupNames
  /-- The sequence that is being read, latest first, and where it begins. -/
  items : List Node
  start : Position
  frames : List Frame
  deriving Repr

namespace Reader

/-- The reader before a text. -/
def initial : Reader := ⟨.start, false, 1, [], [], .start, []⟩

/-- The sequence read so far as one node. -/
def sequence (reader : Reader) : Node :=
  let span : Span := ⟨reader.start, reader.position⟩
  match reader.items with
  | [] => .empty span
  | [node] => node
  | items => .concat span items.reverse

/-- The sequence with the branches before it, and the frames below them. -/
def branches (reader : Reader) : Node × List Frame :=
  match reader.frames with
  | .alternation start branches :: rest =>
    (.alternation ⟨start, reader.position⟩ (reader.sequence :: branches).reverse, rest)
  | frames => (reader.sequence, frames)

/-- Adds a node to the sequence; reading goes on at a cursor. -/
def push (reader : Reader) (node : Node) (after : Cursor) : Reader :=
  { reader with items := node :: reader.items, position := after.position }

/-- Begins another branch after a bar. -/
def nextBranch (reader : Reader) (after : Cursor) : Reader :=
  let frames :=
    match reader.frames with
    | .alternation start branches :: rest =>
      .alternation start (reader.sequence :: branches) :: rest
    | frames => .alternation reader.start [reader.sequence] :: frames
  { reader with frames, items := [], start := after.position, position := after.position }

/-- What flags say about ignoring white space, or else what holds already. -/
def ignoresSpaceUnder (settings : FlagSettings) (already : Bool) : Bool :=
  (settings.lookup .ignoreWhitespace).getD already

/-- Begins the body of a group. -/
def openGroup (reader : Reader) (span : Span) (kind : GroupKind) (after : Cursor) : Reader :=
  let ignoresSpace :=
    match kind with
    | .plain settings => ignoresSpaceUnder settings reader.ignoresSpace
    | .capture .. => reader.ignoresSpace
  { reader with
    ignoresSpace
    frames := .group span kind reader.ignoresSpace reader.items reader.start :: reader.frames
    items := []
    start := after.position
    position := after.position }

/-- Opens what a parenthesis opens. -/
def openParenthesis (reader : Reader) (cursor : Cursor) : Except SyntaxError Reader := do
  let span := cursor.nextSpan
  let (opened, after) ← opening reader.nextCapture reader.names cursor
  match opened with
  | .flags settings =>
    let reader := reader.push (.flags (after.since span.start) settings) after
    .ok { reader with ignoresSpace := ignoresSpaceUnder settings reader.ignoresSpace }
  | .group (.plain settings) => .ok (reader.openGroup span (.plain settings) after)
  | .group (.capture index name?) =>
    .ok { reader.openGroup span (.capture index name?) after with
      nextCapture := reader.nextCapture + 1 }
  | .named name nameSpan =>
    .ok { reader.openGroup span (.capture reader.nextCapture (some name)) after with
      nextCapture := reader.nextCapture + 1
      names := (name, nameSpan) :: reader.names }

/-- Ends the body of the innermost group, which becomes an item of the sequence around it. -/
def closeGroup (reader : Reader) (cursor : Cursor) : Except SyntaxError Reader :=
  match reader.branches with
  | (body, .group span kind ignoredSpace items start :: frames) =>
    let after := cursor.bump
    .ok { reader with
      position := after.position
      ignoresSpace := ignoredSpace
      items := .group (after.since span.start) kind body :: items
      start
      frames }
  | _ => refuse .groupUnopened cursor.nextSpan

/-- Repeats the last item of the sequence; flags cannot be repeated. -/
def repeatLast (reader : Reader) (cursor : Cursor)
    (repeats : Except SyntaxError (Repeats × Cursor)) : Except SyntaxError Reader := do
  match reader.items with
  | [] => refuse .repetitionMissing cursor.here
  | .flags .. :: _ => refuse .repetitionMissing cursor.here
  | body :: items =>
    let (repeats, after) ← repeats
    let node := .repetition (after.since body.span.start) repeats body
    .ok { reader with items := node :: items, position := after.position }

/-- Reads one item of a sequence that is no group and no class in brackets. -/
def primitive (reader : Reader) (c : Char) (cursor : Cursor) : Except SyntaxError Reader := do
  let span := cursor.nextSpan
  let after := cursor.bump
  match c with
  | '\\' =>
    let (node, after) ← escape cursor
    .ok (reader.push node after)
  | '.' => .ok (reader.push (.dot span) after)
  | '^' => .ok (reader.push (.assertion span .startLine) after)
  | '$' => .ok (reader.push (.assertion span .endLine) after)
  | _ => .ok (reader.push (.literal ⟨span, c, false⟩) after)

/-- Reads a class in brackets. -/
def bracket (reader : Reader) (cursor : Cursor) : Except SyntaxError Reader := do
  let (body, after) ← bracketedClass cursor
  match body with
  | .bracketed span negated body => .ok (reader.push (.bracketed span negated body) after)
  | other => refuse .classUnclosed other.span

/-- Reads on from a character, with the text from it on in view. -/
def step (reader : Reader) (c : Char) (cursor : Cursor) : Except SyntaxError Reader :=
  let blank := cursor.skipBlank
  if blank.position != cursor.position then .ok { reader with position := blank.position }
  else
    match c with
    | '(' => reader.openParenthesis cursor
    | ')' => reader.closeGroup cursor
    | '|' => .ok (reader.nextBranch cursor.bump)
    | '[' => reader.bracket cursor
    | _ =>
      match repeats? cursor with
      | some repeats => reader.repeatLast cursor repeats
      | none => reader.primitive c cursor

/-- Reads a text to its end, passing over the `skip` characters that have been read. -/
def run : (text : List Char) → (skip : Nat) → Reader → Except SyntaxError Reader
  | [], _, reader => .ok reader
  | _ :: rest, skip + 1, reader => run rest skip reader
  | c :: rest, 0, reader => do
    let next ← reader.step c ⟨c :: rest, reader.position, reader.ignoresSpace⟩
    run rest (next.position.index - reader.position.index - 1) next

/-- The tree of what has been read, unless a group is open. -/
def finish (reader : Reader) : Except SyntaxError Node :=
  match reader.branches with
  | (node, []) => .ok node
  | (_, .group span .. :: _) => refuse .groupUnclosed span
  | (node, .alternation .. :: _) => .ok node

end Reader

/-- The tree of a text, however deep it is. -/
def readTree (text : List Char) : Except SyntaxError Node := do
  let reader ← Reader.initial |> Reader.run text 0
  reader.finish

end PatternAutomata.Regex
