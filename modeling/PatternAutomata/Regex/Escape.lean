import PatternAutomata.Regex.Cursor
import PatternAutomata.Regex.Node

/-!
# Escapes

What stands after a backslash: a character by itself, by a letter or by its number; a class by a
letter or by its name; or an assertion. Every function begins at the character that it is named for
and gives what it has read with the place after it.
-/
namespace PatternAutomata.Regex

/-- The characters that have a meaning of their own in a regular expression. -/
def metaCharacters : List Char :=
  ['\\', '.', '+', '*', '?', '(', ')', '|', '[', ']', '\x7b', '\x7d', '^', '$', '#', '&', '-', '~']

/-- Whether a character may be escaped although it need not be: ASCII without letters, digits and
the two characters that stand for assertions. -/
def isEscapable (c : Char) : Bool :=
  metaCharacters.contains c || (c.toNat < 0x80 && !c.isAlphanum && c != '<' && c != '>')

def isHexDigit (c : Char) : Bool :=
  c.isDigit || ('a' ≤ c && c ≤ 'f') || ('A' ≤ c && c ≤ 'F')

/-- The value of a hexadecimal digit. -/
def hexValue (c : Char) : Nat :=
  if c.isDigit then c.toNat - '0'.toNat
  else if 'a' ≤ c then c.toNat - 'a'.toNat + 10
  else c.toNat - 'A'.toNat + 10

/-- The character whose number has the given hexadecimal digits. -/
def hexChar? (digits : List Char) : Option Char :=
  let code := digits.foldl (fun value digit => value * 16 + hexValue digit) 0
  if code.isValidChar then some (Char.ofNat code) else none

/-- A number in braces, which may have any number of digits; begins at the brace. -/
def hexInBraces (start : Position) (cursor : Cursor) : Except SyntaxError (Literal × Cursor) := do
  let (digits, last) := cursor.advance.collect isHexDigit
  if last.isAtEnd then refuse .escapeUnexpectedEnd (last.since cursor.position)
  else if !last.sees '\x7d' then refuse .escapeHexInvalidDigit last.nextSpan
  else
    let after := last.advance
    if digits.isEmpty then refuse .escapeHexEmpty (after.since cursor.position)
    else
      match hexChar? digits with
      | some symbol => .ok (⟨after.since start, symbol, false⟩, after)
      | none => refuse .escapeHexInvalid ⟨cursor.bump.position, last.position⟩

/-- A fixed number of digits. -/
def hexDigits : (count : Nat) → Cursor → Except SyntaxError (List Char × Cursor)
  | 0, cursor => .ok ([], cursor)
  | count + 1, cursor =>
    match cursor.rest with
    | [] => refuse .escapeUnexpectedEnd cursor.here
    | digit :: _ => do
      if !isHexDigit digit then refuse .escapeHexInvalidDigit cursor.nextSpan
      else
        let (digits, after) ← hexDigits count cursor.advance
        .ok (digit :: digits, after)

/-- A character by its number; begins at the letter, of which `start` is the backslash. -/
def hexEscape (start : Position) (letter : Char) (cursor : Cursor) :
    Except SyntaxError (Literal × Cursor) := do
  let first := cursor.advance
  if first.isAtEnd then refuse .escapeUnexpectedEnd first.here
  else if first.sees '\x7b' then hexInBraces start first
  else
    let count := if letter = 'x' then 2 else if letter = 'u' then 4 else 8
    let (digits, after) ← hexDigits count first
    match hexChar? digits with
    | some symbol => .ok (⟨after.since start, symbol, letter == 'x'⟩, after)
    | none => refuse .escapeHexInvalid (after.since first.position)

/-- What the text before the first of `marks` that occurs in a text is, with the mark and the text
after it. -/
def splitAtMark (mark : List Char) : List Char → Option (List Char × List Char)
  | [] => none
  | c :: rest =>
    if mark.isPrefixOf (c :: rest) then some ([], (c :: rest).drop mark.length)
    else (splitAtMark mark rest).map fun (front, back) => (c :: front, back)

/-- What a name in braces asks for, and whether it asks for the characters that are not in it. The
mark `!=` is looked for first, then `:`, then `=`. -/
def classQuery (name : List Char) : Unicode.Query × Bool :=
  match splitAtMark ['!', '='] name with
  | some (property, value) => (.valued property value, true)
  | none =>
    match (splitAtMark [':'] name).or (splitAtMark ['='] name) with
    | some (property, value) => (.valued property value, false)
    | none => (.named name, false)

/-- A class by its name; begins at the letter, of which `start` is the backslash. -/
def unicodeEscape (start : Position) (negated : Bool) (cursor : Cursor) :
    Except SyntaxError (Node × Cursor) := do
  let first := cursor.advance
  match first.rest with
  | [] => refuse .escapeUnexpectedEnd first.here
  | c :: _ =>
    if c = '\x7b' then
      let (name, last) := first.advance.collect (· != '\x7d')
      if last.isAtEnd then refuse .escapeUnexpectedEnd last.here
      else
        let after := last.bump
        let (query, other) := classQuery name
        .ok (.unicode (after.since start) query (negated != other), after)
    else if c = '\\' then refuse .unicodeClassInvalid first.nextSpan
    else
      let after := first.advance
      .ok (.unicode (after.since start) (.named [c]) negated, after)

/-- The assertions on the borders of words that have names. -/
def namedBoundary? (name : List Char) : Option Assertion :=
  match String.ofList name with
  | "start" => some .wordStart
  | "end" => some .wordEnd
  | "start-half" => some .wordStartHalf
  | "end-half" => some .wordEndHalf
  | _ => none

/-- The name in braces after the escape that begins at `start`, if there is one; what begins like a
number is left for a repetition. -/
def boundaryName? (start : Position) (cursor : Cursor) :
    Except SyntaxError (Option (Assertion × Cursor)) := do
  let isNameChar (c : Char) : Bool := c.isAlpha || c == '-'
  if !cursor.sees '\x7b' then .ok none
  else
    let first := cursor.advance
    if first.isAtEnd then refuse .wordBoundaryOrRepetitionUnexpectedEnd (first.since start)
    else if !first.rest.head?.any isNameChar then .ok none
    else
      let (name, last) := first.collect isNameChar
      if !last.sees '\x7d' then refuse .wordBoundaryUnclosed (last.since cursor.position)
      else
        match namedBoundary? name with
        | some kind => .ok (some (kind, last.bump))
        | none => refuse .wordBoundaryUnrecognized (last.since first.position)

/-- The characters that letters stand for. -/
def letterEscape? (c : Char) : Option Char :=
  match c with
  | 'a' => some '\x07'
  | 'f' => some '\x0C'
  | 't' => some '\t'
  | 'n' => some '\n'
  | 'r' => some '\r'
  | 'v' => some '\x0B'
  | _ => none

/-- The assertions that a letter or a sign stands for. -/
def assertionEscape? (c : Char) : Option Assertion :=
  match c with
  | 'A' => some .startText
  | 'z' => some .endText
  | 'B' => some .notWordBoundary
  | '<' => some .wordStart
  | '>' => some .wordEnd
  | _ => none

/-- The classes that a letter stands for, and whether it stands for all other characters. -/
def letterClass? (c : Char) : Option (LetterClass × Bool) :=
  match c with
  | 'd' => some (.digit, false)
  | 's' => some (.space, false)
  | 'w' => some (.word, false)
  | 'D' => some (.digit, true)
  | 'S' => some (.space, true)
  | 'W' => some (.word, true)
  | _ => none

/-- An escape; begins at the backslash. -/
def escape (cursor : Cursor) : Except SyntaxError (Node × Cursor) := do
  let start := cursor.position
  let letter := cursor.bump
  let after := letter.bump
  match letter.rest with
  | [] => refuse .escapeUnexpectedEnd (letter.since start)
  | c :: _ =>
    if c.isDigit then refuse .unsupportedBackreference (after.since start)
    else if c = 'x' ∨ c = 'u' ∨ c = 'U' then
      let (literal, after) ← hexEscape start c letter
      .ok (.literal literal, after)
    else if c = 'p' ∨ c = 'P' then unicodeEscape start (c == 'P') letter
    else if c = 'b' then
      match ← boundaryName? start after with
      | some (kind, last) => .ok (.assertion (last.since start) kind, last)
      | none => .ok (.assertion (after.since start) .wordBoundary, after)
    else
      match letterClass? c, assertionEscape? c,
          if isEscapable c then some c else letterEscape? c with
      | some (kind, negated), _, _ => .ok (.letter (after.since start) kind negated, after)
      | none, some kind, _ => .ok (.assertion (after.since start) kind, after)
      | none, none, some symbol => .ok (.literal ⟨after.since start, symbol, false⟩, after)
      | none, none, none => refuse .escapeUnrecognized (after.since start)

end PatternAutomata.Regex
