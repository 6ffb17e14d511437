import PatternAutomata.Regex.Cursor
import PatternAutomata.Regex.Node
import PatternAutomata.Unicode.Additions

/-!
# Openings of groups

What stands between an opening parenthesis and the body of a group: nothing, a name, or flags, which
may also stand alone in parentheses and then hold for the rest of the group around them.
-/
namespace PatternAutomata.Regex

def letters : CharSet := Unicode.alphabetic.union Unicode.Additions.alphabetic

def lettersAndNumbers : CharSet :=
  letters.union (Unicode.numeric.union Unicode.Additions.numeric)

/-- Whether a name may begin with the character, or go on with it. -/
def isNameChar (first : Bool) (c : Char) : Bool :=
  c = '_' ||
    if first then letters.contains c
    else c = '.' || c = '[' || c = ']' || lettersAndNumbers.contains c

/-- Passes over the characters of a name, up to what closes it. -/
def nameChars (first : Bool) : List Char → Position → Except SyntaxError (List Char × Position)
  | [], position => .ok ([], position)
  | c :: rest, position =>
    if c = '>' then .ok ([], position)
    else if isNameChar first c then do
      let (name, last) ← nameChars false rest (position.after c)
      .ok (c :: name, last)
    else refuse .groupNameInvalid ⟨position, position.after c⟩

/-- The names that groups have so far, latest first. -/
abbrev GroupNames := List (List Char × Span)

/-- The name of a group up to its closing mark. -/
def groupName (names : GroupNames) (cursor : Cursor) :
    Except SyntaxError (List Char × Span × Cursor) := do
  let (name, last) ← nameChars true cursor.rest cursor.position
  let span : Span := ⟨cursor.position, last⟩
  match cursor.rest.drop name.length with
  | [] => refuse .groupNameUnexpectedEnd (.point last)
  | mark :: rest =>
    if name.isEmpty then refuse .groupNameEmpty span
    else
      match names.find? (·.1 == name) with
      | some (_, earlier) => refuseAgain .groupNameDuplicate span earlier
      | none => .ok (name, span, { cursor with rest, position := last.after mark })

def flag? (c : Char) : Option Flag :=
  match c with
  | 'i' => some .caseInsensitive
  | 'm' => some .multiLine
  | 's' => some .dotMatchesNewLine
  | 'U' => some .swapGreed
  | 'u' => some .unicode
  | 'R' => some .crlf
  | 'x' => some .ignoreWhitespace
  | _ => none

/-- Flags as they are read: latest first, each with the span of its letter, and the span of the
hyphen after which flags are switched off. -/
structure FlagReader where
  settings : List (Flag × Bool × Span)
  negation? : Option Span
  /-- The hyphen is the last thing read. -/
  dangling : Bool

/-- Reads flags up to a colon or a closing parenthesis, which is left. -/
def flagChars (reader : FlagReader) :
    List Char → Position → Except SyntaxError (FlagSettings × List Char × Position)
  | [], position => refuse .flagUnexpectedEnd (.point position)
  | c :: rest, position =>
    let span : Span := ⟨position, position.after c⟩
    if c = ':' ∨ c = ')' then
      match reader.negation? with
      | some hyphen =>
        if reader.dangling then refuse .flagDanglingNegation hyphen
        else .ok (reader.settings.reverse.map fun (flag, on, _) => (flag, on), c :: rest, position)
      | none =>
        .ok (reader.settings.reverse.map fun (flag, on, _) => (flag, on), c :: rest, position)
    else if c = '-' then
      match reader.negation? with
      | some earlier => refuseAgain .flagRepeatedNegation span earlier
      | none =>
        flagChars { reader with negation? := some span, dangling := true } rest (position.after c)
    else
      match flag? c with
      | none => refuse .flagUnrecognized span
      | some flag =>
        match reader.settings.find? (·.1 = flag) with
        | some (_, _, earlier) => refuseAgain .flagDuplicate span earlier
        | none =>
          let settings := (flag, reader.negation?.isNone, span) :: reader.settings
          flagChars { reader with settings, dangling := false } rest (position.after c)

/-- What an opening parenthesis opens. -/
inductive Opening where
  /-- A group. -/
  | group (kind : GroupKind)
  /-- A named group, with the span of its name. -/
  | named (name : List Char) (nameSpan : Span)
  /-- Nothing: the parentheses hold flags only. -/
  | flags (settings : FlagSettings)

/-- Whether some text is next that would look around. -/
def lookAround? (cursor : Cursor) : Option Cursor :=
  ((cursor.skip? "?=").or (cursor.skip? "?!")).or
    ((cursor.skip? "?<=").or (cursor.skip? "?<!"))

/-- Flags and what closes them, after a question mark; `inner` is the place of that mark. -/
def flagsOpening (span : Span) (inner : Position) (cursor : Cursor) :
    Except SyntaxError (Opening × Cursor) := do
  if cursor.isAtEnd then refuse .groupUnclosed span
  else
    let (settings, rest, position) ← flagChars ⟨[], none, false⟩ cursor.rest cursor.position
    let last : Cursor := { cursor with rest, position }
    if last.sees ')' then
      if settings.isEmpty then refuse .repetitionMissing (.point inner)
      else .ok (.flags settings, last.bump)
    else .ok (.group (.plain settings), last.bump)

/-- What an opening parenthesis opens; begins at the parenthesis. `index` is the next group's. -/
def opening (index : Nat) (names : GroupNames) (cursor : Cursor) :
    Except SyntaxError (Opening × Cursor) := do
  let first := cursor.advance
  match lookAround? first with
  | some after => refuse .unsupportedLookAround (after.since cursor.position)
  | none =>
    match (first.skip? "?P<").or (first.skip? "?<") with
    | some name =>
      let (name, span, after) ← groupName names name
      .ok (.named name span, after)
    | none =>
      if first.sees '?' then flagsOpening cursor.nextSpan first.position first.bump
      else .ok (.group (.capture index none), first)

end PatternAutomata.Regex
