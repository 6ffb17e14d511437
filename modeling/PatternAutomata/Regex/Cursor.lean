import PatternAutomata.Regex.SyntaxError
import PatternAutomata.Unicode.Property

/-!
# Reading a text

A cursor stands before what is left of a text. Where white space is ignored, `advance` also passes
over white space and over comments, which go from `#` to the end of the line. Every lemma here says
that what is left gets shorter, which is why reading ends.
-/
namespace PatternAutomata.Regex

def whiteSpace : CharSet := Unicode.whiteSpace

def isWhiteSpace (c : Char) : Bool := whiteSpace.contains c

/-- A place in a text and what is left of the text there. -/
structure Cursor where
  rest : List Char
  position : Position
  /-- Whether white space and comments are passed over. -/
  ignoresSpace : Bool
  deriving DecidableEq, Repr

namespace Cursor

/-- Passes over one character. -/
def bump (cursor : Cursor) : Cursor :=
  match cursor.rest with
  | [] => cursor
  | c :: rest => { cursor with rest, position := cursor.position.after c }

/-- What is left after white space and comments, where `inComment` says that one has begun. -/
def dropBlank (inComment : Bool) : List Char → Position → List Char × Position
  | [], position => ([], position)
  | c :: rest, position =>
    if inComment then dropBlank (c != '\n') rest (position.after c)
    else if isWhiteSpace c then dropBlank false rest (position.after c)
    else if c = '#' then dropBlank true rest (position.after c)
    else (c :: rest, position)

/-- Passes over white space and comments, if they are ignored. -/
def skipBlank (cursor : Cursor) : Cursor :=
  if cursor.ignoresSpace then
    let (rest, position) := dropBlank false cursor.rest cursor.position
    { cursor with rest, position }
  else cursor

/-- Passes over one character and what is ignored after it. -/
def advance (cursor : Cursor) : Cursor := cursor.bump.skipBlank

theorem dropBlank_length_le (inComment : Bool) (text : List Char) (position : Position) :
    (dropBlank inComment text position).1.length ≤ text.length := by
  induction text generalizing inComment position with
  | nil => simp [dropBlank]
  | cons c rest ih =>
    unfold dropBlank
    split
    · exact Nat.le_succ_of_le (ih _ _)
    · split
      · exact Nat.le_succ_of_le (ih _ _)
      · split
        · exact Nat.le_succ_of_le (ih _ _)
        · exact Nat.le_refl _

theorem skipBlank_length_le (cursor : Cursor) :
    cursor.skipBlank.rest.length ≤ cursor.rest.length := by
  unfold skipBlank
  split
  · exact dropBlank_length_le false cursor.rest cursor.position
  · exact Nat.le_refl _

theorem advance_length_lt {cursor : Cursor} {c : Char} {rest : List Char}
    (left : cursor.rest = c :: rest) : cursor.advance.rest.length < cursor.rest.length := by
  refine Nat.lt_of_le_of_lt (skipBlank_length_le cursor.bump) ?_
  simp [bump, left]

/-- The empty span here. -/
def here (cursor : Cursor) : Span := .point cursor.position

/-- The span from an earlier position to here. -/
def since (cursor : Cursor) (start : Position) : Span := ⟨start, cursor.position⟩

/-- The span of the next character. -/
def nextSpan (cursor : Cursor) : Span := ⟨cursor.position, cursor.bump.position⟩

def isAtEnd (cursor : Cursor) : Bool := cursor.rest.isEmpty

/-- Whether the next character is `c`. -/
def sees (cursor : Cursor) (c : Char) : Bool := cursor.rest.head? == some c

/-- The character after the next one. -/
def second? (cursor : Cursor) : Option Char := cursor.rest[1]?

/-- The character after the next one and what is ignored after that. Once within a comment, its
first character that is no white space counts as not ignored, so the comment must end with the line
before anything else stands in it. -/
def secondBeyondBlank? (cursor : Cursor) : Option Char :=
  if cursor.ignoresSpace then (go false (cursor.rest.drop 1)).or cursor.second?
  else cursor.second?
where
  /-- The first character that is neither white space nor the first `#`. -/
  go (inComment : Bool) : List Char → Option Char
    | [] => none
    | c :: rest =>
      if isWhiteSpace c then go inComment rest
      else if !inComment && c == '#' then go true rest
      else some c

/-- Passes over a text, if it is next. -/
def skip? (cursor : Cursor) (text : String) : Option Cursor :=
  if text.toList.isPrefixOf cursor.rest then
    some { cursor with
      rest := cursor.rest.drop text.length
      position := cursor.position.afterAll text.toList }
  else none

/-- The characters up to the first that is not wanted, and what comes then; between characters,
what is ignored is passed over. -/
def collect (wanted : Char → Bool) (cursor : Cursor) : List Char × Cursor :=
  match _ : cursor.rest with
  | [] => ([], cursor)
  | c :: _ =>
    if wanted c then
      let (taken, cursor) := collect wanted cursor.advance
      (c :: taken, cursor)
    else ([], cursor)
termination_by cursor.rest.length
decreasing_by exact advance_length_lt (by assumption)

/-- The characters up to the first that is not wanted, and what comes then. -/
def takeWhile (wanted : Char → Bool) (cursor : Cursor) : List Char × Cursor :=
  let taken := cursor.rest.takeWhile wanted
  (taken, { cursor with
    rest := cursor.rest.dropWhile wanted
    position := cursor.position.afterAll taken })

end Cursor

end PatternAutomata.Regex
