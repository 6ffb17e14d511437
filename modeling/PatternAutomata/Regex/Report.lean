import PatternAutomata.Regex.SyntaxError

/-!
# Showing what is wrong

A report repeats the text with marks under the spans that are wrong. A text of one line is indented;
the lines of a longer one are numbered and stand between two rules, and a span over several lines is
told by its ends.
-/
namespace PatternAutomata.Regex

/-- The lines of a text. A line ends with a line feed, before which a carriage return belongs to the
end; the last line need not end. -/
def linesOf (text : List Char) : List (List Char) := go [] text
where
  /-- The lines of the rest, where `current` is what the line has so far, latest first. -/
  go (current : List Char) : List Char → List (List Char)
    | [] => if current.isEmpty then [] else [current.reverse]
    | c :: rest =>
      if c = '\n' then
        (match current with
          | '\r' :: line => line.reverse
          | line => line.reverse) :: go [] rest
      else go (c :: current) rest

def blanks (count : Nat) : List Char := List.replicate count ' '

/-- The number of digits that line numbers take, none for a text of one line. A text that ends with
a line feed has a line after it, where an error may be. -/
def numberWidth (text : List Char) : Nat :=
  let count := (linesOf text).length + if text.getLast? = some '\n' then 1 else 0
  if count ≤ 1 then 0 else (Nat.toDigits 10 count).length

/-- What stands before a line. -/
def lineHead (width number : Nat) : List Char :=
  if width = 0 then blanks 4
  else
    let digits := Nat.toDigits 10 number
    blanks (width - digits.length) ++ digits ++ [':', ' ']

/-- Marks under the columns of spans, which are in order; `column` is how many columns have been
written. -/
def marks (column : Nat) : List Span → List Char
  | [] => []
  | span :: rest =>
    let gap := span.start.column - 1 - column
    let length := Nat.max 1 (span.stop.column - span.start.column)
    blanks gap ++ List.replicate length '^' ++ marks (column + gap + length) rest

/-- The lines from number `number` on, each with the marks under it. -/
def markedLines (width : Nat) (spans : List Span) (number : Nat) : List (List Char) → List Char
  | [] => []
  | line :: rest =>
    let here := spans.filter (·.start.line == number)
    let notes :=
      if here.isEmpty then []
      else blanks (if width = 0 then 4 else width + 2) ++ marks 0 here ++ ['\n']
    lineHead width number ++ line ++ ['\n'] ++ notes ++ markedLines width spans (number + 1) rest

/-- The ends of a span over several lines. -/
def Span.ends (span : Span) : String :=
  s!"on line {span.start.line} (column {span.start.column}) " ++
    s!"through line {span.stop.line} (column {span.stop.column - 1})"

/-- The report of an error in a text. -/
def SyntaxError.report (error : SyntaxError) (text : List Char) : String :=
  let spans := (error.span :: error.earlier?.toList).mergeSort Span.before
  let shown := String.ofList <|
    markedLines (numberWidth text) (spans.filter Span.isOneLine) 1 (linesOf text)
  let head := "regex parse error:\n"
  let last := "error: " ++ error.cause.text
  if text.contains '\n' then
    let rule := String.ofList (List.replicate 79 '~') ++ "\n"
    let ends := (spans.filter (!·.isOneLine)).map Span.ends
    let notes := if ends.isEmpty then "" else "\n".intercalate ends ++ "\n"
    head ++ rule ++ shown ++ rule ++ notes ++ last
  else head ++ shown ++ last

end PatternAutomata.Regex
