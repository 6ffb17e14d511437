import PatternAutomata.Regex.Cursor
import PatternAutomata.Regex.Node

/-!
# Repetition operators

How often an operand is repeated, as a sign or as one or two numbers in braces, and the question
mark after it that makes it try less before more.
-/
namespace PatternAutomata.Regex

/-- The greatest number that a repetition may have. -/
def greatestCount : Nat := UInt32.size - 1

/-- A number with white space around it; an error is kept for later, as something before it may
turn out to be wrong. -/
def decimal (cursor : Cursor) : Except SyntaxError Nat × Cursor :=
  let (_, first) := cursor.collect isWhiteSpace
  let (digits, last) := first.collect (·.isDigit)
  let (_, after) := last.collect isWhiteSpace
  let span := last.since first.position
  let value := digits.foldl (fun value digit => value * 10 + (digit.toNat - '0'.toNat)) 0
  if digits.isEmpty then (refuse .repetitionCountEmpty span, after)
  else if greatestCount < value then (refuse .decimalInvalid span, after)
  else (.ok value, after)

/-- The smallest and the greatest number between braces; begins after the first number. -/
def bounds (start : Position) (min : Except SyntaxError Nat) (cursor : Cursor) :
    Except SyntaxError ((Nat × Option Nat) × Cursor) := do
  if cursor.isAtEnd then refuse .repetitionCountUnclosed (cursor.since start)
  else if cursor.sees ',' then
    let next := cursor.advance
    if next.isAtEnd then refuse .repetitionCountUnclosed (next.since start)
    else if next.sees '\x7d' then
      let min ← min
      .ok ((min, none), next)
    else
      let min ← min
      let (max, after) := decimal next
      let max ← max
      .ok ((min, some max), after)
  else
    let min ← min
    .ok ((min, some min), cursor)

/-- Numbers in braces and what follows them; begins at the brace. -/
def countedRepeats (cursor : Cursor) : Except SyntaxError (Repeats × Cursor) := do
  let start := cursor.position
  let first := cursor.advance
  if first.isAtEnd then refuse .repetitionCountUnclosed (first.since start)
  else
    let (min, last) := decimal first
    let ((min, max?), close) ← bounds start min last
    if !close.sees '\x7d' then refuse .repetitionCountUnclosed (close.since start)
    else
      let next := close.advance
      let greedy := !next.sees '?'
      let after := if greedy then next else next.bump
      if max?.any (· < min) then refuse .repetitionCountInvalid (after.since start)
      else .ok (⟨min, max?, greedy⟩, after)

/-- The numbers that a sign stands for. -/
def signBounds? (c : Char) : Option (Nat × Option Nat) :=
  match c with
  | '?' => some (0, some 1)
  | '*' => some (0, none)
  | '+' => some (1, none)
  | _ => none

/-- A repetition operator, if one is next. -/
def repeats? (cursor : Cursor) : Option (Except SyntaxError (Repeats × Cursor)) :=
  match cursor.rest with
  | [] => none
  | c :: _ =>
    if c = '\x7b' then some (countedRepeats cursor)
    else
      (signBounds? c).map fun (min, max?) =>
        let next := cursor.bump
        let greedy := !next.sees '?'
        .ok (⟨min, max?, greedy⟩, if greedy then next else next.bump)

end PatternAutomata.Regex
