import PatternAutomata.RangeSet

/-!
# Expressions

An expression is a regular expression without its spelling: escapes are characters, flags have been
applied, and a class is the set of its members. `Expr.same` decides equality.
-/
namespace PatternAutomata

/-- A place that must be matched but takes no character. -/
inductive Look where
  | start
  | stop
  | startLine
  | stopLine
  | startLineCrlf
  | stopLineCrlf
  | wordAscii
  | notWordAscii
  | wordUnicode
  | notWordUnicode
  | wordStartAscii
  | wordStopAscii
  | wordStartUnicode
  | wordStopUnicode
  | wordStartHalfAscii
  | wordStopHalfAscii
  | wordStartHalfUnicode
  | wordStopHalfUnicode
  deriving DecidableEq, Repr

/-- The name of an assertion, as messages use it. -/
def Look.name : Look → String
  | start => "Start"
  | stop => "End"
  | startLine => "StartLF"
  | stopLine => "EndLF"
  | startLineCrlf => "StartCRLF"
  | stopLineCrlf => "EndCRLF"
  | wordAscii => "WordAscii"
  | notWordAscii => "WordAsciiNegate"
  | wordUnicode => "WordUnicode"
  | notWordUnicode => "WordUnicodeNegate"
  | wordStartAscii => "WordStartAscii"
  | wordStopAscii => "WordEndAscii"
  | wordStartUnicode => "WordStartUnicode"
  | wordStopUnicode => "WordEndUnicode"
  | wordStartHalfAscii => "WordStartHalfAscii"
  | wordStopHalfAscii => "WordEndHalfAscii"
  | wordStartHalfUnicode => "WordStartHalfUnicode"
  | wordStopHalfUnicode => "WordEndHalfUnicode"

/-- A regular expression as a tree of operators. -/
inductive Expr where
  | empty
  /-- A text by its bytes. -/
  | literal (bytes : ByteArray)
  /-- One of a set of characters. -/
  | chars (set : CharSet)
  /-- One of a set of bytes. -/
  | bytes (set : ByteSet)
  | look (look : Look)
  | repetition (min : Nat) (max? : Option Nat) (greedy : Bool) (body : Expr)
  | capture (index : Nat) (name? : Option (List Char)) (body : Expr)
  | concat (items : List Expr)
  | alternation (branches : List Expr)
  deriving Inhabited

namespace Expr

mutual

/-- Whether two expressions are equal, also in what does not change their meaning. -/
def same : Expr → Expr → Bool
  | empty, empty => true
  | literal left, literal right => left.data = right.data
  | chars left, chars right => left = right
  | bytes left, bytes right => left = right
  | look left, look right => left = right
  | repetition min max? greedy body, repetition min' max?' greedy' body' =>
    min = min' && max? = max?' && greedy = greedy' && body.same body'
  | capture index name? body, capture index' name?' body' =>
    index = index' && name? = name?' && body.same body'
  | concat left, concat right => sameAll left right
  | alternation left, alternation right => sameAll left right
  | _, _ => false

/-- Whether two lists of expressions are equal. -/
def sameAll : List Expr → List Expr → Bool
  | [], [] => true
  | left :: lefts, right :: rights => left.same right && sameAll lefts rights
  | _, _ => false

end

mutual

theorem eq_of_same {left right : Expr} (h : left.same right = true) : left = right := by
  cases left <;> cases right <;> simp_all [same]
  · exact ByteArray.ext h
  · exact eq_of_same h.2
  · exact eq_of_same h.2
  · exact eq_of_sameAll h
  · exact eq_of_sameAll h

theorem eq_of_sameAll {lefts rights : List Expr} (h : sameAll lefts rights = true) :
    lefts = rights := by
  cases lefts <;> cases rights <;> simp_all [sameAll]
  exact ⟨eq_of_same h.1, eq_of_sameAll h.2⟩

end

end Expr

end PatternAutomata
