import PatternAutomata.Expr
import PatternAutomata.Pattern.Balanced

/-!
# The pattern of an expression

An expression becomes a pattern if the five operators can say it. A class becomes a choice between
its members, as long as it is not too large; `+` and `?` are written with the other operators. Parts
are taken from left to right, a body before what repeats it, and the first that cannot be said is
reported.
-/
namespace PatternAutomata

/-- What patterns cannot say. -/
inductive Unsupported where
  | assertion (look : Look)
  | byteClass
  | countedRepetition (min : Nat) (max? : Option Nat)
  | largeClass (members limit : Nat)
  | emptyClass
  | notUtf8
  deriving DecidableEq, Repr

/-- The words for what patterns cannot say. -/
def Unsupported.text : Unsupported → String
  | assertion look => s!"assertion {look.name}"
  | byteClass => "byte classes"
  | countedRepetition min max? =>
    let max := (max?.map toString).getD ""
    s!"counted repetition \x7b{min},{max}\x7d"
  | largeClass members limit => s!"character class of {members} members (limit is {limit})"
  | emptyClass => "empty character class"
  | notUtf8 => "non-UTF-8 literal"

namespace Pattern

/-- The choice between the members of a class. -/
def ofChars (limit : Nat) (set : CharSet) : Except Unsupported Pattern :=
  if limit < set.size then .error (.largeClass set.size limit)
  else
    match joinBalanced choice (set.members.map literal) with
    | some pattern => .ok pattern
    | none => .error .emptyClass

/-- The pattern of a text by its bytes. -/
def ofBytes (bytes : ByteArray) : Except Unsupported Pattern :=
  match bytes.utf8Decode? with
  | some text => .ok (string text.toList)
  | none => .error .notUtf8

/-- The repetition of a pattern. -/
def repeated (min : Nat) (max? : Option Nat) (body : Pattern) : Except Unsupported Pattern :=
  match min, max? with
  | 0, none => .ok (star body)
  | 1, none => .ok (concat body (star body))
  | 0, some 1 => .ok (choice body empty)
  | 1, some 1 => .ok body
  | min, max? => .error (.countedRepetition min max?)

/-- Many patterns joined into one; the empty pattern, if there are none. -/
def joined (join : Pattern → Pattern → Pattern) (patterns : List Pattern) : Pattern :=
  (joinBalanced join patterns).getD empty

mutual

/-- The pattern of an expression, where a class may have up to `limit` members. -/
def ofExpr (limit : Nat) : Expr → Except Unsupported Pattern
  | .empty => .ok empty
  | .literal bytes => ofBytes bytes
  | .chars set => ofChars limit set
  | .bytes _ => .error .byteClass
  | .look look => .error (.assertion look)
  | .repetition min max? _ body => do
    let body ← ofExpr limit body
    repeated min max? body
  | .capture _ _ body => ofExpr limit body
  | .concat items => do
    let patterns ← ofExprs limit items
    .ok (joined concat patterns)
  | .alternation branches => do
    let patterns ← ofExprs limit branches
    .ok (joined choice patterns)

/-- The patterns of several expressions. -/
def ofExprs (limit : Nat) : List Expr → Except Unsupported (List Pattern)
  | [] => .ok []
  | expr :: rest => do
    let pattern ← ofExpr limit expr
    let patterns ← ofExprs limit rest
    .ok (pattern :: patterns)

end

end Pattern

end PatternAutomata
