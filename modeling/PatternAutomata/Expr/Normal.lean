import PatternAutomata.Expr

/-!
# Building expressions

Expressions are built in a normal form: sequences and alternations are flat, literals next to each
other are one, a class of one member is a literal, branches that are all characters or all classes
are one class, and what all branches begin with is written once.
-/
namespace PatternAutomata.Expr

/-- A text as a literal. -/
def text (text : List Char) : Expr := .literal (String.ofList text).toUTF8

/-- The expression that nothing matches. -/
def nothing : Expr := .bytes .empty

/-- One of a set of characters. -/
def ofChars (set : CharSet) : Expr :=
  if set.isEmpty then nothing
  else
    match set.only? with
    | some c => text [c]
    | none => .chars set

/-- One of a set of bytes. -/
def ofBytes (set : ByteSet) : Expr :=
  if set.isEmpty then nothing
  else
    match set.only? with
    | some byte => .literal ⟨#[byte]⟩
    | none => .bytes set

mutual

/-- Whether all that an expression can match is the empty text. -/
def takesNothing : Expr → Bool
  | empty => true
  | literal encoded => encoded.isEmpty
  | look _ => true
  | repetition _ _ _ body => body.takesNothing
  | capture _ _ body => body.takesNothing
  | concat items => allTakeNothing items
  | alternation branches => allTakeNothing branches
  | chars _ => false
  | bytes _ => false

/-- `takesNothing` for every expression of a list. -/
def allTakeNothing : List Expr → Bool
  | [] => true
  | item :: rest => item.takesNothing && allTakeNothing rest

end

/-- A repetition. To repeat what takes nothing is to match it once at most; no repetition at all is
the empty text, and one is the body itself. -/
def repeated (min : Nat) (max? : Option Nat) (greedy : Bool) (body : Expr) : Expr :=
  let (min, max?) :=
    if body.takesNothing then (Nat.min min 1, some ((max?.map (Nat.min · 1)).getD 1))
    else (min, max?)
  if min = 0 ∧ max? = some 0 then empty
  else if min = 1 ∧ max? = some 1 then body
  else .repetition min max? greedy body

/-- What an expression adds to a sequence. -/
def items : Expr → List Expr
  | concat items => items
  | empty => []
  | item => [item]

/-- Puts an item before a sequence, and a literal into the one that it comes before. -/
def prepend (item : Expr) (rest : List Expr) : List Expr :=
  match item, rest with
  | .literal front, .literal back :: rest => .literal (front ++ back) :: rest
  | item, rest => item :: rest

/-- A sequence. -/
def sequence (parts : List Expr) : Expr :=
  match (parts.flatMap items).foldr prepend [] with
  | [] => empty
  | [item] => item
  | items => .concat items

/-- What an expression adds to an alternation. -/
def branches : Expr → List Expr
  | alternation branches => branches
  | branch => [branch]

/-- The character that a literal of just one stands for. -/
def char? : Expr → Option Char
  | literal encoded =>
    match encoded.utf8Decode? with
    | some #[c] => some c
    | _ => none
  | _ => none

/-- The characters of a class; bytes are characters if all are ASCII. -/
def charSet? : Expr → Option CharSet
  | chars set => some set
  | bytes set =>
    if set.within 0x7F then
      some (.ofCodes (set.ranges.map fun r => (r.low.toNat, r.high.toNat)))
    else none
  | _ => none

/-- Branches that are all single characters, or all classes, as one class. -/
def collapse? (branches : List Expr) : Option Expr :=
  match branches.mapM char? with
  | some symbols => some (ofChars (.ofRanges (symbols.map .single)))
  | none =>
    (branches.mapM charSet?).map fun sets => ofChars (.ofRanges (sets.flatMap (·.ranges)))

/-- An alternation whose branches have no common beginning. -/
def choice (parts : List Expr) : Expr :=
  match parts.flatMap branches with
  | [] => nothing
  | [branch] => branch
  | branches => (collapse? branches).getD (.alternation branches)

/-- What two sequences have in common at their beginnings. -/
def commonItems (left right : List Expr) : List Expr :=
  ((left.zip right).takeWhile fun (item, other) => item.same other).map (·.1)

/-- The items of a sequence of several. -/
def concat? : Expr → Option (List Expr)
  | concat items => some items
  | _ => none

/-- What all branches begin with, if they are sequences and begin with the same item, and what is
left of each. -/
def commonPrefix? (branches : List Expr) : Option (List Expr × List (List Expr)) :=
  match branches.mapM concat? with
  | some (first :: others) =>
    let common := others.foldl commonItems first
    if common.isEmpty then none
    else some (common, (first :: others).map (·.drop common.length))
  | _ => none

/-- An alternation. -/
def either (parts : List Expr) : Expr :=
  match parts.flatMap branches with
  | [] => nothing
  | [branch] => branch
  | branches =>
    match collapse? branches with
    | some collapsed => collapsed
    | none =>
      match commonPrefix? branches with
      | some (common, rests) => sequence (common ++ [choice (rests.map sequence)])
      | none => .alternation branches

end PatternAutomata.Expr
