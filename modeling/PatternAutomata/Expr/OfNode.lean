import PatternAutomata.Expr.Normal
import PatternAutomata.Regex.ClassSet

/-!
# The expression of a tree

Flags are read from left to right: they hold until the group ends in which they are set, also across
the bars of an alternation.
-/
namespace PatternAutomata

open Regex

namespace Expr

/-- The assertion under flags. -/
def lookUnder (flags : Flags) : Assertion → Look
  | .startText => .start
  | .endText => .stop
  | .startLine =>
    if !flags.multiLine then .start else if flags.crlf then .startLineCrlf else .startLine
  | .endLine =>
    if !flags.multiLine then .stop else if flags.crlf then .stopLineCrlf else .stopLine
  | .wordBoundary => if flags.unicode then .wordUnicode else .wordAscii
  | .notWordBoundary => if flags.unicode then .notWordUnicode else .notWordAscii
  | .wordStart => if flags.unicode then .wordStartUnicode else .wordStartAscii
  | .wordEnd => if flags.unicode then .wordStopUnicode else .wordStopAscii
  | .wordStartHalf => if flags.unicode then .wordStartHalfUnicode else .wordStartHalfAscii
  | .wordEndHalf => if flags.unicode then .wordStopHalfUnicode else .wordStopHalfAscii

/-- The characters that a dot matches. -/
def dotSet (flags : Flags) : CharSet :=
  if flags.dotMatchesNewLine then .all
  else if flags.crlf then (RangeSet.ofRanges [.single '\n', .single '\r']).negate
  else (RangeSet.single '\n').negate

/-- One character, in either case where case is ignored. -/
def ofLiteral (flags : Flags) (lit : Regex.Literal) : Except SyntaxError Expr :=
  let c := lit.symbol
  if !flags.unicode && lit.isByte && greatestAscii < c.toNat then
    refuse .invalidUtf8 lit.span
  else if !flags.caseInsensitive then .ok (text [c])
  else if flags.unicode then
    match Unicode.caseGroup? c with
    | some group => .ok (ofChars (.ofRanges (group.map .single)))
    | none => .ok (text [c])
  else if c.isAlpha then .ok (ofBytes (Unicode.foldAsciiCase (.single (asciiByte c))))
  else .ok (text [c])

mutual

/-- The expression of a tree, and the flags after it. -/
def ofNode (flags : Flags) : Node → Except SyntaxError (Expr × Flags)
  | .empty _ => .ok (empty, flags)
  | .flags _ settings => .ok (empty, flags.apply settings)
  | .literal lit => do
    let expr ← ofLiteral flags lit
    .ok (expr, flags)
  | .dot span =>
    if flags.unicode then .ok (ofChars (dotSet flags), flags) else refuse .invalidUtf8 span
  | .assertion _ kind => .ok (look (lookUnder flags kind), flags)
  | .unicode span query negated => do
    let set ← unicodeClass flags span query negated
    .ok (ofChars set, flags)
  | .letter span kind negated =>
    if flags.unicode then .ok (ofChars (kind.chars negated), flags)
    else do
      let set ← kind.bytes span negated
      .ok (ofBytes set, flags)
  | .bracketed span negated body =>
    if flags.unicode then do
      let set ← body.chars flags
      .ok (ofChars (flags.foldNegateChars negated set), flags)
    else do
      let set ← body.bytes flags
      let set ← requireAscii span (flags.foldNegateBytes negated set)
      .ok (ofBytes set, flags)
  | .repetition _ repeats body => do
    let (body, flags) ← ofNode flags body
    .ok (repeated repeats.min repeats.max? (repeats.greedy != flags.swapGreed) body, flags)
  | .group _ kind body =>
    match kind with
    | .capture index name? => do
      let (body, _) ← ofNode flags body
      .ok (capture index name? body, flags)
    | .plain settings => do
      let (body, _) ← ofNode (flags.apply settings) body
      .ok (body, flags)
  | .alternation _ branches => do
    let (branches, flags) ← ofNodes flags branches
    .ok (either branches, flags)
  | .concat _ items => do
    let (items, flags) ← ofNodes flags items
    .ok (sequence items, flags)

/-- The expressions of several trees, each under the flags after the one before it. -/
def ofNodes (flags : Flags) : List Node → Except SyntaxError (List Expr × Flags)
  | [] => .ok ([], flags)
  | node :: rest => do
    let (expr, flags) ← ofNode flags node
    let (exprs, flags) ← ofNodes flags rest
    .ok (expr :: exprs, flags)

end

end Expr

end PatternAutomata
