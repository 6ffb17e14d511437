import PatternAutomata.Regex.Reader

/-!
# Nesting

A tree is refused if some node lies too deep. Groups, repetitions, alternations and sequences add a
level, and so do classes in brackets and, within them, lists of several items and operators.
-/
namespace PatternAutomata.Regex

/-- Refuses a span on a level beyond the limit. -/
def enter (limit level : Nat) (span : Span) : Except SyntaxError Unit :=
  if limit < level then refuse (.nestLimitExceeded limit) span else .ok ()

mutual

/-- Refuses the first node on a level beyond the limit; `level` is that of the node around. -/
def ClassNode.checkDepth (limit level : Nat) : ClassNode → Except SyntaxError Unit
  | .bracketed span _ body => do
    enter limit (level + 1) span
    body.checkDepth limit (level + 1)
  | .union span items => do
    enter limit (level + 1) span
    ClassNode.checkDepths limit (level + 1) items
  | .binary span _ left right => do
    enter limit (level + 1) span
    left.checkDepth limit (level + 1)
    right.checkDepth limit (level + 1)
  | _ => .ok ()

/-- `checkDepth` for each node of a list. -/
def ClassNode.checkDepths (limit level : Nat) : List ClassNode → Except SyntaxError Unit
  | [] => .ok ()
  | node :: rest => do
    node.checkDepth limit level
    ClassNode.checkDepths limit level rest

end

mutual

/-- Refuses the first node on a level beyond the limit; `level` is that of the node around. -/
def Node.checkDepth (limit level : Nat) : Node → Except SyntaxError Unit
  | .bracketed span _ body => do
    enter limit (level + 1) span
    body.checkDepth limit (level + 1)
  | .repetition span _ body => do
    enter limit (level + 1) span
    body.checkDepth limit (level + 1)
  | .group span _ body => do
    enter limit (level + 1) span
    body.checkDepth limit (level + 1)
  | .alternation span branches => do
    enter limit (level + 1) span
    Node.checkDepths limit (level + 1) branches
  | .concat span items => do
    enter limit (level + 1) span
    Node.checkDepths limit (level + 1) items
  | _ => .ok ()

/-- `checkDepth` for each node of a list. -/
def Node.checkDepths (limit level : Nat) : List Node → Except SyntaxError Unit
  | [] => .ok ()
  | node :: rest => do
    node.checkDepth limit level
    Node.checkDepths limit level rest

end

/-- The tree of a text, unless it is nested more deeply than the limit. -/
def Node.ofText (limit : Nat) (text : List Char) : Except SyntaxError Node := do
  let node ← readTree text
  node.checkDepth limit 0
  .ok node

end PatternAutomata.Regex
