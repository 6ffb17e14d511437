import PatternAutomata.Expr.OfNode
import PatternAutomata.Pattern.OfExpr
import PatternAutomata.Regex.Depth
import PatternAutomata.Regex.Report

/-!
# Patterns from regular expressions

The text of a regular expression is read into a tree, the tree becomes an expression, and the
expression a pattern.
-/
namespace PatternAutomata

/-- How a text is read. -/
structure Config where
  /-- Letters match in either case. -/
  caseInsensitive : Bool := false
  /-- How deep the tree may be. -/
  nestLimit : Nat := 250
  /-- How many members a class may have. -/
  classLimit : Nat := 64
  deriving DecidableEq, Repr

/-- Why a text has no pattern. -/
inductive ParseError where
  /-- The text is no regular expression. -/
  | invalid (error : Regex.SyntaxError) (text : List Char)
  /-- The text is a regular expression that patterns cannot say. -/
  | unsupported (feature : Unsupported)
  deriving DecidableEq, Repr

def ParseError.message : ParseError → String
  | invalid error text => "syntax error: " ++ error.report text
  | unsupported feature => "unsupported feature: " ++ feature.text

/-- The expression of a text. -/
def Expr.ofText (config : Config) (text : List Char) : Except Regex.SyntaxError Expr := do
  let node ← Regex.Node.ofText config.nestLimit text
  let (expr, _) ← Expr.ofNode (.initial config.caseInsensitive) node
  .ok expr

/-- The pattern of a text. -/
def Pattern.parse (config : Config) (text : List Char) : Except ParseError Pattern :=
  match Expr.ofText config text with
  | .error error => .error (.invalid error text)
  | .ok expr =>
    match Pattern.ofExpr config.classLimit expr with
    | .error feature => .error (.unsupported feature)
    | .ok pattern => .ok pattern

end PatternAutomata
