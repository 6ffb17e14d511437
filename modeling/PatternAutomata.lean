import PatternAutomata.Demo
import PatternAutomata.Dfa
import PatternAutomata.Expr
import PatternAutomata.Expr.Normal
import PatternAutomata.Expr.OfNode
import PatternAutomata.Main
import PatternAutomata.Nfa
import PatternAutomata.Nfa.Determinize
import PatternAutomata.Pattern
import PatternAutomata.Pattern.Balanced
import PatternAutomata.Pattern.Compile
import PatternAutomata.Pattern.OfExpr
import PatternAutomata.Pattern.Parse
import PatternAutomata.Pattern.Render
import PatternAutomata.Proofs.Agreement
import PatternAutomata.Proofs.AnyOrder
import PatternAutomata.Proofs.Canonical
import PatternAutomata.Proofs.ClassMembers
import PatternAutomata.Proofs.Closure
import PatternAutomata.Proofs.Compile
import PatternAutomata.Proofs.Construction
import PatternAutomata.Proofs.Conventions
import PatternAutomata.Proofs.Determinize
import PatternAutomata.Proofs.Discovery
import PatternAutomata.Proofs.EveryOrder
import PatternAutomata.Proofs.FewestBrackets
import PatternAutomata.Proofs.FirstRefusal
import PatternAutomata.Proofs.Fragment
import PatternAutomata.Proofs.Grammar
import PatternAutomata.Proofs.Index
import PatternAutomata.Proofs.Joining
import PatternAutomata.Proofs.Language
import PatternAutomata.Proofs.Lookup
import PatternAutomata.Proofs.Matching
import PatternAutomata.Proofs.Mirror
import PatternAutomata.Proofs.Normal
import PatternAutomata.Proofs.Ranges
import PatternAutomata.Proofs.Reading
import PatternAutomata.Proofs.Renaming
import PatternAutomata.Proofs.Rendered
import PatternAutomata.Proofs.Renumbering
import PatternAutomata.Proofs.RoundTrip
import PatternAutomata.Proofs.Search
import PatternAutomata.Proofs.Settling
import PatternAutomata.Proofs.Simulation
import PatternAutomata.Proofs.States
import PatternAutomata.Proofs.Stopping
import PatternAutomata.Proofs.SubsetAutomaton
import PatternAutomata.Proofs.SubsetBound
import PatternAutomata.Proofs.Supply
import PatternAutomata.Proofs.Translate
import PatternAutomata.Proofs.Tree
import PatternAutomata.Proofs.Trim
import PatternAutomata.Proofs.Walk
import PatternAutomata.Proofs.Worklist
import PatternAutomata.Proofs.WrittenMeaning
import PatternAutomata.RangeSet
import PatternAutomata.Regex.Bracket
import PatternAutomata.Regex.ClassSet
import PatternAutomata.Regex.Cursor
import PatternAutomata.Regex.Depth
import PatternAutomata.Regex.Escape
import PatternAutomata.Regex.Group
import PatternAutomata.Regex.Node
import PatternAutomata.Regex.Reader
import PatternAutomata.Regex.Repetition
import PatternAutomata.Regex.Report
import PatternAutomata.Regex.Span
import PatternAutomata.Regex.SyntaxError
import PatternAutomata.Rule
import PatternAutomata.Rule.Closure
import PatternAutomata.Rule.Filing
import PatternAutomata.Rule.Table
import PatternAutomata.Search
import PatternAutomata.State
import PatternAutomata.State.Set
import PatternAutomata.State.Subsets
import PatternAutomata.Text.Quoted
import PatternAutomata.Unicode.Additions
import PatternAutomata.Unicode.Age
import PatternAutomata.Unicode.CaseGroup
import PatternAutomata.Unicode.GeneralCategory
import PatternAutomata.Unicode.Listed
import PatternAutomata.Unicode.Packed
import PatternAutomata.Unicode.Property
import PatternAutomata.Unicode.PropertyName
import PatternAutomata.Unicode.Query
import PatternAutomata.Unicode.Script
import PatternAutomata.Unicode.Segmentation
