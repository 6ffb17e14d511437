import PatternAutomata.Rule
import PatternAutomata.State.Set
import Std.Data.HashMap

/-!
# Rule tables

A table holds a list of rules with an index from a state and a symbol to the positions of the rules
that leave the state on the symbol. The index is a function of the rules, so two tables with the
same rules are the same table.
-/
namespace PatternAutomata

namespace Rule

/-- What a rule is looked up by. -/
abbrev Key := State × Option Char

/-- A key is hashed by its state and the code of its symbol. -/
instance : Hashable Key := ⟨fun key => mixHash (hash key.1) (hash (key.2.map Char.toNat))⟩

def key (rule : Rule) : Key := (rule.source, rule.symbol?)

end Rule

/-- For every state and symbol, the positions of the rules that leave the one on the other. -/
abbrev RuleIndex := Std.HashMap Rule.Key (List Nat)

namespace RuleIndex

/-- The index of rules that are listed with their positions. -/
def ofPositioned (rules : List (Rule × Nat)) : RuleIndex :=
  rules.foldr
    (fun (rule, position) index => index.insert rule.key (position :: index.getD rule.key [])) ∅

def ofRules (rules : Array Rule) : RuleIndex := ofPositioned rules.toList.zipIdx

/-- The index finds the positions of the rules with the key it is asked for, in their order. -/
theorem getD_ofPositioned (rules : List (Rule × Nat)) (key : Rule.Key) :
    (ofPositioned rules).getD key [] = (rules.filter (·.1.key == key)).map (·.2) := by
  induction rules with
  | nil => simp [ofPositioned]
  | cons entry rest ih =>
    have step : ofPositioned (entry :: rest) = (ofPositioned rest).insert entry.1.key
        (entry.2 :: (ofPositioned rest).getD entry.1.key []) := rfl
    rw [step, Std.HashMap.getD_insert]
    split
    · next same =>
      have := eq_of_beq same
      subst this
      simp [ih]
    · next other => simp [ih, other]

end RuleIndex

/-- A list of rules with its index. -/
structure RuleTable where
  rules : Array Rule
  index : RuleIndex
  indexed : index = .ofRules rules

namespace RuleTable

/-- The table of a list of rules. -/
def ofList (rules : List Rule) : RuleTable := ⟨rules.toArray, .ofRules rules.toArray, rfl⟩

def toList (table : RuleTable) : List Rule := table.rules.toList

@[simp] theorem toList_ofList (rules : List Rule) : (ofList rules).toList = rules := rfl

/-- Tables with the same rules are the same table. -/
theorem ext {left right : RuleTable} (same : left.rules = right.rules) : left = right := by
  cases left; cases right
  simp_all

instance : DecidableEq RuleTable := fun left right =>
  if same : left.rules = right.rules then .isTrue (ext same)
  else .isFalse fun equal => same (congrArg rules equal)

/-- The positions of the rules that leave a state on a symbol, or without one. -/
def positions (table : RuleTable) (s : State) (symbol? : Option Char) : List Nat :=
  table.index.getD (s, symbol?) []

/-- The rules that leave a state on a symbol, or without one, in the order of the table. -/
def rulesFor (table : RuleTable) (s : State) (symbol? : Option Char) : List Rule :=
  (table.positions s symbol?).filterMap (table.rules[·]?)

/-- The states that rules lead to from a state, in the order of the table. -/
def targets (table : RuleTable) (s : State) (symbol? : Option Char) : List State :=
  (table.rulesFor s symbol?).map (·.target)

/-- The symbols of the rules, each once, in increasing order. -/
def alphabet (table : RuleTable) : List Char :=
  (table.toList.filterMap (·.symbol?)).foldr place []
where
  /-- Puts a symbol into its place in an increasing list, which does not change if it is there. -/
  place (symbol : Char) : List Char → List Char
    | [] => [symbol]
    | other :: rest =>
      if symbol < other then symbol :: other :: rest
      else if symbol = other then other :: rest
      else other :: place symbol rest

/-- The states that some rule mentions. -/
def states (table : RuleTable) : StateSet :=
  .ofList (table.toList.flatMap fun rule => [rule.source, rule.target])

/-- The states that some rule leads to. -/
def allTargets (table : RuleTable) : List State := table.toList.map (·.target)

theorem mem_rules_of_mem_rulesFor {table : RuleTable} {s : State} {symbol? : Option Char}
    {rule : Rule} (h : rule ∈ table.rulesFor s symbol?) : rule ∈ table.toList := by
  obtain ⟨position, _, found⟩ := List.mem_filterMap.1 h
  exact Array.mem_toList_iff.2 (Array.mem_of_getElem? found)

theorem mem_allTargets_of_mem_targets {table : RuleTable} {s t : State} {symbol? : Option Char}
    (h : t ∈ table.targets s symbol?) : t ∈ table.allTargets := by
  obtain ⟨rule, hr, rfl⟩ := List.mem_map.1 h
  exact List.mem_map_of_mem (mem_rules_of_mem_rulesFor hr)

end RuleTable

end PatternAutomata
