import PatternAutomata.Rule.Table
import PatternAutomata.Search

/-!
# Sets of states under rules

`move` follows the rules on one symbol from every state of a set; `closure` follows epsilon rules
for as long as they lead to further states.
-/
namespace PatternAutomata.RuleTable

/-- The states that rules on a symbol, or epsilon rules, lead to from some state of a set. -/
def move (table : RuleTable) (set : StateSet) (symbol? : Option Char) : StateSet :=
  .ofList (set.toList.flatMap (table.targets · symbol?))

/-- The states that epsilon rules lead to from a state. -/
def freeMoves (table : RuleTable) (s : State) : List State := table.targets s none

theorem freeMoves_bounded (table : RuleTable) : Bounded table.freeMoves :=
  ⟨table.allTargets, fun _ _ h => mem_allTargets_of_mem_targets h⟩

/-- The search along epsilon rules from the states of a set. -/
def freeSearch (table : RuleTable) (set : StateSet) : Search State :=
  .run table.freeMoves table.freeMoves_bounded (.ofList set.toList)

/-- The states of a set and all that epsilon rules lead to from them. -/
def closure (table : RuleTable) (set : StateSet) : StateSet :=
  .ofList (table.freeSearch set).found

theorem mem_of_mem_closure {table : RuleTable} {set : StateSet} {s : State}
    (h : s ∈ table.closure set) : s ∈ set ∨ s ∈ table.allTargets := by
  refine Search.found_run (P := fun s => s ∈ set ∨ s ∈ table.allTargets)
    (fun _ _ h => .inr (mem_allTargets_of_mem_targets h)) ?_ s (StateSet.mem_ofList.1 h)
  exact Search.found_foldl_discover (fun _ h => .inl h) fun _ h => absurd h List.not_mem_nil

theorem mem_allTargets_of_mem_move {table : RuleTable} {set : StateSet} {symbol? : Option Char}
    {s : State} (h : s ∈ table.move set symbol?) : s ∈ table.allTargets := by
  obtain ⟨_, _, hs⟩ := List.mem_flatMap.1 (StateSet.mem_ofList.1 h)
  exact mem_allTargets_of_mem_targets hs

end PatternAutomata.RuleTable
