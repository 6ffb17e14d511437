import PatternAutomata.Nfa
import PatternAutomata.Proofs.Lookup
import PatternAutomata.Proofs.Search

/-!
# Walks along rules

A walk follows rules from state to state; the symbols that its rules read spell a text, to which
epsilon rules add nothing. Walks say what an automaton means without sets of states: the closure of
a set is what walks without symbols lead to (`mem_closure`), and a run is in the states that walks
spelling its text lead to (`mem_current_readText`).
-/
namespace PatternAutomata

/-- What a rule adds to the text of a walk. -/
def Rule.spelled (rule : Rule) : List Char := rule.symbol?.toList

/-- Some walk along rules leads from a state to a state and spells a text. -/
inductive Walk (rules : List Rule) : State → List Char → State → Prop
  | done (s : State) : Walk rules s [] s
  | step {rule : Rule} {text : List Char} {t : State} (member : rule ∈ rules)
      (rest : Walk rules rule.target text t) : Walk rules rule.source (rule.spelled ++ text) t

namespace Walk

variable {rules : List Rule} {s t u : State}

theorem free {text : List Char} (member : Rule.epsilon s t ∈ rules)
    (rest : Walk rules t text u) : Walk rules s text u := .step member rest

theorem reading {symbol : Char} {text : List Char} (member : Rule.reading s symbol t ∈ rules)
    (rest : Walk rules t text u) : Walk rules s (symbol :: text) u := .step member rest

theorem append {front back : List Char} (first : Walk rules s front t)
    (second : Walk rules t back u) : Walk rules s (front ++ back) u := by
  induction first with
  | done => exact second
  | step member _ ih =>
    rw [List.append_assoc]
    exact .step member (ih second)

theorem mono {more : List Rule} {text : List Char} (sub : ∀ rule ∈ rules, rule ∈ more)
    (walk : Walk rules s text t) : Walk more s text t := by
  induction walk with
  | done => exact .done _
  | step member _ ih => exact .step (sub _ member) ih

/-- A walk that reads goes along epsilon rules to the rule that reads the first symbol. -/
theorem cons_iff {symbol : Char} {text : List Char} :
    Walk rules s (symbol :: text) u ↔
      ∃ t t', Walk rules s [] t ∧ Rule.reading t symbol t' ∈ rules ∧ Walk rules t' text u := by
  constructor
  · intro walk
    generalize spelled : symbol :: text = whole at walk
    induction walk with
    | done => cases spelled
    | @step rule _ _ member rest ih =>
      obtain ⟨s, symbol?, t⟩ := rule
      cases symbol? with
      | none =>
        obtain ⟨r, r', before, read, after⟩ := ih spelled
        exact ⟨r, r', .free member before, read, after⟩
      | some first =>
        cases spelled
        exact ⟨s, t, .done s, member, rest⟩
  · rintro ⟨t, t', before, read, after⟩
    exact before.append (.reading read after)

/-- Every symbol of a walk is read by some rule. -/
theorem symbol_mem {text : List Char} (walk : Walk rules s text t) :
    ∀ symbol ∈ text, ∃ rule ∈ rules, rule.symbol? = some symbol := by
  induction walk with
  | done => exact fun _ absent => absurd absent List.not_mem_nil
  | step member _ ih =>
    intro symbol spelled
    rcases List.mem_append.mp spelled with here | later
    · exact ⟨_, member, Option.mem_toList.mp here⟩
    · exact ih symbol later

end Walk

namespace RuleTable

variable {table : RuleTable}

theorem mem_freeMoves {s t : State} :
    t ∈ table.freeMoves s ↔ Rule.epsilon s t ∈ table.toList := mem_targets

theorem free_path_iff_walk {s t : State} :
    Relation.ReflTransGen (fun s t => t ∈ table.freeMoves s) s t ↔ Walk table.toList s [] t := by
  constructor
  · intro path
    induction path using Relation.ReflTransGen.head_induction_on with
    | refl => exact .done _
    | head next _ ih => exact .free (mem_freeMoves.mp next) ih
  · intro walk
    generalize spelled : [] = text at walk
    induction walk with
    | done => exact .refl
    | @step rule _ _ member _ ih =>
      obtain ⟨s, symbol?, t⟩ := rule
      cases symbol? with
      | none => exact .head (mem_freeMoves.mpr member) (ih spelled)
      | some symbol => cases spelled

/-- The closure of a set is what epsilon rules lead to from its members. -/
theorem mem_closure {set : StateSet} {t : State} :
    t ∈ table.closure set ↔ ∃ s ∈ set, Walk table.toList s [] t := by
  rw [closure, StateSet.mem_ofList, freeSearch, Search.mem_found_run, Search.Reachable]
  simp only [free_path_iff_walk, StateSet.mem_toList]

end RuleTable

namespace Nfa.Run

theorem nfa_read (run : Run) (symbol : Char) : (run.read symbol).nfa = run.nfa := rfl

theorem readText_cons (run : Run) (symbol : Char) (text : List Char) :
    run.readText (symbol :: text) = (run.read symbol).readText text := rfl

/-- A symbol leads from a frontier along epsilon rules and then along a rule that reads it. -/
theorem mem_frontier_read {run : Run} {symbol : Char} {t : State} :
    t ∈ (run.read symbol).frontier ↔
      ∃ s ∈ run.frontier, ∃ r, Walk run.nfa.rules s [] r ∧
        Rule.reading r symbol t ∈ run.nfa.rules := by
  rw [read, RuleTable.mem_move]
  constructor
  · rintro ⟨r, reached, rule⟩
    obtain ⟨s, member, free⟩ := RuleTable.mem_closure.mp reached
    exact ⟨s, member, r, free, rule⟩
  · rintro ⟨s, member, r, free, rule⟩
    exact ⟨r, RuleTable.mem_closure.mpr ⟨s, member, free⟩, rule⟩

/-- After a text a run is in the states that walks spelling the text lead to. -/
theorem mem_current_readText {run : Run} {text : List Char} {t : State} :
    t ∈ (run.readText text).current ↔ ∃ s ∈ run.frontier, Walk run.nfa.rules s text t := by
  induction text generalizing run with
  | nil => exact RuleTable.mem_closure
  | cons symbol text ih =>
    rw [readText_cons, ih, nfa_read]
    simp only [mem_frontier_read, Walk.cons_iff]
    constructor
    · rintro ⟨t', ⟨s, member, r, free, rule⟩, rest⟩
      exact ⟨s, member, r, t', free, rule, rest⟩
    · rintro ⟨s, member, r, t', free, rule, rest⟩
      exact ⟨t', ⟨s, member, r, free, rule⟩, rest⟩

theorem nfa_readText (run : Run) (text : List Char) : (run.readText text).nfa = run.nfa := by
  induction text generalizing run with
  | nil => rfl
  | cons symbol text ih => rw [readText_cons, ih, nfa_read]

/-- A run accepts a text if some walk that spells it leads to an accept state. -/
theorem isAccepting_readText {run : Run} {text : List Char} :
    (run.readText text).isAccepting = true ↔
      ∃ t ∈ run.nfa.accept, ∃ s ∈ run.frontier, Walk run.nfa.rules s text t := by
  rw [isAccepting, StateSet.meets_iff, nfa_readText]
  simp only [mem_current_readText]
  constructor
  · rintro ⟨t, walk, accepted⟩
    exact ⟨t, accepted, walk⟩
  · rintro ⟨t, accepted, walk⟩
    exact ⟨t, walk, accepted⟩

end Nfa.Run

namespace Nfa

@[simp] theorem nfa_run (nfa : Nfa) : nfa.run.nfa = nfa := rfl

@[simp] theorem frontier_run (nfa : Nfa) : nfa.run.frontier = .singleton nfa.start := rfl

/-- An automaton accepts the texts of the walks from its start to an accept state. -/
theorem accepts_iff_walk {nfa : Nfa} {text : List Char} :
    nfa.accepts text = true ↔ ∃ t ∈ nfa.accept, Walk nfa.rules nfa.start text t := by
  rw [accepts, Run.isAccepting_readText]
  simp only [nfa_run, frontier_run, StateSet.mem_singleton, exists_eq_left]

end Nfa

end PatternAutomata
