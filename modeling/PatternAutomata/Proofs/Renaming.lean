import PatternAutomata.Proofs.Mirror
import PatternAutomata.Proofs.SubsetAutomaton

/-!
# Determinising sees no names

The determinisation of an automaton does not change when its states are renamed one to one, its rules
are listed in another order, and rules are listed more or less often
(`determinize_eq_of_renames`). Walks are renamed with the rules (`Renames.walk_iff`), so the sets of
states that symbols lead to are renamed, and the search through them takes the same steps.
-/
namespace PatternAutomata

namespace StateSet

/-- The set of the states that `f` gives for the members of a set. -/
def image (f : State → State) (set : StateSet) : StateSet := .ofList (set.toList.map f)

@[simp] theorem mem_image {f : State → State} {set : StateSet} {t : State} :
    t ∈ set.image f ↔ ∃ s ∈ set, f s = t := by
  simp only [image, mem_ofList, List.mem_map, mem_toList]

end StateSet

/-- The rule between the renamed states. -/
def Rule.rename (f : State → State) (rule : Rule) : Rule :=
  ⟨f rule.source, rule.symbol?, f rule.target⟩

namespace Nfa

/-- `image` is `nfa` with its states renamed one to one; its rules may be in any order, each listed
any number of times. -/
structure Renames (f : State → State) (nfa image : Nfa) : Prop where
  injective : ∀ s ∈ nfa.allStates, ∀ t ∈ nfa.allStates, f s = f t → s = t
  start : image.start = f nfa.start
  accept : image.accept = nfa.accept.image f
  rules : ∀ rule, rule ∈ image.rules ↔ ∃ own ∈ nfa.rules, rule = own.rename f

/-- Walks do not leave the states of the automaton. -/
theorem mem_allStates_of_walk {nfa : Nfa} {s t : State} {text : List Char}
    (walk : Walk nfa.rules s text t) (inside : s ∈ nfa.allStates) : t ∈ nfa.allStates := by
  induction walk with
  | done => exact inside
  | step member _ ih => exact ih (target_mem_allStates member)

theorem mem_allStates_of_mem_subsets {nfa : Nfa} {set : StateSet} (found : set ∈ nfa.subsets) :
    ∀ s ∈ set, s ∈ nfa.allStates := by
  intro s member
  obtain ⟨text, _, members⟩ := accessible_iff_mem_subsets.mpr found
  exact mem_allStates_of_walk ((members s).mp member) nfa.start_mem_allStates

namespace Renames

variable {f : State → State} {nfa image : Nfa} (renames : nfa.Renames f image)

include renames

theorem mem_rules {rule : Rule} (member : rule ∈ nfa.rules) : rule.rename f ∈ image.rules :=
  (renames.rules _).mpr ⟨rule, member, rfl⟩

/-- A rule out of a renamed state is a renamed rule out of the state. -/
theorem exists_rule {s t : State} {symbol? : Option Char} (inside : s ∈ nfa.allStates)
    (member : (⟨f s, symbol?, t⟩ : Rule) ∈ image.rules) :
    ∃ r, (⟨s, symbol?, r⟩ : Rule) ∈ nfa.rules ∧ t = f r := by
  obtain ⟨⟨q, own?, r⟩, own, same⟩ := (renames.rules _).mp member
  simp only [Rule.rename, Rule.mk.injEq] at same
  obtain ⟨sources, rfl, rfl⟩ := same
  have sources : s = q := renames.injective s inside q (source_mem_allStates own) sources
  subst sources
  exact ⟨r, own, rfl⟩

/-- The walks from a renamed state are the renamed walks. -/
theorem walk_iff {s : State} {text : List Char} {t : State} (inside : s ∈ nfa.allStates) :
    Walk image.rules (f s) text t ↔ ∃ r, Walk nfa.rules s text r ∧ t = f r := by
  constructor
  · intro walk
    generalize begin : f s = s' at walk
    induction walk generalizing s with
    | done => exact ⟨s, .done s, begin.symm⟩
    | @step rule _ _ member _ ih =>
      obtain ⟨source, symbol?, target⟩ := rule
      cases begin
      obtain ⟨r, own, rfl⟩ := renames.exists_rule inside member
      obtain ⟨last, rest, rfl⟩ := ih (target_mem_allStates own) rfl
      exact ⟨last, .step own rest, rfl⟩
  · rintro ⟨r, walk, rfl⟩
    induction walk with
    | done => exact .done _
    | step member _ ih =>
      exact .step (renames.mem_rules member) (ih (target_mem_allStates member))

theorem alphabet : image.table.alphabet = nfa.table.alphabet := by
  apply RuleTable.alphabet_eq_of_mem_iff
  intro symbol
  rw [mem_alphabet_iff_knows, mem_alphabet_iff_knows]
  constructor
  · rintro ⟨rule, member, reads⟩
    obtain ⟨own, listed, rfl⟩ := (renames.rules rule).mp member
    exact ⟨own, listed, reads⟩
  · rintro ⟨rule, member, reads⟩
    exact ⟨rule.rename f, renames.mem_rules member, reads⟩

theorem initial : image.initial = nfa.initial.image f := by
  apply StateSet.ext
  intro t
  rw [mem_initial, renames.start, renames.walk_iff nfa.start_mem_allStates, StateSet.mem_image]
  constructor
  · rintro ⟨r, walk, rfl⟩
    exact ⟨r, mem_initial.mpr walk, rfl⟩
  · rintro ⟨r, member, rfl⟩
    exact ⟨r, mem_initial.mp member, rfl⟩

theorem after {set : StateSet} (inside : ∀ s ∈ set, s ∈ nfa.allStates) (symbol : Char) :
    image.after (set.image f) symbol = (nfa.after set symbol).image f := by
  apply StateSet.ext
  intro t
  rw [mem_after, StateSet.mem_image]
  constructor
  · rintro ⟨_, member, r', rule, walk⟩
    obtain ⟨s, inSet, rfl⟩ := StateSet.mem_image.mp member
    obtain ⟨r, own, rfl⟩ := renames.exists_rule (inside s inSet) rule
    obtain ⟨last, free, rfl⟩ := (renames.walk_iff (target_mem_allStates own)).mp walk
    exact ⟨last, mem_after.mpr ⟨s, inSet, r, own, free⟩, rfl⟩
  · rintro ⟨last, member, rfl⟩
    obtain ⟨s, inSet, r, own, free⟩ := mem_after.mp member
    have walk := (renames.walk_iff (target_mem_allStates own)).mpr ⟨last, free, rfl⟩
    exact ⟨f s, StateSet.mem_image.mpr ⟨s, inSet, rfl⟩, f r, renames.mem_rules own, walk⟩

theorem mem_of_mem_image {set : StateSet} (inside : ∀ s ∈ set, s ∈ nfa.allStates) {s : State}
    (known : s ∈ nfa.allStates) (member : f s ∈ set.image f) : s ∈ set := by
  obtain ⟨t, inSet, same⟩ := StateSet.mem_image.mp member
  rw [renames.injective s known t (inside t inSet) same.symm]
  exact inSet

theorem image_injective {left right : StateSet} (inLeft : ∀ s ∈ left, s ∈ nfa.allStates)
    (inRight : ∀ s ∈ right, s ∈ nfa.allStates) (same : left.image f = right.image f) :
    left = right := by
  apply StateSet.ext
  intro s
  constructor
  · intro member
    have image : f s ∈ left.image f := StateSet.mem_image.mpr ⟨s, member, rfl⟩
    rw [same] at image
    exact renames.mem_of_mem_image inRight (inLeft s member) image
  · intro member
    have image : f s ∈ right.image f := StateSet.mem_image.mpr ⟨s, member, rfl⟩
    rw [← same] at image
    exact renames.mem_of_mem_image inLeft (inRight s member) image

theorem meets {set : StateSet} (inside : ∀ s ∈ set, s ∈ nfa.allStates) :
    (set.image f).meets image.accept = set.meets nfa.accept := by
  rw [Bool.eq_iff_iff, StateSet.meets_iff, StateSet.meets_iff, renames.accept]
  constructor
  · rintro ⟨_, member, accepts⟩
    obtain ⟨s, inSet, rfl⟩ := StateSet.mem_image.mp member
    have acceptInside : ∀ s ∈ nfa.accept, s ∈ nfa.allStates := fun _ => accept_mem_allStates
    exact ⟨s, inSet, renames.mem_of_mem_image acceptInside (inside s inSet) accepts⟩
  · rintro ⟨s, inSet, accepts⟩
    exact ⟨f s, StateSet.mem_image.mpr ⟨s, inSet, rfl⟩, StateSet.mem_image.mpr ⟨s, accepts, rfl⟩⟩

/-- Renaming the states of all sets relates the two determinisations. -/
theorem mirrors : nfa.Mirrors (·.image f) image where
  alphabet := renames.alphabet
  initial := renames.initial
  after _ found symbol _ := renames.after (mem_allStates_of_mem_subsets found) symbol
  injective _ _ inLeft inRight := renames.image_injective (mem_allStates_of_mem_subsets inLeft)
    (mem_allStates_of_mem_subsets inRight)
  accepts _ found := renames.meets (mem_allStates_of_mem_subsets found)

end Renames

/-- Determinising does not depend on the names of states, on the order of rules, or on how often a
rule is listed: the same states are taken from the supply, and the result is the same. -/
theorem determinize_eq_of_renames {f : State → State} {nfa image : Nfa}
    (renames : nfa.Renames f image) (next : Nat) :
    image.determinize next = nfa.determinize next :=
  determinize_eq_of_mirrors renames.mirrors next

/-- Reads `a` and `b` in turn, after a step that reads nothing. -/
def turns : Nfa :=
  .ofRules (.labelled 1) (.singleton (.labelled 3))
    [.epsilon (.labelled 1) (.labelled 2), .reading (.labelled 2) 'a' (.labelled 3),
      .reading (.labelled 3) 'b' (.labelled 1)]

/-- Other names for the states of `turns`, one of them the old name of another state; the name given
to the second is that of a state which `turns` does not have. -/
def otherName : State → State
  | .labelled 1 => .fresh 7
  | .labelled 2 => .labelled 9
  | .labelled 3 => .labelled 1
  | s => s

/-- `turns` under the other names, its rules listed backwards and one of them twice. -/
def renamedTurns : Nfa :=
  .ofRules (.fresh 7) (.singleton (.labelled 1))
    [.reading (.labelled 1) 'b' (.fresh 7), .reading (.labelled 9) 'a' (.labelled 1),
      .epsilon (.fresh 7) (.labelled 9), .reading (.labelled 9) 'a' (.labelled 1)]

theorem turns_determinize :
    turns.Renames otherName renamedTurns ∧
      renamedTurns.determinize 4 = turns.determinize 4 := by
  have states : ∀ s ∈ turns.allStates, s ∈ [State.labelled 1, .labelled 2, .labelled 3] := by
    intro s member
    simp only [mem_allStates, turns, ofRules, rules, RuleTable.toList_ofList, Rule.reading,
      Rule.epsilon, StateSet.mem_singleton, List.mem_cons, List.not_mem_nil, or_false,
      exists_eq_or_imp, exists_eq_left] at member ⊢
    tauto
  have injective : ∀ s ∈ [State.labelled 1, .labelled 2, .labelled 3],
      ∀ t ∈ [State.labelled 1, .labelled 2, .labelled 3], otherName s = otherName t → s = t := by
    decide
  have accept : renamedTurns.accept = turns.accept.image otherName := by
    apply StateSet.ext
    simp [renamedTurns, turns, ofRules, otherName, eq_comm]
  have rules : ∀ rule, rule ∈ renamedTurns.rules ↔
      ∃ own ∈ turns.rules, rule = own.rename otherName := by
    intro rule
    simp only [renamedTurns, turns, ofRules, rules, RuleTable.toList_ofList, List.mem_cons,
      List.not_mem_nil, or_false, exists_eq_or_imp, exists_eq_left, Rule.rename, Rule.reading,
      Rule.epsilon, otherName]
    tauto
  have renames : turns.Renames otherName renamedTurns :=
    ⟨fun s hs t ht => injective s (states s hs) t (states t ht), rfl, accept, rules⟩
  exact ⟨renames, determinize_eq_of_renames renames 4⟩

end Nfa

end PatternAutomata
