import Mathlib.Data.Set.Card
import PatternAutomata.Proofs.Agreement

/-!
# The index of a table

Under a state and a symbol, or none, the index of a table has the positions at which the list of rules
has a rule that applies, in increasing order and no others; so every position that is looked up has a
rule. It does not matter how an index is filled: filing the rules one after the other gives the same
positions, and so does leaving out the rules that read nothing, where only symbols are asked for
(`RuleIndex.getD_filed`). A deterministic automaton finds a rule exactly if there is one position
(`lookups_scan_rules`).
-/
namespace PatternAutomata

namespace Rule

/-- The positions at which a list has a rule that leaves a state on a symbol, or without one. -/
def places (rules : List Rule) (s : State) (symbol? : Option Char) : Set Nat :=
  {position | ∃ rule, rules[position]? = some rule ∧ rule.appliesTo s symbol? = true}

theorem lt_length_of_mem_places {rules : List Rule} {s : State} {symbol? : Option Char}
    {position : Nat} (member : position ∈ places rules s symbol?) : position < rules.length := by
  obtain ⟨rule, found, _⟩ := member
  exact (List.getElem?_eq_some_iff.mp found).1

theorem symbolKey?_beq_eq_appliesTo (rule : Rule) (s : State) (symbol : Char) :
    (rule.symbolKey? == some (s, symbol)) = rule.appliesTo s (some symbol) := by
  apply Bool.eq_iff_iff.mpr
  rw [beq_iff_eq, appliesTo_iff, symbolKey?]
  cases rule.symbol? with
  | none => simp
  | some other => simp

end Rule

/-! ### Positions -/

namespace RuleTable

variable {table : RuleTable} {s : State} {symbol? : Option Char}

theorem mem_positions {position : Nat} :
    position ∈ table.positions s symbol? ↔ position ∈ Rule.places table.toList s symbol? := by
  rw [positions_eq, List.mem_map]
  constructor
  · rintro ⟨⟨rule, _⟩, member, rfl⟩
    obtain ⟨listed, applies⟩ := List.mem_filter.mp member
    exact ⟨rule, List.mk_mem_zipIdx_iff_getElem?.mp listed, applies⟩
  · rintro ⟨rule, found, applies⟩
    have listed := List.mk_mem_zipIdx_iff_getElem?.mpr found
    exact ⟨(rule, position), List.mem_filter.mpr ⟨listed, applies⟩, rfl⟩

theorem positions_sorted (table : RuleTable) (s : State) (symbol? : Option Char) :
    (table.positions s symbol?).Pairwise (· < ·) := by
  have all : (table.toList.zipIdx.map (·.2)).Pairwise (· < ·) := by
    rw [List.zipIdx_map_snd]
    exact List.pairwise_lt_range' 1
  rw [positions_eq]
  exact all.sublist (List.filter_sublist.map _)

theorem positions_of_stored {positions : List Nat}
    (stored : table.index[(s, symbol?)]? = some positions) :
    table.positions s symbol? = positions := by
  rw [RuleTable.positions, Std.HashMap.getD_eq_getD_getElem?, stored, Option.getD_some]

/-- Every position that is looked up has a rule: none is passed over. -/
theorem map_positions (table : RuleTable) (s : State) (symbol? : Option Char) :
    (table.positions s symbol?).map (table.toList[·]?) = (table.rulesFor s symbol?).map some := by
  have found : ∀ position ∈ table.positions s symbol?,
      ∃ rule, table.toList[position]? = some rule := by
    intro position member
    obtain ⟨rule, found, _⟩ := mem_positions.mp member
    exact ⟨rule, found⟩
  have read : table.rulesFor s symbol? =
      (table.positions s symbol?).filterMap (table.toList[·]?) := by
    simp only [rulesFor, toList, Array.getElem?_toList]
  rw [read]
  -- nothing else is needed of the positions than that each has a rule
  generalize table.positions s symbol? = positions at found
  induction positions with
  | nil => rfl
  | cons position rest ih =>
    obtain ⟨⟨rule, here⟩, later⟩ := List.forall_mem_cons.mp found
    rw [List.filterMap_cons_some here, List.map_cons, List.map_cons, here, ih later]

theorem ncard_places (table : RuleTable) (s : State) (symbol? : Option Char) :
    (Rule.places table.toList s symbol?).ncard = (table.rulesFor s symbol?).length := by
  have nodup : (table.positions s symbol?).Nodup :=
    (table.positions_sorted s symbol?).imp Nat.ne_of_lt
  have same : Rule.places table.toList s symbol? = (table.positions s symbol?).toFinset := by
    ext position
    rw [List.coe_toFinset]
    exact mem_positions.symm
  have lengths := congrArg List.length (table.map_positions s symbol?)
  rw [List.length_map, List.length_map] at lengths
  rw [same, Set.ncard_coe_finset, List.toFinset_card_of_nodup nodup, lengths]

/-- A single rule is found exactly if it is at the only position of a rule that applies. -/
theorem rulesFor_eq_singleton {rule : Rule} : table.rulesFor s symbol? = [rule] ↔
    ∃ position, Rule.places table.toList s symbol? = {position} ∧
      table.toList[position]? = some rule := by
  have looked := table.map_positions s symbol?
  constructor
  · intro only
    rw [only, List.map_singleton, List.map_eq_singleton_iff] at looked
    obtain ⟨position, alone, found⟩ := looked
    refine ⟨position, ?_, found⟩
    ext other
    rw [← mem_positions, alone]
    simp
  · rintro ⟨position, alone, found⟩
    have one : (table.rulesFor s symbol?).length = 1 := by
      rw [← ncard_places, alone, Set.ncard_singleton]
    obtain ⟨other, only⟩ := List.length_eq_one_iff.mp one
    rw [only, List.map_singleton, List.map_eq_singleton_iff] at looked
    obtain ⟨place, single, there⟩ := looked
    -- the one position looked up is the only one there is, so both have the same rule
    have same : position ∈ table.positions s symbol? := mem_positions.mpr (alone ▸ rfl)
    rw [single, List.mem_singleton] at same
    rw [same, there] at found
    cases found
    exact only

end RuleTable

namespace Dfa

variable {dfa : Dfa} {s : State} {symbol : Char}

theorem ruleFor_eq_ok {rule : Rule} : dfa.ruleFor s symbol = .ok rule ↔
    ∃ position, Rule.places dfa.rules s (some symbol) = {position} ∧
      dfa.rules[position]? = some rule := by
  rw [rules, ← RuleTable.rulesFor_eq_singleton]
  unfold ruleFor
  split
  · next only found => simp [found]
  · next several => exact ⟨fun ok => (by cases ok), fun only => (several rule only).elim⟩

theorem ruleFor_eq_error
    (several : ∀ position, Rule.places dfa.rules s (some symbol) ≠ {position}) :
    dfa.ruleFor s symbol =
      .error (.missingTransition s symbol (Rule.places dfa.rules s (some symbol)).ncard) := by
  rw [rules, RuleTable.ncard_places]
  unfold ruleFor
  split
  · next rule only =>
    obtain ⟨position, alone, _⟩ := RuleTable.rulesFor_eq_singleton.mp only
    exact absurd alone (several position)
  · rfl

theorem ofRules_of_reads (start : State) (accept : StateSet) {rules : List Rule}
    (reads : ∀ rule ∈ rules, rule.isEpsilon = false) :
    ∃ dfa, ofRules start accept rules = .ok dfa ∧ dfa.table = .ofList rules := by
  have absent : rules.find? (·.isEpsilon) = none := by simpa using reads
  obtain ⟨dfa, made, same⟩ := ofRules_of_find?_eq_none start accept absent
  refine ⟨dfa, made, ?_⟩
  rw [← table_toNfa, same]
  rfl

end Dfa

/-- Looking rules up gives what a scan of the list gives, and what the index holds are the positions
of that scan, in increasing order, whether the index is filled at once or rule by rule, and whether or
not rules that read nothing are left out. Rules that all read a symbol make a deterministic automaton
with the same table. It finds a rule exactly if this rule is at the only position of a rule that
applies, and else reports the number of those positions. -/
theorem lookups_scan_rules (start : State) (accept : StateSet) (rules : List Rule) :
    let table := RuleTable.ofList rules
    (∀ s symbol?, table.rulesFor s symbol? = rules.filter (·.appliesTo s symbol?) ∧
      (table.positions s symbol?).map (rules[·]?) = (table.rulesFor s symbol?).map some) ∧
    (∀ s symbol? positions, table.index[(s, symbol?)]? = some positions →
      positions.Pairwise (· < ·) ∧ (∀ position ∈ positions, position < rules.length) ∧
      ∀ position, position ∈ positions ↔ position ∈ Rule.places rules s symbol?) ∧
    (∀ key, (RuleIndex.filed (some ·.key) rules).getD key [] = table.index.getD key []) ∧
    (∀ s symbol, (RuleIndex.filed Rule.symbolKey? rules).getD (s, symbol) [] =
      table.positions s (some symbol)) ∧
    ((∀ rule ∈ rules, rule.isEpsilon = false) →
      ∃ dfa, Dfa.ofRules start accept rules = .ok dfa ∧ dfa.table = table ∧ ∀ s symbol,
        let places := Rule.places rules s (some symbol)
        (∀ rule, dfa.ruleFor s symbol = .ok rule ↔
          ∃ position, places = {position} ∧ rules[position]? = some rule) ∧
        ((∀ position, places ≠ {position}) →
          dfa.ruleFor s symbol = .error (.missingTransition s symbol places.ncard))) := by
  intro table
  refine ⟨?_, ?_, ?_, ?_, fun reads => ?_⟩
  · intro s symbol?
    exact ⟨table.rulesFor_eq_filter s symbol?, table.map_positions s symbol?⟩
  · intro s symbol? positions stored
    rw [← RuleTable.positions_of_stored stored]
    refine ⟨table.positions_sorted s symbol?, fun position member => ?_, fun _ =>
      RuleTable.mem_positions⟩
    exact Rule.lt_length_of_mem_places (RuleTable.mem_positions.mp member)
  · intro key
    rw [RuleIndex.getD_filed, table.indexed, RuleIndex.ofRules, RuleIndex.getD_ofPositioned]
    simp only [Option.some_beq_some]
    rfl
  · intro s symbol
    rw [RuleIndex.getD_filed, RuleTable.positions_eq]
    simp only [Rule.symbolKey?_beq_eq_appliesTo]
    rfl
  · obtain ⟨dfa, made, same⟩ := Dfa.ofRules_of_reads start accept reads
    have listed : dfa.rules = rules := congrArg RuleTable.toList same
    refine ⟨dfa, made, same, fun s symbol => ?_⟩
    rw [← listed]
    exact ⟨fun rule => Dfa.ruleFor_eq_ok, Dfa.ruleFor_eq_error⟩

/-- Three rules that apply to `a` in one state, two of them the same, and a single one on `b`. -/
def tripled : List Rule :=
  [.reading (.labelled 1) 'a' (.labelled 2), .reading (.labelled 1) 'a' (.labelled 3),
    .reading (.labelled 2) 'b' (.labelled 1), .reading (.labelled 1) 'a' (.labelled 2)]

theorem tripled_lookups :
    (∀ rule ∈ tripled, rule.isEpsilon = false) ∧
    (RuleTable.ofList tripled).rulesFor (.labelled 1) (some 'a') =
      [.reading (.labelled 1) 'a' (.labelled 2), .reading (.labelled 1) 'a' (.labelled 3),
        .reading (.labelled 1) 'a' (.labelled 2)] ∧
    ∃ dfa, Dfa.ofRules (.labelled 1) .empty tripled = .ok dfa ∧
      dfa.ruleFor (.labelled 2) 'b' = .ok (.reading (.labelled 2) 'b' (.labelled 1)) ∧
      dfa.ruleFor (.labelled 1) 'a' = .error (.missingTransition (.labelled 1) 'a' 3) := by
  have reads : ∀ rule ∈ tripled, rule.isEpsilon = false := by decide
  obtain ⟨scan, _, _, _, made⟩ := lookups_scan_rules (.labelled 1) .empty tripled
  obtain ⟨dfa, made, _, finds⟩ := made reads
  have several := (scan (.labelled 1) (some 'a')).1
  have single : (RuleTable.ofList tripled).rulesFor (.labelled 2) (some 'b') =
      [.reading (.labelled 2) 'b' (.labelled 1)] := (scan (.labelled 2) (some 'b')).1
  have three : (Rule.places tripled (.labelled 1) (some 'a')).ncard = 3 :=
    (RuleTable.ncard_places _ _ _).trans (congrArg List.length several)
  refine ⟨reads, several, dfa, made, ?_, ?_⟩
  · exact ((finds _ _).1 _).mpr (RuleTable.rulesFor_eq_singleton.mp single)
  · rw [(finds _ _).2, three]
    intro position alone
    rw [alone, Set.ncard_singleton] at three
    cases three

end PatternAutomata
