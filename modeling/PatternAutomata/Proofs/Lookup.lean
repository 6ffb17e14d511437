import PatternAutomata.Dfa
import PatternAutomata.Rule.Closure

/-!
# What looking rules up gives

The index of a table is never seen from outside: looking a rule up gives what a scan of the rules
gives (`rulesFor_eq_filter`). From this come the members of `targets`, `move` and `alphabet`, all
said through the list of rules alone. The alphabet of a deterministic automaton, which is read off the
keys of an index, is that of its table (`Dfa.alphabet_eq`).
-/
namespace PatternAutomata

namespace Rule

theorem appliesTo_iff {rule : Rule} {s : State} {symbol? : Option Char} :
    rule.appliesTo s symbol? = true ↔ rule.source = s ∧ rule.symbol? = symbol? := by
  simp [appliesTo]

theorem key_beq_eq_appliesTo (rule : Rule) (s : State) (symbol? : Option Char) :
    (rule.key == (s, symbol?)) = rule.appliesTo s symbol? := by
  apply Bool.eq_iff_iff.mpr
  rw [beq_iff_eq, appliesTo_iff, key, Prod.mk.injEq]

end Rule

namespace RuleTable

/-- Reading a list at positions that were kept with its elements gives those elements back. -/
theorem filterMap_positions (front list : List Rule) (keep : Rule → Bool) :
    ((((list.zipIdx front.length).filter (keep ·.1)).map (·.2)).filterMap
      ((front ++ list)[·]?)) = list.filter keep := by
  induction list generalizing front with
  | nil => simp
  | cons rule rest ih =>
    have next := ih (front ++ [rule])
    simp only [List.length_append, List.length_singleton, List.append_assoc,
      List.singleton_append] at next
    have here : (front ++ rule :: rest)[front.length]? = some rule := by simp
    rw [List.zipIdx_cons]
    simp only [List.filter_cons]
    by_cases kept : keep rule = true
    · rw [if_pos kept, if_pos kept, List.map_cons, List.filterMap_cons_some here, next]
    · rw [if_neg kept, if_neg kept, next]

/-- The index of a table finds the positions of the rules that apply, in their order. -/
theorem positions_eq (table : RuleTable) (s : State) (symbol? : Option Char) :
    table.positions s symbol? =
      (table.toList.zipIdx.filter (·.1.appliesTo s symbol?)).map (·.2) := by
  rw [positions, table.indexed, RuleIndex.ofRules, RuleIndex.getD_ofPositioned]
  simp only [Rule.key_beq_eq_appliesTo]
  rfl

/-- Looking up finds the rules that apply, in the order of the table and as often as they are
listed there. -/
theorem rulesFor_eq_filter (table : RuleTable) (s : State) (symbol? : Option Char) :
    table.rulesFor s symbol? = table.toList.filter (·.appliesTo s symbol?) := by
  have scan := filterMap_positions [] table.toList (·.appliesTo s symbol?)
  simp only [List.length_nil, List.nil_append] at scan
  rw [rulesFor, positions_eq, ← scan]
  simp only [toList, Array.getElem?_toList]

theorem mem_rulesFor {table : RuleTable} {s : State} {symbol? : Option Char} {rule : Rule} :
    rule ∈ table.rulesFor s symbol? ↔
      rule ∈ table.toList ∧ rule.source = s ∧ rule.symbol? = symbol? := by
  rw [rulesFor_eq_filter, List.mem_filter, Rule.appliesTo_iff]

theorem mem_targets {table : RuleTable} {s t : State} {symbol? : Option Char} :
    t ∈ table.targets s symbol? ↔ ⟨s, symbol?, t⟩ ∈ table.toList := by
  rw [targets, List.mem_map]
  constructor
  · rintro ⟨rule, found, rfl⟩
    obtain ⟨member, rfl, rfl⟩ := mem_rulesFor.mp found
    exact member
  · intro member
    exact ⟨_, mem_rulesFor.mpr ⟨member, rfl, rfl⟩, rfl⟩

@[simp] theorem mem_move {table : RuleTable} {set : StateSet} {symbol? : Option Char} {t : State} :
    t ∈ table.move set symbol? ↔ ∃ s ∈ set, ⟨s, symbol?, t⟩ ∈ table.toList := by
  simp only [move, StateSet.mem_ofList, List.mem_flatMap, StateSet.mem_toList, mem_targets]

theorem mem_place {symbol other : Char} {list : List Char} :
    other ∈ alphabet.place symbol list ↔ other = symbol ∨ other ∈ list := by
  induction list with
  | nil => simp [alphabet.place]
  | cons first rest ih =>
    unfold alphabet.place
    split
    · simp
    · split
      next same => simp [same]
      next => simp only [List.mem_cons, ih, or_left_comm]

theorem mem_foldr_place {symbol : Char} {symbols : List Char} :
    symbol ∈ symbols.foldr alphabet.place [] ↔ symbol ∈ symbols := by
  induction symbols with
  | nil => rfl
  | cons first rest ih => rw [List.foldr_cons, mem_place, ih, List.mem_cons]

/-- The symbols that some rule reads. -/
theorem mem_alphabet {table : RuleTable} {symbol : Char} :
    symbol ∈ table.alphabet ↔ ∃ rule ∈ table.toList, rule.symbol? = some symbol := by
  rw [alphabet, mem_foldr_place, List.mem_filterMap]

theorem place_sorted {symbol : Char} {list : List Char} (sorted : list.Pairwise (· < ·)) :
    (alphabet.place symbol list).Pairwise (· < ·) := by
  induction list with
  | nil => exact List.pairwise_singleton _ _
  | cons first rest ih =>
    have ⟨least, others⟩ := List.pairwise_cons.mp sorted
    unfold alphabet.place
    split
    next before =>
      refine List.pairwise_cons.mpr ⟨fun other member => ?_, sorted⟩
      rcases List.mem_cons.mp member with rfl | member
      · exact before
      · exact Char.lt_trans before (least other member)
    next notBefore =>
      split
      · exact sorted
      next different =>
        have after : first < symbol := by
          by_cases after : first < symbol
          · exact after
          · exact absurd (Char.le_antisymm (Char.not_lt.mp after) (Char.not_lt.mp notBefore))
              different
        refine List.pairwise_cons.mpr ⟨fun other member => ?_, ih others⟩
        rcases mem_place.mp member with rfl | member
        · exact after
        · exact least other member

theorem foldr_place_sorted (symbols : List Char) :
    (symbols.foldr alphabet.place []).Pairwise (· < ·) := by
  induction symbols with
  | nil => exact .nil
  | cons first rest ih => exact place_sorted ih

/-- The alphabet is listed in increasing order. -/
theorem alphabet_sorted (table : RuleTable) : table.alphabet.Pairwise (· < ·) :=
  foldr_place_sorted _

theorem alphabet_nodup (table : RuleTable) : table.alphabet.Nodup :=
  (alphabet_sorted table).imp fun before => Char.ne_of_lt before

/-- Listed in increasing order, the same symbols give the same list. -/
theorem foldr_place_eq_of_mem_iff {left right : List Char}
    (same : ∀ symbol, symbol ∈ left ↔ symbol ∈ right) :
    left.foldr alphabet.place [] = right.foldr alphabet.place [] := by
  have nodup : ∀ symbols : List Char, (symbols.foldr alphabet.place []).Nodup := fun symbols =>
    (foldr_place_sorted symbols).imp fun before => Char.ne_of_lt before
  have perm : (left.foldr alphabet.place []).Perm (right.foldr alphabet.place []) :=
    (List.perm_ext_iff_of_nodup (nodup left) (nodup right)).mpr fun symbol => by
      rw [mem_foldr_place, mem_foldr_place, same]
  exact perm.eq_of_pairwise (fun _ _ _ _ before after => absurd after (Char.lt_asymm before))
    (foldr_place_sorted left) (foldr_place_sorted right)

/-- Tables whose rules read the same symbols have the same alphabet. -/
theorem alphabet_eq_of_mem_iff {left right : RuleTable}
    (same : ∀ symbol, symbol ∈ left.alphabet ↔ symbol ∈ right.alphabet) :
    left.alphabet = right.alphabet := by
  refine foldr_place_eq_of_mem_iff fun symbol => ?_
  exact mem_foldr_place.symm.trans ((same symbol).trans mem_foldr_place)

end RuleTable

/-- The keys of the index have the symbols that rules read. -/
theorem Dfa.alphabet_eq (dfa : Dfa) : dfa.alphabet = dfa.table.alphabet := by
  refine RuleTable.foldr_place_eq_of_mem_iff fun symbol => ?_
  simp only [List.mem_map, List.mem_filterMap, Std.HashMap.mem_keys, RuleIndex.mem_filed]
  constructor
  · rintro ⟨⟨s, _⟩, ⟨rule, listed, filed⟩, rfl⟩
    obtain ⟨own, reads, same⟩ := Option.map_eq_some_iff.mp filed
    cases same
    exact ⟨rule, listed, reads⟩
  · rintro ⟨rule, listed, reads⟩
    exact ⟨(rule.source, symbol), ⟨rule, listed, by rw [Rule.symbolKey?, reads]; rfl⟩, rfl⟩

end PatternAutomata
