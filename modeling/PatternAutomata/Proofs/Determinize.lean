import PatternAutomata.Proofs.Construction
import PatternAutomata.Proofs.Walk

/-!
# Determinising is exact

While it reads symbols that rules know, the deterministic automaton is in the state that stands for
the states of the nondeterministic run (`readText_determinize`). The first symbol that no rule knows
makes it fail, and no text with such a symbol is accepted.
-/
namespace PatternAutomata

/-- Gathering from a list to which only one element contributes. -/
theorem flatMap_eq_of_others_nil {α β : Type} {list : List α} {f : α → List β} {a : α}
    (nodup : list.Nodup) (member : a ∈ list) (others : ∀ b ∈ list, b ≠ a → f b = []) :
    list.flatMap f = f a := by
  induction list with
  | nil => exact absurd member List.not_mem_nil
  | cons b rest ih =>
    have ⟨fresh, nodup⟩ := List.nodup_cons.mp nodup
    rw [List.flatMap_cons]
    by_cases same : b = a
    · subst same
      have none_left : rest.flatMap f = [] := by
        apply List.flatMap_eq_nil_iff.mpr
        intro c later
        have different : c ≠ b := fun same => fresh (same ▸ later)
        exact others c (List.mem_cons_of_mem _ later) different
      rw [none_left, List.append_nil]
    · have later : a ∈ rest := (List.mem_cons.mp member).resolve_left (Ne.symm same)
      rw [others b List.mem_cons_self same, List.nil_append]
      exact ih nodup later fun c inRest => others c (List.mem_cons_of_mem _ inRest)

namespace Nfa

/-- Some rule reads the symbol. -/
def Knows (nfa : Nfa) (symbol : Char) : Prop := ∃ rule ∈ nfa.rules, rule.symbol? = some symbol

instance (nfa : Nfa) (symbol : Char) : Decidable (nfa.Knows symbol) :=
  inferInstanceAs (Decidable (∃ rule ∈ nfa.rules, rule.symbol? = some symbol))

theorem mem_alphabet_iff_knows {nfa : Nfa} {symbol : Char} :
    symbol ∈ nfa.table.alphabet ↔ nfa.Knows symbol := RuleTable.mem_alphabet

section Subsets

variable {nfa : Nfa} {set : StateSet} {symbol : Char}

theorem nodup_subsets (nfa : Nfa) : nfa.subsets.Nodup :=
  List.nodup_reverse.mpr (Search.nodup_found_run _ _ _)

theorem mem_subsets_iff : set ∈ nfa.subsets ↔
    Search.Reachable (nfa.row nfa.table.alphabet) [nfa.initial] set := by
  rw [subsets, Search.inOrderFound, List.mem_reverse, subsetSearch, Search.mem_found_run]

theorem initial_mem_subsets (nfa : Nfa) : nfa.initial ∈ nfa.subsets :=
  mem_subsets_iff.mpr ⟨nfa.initial, List.mem_singleton.mpr rfl, .refl⟩

/-- The set after a known symbol is found too. -/
theorem after_mem_subsets (found : set ∈ nfa.subsets) (known : nfa.Knows symbol) :
    nfa.after set symbol ∈ nfa.subsets := by
  have next : nfa.after set symbol ∈ nfa.row nfa.table.alphabet set :=
    List.mem_map_of_mem (mem_alphabet_iff_knows.mpr known)
  exact mem_subsets_iff.mpr ((mem_subsets_iff.mp found).next next)

/-- The sets whose rules are listed are those that are found, each once. -/
theorem taken_perm_subsets (nfa : Nfa) :
    (nfa.subsetSearch nfa.table.alphabet).inOrderTaken.Perm nfa.subsets := by
  have perm := Search.visited_perm_found (nfa.row nfa.table.alphabet)
    (nfa.row_bounded nfa.table.alphabet) [nfa.initial]
  exact ((List.reverse_perm _).trans perm).trans (List.reverse_perm _).symm

/-- Different sets have different names. -/
theorem subsetName_inj {next : Nat} {other : StateSet} (found : set ∈ nfa.subsets) :
    nfa.subsetName next set = nfa.subsetName next other ↔ set = other := by
  constructor
  · intro same
    have same : next + nfa.subsets.idxOf set = next + nfa.subsets.idxOf other := by
      injection same
    exact (List.idxOf_inj found).mp (by omega)
  · intro same
    rw [same]

end Subsets

section Determinize

variable {nfa : Nfa} (next : Nat) {set : StateSet} {symbol : Char}

theorem start_determinize (nfa : Nfa) (next : Nat) :
    (nfa.determinize next).1.start = nfa.subsetName next nfa.initial := by
  rw [determinize_eq_bySearch]
  rfl

theorem toList_determinize (nfa : Nfa) (next : Nat) :
    (nfa.determinize next).1.table.toList =
      nfa.subsetRules nfa.table.alphabet (nfa.subsetName next)
        (nfa.subsetSearch nfa.table.alphabet).inOrderTaken := by
  rw [determinize_eq_bySearch]
  rfl

/-- Determinising takes one state from the supply for every set that is found. -/
theorem next_determinize (nfa : Nfa) (next : Nat) :
    (nfa.determinize next).2 = next + nfa.subsets.length := by
  rw [determinize_eq_bySearch]
  rfl

theorem accept_determinize (nfa : Nfa) (next : Nat) :
    (nfa.determinize next).1.accept =
      .ofList ((nfa.subsets.filter (·.meets nfa.accept)).map (nfa.subsetName next)) := by
  rw [determinize_eq_bySearch]
  rfl

/-- The state of a set accepts if the set holds an accept state. -/
theorem subsetName_mem_accept (found : set ∈ nfa.subsets) :
    nfa.subsetName next set ∈ (nfa.determinize next).1.accept ↔ set.meets nfa.accept = true := by
  rw [accept_determinize, StateSet.mem_ofList, List.mem_map]
  constructor
  · intro named
    obtain ⟨other, kept, same⟩ := named
    have same := (subsetName_inj found).mp same.symm
    rw [same]
    exact (List.mem_filter.mp kept).2
  · intro meets
    exact ⟨set, List.mem_filter.mpr ⟨found, meets⟩, rfl⟩

/-- The rules that leave the state of a set on a symbol: one, as often as the symbol is listed in the
alphabet, which is once or not at all. -/
theorem rulesFor_determinize (symbol : Char) (found : set ∈ nfa.subsets) :
    (nfa.determinize next).1.table.rulesFor (nfa.subsetName next set) (some symbol) =
      List.replicate (nfa.table.alphabet.count symbol) (nfa.subsetRule next set symbol) := by
  have taken := taken_perm_subsets nfa
  have listed : (nfa.table.alphabet.filter fun c => c == symbol) =
      List.replicate (nfa.table.alphabet.count symbol) symbol := List.filter_beq symbol
  rw [RuleTable.rulesFor_eq_filter, toList_determinize, subsetRules, List.filter_flatMap,
    flatMap_eq_of_others_nil (taken.nodup_iff.mpr nfa.nodup_subsets) (taken.mem_iff.mpr found)]
  · calc (nfa.table.alphabet.map (nfa.subsetRule next set)).filter
          (·.appliesTo (nfa.subsetName next set) (some symbol))
        = (nfa.table.alphabet.filter fun c => c == symbol).map (nfa.subsetRule next set) := by
          rw [List.filter_map]
          congr 1
          apply List.filter_congr
          intro c _
          apply Bool.eq_iff_iff.mpr
          simp [Rule.appliesTo, Rule.reading, subsetRule]
      _ = List.replicate (nfa.table.alphabet.count symbol) (nfa.subsetRule next set symbol) := by
          rw [listed, List.map_replicate]
  · intro other _ different
    apply List.filter_eq_nil_iff.mpr
    intro rule member applies
    obtain ⟨c, _, rfl⟩ := List.mem_map.mp member
    have same : nfa.subsetName next other = nfa.subsetName next set :=
      (Rule.appliesTo_iff.mp applies).1
    exact different ((subsetName_inj found).mp same.symm).symm

theorem rulesFor_determinize_of_knows (found : set ∈ nfa.subsets) (known : nfa.Knows symbol) :
    (nfa.determinize next).1.table.rulesFor (nfa.subsetName next set) (some symbol) =
      [nfa.subsetRule next set symbol] := by
  have once : nfa.table.alphabet.count symbol = 1 :=
    List.count_eq_one_of_mem nfa.table.alphabet_nodup (mem_alphabet_iff_knows.mpr known)
  rw [rulesFor_determinize next symbol found, once, List.replicate_one]

end Determinize

end Nfa

namespace Dfa.Run

theorem readText_cons_ok {run next : Run} {symbol : Char} (ok : run.read symbol = .ok next)
    (text : List Char) : run.readText (symbol :: text) = next.readText text := by
  rw [readText, ok]

theorem readText_cons_error {run : Run} {symbol : Char} {error : Error}
    (failed : run.read symbol = .error error) (text : List Char) :
    run.readText (symbol :: text) = (run, some error) := by
  rw [readText, failed]

/-- A run that gets through a text has read its first symbol. -/
theorem exists_read_of_readText {run next : Run} {symbol : Char} {rest : List Char}
    (reads : run.readText (symbol :: rest) = (next, none)) :
    ∃ middle, run.read symbol = .ok middle ∧ middle.readText rest = (next, none) := by
  cases step : run.read symbol with
  | error error =>
    rw [readText_cons_error step] at reads
    cases reads
  | ok middle =>
    rw [readText_cons_ok step] at reads
    exact ⟨middle, rfl, reads⟩

/-- Reading goes on after a text that has been read. -/
theorem readText_append_ok {run next : Run} {front : List Char}
    (ok : run.readText front = (next, none)) (back : List Char) :
    run.readText (front ++ back) = next.readText back := by
  induction front generalizing run with
  | nil =>
    have same : run = next := congrArg Prod.fst ok
    rw [List.nil_append, same]
  | cons symbol front ih =>
    obtain ⟨middle, step, later⟩ := exists_read_of_readText ok
    rw [List.cons_append, readText_cons_ok step, ih later]

end Dfa.Run

namespace Dfa

theorem accepts_eq_ok {dfa : Dfa} {text : List Char} {run : Run}
    (reads : dfa.run.readText text = (run, none)) : dfa.accepts text = .ok run.isAccepting := by
  rw [accepts, reads]

theorem accepts_eq_error {dfa : Dfa} {text : List Char} {run : Run} {error : Error}
    (fails : dfa.run.readText text = (run, some error)) : dfa.accepts text = .error error := by
  rw [accepts, fails]

end Dfa

namespace Nfa

section Run

variable {nfa : Nfa} (next : Nat)

theorem Run.current_read (run : Run) (symbol : Char) :
    (run.read symbol).current = run.nfa.after run.current symbol := rfl

theorem read_determinize {set : StateSet} (found : set ∈ nfa.subsets) {symbol : Char}
    (known : nfa.Knows symbol) :
    ((nfa.determinize next).1.runAt (nfa.subsetName next set)).read symbol =
      .ok ((nfa.determinize next).1.runAt (nfa.subsetName next (nfa.after set symbol))) := by
  simp only [Dfa.Run.read, Dfa.nextState, Dfa.ruleFor, Dfa.runAt,
    rulesFor_determinize_of_knows next found known]
  rfl

theorem read_determinize_unknown {set : StateSet} (found : set ∈ nfa.subsets) {symbol : Char}
    (unknown : ¬ nfa.Knows symbol) :
    ((nfa.determinize next).1.runAt (nfa.subsetName next set)).read symbol =
      .error (.missingTransition (nfa.subsetName next set) symbol 0) := by
  have never : nfa.table.alphabet.count symbol = 0 :=
    List.count_eq_zero.mpr fun member => unknown (mem_alphabet_iff_knows.mp member)
  have found := rulesFor_determinize next symbol found
  rw [never, List.replicate_zero] at found
  simp only [Dfa.Run.read, Dfa.nextState, Dfa.ruleFor, Dfa.runAt, found]
  rfl

/-- While the symbols are known, the deterministic run is in the state that stands for the states of
the nondeterministic run. -/
theorem readText_determinize {run : Run} (same : run.nfa = nfa) (found : run.current ∈ nfa.subsets)
    {text : List Char} (known : ∀ symbol ∈ text, nfa.Knows symbol) :
    (run.readText text).current ∈ nfa.subsets ∧
      ((nfa.determinize next).1.runAt (nfa.subsetName next run.current)).readText text =
        ((nfa.determinize next).1.runAt (nfa.subsetName next (run.readText text).current), none) := by
  induction text generalizing run with
  | nil => exact ⟨found, rfl⟩
  | cons symbol text ih =>
    have first := known symbol List.mem_cons_self
    have moved : (run.read symbol).current = nfa.after run.current symbol := by
      rw [Run.current_read, same]
    have next_found : (run.read symbol).current ∈ nfa.subsets := by
      rw [moved]
      exact after_mem_subsets found first
    have rest := ih ((run.nfa_read symbol).trans same) next_found
      fun symbol member => known symbol (List.mem_cons_of_mem _ member)
    rw [Dfa.Run.readText_cons_ok (read_determinize next found first), ← moved]
    exact rest

/-- The same from the start states. -/
theorem run_determinize {text : List Char} (known : ∀ symbol ∈ text, nfa.Knows symbol) :
    (nfa.run.readText text).current ∈ nfa.subsets ∧
      (nfa.determinize next).1.run.readText text =
        ((nfa.determinize next).1.runAt (nfa.subsetName next (nfa.run.readText text).current),
          none) := by
  have begin : (nfa.determinize next).1.run =
      (nfa.determinize next).1.runAt (nfa.subsetName next nfa.run.current) := by
    rw [Dfa.run, start_determinize]
    rfl
  have same : nfa.run.nfa = nfa := rfl
  have found : nfa.run.current ∈ nfa.subsets := nfa.initial_mem_subsets
  rw [begin]
  exact readText_determinize next same found known

theorem accepts_determinize {text : List Char} (known : ∀ symbol ∈ text, nfa.Knows symbol) :
    (nfa.determinize next).1.accepts text = .ok (nfa.accepts text) := by
  obtain ⟨found, reads⟩ := run_determinize next known
  have same : ((nfa.determinize next).1.runAt
      (nfa.subsetName next (nfa.run.readText text).current)).isAccepting = nfa.accepts text := by
    apply Bool.eq_iff_iff.mpr
    rw [Dfa.Run.isAccepting, decide_eq_true_eq, accepts, Run.isAccepting, Run.nfa_readText]
    exact subsetName_mem_accept next found
  rw [Dfa.accepts_eq_ok reads, same]

/-- No text with a symbol that no rule reads is accepted. -/
theorem accepts_eq_false_of_not_knows {text : List Char} {symbol : Char} (member : symbol ∈ text)
    (unknown : ¬ nfa.Knows symbol) : nfa.accepts text = false := by
  apply Bool.eq_false_iff.mpr
  intro accepted
  obtain ⟨_, _, walk⟩ := accepts_iff_walk.mp accepted
  exact unknown (walk.symbol_mem symbol member)

theorem accepts_determinize_unknown {front back : List Char} {symbol : Char}
    (known : ∀ symbol ∈ front, nfa.Knows symbol) (unknown : ¬ nfa.Knows symbol) :
    (nfa.determinize next).1.accepts (front ++ symbol :: back) =
      .error (.missingTransition (nfa.subsetName next (nfa.run.readText front).current) symbol 0) := by
  obtain ⟨found, reads⟩ := run_determinize next known
  have fails := Dfa.Run.readText_cons_error (read_determinize_unknown next found unknown) back
  rw [← Dfa.Run.readText_append_ok reads] at fails
  exact Dfa.accepts_eq_error fails

/-- A text that is not known throughout has a first symbol that is unknown. -/
theorem exists_first_unknown {text : List Char} (some_unknown : ¬ ∀ symbol ∈ text, nfa.Knows symbol) :
    ∃ front symbol back, text = front ++ symbol :: back ∧
      (∀ symbol ∈ front, nfa.Knows symbol) ∧ ¬ nfa.Knows symbol := by
  induction text with
  | nil => exact absurd (fun _ absent => absurd absent List.not_mem_nil) some_unknown
  | cons first rest ih =>
    by_cases known : nfa.Knows first
    · have later : ¬ ∀ symbol ∈ rest, nfa.Knows symbol := by
        intro all
        apply some_unknown
        intro symbol member
        rcases List.mem_cons.mp member with rfl | member
        · exact known
        · exact all symbol member
      obtain ⟨front, symbol, back, rfl, before, unknown⟩ := ih later
      refine ⟨first :: front, symbol, back, rfl, fun symbol member => ?_, unknown⟩
      rcases List.mem_cons.mp member with rfl | member
      · exact known
      · exact before symbol member
    · exact ⟨[], first, rest, rfl, by simp, known⟩

/-- The deterministic automaton answers as the nondeterministic one on every text whose symbols are
all read by rules. On any other text it fails at the first symbol that no rule reads, in the state
that the text before it leads to, and the nondeterministic one does not accept. -/
theorem determinize_accepts_iff (nfa : Nfa) (next : Nat) (text : List Char) :
    ((∀ symbol ∈ text, nfa.Knows symbol) →
      (nfa.determinize next).1.accepts text = .ok (nfa.accepts text)) ∧
    ((¬ ∀ symbol ∈ text, nfa.Knows symbol) →
      ∃ front symbol back state, text = front ++ symbol :: back ∧
        (∀ symbol ∈ front, nfa.Knows symbol) ∧ ¬ nfa.Knows symbol ∧
        (nfa.determinize next).1.run.readText front =
          ((nfa.determinize next).1.runAt state, none) ∧
        (nfa.determinize next).1.accepts text = .error (.missingTransition state symbol 0) ∧
        nfa.accepts text = false) := by
  constructor
  · intro known
    exact accepts_determinize next known
  · intro some_unknown
    obtain ⟨front, symbol, back, rfl, known, unknown⟩ := exists_first_unknown some_unknown
    refine ⟨front, symbol, back, _, rfl, known, unknown, (run_determinize next known).2, ?_, ?_⟩
    · exact accepts_determinize_unknown next known unknown
    · have member : symbol ∈ front ++ symbol :: back := by simp
      exact accepts_eq_false_of_not_knows member unknown

/-- Two states that epsilon rules lead to from each other, and a rule that is listed twice. -/
def cyclic : Nfa :=
  .ofRules (.labelled 1) (.singleton (.labelled 3))
    [.epsilon (.labelled 1) (.labelled 2), .epsilon (.labelled 2) (.labelled 1),
      .reading (.labelled 2) 'a' (.labelled 3), .reading (.labelled 2) 'a' (.labelled 3)]

theorem cyclic_determinize_accepts :
    ((∀ symbol ∈ ['a'], cyclic.Knows symbol) ∧ cyclic.accepts ['a'] = true ∧
      (cyclic.determinize 5).1.accepts ['a'] = .ok (cyclic.accepts ['a'])) ∧
    (¬ ∀ symbol ∈ ['a', 'z', 'a'], cyclic.Knows symbol) ∧
      ∃ front symbol back state, ['a', 'z', 'a'] = front ++ symbol :: back ∧
        (∀ symbol ∈ front, cyclic.Knows symbol) ∧ ¬ cyclic.Knows symbol ∧
        (cyclic.determinize 5).1.run.readText front =
          ((cyclic.determinize 5).1.runAt state, none) ∧
        (cyclic.determinize 5).1.accepts ['a', 'z', 'a'] =
          .error (.missingTransition state symbol 0) ∧
        cyclic.accepts ['a', 'z', 'a'] = false := by
  have known : ∀ symbol ∈ ['a'], cyclic.Knows symbol := by
    intro symbol member
    rw [List.mem_singleton.mp member]
    decide
  have unknown : ¬ ∀ symbol ∈ ['a', 'z', 'a'], cyclic.Knows symbol := by
    intro all
    exact absurd (all 'z' (by simp)) (by decide)
  have walk : Walk cyclic.rules cyclic.start ['a'] (.labelled 3) :=
    .free (t := .labelled 2) (by decide) (.reading (by decide) (.done _))
  refine ⟨⟨known, accepts_iff_walk.mpr ⟨.labelled 3, by decide, walk⟩, ?_⟩, unknown, ?_⟩
  · exact (determinize_accepts_iff cyclic 5 ['a']).1 known
  · exact (determinize_accepts_iff cyclic 5 ['a', 'z', 'a']).2 unknown

end Run

end Nfa

end PatternAutomata
