import PatternAutomata.Proofs.Determinize
import PatternAutomata.Proofs.Simulation

/-!
# Deterministic and nondeterministic runs agree

Rules that all read a symbol make a deterministic and a nondeterministic automaton. For as long as
the deterministic run can go on, the other run is in the same state and in no other
(`Follows.readText`); where no rule applies, the other run is in no state from then on
(`Follows.read_missing`). So an answer of the deterministic automaton is the answer of the other
one, and failing for want of a rule is a refusal (`ofRules_agrees`). Where several rules apply the
deterministic run fails too, and nothing is said of the other run.
-/
namespace PatternAutomata

/-- Without epsilon rules a walk that reads nothing stays where it is. -/
theorem Walk.eq_of_reads {rules : List Rule} (reads : ∀ rule ∈ rules, rule.isEpsilon = false)
    {s t : State} (walk : Walk rules s [] t) : t = s := by
  generalize spelled : [] = text at walk
  cases walk with
  | done => rfl
  | @step rule _ _ member _ =>
    obtain ⟨source, symbol?, target⟩ := rule
    cases symbol? with
    | none => cases reads _ member
    | some symbol => cases spelled

theorem RuleTable.closure_of_reads {table : RuleTable}
    (reads : ∀ rule ∈ table.toList, rule.isEpsilon = false) (set : StateSet) :
    table.closure set = set := by
  apply StateSet.ext
  intro t
  rw [mem_closure]
  constructor
  · rintro ⟨s, member, walk⟩
    rw [walk.eq_of_reads reads]
    exact member
  · intro member
    exact ⟨t, member, .done t⟩

namespace Dfa

variable {dfa : Dfa}

/-- The nondeterministic automaton with the same start, accept states and rules. -/
def toNfa (dfa : Dfa) : Nfa := .ofRules dfa.start dfa.accept dfa.rules

theorem table_toNfa (dfa : Dfa) : dfa.toNfa.table = dfa.table := RuleTable.ext rfl

theorem closure_toNfa (dfa : Dfa) (set : StateSet) : dfa.toNfa.table.closure set = set := by
  rw [table_toNfa]
  exact RuleTable.closure_of_reads dfa.reads set

/-! ### Making an automaton from rules -/

section OfRules

variable {start : State} {accept : StateSet} {rules : List Rule}

theorem ofRules_of_find?_eq_some {rule : Rule} (found : rules.find? (·.isEpsilon) = some rule) :
    ofRules start accept rules = .error (.epsilonRule rule.source) := by
  unfold ofRules
  split
  · next first found' =>
    rw [found] at found'
    cases found'
    rfl
  · next absent =>
    rw [found] at absent
    cases absent

theorem ofRules_of_find?_eq_none (start : State) (accept : StateSet)
    (absent : rules.find? (·.isEpsilon) = none) :
    ∃ dfa, ofRules start accept rules = .ok dfa ∧ dfa.toNfa = .ofRules start accept rules := by
  unfold ofRules
  split
  · next found =>
    rw [absent] at found
    cases found
  · exact ⟨_, rfl, rfl⟩

/-- Rules are refused if one of them is an epsilon rule, and the error names the first of those. -/
theorem ofRules_eq_error {error : Error} : ofRules start accept rules = .error error ↔
    ∃ front rule back, rules = front ++ rule :: back ∧
      (∀ earlier ∈ front, earlier.isEpsilon = false) ∧ rule.isEpsilon = true ∧
      error = .epsilonRule rule.source := by
  constructor
  · intro refused
    cases found : rules.find? (·.isEpsilon) with
    | none =>
      obtain ⟨dfa, made, _⟩ := ofRules_of_find?_eq_none start accept found
      rw [made] at refused
      cases refused
    | some rule =>
      rw [ofRules_of_find?_eq_some found] at refused
      cases refused
      obtain ⟨epsilon, front, back, rfl, before⟩ := List.find?_eq_some_iff_append.mp found
      refine ⟨front, rule, back, rfl, fun earlier member => ?_, epsilon, rfl⟩
      simpa using before earlier member
  · rintro ⟨front, rule, back, rfl, before, epsilon, rfl⟩
    apply ofRules_of_find?_eq_some
    refine List.find?_eq_some_iff_append.mpr ⟨epsilon, front, back, rfl, fun earlier member => ?_⟩
    rw [before earlier member]
    rfl

theorem toNfa_of_ofRules_eq_ok (made : ofRules start accept rules = .ok dfa) :
    dfa.toNfa = .ofRules start accept rules := by
  cases found : rules.find? (·.isEpsilon) with
  | none =>
    obtain ⟨same, made', parts⟩ := ofRules_of_find?_eq_none start accept found
    rw [made'] at made
    cases made
    exact parts
  | some rule =>
    rw [ofRules_of_find?_eq_some found] at made
    cases made

end OfRules

/-! ### Runs in lock step -/

/-- The rules that leave a state on a symbol, in the order of the table. -/
def candidates (dfa : Dfa) (s : State) (symbol : Char) : List Rule :=
  dfa.rules.filter (·.appliesTo s (some symbol))

/-- A symbol leads from one state to where the rules lead that leave the state on the symbol. -/
theorem mem_move_toNfa {s t : State} {symbol : Char} :
    t ∈ dfa.toNfa.table.move (.singleton s) (some symbol) ↔
      ∃ rule ∈ dfa.candidates s symbol, rule.target = t := by
  rw [RuleTable.mem_move, table_toNfa]
  simp only [StateSet.mem_singleton, exists_eq_left]
  constructor
  · intro member
    exact ⟨_, List.mem_filter.mpr ⟨member, Rule.appliesTo_iff.mpr ⟨rfl, rfl⟩⟩, rfl⟩
  · rintro ⟨⟨source, symbol?, target⟩, found, rfl⟩
    obtain ⟨member, applies⟩ := List.mem_filter.mp found
    obtain ⟨rfl, rfl⟩ := Rule.appliesTo_iff.mp applies
    exact member

namespace Run

variable {run next : Run} {symbol : Char}

theorem read_of_single {s : State} {rule : Rule} (only : dfa.candidates s symbol = [rule]) :
    (dfa.runAt s).read symbol = .ok (dfa.runAt rule.target) := by
  have found : dfa.table.rulesFor s (some symbol) = [rule] :=
    (RuleTable.rulesFor_eq_filter _ _ _).trans only
  simp only [read, nextState, ruleFor, runAt, found]
  rfl

theorem read_of_not_single {s : State} (several : (dfa.candidates s symbol).length ≠ 1) :
    (dfa.runAt s).read symbol =
      .error (.missingTransition s symbol (dfa.candidates s symbol).length) := by
  have found : dfa.table.rulesFor s (some symbol) = dfa.candidates s symbol :=
    RuleTable.rulesFor_eq_filter _ _ _
  unfold read nextState ruleFor runAt
  rw [found]
  split
  · next rule only => exact absurd (congrArg List.length only) several
  · rfl

/-- A run reads a symbol if just one rule applies, and goes where that rule leads. -/
theorem exists_candidate_of_read (ok : run.read symbol = .ok next) :
    ∃ rule, run.dfa.candidates run.state symbol = [rule] ∧ next = run.dfa.runAt rule.target := by
  by_cases single : (run.dfa.candidates run.state symbol).length = 1
  · obtain ⟨rule, only⟩ := List.length_eq_one_iff.mp single
    cases ok.symm.trans (read_of_single only)
    exact ⟨rule, only, rfl⟩
  · cases ok.symm.trans (read_of_not_single single)

theorem length_candidates_ne_one {error : Error} (failed : run.read symbol = .error error) :
    (run.dfa.candidates run.state symbol).length ≠ 1 := by
  intro single
  obtain ⟨rule, only⟩ := List.length_eq_one_iff.mp single
  cases failed.symm.trans (read_of_single only)

/-- A run that cannot read a symbol tells how many rules apply. -/
theorem error_eq_of_read {error : Error} (failed : run.read symbol = .error error) :
    error = .missingTransition run.state symbol
      (run.dfa.candidates run.state symbol).length := by
  cases failed.symm.trans (read_of_not_single (length_candidates_ne_one failed))
  rfl

/-- A run that goes on is a run of the same automaton. -/
theorem eq_runAt_of_readText {text : List Char} (reads : run.readText text = (next, none)) :
    next = run.dfa.runAt next.state := by
  induction text generalizing run with
  | nil =>
    cases reads
    rfl
  | cons first rest ih =>
    obtain ⟨middle, step, later⟩ := exists_read_of_readText reads
    obtain ⟨rule, _, rfl⟩ := exists_candidate_of_read step
    have same := ih later
    exact same

/-- A run that fails has read what is before some symbol and cannot read that symbol. -/
theorem readText_eq_error {text : List Char} {stopped : Run} {error : Error}
    (failed : run.readText text = (stopped, some error)) :
    ∃ front symbol back, text = front ++ symbol :: back ∧ run.readText front = (stopped, none) ∧
      stopped.read symbol = .error error := by
  induction text generalizing run with
  | nil => cases failed
  | cons first rest ih =>
    cases step : run.read first with
    | error error =>
      rw [readText_cons_error step] at failed
      cases failed
      exact ⟨[], first, rest, rfl, rfl, step⟩
    | ok next =>
      rw [readText_cons_ok step] at failed
      obtain ⟨front, symbol, back, rfl, reads, stops⟩ := ih failed
      refine ⟨first :: front, symbol, back, rfl, ?_, stops⟩
      rw [readText_cons_ok step, reads]

end Run

/-- The nondeterministic run has the rules of the deterministic one and is in no other state. -/
structure Follows (image : Nfa.Run) (run : Run) : Prop where
  nfa : image.nfa = run.dfa.toNfa
  frontier : image.frontier = .singleton run.state

namespace Follows

variable {image : Nfa.Run} {run next : Run} {symbol : Char} {text : List Char}

theorem start (dfa : Dfa) : Follows dfa.toNfa.run dfa.run := ⟨rfl, rfl⟩

theorem current (follows : Follows image run) : image.current = .singleton run.state := by
  rw [Nfa.Run.current, follows.nfa, closure_toNfa, follows.frontier]

/-- A symbol leads to where the rules lead that a deterministic run chooses from. -/
theorem mem_frontier_read (follows : Follows image run) {t : State} :
    t ∈ (image.read symbol).frontier ↔
      ∃ rule ∈ run.dfa.candidates run.state symbol, rule.target = t := by
  rw [Nfa.Run.read, follows.current, follows.nfa]
  exact mem_move_toNfa

theorem read (follows : Follows image run) (ok : run.read symbol = .ok next) :
    Follows (image.read symbol) next := by
  obtain ⟨rule, only, rfl⟩ := Run.exists_candidate_of_read ok
  refine ⟨follows.nfa, StateSet.ext fun t => ?_⟩
  -- both sides ask whether `t` is the one state the rule leads to
  rw [follows.mem_frontier_read, only, StateSet.mem_singleton]
  simp only [List.mem_singleton, exists_eq_left]
  exact eq_comm

theorem readText (follows : Follows image run) (ok : run.readText text = (next, none)) :
    Follows (image.readText text) next := by
  induction text generalizing image run with
  | nil =>
    cases ok
    exact follows
  | cons symbol rest ih =>
    obtain ⟨middle, step, later⟩ := Run.exists_read_of_readText ok
    exact ih (follows.read step) later

theorem isAccepting (follows : Follows image run) : image.isAccepting = run.isAccepting := by
  rw [Bool.eq_iff_iff, Nfa.Run.isAccepting, StateSet.meets_iff, follows.current, follows.nfa,
    Run.isAccepting, decide_eq_true_eq]
  simp only [StateSet.mem_singleton, exists_eq_left]
  rfl

/-- Where no rule applies the nondeterministic run comes to no state. -/
theorem read_missing (follows : Follows image run) {s : State} {c : Char}
    (failed : run.read symbol = .error (.missingTransition s c 0)) (t : State) :
    t ∉ (image.read symbol).frontier := by
  intro member
  obtain ⟨rule, applies, _⟩ := follows.mem_frontier_read.mp member
  have candidates := Run.error_eq_of_read failed
  simp only [Error.missingTransition.injEq] at candidates
  have nothing := List.length_eq_zero_iff.mp candidates.2.2.symm
  rw [nothing] at applies
  exact absurd applies List.not_mem_nil

end Follows

/-- A run that is in no state accepts nothing, whatever it reads. -/
theorem isAccepting_of_no_state {image : Nfa.Run} (dead : ∀ t, t ∉ image.frontier)
    (text : List Char) : (image.readText text).isAccepting = false := by
  apply Bool.eq_false_iff.mpr
  intro accepting
  obtain ⟨_, _, s, member, _⟩ := Nfa.Run.isAccepting_readText.mp accepting
  exact dead s member

/-! ### Answers -/

theorem readText_of_accepts_ok {text : List Char} {accepted : Bool}
    (answer : dfa.accepts text = .ok accepted) :
    ∃ last, dfa.run.readText text = (last, none) ∧ accepted = last.isAccepting := by
  unfold accepts at answer
  split at answer
  · next last reads =>
    cases answer
    exact ⟨last, reads, rfl⟩
  · cases answer

theorem readText_of_accepts_error {text : List Char} {error : Error}
    (failed : dfa.accepts text = .error error) :
    ∃ last, dfa.run.readText text = (last, some error) := by
  unfold accepts at failed
  split at failed
  · cases failed
  · next last found reads =>
    cases failed
    exact ⟨last, reads⟩

/-- What a deterministic automaton shows on a text holds of the nondeterministic one. -/
structure Agrees (dfa : Dfa) (nfa : Nfa) (text : List Char) : Prop where
  answer : ∀ accepted, dfa.accepts text = .ok accepted → nfa.accepts text = accepted
  /-- Where no rule applies, no text that goes on from there is accepted. -/
  refusal : ∀ state symbol, dfa.accepts text = .error (.missingTransition state symbol 0) →
    nfa.accepts text = false ∧
      ∃ front back, text = front ++ symbol :: back ∧
        dfa.run.readText front = (dfa.runAt state, none) ∧
        (dfa.runAt state).read symbol = .error (.missingTransition state symbol 0) ∧
        ∀ more, nfa.accepts (front ++ symbol :: more) = false
  current : ∀ front back run, text = front ++ back → dfa.run.readText front = (run, none) →
    (nfa.run.readText front).current = .singleton run.state

theorem accepts_toNfa {text : List Char} {accepted : Bool}
    (answer : dfa.accepts text = .ok accepted) : dfa.toNfa.accepts text = accepted := by
  obtain ⟨last, reads, rfl⟩ := readText_of_accepts_ok answer
  exact ((Follows.start dfa).readText reads).isAccepting

/-- A text is refused from the symbol on which no rule applies. -/
theorem accepts_toNfa_missing {run : Run} {front : List Char} {symbol c : Char} {s : State}
    (reads : dfa.run.readText front = (run, none))
    (failed : run.read symbol = .error (.missingTransition s c 0)) (more : List Char) :
    dfa.toNfa.accepts (front ++ symbol :: more) = false := by
  have follows := (Follows.start dfa).readText reads
  rw [Nfa.accepts, Nfa.Run.readText_append, Nfa.Run.readText_cons]
  exact isAccepting_of_no_state (follows.read_missing failed) more

theorem agrees_toNfa (dfa : Dfa) (text : List Char) : dfa.Agrees dfa.toNfa text where
  answer _ := accepts_toNfa
  refusal state symbol failed := by
    obtain ⟨last, stops⟩ := readText_of_accepts_error failed
    obtain ⟨front, first, back, rfl, reads, fails⟩ := Run.readText_eq_error stops
    have here : last = dfa.runAt last.state := Run.eq_runAt_of_readText reads
    -- the error names the state in which the run stopped and the symbol that it could not read
    have place := Run.error_eq_of_read fails
    simp only [Error.missingTransition.injEq] at place
    obtain ⟨rfl, rfl, _⟩ := place
    have refused := accepts_toNfa_missing reads fails
    rw [here] at reads fails
    exact ⟨refused back, front, back, rfl, reads, fails, refused⟩
  current _ _ _ _ reads := ((Follows.start dfa).readText reads).current

/-- Rules make a deterministic automaton if none of them is an epsilon rule, and else the first of
those is named. The automaton that they make agrees with the nondeterministic one on every text. -/
theorem ofRules_agrees (start : State) (accept : StateSet) (rules : List Rule) :
    ((∃ error, ofRules start accept rules = .error error) ↔
      ∃ rule ∈ rules, rule.isEpsilon = true) ∧
    (∀ error, ofRules start accept rules = .error error →
      ∃ front rule back, rules = front ++ rule :: back ∧
        (∀ earlier ∈ front, earlier.isEpsilon = false) ∧ rule.isEpsilon = true ∧
        error = .epsilonRule rule.source) ∧
    ∀ dfa, ofRules start accept rules = .ok dfa →
      dfa.start = start ∧ dfa.accept = accept ∧ dfa.rules = rules ∧
      ∀ text, dfa.Agrees (.ofRules start accept rules) text := by
  refine ⟨⟨?_, ?_⟩, fun error => ofRules_eq_error.mp, fun dfa made => ?_⟩
  · rintro ⟨error, refused⟩
    obtain ⟨_, rule, _, rfl, _, epsilon, _⟩ := ofRules_eq_error.mp refused
    exact ⟨rule, List.mem_append_right _ List.mem_cons_self, epsilon⟩
  · rintro ⟨rule, member, epsilon⟩
    have found : (rules.find? (·.isEpsilon)).isSome := List.find?_isSome.mpr ⟨rule, member, epsilon⟩
    obtain ⟨first, found⟩ := Option.isSome_iff_exists.mp found
    exact ⟨_, ofRules_of_find?_eq_some found⟩
  · have same := toNfa_of_ofRules_eq_ok made
    rw [← same]
    refine ⟨congrArg Nfa.start same, congrArg Nfa.accept same, ?_, agrees_toNfa dfa⟩
    exact congrArg Nfa.rules same

/-- Rules that read `a` and `b` in turn, and two that apply to `c` in one state. -/
def forked : List Rule :=
  [.reading (.labelled 1) 'a' (.labelled 2), .reading (.labelled 2) 'b' (.labelled 1),
    .reading (.labelled 1) 'c' (.labelled 1), .reading (.labelled 1) 'c' (.labelled 2)]

/-- The automaton of these rules, which accepts after `a`. -/
def forkedDfa : Dfa :=
  .ofReading (.labelled 1) (.singleton (.labelled 2)) forked (by decide)

theorem forked_agrees :
    (ofRules (.labelled 1) (.singleton (.labelled 2))
        (forked ++ [.epsilon (.labelled 2) (.labelled 1), .epsilon (.labelled 1) (.labelled 2)]) =
      .error (.epsilonRule (.labelled 2)) ∧
      ∃ front rule back,
        forked ++ [.epsilon (.labelled 2) (.labelled 1), .epsilon (.labelled 1) (.labelled 2)] =
          front ++ rule :: back ∧
        (∀ earlier ∈ front, earlier.isEpsilon = false) ∧ rule.isEpsilon = true ∧
        Error.epsilonRule (.labelled 2) = .epsilonRule rule.source) ∧
    ofRules (.labelled 1) (.singleton (.labelled 2)) forked = .ok forkedDfa ∧
    (forkedDfa.accepts ['a', 'b', 'a'] = .ok true ∧
      (Nfa.ofRules (.labelled 1) (.singleton (.labelled 2)) forked).accepts
        ['a', 'b', 'a'] = true) ∧
    (forkedDfa.accepts ['a', 'a', 'b'] = .error (.missingTransition (.labelled 2) 'a' 0) ∧
      (Nfa.ofRules (.labelled 1) (.singleton (.labelled 2)) forked).accepts
        ['a', 'a', 'b'] = false) ∧
    forkedDfa.run.readText ['a', 'b'] = (forkedDfa.runAt (.labelled 1), none) ∧
      ((Nfa.ofRules (.labelled 1) (.singleton (.labelled 2)) forked).run.readText
        ['a', 'b']).current = .singleton (.labelled 1) := by
  have refused : ofRules (.labelled 1) (.singleton (.labelled 2))
      (forked ++ [.epsilon (.labelled 2) (.labelled 1), .epsilon (.labelled 1) (.labelled 2)]) =
      .error (.epsilonRule (.labelled 2)) := rfl
  have made : ofRules (.labelled 1) (.singleton (.labelled 2)) forked = .ok forkedDfa := rfl
  obtain ⟨_, _, _, agrees⟩ := (ofRules_agrees _ _ _).2.2 forkedDfa made
  have only_a : forkedDfa.candidates (.labelled 1) 'a' =
      [.reading (.labelled 1) 'a' (.labelled 2)] := by decide
  have only_b : forkedDfa.candidates (.labelled 2) 'b' =
      [.reading (.labelled 2) 'b' (.labelled 1)] := by decide
  have none_a : (forkedDfa.candidates (.labelled 2) 'a').length ≠ 1 := by decide
  have a_leads : forkedDfa.run.read 'a' = .ok (forkedDfa.runAt (.labelled 2)) :=
    Run.read_of_single only_a
  have b_leads : (forkedDfa.runAt (.labelled 2)).read 'b' = .ok forkedDfa.run :=
    Run.read_of_single only_b
  have a_fails : (forkedDfa.runAt (.labelled 2)).read 'a' =
      .error (.missingTransition (.labelled 2) 'a' 0) := Run.read_of_not_single none_a
  have twice : forkedDfa.run.readText ['a', 'b'] = (forkedDfa.run, none) := by
    rw [Run.readText_cons_ok a_leads, Run.readText_cons_ok b_leads]
    rfl
  have thrice : forkedDfa.run.readText ['a', 'b', 'a'] = (forkedDfa.runAt (.labelled 2), none) := by
    rw [Run.readText_cons_ok a_leads, Run.readText_cons_ok b_leads, Run.readText_cons_ok a_leads]
    rfl
  have stops : forkedDfa.run.readText ['a', 'a', 'b'] = (forkedDfa.runAt (.labelled 2),
      some (.missingTransition (.labelled 2) 'a' 0)) := by
    rw [Run.readText_cons_ok a_leads, Run.readText_cons_error a_fails]
  have accepted : forkedDfa.accepts ['a', 'b', 'a'] = .ok true := accepts_eq_ok thrice
  have missing : forkedDfa.accepts ['a', 'a', 'b'] =
      .error (.missingTransition (.labelled 2) 'a' 0) := accepts_eq_error stops
  refine ⟨⟨refused, (ofRules_agrees _ _ _).2.1 _ refused⟩, made,
    ⟨accepted, (agrees _).answer true accepted⟩, ⟨missing, ((agrees _).refusal _ _ missing).1⟩,
    twice, ?_⟩
  exact (agrees ['a', 'b']).current ['a', 'b'] [] _ rfl twice

end Dfa

end PatternAutomata
