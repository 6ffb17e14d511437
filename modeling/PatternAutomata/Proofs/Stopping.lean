import PatternAutomata.Proofs.Agreement

/-!
# Where a deterministic run stops

A run goes on for as long as exactly one rule leaves its state on the next symbol. `Forced` says this
of the rules alone, without a run; a run gets through exactly the forced texts
(`readText_eq_none_iff`). On any text it therefore stops after the longest beginning that is forced,
in the state there, and its error counts the rules that leave this state on the next symbol
(`readText_stops`). Nothing depends on how the text is divided into pieces (`readTexts_eq_readText`).
-/
namespace PatternAutomata.Dfa

/-- On the way from one state to another, exactly one rule leaves each state on the symbol of the text
that is next there. -/
inductive Forced (dfa : Dfa) : State → List Char → State → Prop
  | done (s : State) : Forced dfa s [] s
  | step {s t : State} {symbol : Char} {rule : Rule} {rest : List Char}
      (only : dfa.candidates s symbol = [rule]) (later : Forced dfa rule.target rest t) :
      Forced dfa s (symbol :: rest) t

namespace Run

/-- Reads texts one after the other, until reading one of them fails. -/
def readTexts (run : Run) : List (List Char) → Run × Option Error
  | [] => (run, none)
  | text :: rest =>
    match run.readText text with
    | (run, none) => run.readTexts rest
    | (run, some error) => (run, some error)

/-- What follows the symbol that a run cannot read is never looked at. -/
theorem readText_append_error {run stopped : Run} {front : List Char} {error : Error}
    (failed : run.readText front = (stopped, some error)) (back : List Char) :
    run.readText (front ++ back) = (stopped, some error) := by
  obtain ⟨before, symbol, after, rfl, reads, stops⟩ := readText_eq_error failed
  rw [List.append_assoc, List.cons_append, readText_append_ok reads, readText_cons_error stops]

theorem readTexts_eq_readText (run : Run) (pieces : List (List Char)) :
    run.readTexts pieces = run.readText pieces.flatten := by
  induction pieces generalizing run with
  | nil => rfl
  | cons text rest ih =>
    rw [List.flatten_cons]
    cases result : run.readText text with
    | mk next error? =>
      cases error? with
      | none => simp only [readTexts, result, ih, readText_append_ok result]
      | some error => simp only [readTexts, result, readText_append_error result]

end Run

variable {dfa : Dfa} {s t : State} {text : List Char}

theorem Forced.readText (forced : dfa.Forced s text t) :
    (dfa.runAt s).readText text = (dfa.runAt t, none) := by
  induction forced with
  | done s => rfl
  | step only _ ih => rw [Run.readText_cons_ok (Run.read_of_single only), ih]

/-- A run gets through a text exactly if the text is forced, and then it is where the rules lead. -/
theorem readText_eq_none_iff :
    (dfa.runAt s).readText text = (dfa.runAt t, none) ↔ dfa.Forced s text t := by
  constructor
  · intro reads
    induction text generalizing s with
    | nil =>
      injection reads with same
      injection same with _ same
      subst same
      exact .done s
    | cons symbol rest ih =>
      obtain ⟨middle, step, later⟩ := Run.exists_read_of_readText reads
      obtain ⟨rule, only, rfl⟩ := Run.exists_candidate_of_read step
      exact .step only (ih later)
  · exact Forced.readText

/-- Where the number of rules is not one, no longer text is forced. -/
theorem prefix_of_forced {front back other : List Char} {symbol : Char} {u : State}
    (forced : dfa.Forced s front t)
    (several : (dfa.candidates t symbol).length ≠ 1)
    (begins : other <+: front ++ symbol :: back) (alsoForced : dfa.Forced s other u) :
    other <+: front := by
  rcases List.prefix_or_prefix_of_prefix begins (List.prefix_append front _) with shorter | longer
  · exact shorter
  · obtain ⟨more, rfl⟩ := longer
    cases more with
    | nil => exact (List.append_nil front).symm ▸ List.prefix_refl front
    | cons next more =>
      -- the run that gets through `other` would have to read the symbol in `t`
      obtain ⟨rfl, _⟩ := List.cons_prefix_cons.mp ((List.prefix_append_right_inj front).mp begins)
      have reads := alsoForced.readText
      rw [Run.readText_append_ok forced.readText,
        Run.readText_cons_error (Run.read_of_not_single several)] at reads
      cases reads

/-- A run reads the longest beginning of a text that is forced and stops in the state there. It fails
unless this is the whole text, and the error names that state, the symbol after this beginning and the
number of rules that leave the state on the symbol, which is not one. Reading the text in pieces gives
the same. -/
theorem readText_stops (dfa : Dfa) (s : State) (text : List Char) :
    ∃ front back t result, text = front ++ back ∧ dfa.Forced s front t ∧
      (∀ other u, other <+: text → dfa.Forced s other u → other <+: front) ∧
      (dfa.runAt s).readText text = (dfa.runAt t, result) ∧
      (result = none ↔ front = text) ∧
      (∀ symbol rest, back = symbol :: rest →
        result = some (.missingTransition t symbol (dfa.candidates t symbol).length) ∧
          ((dfa.candidates t symbol).length = 0 ∨ 2 ≤ (dfa.candidates t symbol).length)) ∧
      ∀ pieces : List (List Char), pieces.flatten = text →
        (dfa.runAt s).readTexts pieces = (dfa.runAt t, result) := by
  cases result : (dfa.runAt s).readText text with
  | mk stopped error? =>
    have pieces_alike : ∀ pieces : List (List Char), pieces.flatten = text →
        (dfa.runAt s).readTexts pieces = (stopped, error?) := by
      rintro pieces rfl
      rw [Run.readTexts_eq_readText, result]
    cases error? with
    | none =>
      obtain ⟨t, rfl⟩ : ∃ t, stopped = dfa.runAt t := ⟨_, Run.eq_runAt_of_readText result⟩
      have forced := readText_eq_none_iff.mp result
      exact ⟨text, [], t, none, (List.append_nil text).symm, forced, fun _ _ begins _ => begins,
        rfl, by simp, by simp, pieces_alike⟩
    | some error =>
      obtain ⟨front, symbol, back, rfl, reads, fails⟩ := Run.readText_eq_error result
      obtain ⟨t, rfl⟩ : ∃ t, stopped = dfa.runAt t := ⟨_, Run.eq_runAt_of_readText reads⟩
      have forced := readText_eq_none_iff.mp reads
      have several : (dfa.candidates t symbol).length ≠ 1 := Run.length_candidates_ne_one fails
      have counted := Run.error_eq_of_read fails
      refine ⟨front, symbol :: back, t, some error, rfl, forced,
        fun other u => prefix_of_forced forced several, rfl, by simp, ?_, pieces_alike⟩
      intro next rest same
      cases same
      refine ⟨congrArg some counted, ?_⟩
      omega

/-- Rules that read `a` and `b` in turn, and one on `c` that is listed twice. -/
def doubled : Dfa :=
  .ofReading (.labelled 1) .empty
    [.reading (.labelled 1) 'a' (.labelled 2), .reading (.labelled 2) 'b' (.labelled 1),
      .reading (.labelled 1) 'c' (.labelled 2), .reading (.labelled 1) 'c' (.labelled 2)]
    (by decide)

theorem doubled_stops :
    [['a'], ['b', 'c'], ['b']].flatten = ['a', 'b', 'c', 'b'] ∧
      (doubled.runAt (.labelled 1)).readTexts [['a'], ['b', 'c'], ['b']] =
        (doubled.runAt (.labelled 1), some (.missingTransition (.labelled 1) 'c' 2)) := by
  have only_a : doubled.candidates (.labelled 1) 'a' =
      [.reading (.labelled 1) 'a' (.labelled 2)] := by decide
  have only_b : doubled.candidates (.labelled 2) 'b' =
      [.reading (.labelled 2) 'b' (.labelled 1)] := by decide
  have twice_c : (doubled.candidates (.labelled 1) 'c').length ≠ 1 := by decide
  have stops : (doubled.runAt (.labelled 1)).readText ['a', 'b', 'c', 'b'] =
      (doubled.runAt (.labelled 1), some (.missingTransition (.labelled 1) 'c' 2)) := by
    have forced : doubled.Forced (.labelled 1) ['a', 'b'] (.labelled 1) :=
      .step only_a (.step only_b (.done _))
    exact (Run.readText_append_ok forced.readText ['c', 'b']).trans
      (Run.readText_cons_error (Run.read_of_not_single twice_c) _)
  obtain ⟨_, _, _, _, _, _, _, whole, _, _, pieces_alike⟩ :=
    readText_stops doubled (.labelled 1) ['a', 'b', 'c', 'b']
  refine ⟨rfl, ?_⟩
  rw [pieces_alike _ rfl, ← whole]
  exact stops

end PatternAutomata.Dfa
