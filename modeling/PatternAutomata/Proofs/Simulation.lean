import PatternAutomata.Proofs.Walk

/-!
# Simulation is walk search

A run may be fed by single symbols and by texts, in any mixture. However the calls divide a text, the
states that the run may be in are those that walks spelling the text lead to
(`perform_simulates_walks`), from any set of states and through any rules.
-/
namespace PatternAutomata.Nfa.Run

/-- One way of feeding a run. -/
inductive Call where
  | read (symbol : Char)
  | readText (text : List Char)

/-- The symbols that a call reads. -/
def Call.spelled : Call → List Char
  | read symbol => [symbol]
  | readText text => text

def call (run : Run) : Call → Run
  | .read symbol => run.read symbol
  | .readText text => run.readText text

/-- Makes calls one after the other. -/
def perform (run : Run) (calls : List Call) : Run := calls.foldl call run

theorem readText_append (run : Run) (front back : List Char) :
    run.readText (front ++ back) = (run.readText front).readText back := by
  rw [readText, List.foldl_append]
  rfl

theorem call_eq_readText (run : Run) (next : Call) :
    run.call next = run.readText next.spelled := by
  cases next with
  | read symbol => rfl
  | readText text => rfl

/-- Only the symbols that calls read matter, and not how the calls divide them. -/
theorem perform_eq_readText (run : Run) (calls : List Call) :
    run.perform calls = run.readText (calls.flatMap Call.spelled) := by
  induction calls generalizing run with
  | nil => rfl
  | cons next rest ih =>
    have step : run.perform (next :: rest) = (run.call next).perform rest := rfl
    rw [step, ih, call_eq_readText, List.flatMap_cons, readText_append]

/-- After any calls a run that began in some states is in exactly the states that walks lead to from
there, spelling what the calls have read, and it accepts if one of them is an accept state. So an
automaton accepts the texts of the walks from its start to an accept state. -/
theorem perform_simulates_walks (nfa : Nfa) (states : StateSet) (calls : List Call) :
    (∀ t, t ∈ ((nfa.runAt states).perform calls).current ↔
      ∃ s ∈ states, Walk nfa.rules s (calls.flatMap Call.spelled) t) ∧
    (((nfa.runAt states).perform calls).isAccepting = true ↔
      ∃ t ∈ nfa.accept, ∃ s ∈ states, Walk nfa.rules s (calls.flatMap Call.spelled) t) ∧
    ∀ text, nfa.accepts text = true ↔
      ∃ t ∈ nfa.accept, Walk nfa.rules nfa.start text t := by
  rw [perform_eq_readText]
  refine ⟨fun t => ?_, ?_, fun text => ?_⟩
  · exact mem_current_readText
  · exact isAccepting_readText
  · exact accepts_iff_walk

end PatternAutomata.Nfa.Run
