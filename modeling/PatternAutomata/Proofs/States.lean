import PatternAutomata.Nfa.Determinize

/-!
# The states of an automaton

Where an automaton starts, where it accepts and what its rules connect. `allStates` has all of them,
`states` leaves out accept states that are neither the start nor on a rule.
-/
namespace PatternAutomata

theorem StateSet.nodup_toList (set : StateSet) : set.toList.Nodup := by
  refine set.sorted.imp fun {s t} before same => ?_
  subst same
  exact State.lt_irrefl s before

theorem RuleTable.mem_states {table : RuleTable} {s : State} :
    s ∈ table.states ↔ ∃ rule ∈ table.toList, s = rule.source ∨ s = rule.target := by
  simp only [states, StateSet.mem_ofList, List.mem_flatMap, List.mem_cons, List.not_mem_nil, or_false]

namespace Nfa

theorem mem_states {nfa : Nfa} {s : State} :
    s ∈ nfa.states ↔ s = nfa.start ∨ ∃ rule ∈ nfa.rules, s = rule.source ∨ s = rule.target := by
  rw [states, StateSet.mem_insert, RuleTable.mem_states, rules]

/-- The states on rules, the start state and the accept states. -/
def allStates (nfa : Nfa) : StateSet := nfa.states.union nfa.accept

theorem mem_allStates {nfa : Nfa} {s : State} :
    s ∈ nfa.allStates ↔ s = nfa.start ∨ s ∈ nfa.accept ∨
      ∃ rule ∈ nfa.rules, s = rule.source ∨ s = rule.target := by
  rw [allStates, StateSet.mem_union, mem_states, or_assoc, or_comm (b := s ∈ nfa.accept)]

theorem start_mem_allStates (nfa : Nfa) : nfa.start ∈ nfa.allStates :=
  mem_allStates.mpr (.inl rfl)

theorem accept_mem_allStates {nfa : Nfa} {s : State} (accepts : s ∈ nfa.accept) :
    s ∈ nfa.allStates :=
  mem_allStates.mpr (.inr (.inl accepts))

theorem source_mem_allStates {nfa : Nfa} {rule : Rule} (member : rule ∈ nfa.rules) :
    rule.source ∈ nfa.allStates :=
  mem_allStates.mpr (.inr (.inr ⟨rule, member, .inl rfl⟩))

theorem target_mem_allStates {nfa : Nfa} {rule : Rule} (member : rule ∈ nfa.rules) :
    rule.target ∈ nfa.allStates :=
  mem_allStates.mpr (.inr (.inr ⟨rule, member, .inr rfl⟩))

/-- An automaton has the states of a part whose rules it has, if it does not lose where the part
starts and accepts. -/
theorem allStates_of_part {part whole : Nfa} (start : part.start ∈ whole.allStates)
    (accept : ∀ s ∈ part.accept, s ∈ whole.allStates)
    (rules : ∀ rule ∈ part.rules, rule ∈ whole.rules) :
    ∀ s ∈ part.allStates, s ∈ whole.allStates := by
  intro s member
  rcases mem_allStates.mp member with rfl | accepts | ⟨rule, listed, rfl | rfl⟩
  · exact start
  · exact accept s accepts
  · exact source_mem_allStates (rules rule listed)
  · exact target_mem_allStates (rules rule listed)

end Nfa

namespace Dfa

/-- The start state and all states that rules mention. -/
def states (dfa : Dfa) : StateSet := dfa.table.states.insert dfa.start

theorem mem_states {dfa : Dfa} {s : State} :
    s ∈ dfa.states ↔ s = dfa.start ∨ ∃ rule ∈ dfa.rules, s = rule.source ∨ s = rule.target := by
  rw [states, StateSet.mem_insert, RuleTable.mem_states, rules]

/-- The states on rules, the start state and the accept states. -/
def allStates (dfa : Dfa) : StateSet := dfa.states.union dfa.accept

end Dfa

end PatternAutomata
