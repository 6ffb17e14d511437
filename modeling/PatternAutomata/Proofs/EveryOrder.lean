import PatternAutomata.Proofs.AnyOrder
import PatternAutomata.Proofs.Trim

/-!
# What holds in every order

Compiling a pattern in another order only lists the rules of its automaton in another order
(`Pattern.Compiles.reordered`). So in every order the automaton accepts the texts that the pattern
stands for (`accepts_iff_denotes`), is trim (`isTrim`), and has exactly the states that are taken from
the supply (`mem_allStates_iff`). Operations that take states then introduce the same states in every
order, one operation after the other (`Course.introduced_eq`).
-/
namespace PatternAutomata

namespace Fragment.Reordered

variable {left right : Fragment}

theorem mem_rules (same : left.Reordered right) {rule : Rule} :
    rule ∈ left.rules ↔ rule ∈ right.rules := same.rules.perm.mem_iff

theorem leads_iff (same : left.Reordered right) {s t : State} :
    Leads left.rules s t ↔ Leads right.rules s t :=
  ⟨Leads.mono fun _ => same.mem_rules.mp, Leads.mono fun _ => same.mem_rules.mpr⟩

theorem reads_iff (same : left.Reordered right) {text : List Char} :
    left.Reads text ↔ right.Reads text := by
  have walks : ∀ {s t}, Walk left.rules s text t ↔ Walk right.rules s text t :=
    ⟨Walk.mono fun _ => same.mem_rules.mp, Walk.mono fun _ => same.mem_rules.mpr⟩
  simp only [Reads, same.start, same.accept, walks]

theorem isTrim (same : left.Reordered right) (trim : right.toNfa.IsTrim) : left.toNfa.IsTrim := by
  have start : left.toNfa.start = right.toNfa.start := same.start
  have accept : left.toNfa.accept = right.toNfa.accept := same.accept
  have leads : ∀ {s t}, Leads left.toNfa.rules s t ↔ Leads right.toNfa.rules s t := same.leads_iff
  constructor
  case entry =>
    intro rule listed
    rw [start]
    exact trim.entry rule (same.mem_rules.mp listed)
  case nodup => exact same.rules.perm.nodup_iff.mpr trim.nodup
  case accepts =>
    rw [accept]
    exact trim.accepts
  case reached =>
    intro s member
    rw [start, leads]
    exact trim.reached s (same.mem_allStates.mp member)
  case finishes =>
    intro s member
    simp only [accept, leads]
    exact trim.finishes s (same.mem_allStates.mp member)

end Fragment.Reordered

namespace Pattern.Compiles

variable {pattern : Pattern} {next after : Nat} {fragment : Fragment}

/-- In every order the automaton accepts exactly the texts that the pattern stands for. -/
theorem accepts_iff_denotes (compiles : pattern.Compiles next fragment after) (text : List Char) :
    fragment.toNfa.accepts text = true ↔ pattern.Denotes text := by
  obtain ⟨same, _⟩ := compiles.reordered
  exact Nfa.accepts_iff_walk.trans (same.reads_iff.trans (reads_fragment pattern next text))

/-- In every order the automaton is trim, and its alphabet lists the symbols of the literals. -/
theorem isTrim (compiles : pattern.Compiles next fragment after) :
    fragment.toNfa.IsTrim ∧ fragment.toNfa.table.alphabet.Pairwise (· < ·) ∧
      ∀ symbol, symbol ∈ fragment.toNfa.table.alphabet ↔ symbol ∈ pattern.literals := by
  obtain ⟨same, _⟩ := compiles.reordered
  refine ⟨same.isTrim (trim_fragment pattern next).isTrim, RuleTable.alphabet_sorted _,
    fun symbol => ?_⟩
  rw [← reads_symbol_iff pattern next symbol]
  simp only [← same.mem_rules]
  exact RuleTable.mem_alphabet

/-- In every order the states are the same, and as many are taken from the supply. -/
theorem allStates_eq (compiles : pattern.Compiles next fragment after) :
    fragment.toNfa.allStates = (pattern.compile next).1.allStates ∧
      after = (pattern.compile next).2 := by
  obtain ⟨same, rfl⟩ := compiles.reordered
  exact ⟨StateSet.ext fun _ => same.mem_allStates, rfl⟩

/-- In every order compiling takes as many states as the pattern has, and uses each of them. -/
theorem mem_allStates_iff (compiles : pattern.Compiles next fragment after) :
    after = next + pattern.stateCount ∧
      ∀ s, s ∈ fragment.toNfa.allStates ↔ s.IsFreshIn next after := by
  obtain ⟨same, rfl⟩ := compiles.allStates_eq
  rw [same]
  exact ⟨next_fragment pattern next, fun s => mem_allStates_compile⟩

end Pattern.Compiles

namespace Operation

/-- An operation begun with the supply at `next` may introduce the states of a set and leave the supply
at `after`, if what it compiles is compiled in any order. -/
inductive Introduces : Operation → (next : Nat) → StateSet → (after : Nat) → Prop
  | fresh {next after : Nat} {s : State} (new : State.take next = (s, after)) :
      Introduces .fresh next (.singleton s) after
  | compile {pattern : Pattern} {next after : Nat} {fragment : Fragment}
      (compiles : pattern.Compiles next fragment after) :
      Introduces (.compile pattern) next fragment.toNfa.allStates after
  | matching {pattern : Pattern} {next after : Nat} {fragment : Fragment} (text : List Char)
      (compiles : pattern.Compiles next fragment after) :
      Introduces (.matching pattern text) next fragment.toNfa.allStates after
  | determinize {nfa : Nfa} {next after : Nat} {dfa : Dfa}
      (made : nfa.determinize next = (dfa, after)) :
      Introduces (.determinize nfa) next dfa.allStates after

variable {operation : Operation} {next after : Nat} {introduced : StateSet}

/-- Every operation can be done, with accept states in increasing order. -/
theorem introduces_introduced (operation : Operation) (next : Nat) :
    operation.Introduces next (operation.introduced next) (operation.after next) := by
  cases operation with
  | fresh => exact .fresh rfl
  | compile pattern => exact .compile (pattern.compiles_fragment next)
  | matching pattern text => exact .matching text (pattern.compiles_fragment next)
  | determinize nfa => exact .determinize rfl

/-- The order makes no difference to the states. -/
theorem Introduces.eq_introduced (introduces : operation.Introduces next introduced after) :
    introduced = operation.introduced next ∧ after = operation.after next := by
  cases introduces with
  | fresh new =>
    cases new
    exact ⟨rfl, rfl⟩
  | compile compiles => exact compiles.allStates_eq
  | matching text compiles => exact compiles.allStates_eq
  | determinize made =>
    rw [Operation.introduced, Operation.after, made]
    exact ⟨rfl, rfl⟩

/-- Operations one after the other, each in any order, with what each of them introduces. -/
inductive Course : List Operation → (next : Nat) → List StateSet → (last : Nat) → Prop
  | nil (next : Nat) : Course [] next [] next
  | cons {operation : Operation} {rest : List Operation} {next after last : Nat}
      {introduced : StateSet} {later : List StateSet}
      (first : operation.Introduces next introduced after) (others : Course rest after later last) :
      Course (operation :: rest) next (introduced :: later) last

variable {operations : List Operation} {sets : List StateSet} {last : Nat}

theorem Course.introduced_eq (course : Course operations next sets last) :
    sets = (steps operations next).map Step.introduced := by
  induction course with
  | nil => rfl
  | cons first _ ih =>
    obtain ⟨rfl, rfl⟩ := first.eq_introduced
    exact congrArg _ ih

/-- In every order all that is introduced lies where the supply has been taken from. -/
theorem Course.isFreshIn (course : Course operations next sets last) :
    next ≤ last ∧ ∀ set ∈ sets, ∀ s ∈ set, s.IsFreshIn next last := by
  induction course with
  | nil next => exact ⟨Nat.le_refl next, fun _ absent => absurd absent List.not_mem_nil⟩
  | @cons operation rest next after last introduced later first _ ih =>
    obtain ⟨rfl, rfl⟩ := first.eq_introduced
    obtain ⟨forward, inside⟩ := ih
    have start : next ≤ operation.after next := by
      rw [after_eq_add_cost]
      exact Nat.le_add_right _ _
    refine ⟨Nat.le_trans start forward, fun set listed s member => ?_⟩
    rcases List.mem_cons.mp listed with rfl | listed
    · exact (mem_introduced.mp member).mono (Nat.le_refl _) forward
    · exact (inside set listed s member).mono start (Nat.le_refl _)

/-- In every order no state is introduced twice. -/
theorem Course.pairwise (course : Course operations next sets last) :
    sets.Pairwise fun earlier later => ∀ s ∈ earlier, s ∉ later := by
  rw [course.introduced_eq, List.pairwise_map]
  exact pairwise_steps operations next

end Operation

end PatternAutomata
