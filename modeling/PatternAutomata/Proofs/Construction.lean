import PatternAutomata.Nfa.Determinize
import PatternAutomata.Proofs.Discovery

/-!
# The loop that determinises

Of what the loop keeps, the worklist alone decides its course, and that course is a search through
sets of states. While the loop runs, its map gives every set that the search has found the state that
stands for it, which is the one at the set's place in the order of finding; the other fields follow
the search in the same way (`Tracks`). So determinising gives what the finished search determines
(`determinize_eq_bySearch`).
-/
namespace PatternAutomata.Nfa

/-! ### The search through sets of states -/

/-- The sets after each symbol of an alphabet. -/
def row (nfa : Nfa) (alphabet : List Char) (set : StateSet) : List StateSet :=
  alphabet.map (nfa.after set)

theorem row_bounded (nfa : Nfa) (alphabet : List Char) : Bounded (nfa.row alphabet) := by
  refine ⟨StateSet.subsets nfa.table.allTargets, fun set next member => ?_⟩
  obtain ⟨symbol, _, rfl⟩ := List.mem_map.mp member
  exact nfa.after_mem_subsets_allTargets set symbol

/-- The search through the sets that texts over an alphabet lead to. -/
def subsetSearch (nfa : Nfa) (alphabet : List Char) : Search StateSet :=
  .run (nfa.row alphabet) (nfa.row_bounded alphabet) (.ofList [nfa.initial])

/-- The sets that texts lead to, in the order in which they are found. -/
def subsets (nfa : Nfa) : List StateSet := (nfa.subsetSearch nfa.table.alphabet).inOrderFound

/-- The state that stands for a set, if the supply is at `next`. -/
def subsetName (nfa : Nfa) (next : Nat) (set : StateSet) : State :=
  .fresh (next + nfa.subsets.idxOf set)

/-- The rule out of the state of a set on a symbol. -/
def subsetRule (nfa : Nfa) (next : Nat) (set : StateSet) (symbol : Char) : Rule :=
  .reading (nfa.subsetName next set) symbol (nfa.subsetName next (nfa.after set symbol))

/-- The rules out of each of `sets`, where `name` gives the state that stands for a set. -/
def subsetRules (nfa : Nfa) (alphabet : List Char) (name : StateSet → State)
    (sets : List StateSet) : List Rule :=
  sets.flatMap fun set =>
    alphabet.map fun symbol => .reading (name set) symbol (name (nfa.after set symbol))

theorem subsetRules_reads (nfa : Nfa) (alphabet : List Char) (name : StateSet → State)
    (sets : List StateSet) : ∀ rule ∈ nfa.subsetRules alphabet name sets, rule.isEpsilon = false := by
  intro rule member
  obtain ⟨_, _, member⟩ := List.mem_flatMap.mp member
  obtain ⟨_, _, rfl⟩ := List.mem_map.mp member
  rfl

/-- The deterministic automaton that the finished search determines, and what is next in the supply
after its states: the sets are named in the order in which they were found, and have their rules in
the order in which they were taken. -/
def bySearch (nfa : Nfa) (next : Nat) : Dfa × Nat :=
  (.ofReading (nfa.subsetName next nfa.initial)
    (.ofList ((nfa.subsets.filter (·.meets nfa.accept)).map (nfa.subsetName next)))
    (nfa.subsetRules nfa.table.alphabet (nfa.subsetName next)
      (nfa.subsetSearch nfa.table.alphabet).inOrderTaken)
    (nfa.subsetRules_reads _ _ _), next + nfa.subsets.length)

/-! ### The loop follows the search -/

variable {nfa : Nfa} {next : Nat} {search : Search StateSet} {construction : Construction}
  {listed : List Rule} {set : StateSet}

/-- A set found when `older` have been is named by the state that is then next in the supply. -/
theorem subsetName_of_suffix (next : Nat) {older : List StateSet}
    (suffix : set :: older <:+ (nfa.subsetSearch nfa.table.alphabet).found) :
    nfa.subsetName next set = .fresh (next + older.length) := by
  have place := Search.place_of_suffix (Search.nodup_found_run _ _ _) suffix
  exact congrArg (fun place => State.fresh (next + place)) place

/-- A construction has come as far as a search and has listed the rules `listed`: it has the names of
the sets found, and of those that are pending beside them. -/
structure Tracks (nfa : Nfa) (next : Nat) (listed : List Rule) (search : Search StateSet)
    (construction : Construction) : Prop extends search.Accounted where
  states : ∀ set, construction.states[set]? =
    if set ∈ search.found then some (nfa.subsetName next set) else none
  accept : ∀ s, s ∈ construction.accept ↔
    ∃ set ∈ search.found, set.meets nfa.accept = true ∧ s = nfa.subsetName next set
  rules : construction.rules.toList = listed
  pending : construction.pending = search.pending.map fun set => (set, nfa.subsetName next set)
  next : construction.next = next + search.found.length

theorem tracks_start (nfa : Nfa) (next : Nat) : nfa.Tracks next [] .start (.start next) where
  toAccounted := Search.accounted_start
  states set := by simp [Construction.start, Search.start]
  accept s := by simp [Construction.start, Search.start]
  rules := rfl
  pending := rfl
  next := rfl

/-- Finding a set gives its name, and keeps step with the search as long as all that this finds is
found in the end. -/
theorem Tracks.find (tracks : nfa.Tracks next listed search construction)
    (inside : (search.discover set).found <:+ (nfa.subsetSearch nfa.table.alphabet).found) :
    (construction.find nfa.accept set).1 = nfa.subsetName next set ∧
      nfa.Tracks next listed (search.discover set) (construction.find nfa.accept set).2 := by
  have accounted := tracks.toAccounted.discover set
  by_cases known : set ∈ search.found
  · have seen := (tracks.seen_iff set).mpr known
    have looked : construction.states[set]? = some (nfa.subsetName next set) := by
      rw [tracks.states, if_pos known]
    rw [Search.discover, if_pos seen, Construction.find, looked]
    exact ⟨rfl, tracks⟩
  · have unseen : ¬ search.seen.contains set = true := fun seen => known ((tracks.seen_iff set).mp seen)
    have looked : construction.states[set]? = none := by
      rw [tracks.states, if_neg known]
    rw [Search.discover, if_neg unseen] at inside accounted ⊢
    have name : nfa.subsetName next set = (State.take construction.next).1 := by
      rw [subsetName_of_suffix next inside, State.take, tracks.next]
    rw [Construction.find, looked]
    refine ⟨name.symm, accounted, fun other => ?_, fun s => ?_, tracks.rules, ?_, ?_⟩
    · -- only the new set has come to be found, and its name has been entered with it
      simp only [Std.HashMap.getElem?_insert, beq_iff_eq, List.mem_cons, tracks.states, ← name]
      by_cases same : set = other
      · subst same
        simp
      · simp [same, Ne.symm same]
    · simp only [List.exists_mem_cons_iff, ← tracks.accept s, name]
      split
      · next meets => simp [meets]
      · next apart => simp [apart]
    · simp only [List.map_cons, ← name, tracks.pending]
    · simp only [State.take, List.length_cons, tracks.next]
      omega

/-- Following a symbol finds what it leads to and lists the rule there. -/
theorem Tracks.follow (tracks : nfa.Tracks next listed search construction) (set : StateSet)
    (symbol : Char)
    (inside : (search.discover (nfa.after set symbol)).found <:+
      (nfa.subsetSearch nfa.table.alphabet).found) :
    nfa.Tracks next (listed ++ [nfa.subsetRule next set symbol])
      (search.discover (nfa.after set symbol))
      (construction.follow nfa set (nfa.subsetName next set) symbol) := by
  obtain ⟨name, found⟩ := tracks.find inside
  refine { found with rules := ?_ }
  rw [subsetRule, ← name, ← found.rules]
  exact Array.toList_push

theorem Tracks.foldl_follow (tracks : nfa.Tracks next listed search construction)
    (set : StateSet) (symbols : List Char)
    (inside : ((symbols.map (nfa.after set)).foldl Search.discover search).found <:+
      (nfa.subsetSearch nfa.table.alphabet).found) :
    nfa.Tracks next (listed ++ symbols.map (nfa.subsetRule next set))
      ((symbols.map (nfa.after set)).foldl Search.discover search)
      (symbols.foldl (Construction.follow nfa set (nfa.subsetName next set)) construction) := by
  induction symbols generalizing listed search construction with
  | nil => simpa using tracks
  | cons symbol rest ih =>
    have first : (search.discover (nfa.after set symbol)).found <:+
        (nfa.subsetSearch nfa.table.alphabet).found :=
      (Search.suffix_found_foldl_discover _ (rest.map (nfa.after set))).trans inside
    have rest := ih (tracks.follow set symbol first) inside
    rwa [List.append_assoc] at rest

/-- A step of the loop is a step of the search, and lists the rules out of the set that it takes. -/
theorem Tracks.step {sets : List StateSet}
    (tracks : nfa.Tracks next
      (nfa.subsetRules nfa.table.alphabet (nfa.subsetName next) search.inOrderTaken) search
      construction)
    (taken : search.pending = set :: sets)
    (inside : (search.step (nfa.row nfa.table.alphabet) set sets).found <:+
      (nfa.subsetSearch nfa.table.alphabet).found) :
    nfa.Tracks next
      (nfa.subsetRules nfa.table.alphabet (nfa.subsetName next)
        (search.step (nfa.row nfa.table.alphabet) set sets).inOrderTaken)
      (search.step (nfa.row nfa.table.alphabet) set sets)
      (construction.step nfa set (nfa.subsetName next set)
        (sets.map fun set => (set, nfa.subsetName next set))) := by
  have rules : nfa.subsetRules nfa.table.alphabet (nfa.subsetName next)
        (search.step (nfa.row nfa.table.alphabet) set sets).inOrderTaken =
      nfa.subsetRules nfa.table.alphabet (nfa.subsetName next) search.inOrderTaken ++
        nfa.table.alphabet.map (nfa.subsetRule next set) := by
    rw [Search.inOrderTaken, Search.visited_step, List.reverse_cons, subsetRules, subsetRules,
      List.flatMap_append, List.flatMap_singleton, Search.inOrderTaken]
    rfl
  have moved : nfa.Tracks next
      (nfa.subsetRules nfa.table.alphabet (nfa.subsetName next) search.inOrderTaken)
      { search with pending := sets, visited := set :: search.visited }
      { construction with pending := sets.map fun set => (set, nfa.subsetName next set) } :=
    { tracks.toAccounted.take taken with
      states := tracks.states
      accept := tracks.accept
      rules := tracks.rules
      pending := rfl
      next := tracks.next }
  rw [rules]
  exact moved.foldl_follow set nfa.table.alphabet inside

/-! ### The course of the loop -/

namespace Construction

/-- The loop runs until its worklist is empty: it takes off the sets `popped` and puts on the sets
`pushed`, each with its state and both in the order in which it does so. -/
inductive Loop (nfa : Nfa) :
    Construction → (pushed popped : List (StateSet × State)) → Construction → Prop
  | done {construction : Construction} (empty : construction.pending = []) :
      Loop nfa construction [] [] construction
  | turn {construction last : Construction} {set : StateSet} {source : State}
      {rest new pushed popped : List (StateSet × State)}
      (taken : construction.pending = (set, source) :: rest)
      (put : (construction.step nfa set source rest).pending = new.reverse ++ rest)
      (later : Loop nfa (construction.step nfa set source rest) pushed popped last) :
      Loop nfa construction (new ++ pushed) ((set, source) :: popped) last

theorem run_of_pending {rest : List (StateSet × State)} {source : State}
    (taken : construction.pending = (set, source) :: rest) :
    construction.run nfa = (construction.step nfa set source rest).run nfa := by
  rw [run]
  split
  · next empty => simp [empty] at taken
  · next cut =>
    rw [cut] at taken
    cases taken
    rfl

theorem run_of_nothing_pending (empty : construction.pending = []) :
    construction.run nfa = construction := by
  rw [run]
  split
  · rfl
  · next cut => simp [cut] at empty

end Construction

/-- A set with the state that stands for it. -/
def named (nfa : Nfa) (next : Nat) (set : StateSet) : StateSet × State :=
  (set, nfa.subsetName next set)

/-- The loop has the course of the search and ends where the search does. -/
theorem Tracks.loop {pushed popped : List StateSet} {last : Search StateSet}
    (tracks : nfa.Tracks next
      (nfa.subsetRules nfa.table.alphabet (nfa.subsetName next) search.inOrderTaken) search
      construction)
    (course : Search.Loop (nfa.row nfa.table.alphabet) search pushed popped last)
    (ends : last = nfa.subsetSearch nfa.table.alphabet) :
    Construction.Loop nfa construction (pushed.map (nfa.named next)) (popped.map (nfa.named next))
        (construction.run nfa) ∧
      nfa.Tracks next
        (nfa.subsetRules nfa.table.alphabet (nfa.subsetName next) last.inOrderTaken) last
        (construction.run nfa) := by
  induction course generalizing construction with
  | done empty =>
    have nothing : construction.pending = [] := by rw [tracks.pending, empty, List.map_nil]
    rw [Construction.run_of_nothing_pending nothing]
    exact ⟨.done nothing, tracks⟩
  | @turn search last set rest new pushed popped taken put later ih =>
    have inside := ends ▸ later.suffix_found
    have cut : construction.pending =
        nfa.named next set :: rest.map (nfa.named next) := by
      rw [tracks.pending, taken, List.map_cons]
      rfl
    have stepped := tracks.step taken inside
    obtain ⟨course, tracks⟩ := ih stepped ends
    rw [Construction.run_of_pending cut, List.map_append, List.map_cons]
    refine ⟨.turn cut ?_ course, tracks⟩
    rw [← List.map_reverse, ← List.map_append, ← put]
    exact stepped.pending

/-- At its beginning the construction has found the closure of the start. -/
theorem tracks_begun (nfa : Nfa) (next : Nat) :
    (nfa.begun next).1 = nfa.subsetName next nfa.initial ∧
      nfa.Tracks next (nfa.subsetRules nfa.table.alphabet (nfa.subsetName next)
        (Search.ofList [nfa.initial]).inOrderTaken) (.ofList [nfa.initial]) (nfa.begun next).2 := by
  obtain ⟨_, _, course, _⟩ := Search.loop_ofList (nfa.row nfa.table.alphabet)
    (nfa.row_bounded nfa.table.alphabet) [nfa.initial]
  have nothing : (Search.ofList [nfa.initial]).inOrderTaken = [] :=
    congrArg List.reverse (Search.pending_ofList [nfa.initial]).2
  rw [nothing]
  exact (tracks_start nfa next).find course.suffix_found

/-- The end of the loop has come as far as the finished search. -/
theorem tracks_run_begun (nfa : Nfa) (next : Nat) :
    nfa.Tracks next
      (nfa.subsetRules nfa.table.alphabet (nfa.subsetName next)
        (nfa.subsetSearch nfa.table.alphabet).inOrderTaken)
      (nfa.subsetSearch nfa.table.alphabet) ((nfa.begun next).2.run nfa) := by
  obtain ⟨_, _, course, _⟩ := Search.loop_ofList (nfa.row nfa.table.alphabet)
    (nfa.row_bounded nfa.table.alphabet) [nfa.initial]
  exact ((tracks_begun nfa next).2.loop course rfl).2

/-- The loop builds what the search determines, and leaves the supply where the search says. -/
theorem determinize_eq_bySearch (nfa : Nfa) (next : Nat) :
    nfa.determinize next = nfa.bySearch next := by
  have tracks := tracks_run_begun nfa next
  have accept : ((nfa.begun next).2.run nfa).accept =
      .ofList ((nfa.subsets.filter (·.meets nfa.accept)).map (nfa.subsetName next)) := by
    refine StateSet.ext fun s => ?_
    simp only [tracks.accept, StateSet.mem_ofList, List.mem_map, List.mem_filter, subsets,
      Search.inOrderFound, List.mem_reverse, and_assoc, eq_comm]
  have supply : ((nfa.begun next).2.run nfa).next = next + nfa.subsets.length := by
    rw [tracks.next, subsets, Search.inOrderFound, List.length_reverse]
  simp only [determinize, bySearch, (tracks_begun nfa next).1, accept, tracks.rules, supply]

end PatternAutomata.Nfa
