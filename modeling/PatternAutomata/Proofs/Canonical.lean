import Mathlib.Order.Bounds.Image
import PatternAutomata.Proofs.Discovery
import PatternAutomata.Proofs.SubsetAutomaton

/-!
# The numbering of a determinised automaton

The rules of a determinised automaton come in blocks, one for each state. Which block comes next and
which numbers its targets have can be told from the blocks before it alone (`IsCanonical`): the next
block is that of the highest number without one, and a state that is new has the number after the
highest. So the sets that states stand for leave no trace in the numbers but which of them are equal.
-/
namespace PatternAutomata.Nfa

/-- The rules that leave one state, by the numbers of the states in the supply. -/
structure Block where
  source : Nat
  /-- Where the symbols of an alphabet lead, in its order. -/
  targets : List Nat

def Block.rules (alphabet : List Char) (block : Block) : List Rule :=
  List.zipWith (fun symbol target => .reading (.fresh block.source) symbol (.fresh target))
    alphabet block.targets

/-- The numbers that have appeared by the end of some blocks, as that of the start or of a target. -/
def appeared (next : Nat) (blocks : List Block) : List Nat := next :: blocks.flatMap Block.targets

/-- The automaton starts in the state numbered `next`, its rules are those of the blocks, and each
block and each target continues the numbering. -/
structure IsCanonical (alphabet : List Char) (next : Nat) (dfa : Dfa) (blocks : List Block) :
    Prop where
  ascending : alphabet.Pairwise (· < ·)
  start : dfa.start = .fresh next
  rules : dfa.rules = blocks.flatMap (Block.rules alphabet)
  full : ∀ block ∈ blocks, block.targets.length = alphabet.length
  states : ∀ s, s ∈ dfa.states ↔ ∃ block ∈ blocks, s = .fresh block.source
  once : (blocks.map Block.source).Nodup
  first : blocks.head?.map Block.source = some next
  /-- A block is that of the highest number that has appeared and has no block yet. -/
  latest : ∀ earlier block later, blocks = earlier ++ block :: later →
    IsGreatest {id | id ∈ appeared next earlier ∧ id ∉ earlier.map Block.source} block.source
  /-- A target is the start, has appeared, or has the number after the highest so far. -/
  numbered : ∀ before id after, blocks.flatMap Block.targets = before ++ id :: after →
    id ∈ next :: before ∨ ∃ highest, IsGreatest {k | k ∈ next :: before} highest ∧ id = highest + 1

variable {nfa : Nfa} (next : Nat)

/-- The sets in the order in which their rules are listed. -/
def taken (nfa : Nfa) : List StateSet := (nfa.subsetSearch nfa.table.alphabet).inOrderTaken

/-- The number of the state of a set. -/
def number (nfa : Nfa) (next : Nat) (set : StateSet) : Nat := next + nfa.subsets.idxOf set

def blockOf (nfa : Nfa) (next : Nat) (set : StateSet) : Block :=
  ⟨nfa.number next set, (nfa.row nfa.table.alphabet set).map (nfa.number next)⟩

theorem recorded_subsetSearch (nfa : Nfa) :
    (nfa.subsetSearch nfa.table.alphabet).Recorded (nfa.row nfa.table.alphabet) [nfa.initial] :=
  (Search.recorded_ofList _ _).run _

theorem mem_taken {set : StateSet} : set ∈ nfa.taken ↔ set ∈ nfa.subsets :=
  (taken_perm_subsets nfa).mem_iff

theorem number_inj {set other : StateSet} (found : set ∈ nfa.subsets) :
    nfa.number next set = nfa.number next other ↔ set = other := by
  constructor
  · intro same
    exact (subsetName_inj found).mp (congrArg State.fresh same)
  · intro same
    rw [same]

/-- Numbers keep the order of places. -/
theorem isGreatest_number {sets : Set StateSet} {k : Nat}
    (greatest : IsGreatest ((nfa.subsetSearch nfa.table.alphabet).place '' sets) k) :
    IsGreatest (nfa.number next '' sets) (next + k) := by
  have monotone : Monotone (next + ·) := fun _ _ le => Nat.add_le_add_left le next
  have image := monotone.map_isGreatest greatest
  rwa [Set.image_image] at image

/-- The set before anything is read is found first. -/
theorem number_initial (nfa : Nfa) : nfa.number next nfa.initial = next := by
  have recorded := recorded_subsetSearch nfa
  have met_first : Search.met (nfa.row nfa.table.alphabet) [nfa.initial] nfa.taken =
      [nfa.initial] ++ nfa.taken.flatMap (nfa.row nfa.table.alphabet) := rfl
  have suffix : [nfa.initial] <:+ (nfa.subsetSearch nfa.table.alphabet).found :=
    recorded.suffix_found met_first
  exact congrArg (next + ·) (Search.place_of_suffix recorded.nodup suffix)

section Blocks

variable (sets : List StateSet)

theorem rules_blocks : (sets.map (nfa.blockOf next)).flatMap (Block.rules nfa.table.alphabet) =
    nfa.subsetRules nfa.table.alphabet (nfa.subsetName next) sets := by
  rw [List.flatMap_map, subsetRules]
  refine List.flatMap_congr fun set _ => ?_
  rw [Block.rules, blockOf, row, List.map_map, List.zipWith_map_right, List.zipWith_self]
  rfl

theorem targets_blocks : (sets.map (nfa.blockOf next)).flatMap Block.targets =
    (sets.flatMap (nfa.row nfa.table.alphabet)).map (nfa.number next) := by
  rw [List.flatMap_map, List.map_flatMap]
  rfl

theorem sources_blocks :
    (sets.map (nfa.blockOf next)).map Block.source = sets.map (nfa.number next) := by
  rw [List.map_map]
  rfl

/-- What appears in blocks are the numbers of the sets that are met. -/
theorem appeared_blocks : appeared next (sets.map (nfa.blockOf next)) =
    (Search.met (nfa.row nfa.table.alphabet) [nfa.initial] sets).map (nfa.number next) := by
  rw [appeared, targets_blocks, Search.met, List.map_append, List.map_singleton, number_initial,
    List.singleton_append]

end Blocks

/-- The numbers without a block are those of the sets that have been met and not taken. -/
theorem numbers_without_block {earlier later : List StateSet} (cut : nfa.taken = earlier ++ later) :
    {id | id ∈ appeared next (earlier.map (nfa.blockOf next)) ∧
      id ∉ (earlier.map (nfa.blockOf next)).map Block.source} =
    nfa.number next ''
      {a | a ∈ Search.met (nfa.row nfa.table.alphabet) [nfa.initial] earlier ∧ a ∉ earlier} := by
  ext id
  simp only [appeared_blocks, sources_blocks, Set.mem_ofPred_eq, List.mem_map, Set.mem_image]
  constructor
  · rintro ⟨⟨set, known, rfl⟩, unlisted⟩
    exact ⟨set, ⟨known, fun listed => unlisted ⟨set, listed, rfl⟩⟩, rfl⟩
  · rintro ⟨set, ⟨known, untaken⟩, rfl⟩
    refine ⟨⟨set, known, rfl⟩, ?_⟩
    rintro ⟨other, listed, equal⟩
    have found : other ∈ nfa.subsets := by
      rw [← mem_taken, cut]
      exact List.mem_append_left _ listed
    rw [(number_inj next found).mp equal] at listed
    exact untaken listed

/-- A set whose block comes next has the highest number of those that have appeared and have none. -/
theorem isGreatest_source {earlier later : List StateSet} {set : StateSet}
    (cut : nfa.taken = earlier ++ set :: later) :
    IsGreatest {id | id ∈ appeared next (earlier.map (nfa.blockOf next)) ∧
      id ∉ (earlier.map (nfa.blockOf next)).map Block.source} (nfa.number next set) := by
  rw [numbers_without_block next cut]
  exact isGreatest_number next ((recorded_subsetSearch nfa).isGreatest_taken cut)

/-- A target has appeared or has the number after the highest so far. -/
theorem number_target {before after : List StateSet} {set : StateSet}
    (cut : nfa.taken.flatMap (nfa.row nfa.table.alphabet) = before ++ set :: after) :
    nfa.number next set ∈ next :: before.map (nfa.number next) ∨
      ∃ highest, IsGreatest {k | k ∈ next :: before.map (nfa.number next)} highest ∧
        nfa.number next set = highest + 1 := by
  have numbers : next :: before.map (nfa.number next) =
      (nfa.initial :: before).map (nfa.number next) := by
    rw [List.map_cons, number_initial]
  have met_before : Search.met (nfa.row nfa.table.alphabet) [nfa.initial] nfa.taken =
      (nfa.initial :: before) ++ set :: after := by
    rw [Search.met, cut]
    rfl
  rw [numbers]
  rcases (recorded_subsetSearch nfa).place_of_met (List.cons_ne_nil _ _) met_before with
    known | ⟨highest, greatest, place⟩
  · exact .inl (List.mem_map_of_mem known)
  · refine .inr ⟨next + highest, ?_, congrArg (next + ·) place⟩
    simp only [List.mem_map]
    exact isGreatest_number next greatest

/-! ### The blocks of a determinised automaton -/

/-- The blocks in the order in which their rules are listed. -/
def blocks (nfa : Nfa) (next : Nat) : List Block := nfa.taken.map (nfa.blockOf next)

theorem rules_determinize :
    (nfa.determinize next).1.rules = (nfa.blocks next).flatMap (Block.rules nfa.table.alphabet) := by
  rw [blocks, rules_blocks, Dfa.rules, toList_determinize]
  rfl

theorem mem_states_iff_mem_blocks {s : State} : s ∈ (nfa.determinize next).1.states ↔
    ∃ block ∈ nfa.blocks next, s = .fresh block.source := by
  rw [mem_states_determinize]
  simp only [blocks, List.mem_map, mem_taken, exists_exists_and_eq_and]
  rfl

theorem nodup_sources (nfa : Nfa) : ((nfa.blocks next).map Block.source).Nodup := by
  have nodup : nfa.taken.Nodup := (taken_perm_subsets nfa).nodup_iff.mpr nfa.nodup_subsets
  rw [blocks, sources_blocks]
  exact nodup.map_on fun set listed other _ => (number_inj next (mem_taken.mp listed)).mp

theorem isGreatest_block {earlier later : List Block} {block : Block}
    (cut : nfa.blocks next = earlier ++ block :: later) :
    IsGreatest {id | id ∈ appeared next earlier ∧ id ∉ earlier.map Block.source} block.source := by
  obtain ⟨before, rest, taken, rfl, same⟩ := List.map_eq_append_iff.mp cut
  obtain ⟨set, after, rfl, rfl, _⟩ := List.map_eq_cons_iff.mp same
  exact isGreatest_source next taken

/-- Before the first block only the start has appeared. -/
theorem head?_blocks (nfa : Nfa) : (nfa.blocks next).head?.map Block.source = some next := by
  cases listed : nfa.blocks next with
  | nil =>
    have initial := mem_taken.mpr nfa.initial_mem_subsets
    rw [List.map_eq_nil_iff.mp listed] at initial
    exact absurd initial List.not_mem_nil
  | cons block rest =>
    have appears := (isGreatest_block next (listed.trans (List.nil_append _).symm)).1.1
    exact congrArg some (List.mem_singleton.mp appears)

theorem target_eq_or_succ {before after : List Nat} {id : Nat}
    (cut : (nfa.blocks next).flatMap Block.targets = before ++ id :: after) :
    id ∈ next :: before ∨
      ∃ highest, IsGreatest {k | k ∈ next :: before} highest ∧ id = highest + 1 := by
  rw [blocks, targets_blocks] at cut
  obtain ⟨front, rest, met, rfl, same⟩ := List.map_eq_append_iff.mp cut
  obtain ⟨set, back, rfl, rfl, _⟩ := List.map_eq_cons_iff.mp same
  exact number_target next met

/-- The numbers in a determinised automaton and the order of its rules follow from its start, block by
block. -/
theorem determinize_isCanonical (nfa : Nfa) (next : Nat) :
    ∃ blocks, IsCanonical nfa.table.alphabet next (nfa.determinize next).1 blocks := by
  refine ⟨nfa.blocks next, ?_⟩
  constructor
  case ascending => exact nfa.table.alphabet_sorted
  case start =>
    rw [start_determinize]
    exact congrArg State.fresh (number_initial next nfa)
  case rules => exact rules_determinize next
  case full =>
    intro block listed
    obtain ⟨set, _, rfl⟩ := List.mem_map.mp listed
    simp [blockOf, row]
  case states => exact fun s => mem_states_iff_mem_blocks next
  case once => exact nodup_sources next nfa
  case first => exact head?_blocks next nfa
  case latest => exact fun earlier block later => isGreatest_block next
  case numbered => exact fun before id after => target_eq_or_succ next

end PatternAutomata.Nfa
