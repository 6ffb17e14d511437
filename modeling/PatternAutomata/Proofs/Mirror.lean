import PatternAutomata.Proofs.Determinize

/-!
# Searches through renamed nodes

If nodes are renamed one to one and successors are renamed with them, in the same order, then a
search through the renamed nodes takes the same steps (`Renames.run`). So two automata whose sets of
states correspond in this way have the same determinisation (`determinize_eq_of_mirrors`): the
names of its states say when a set was found, and not which set it was.
-/
namespace PatternAutomata

/-- Where a renamed element stands in a list of renamed elements. -/
theorem idxOf_map_of_injective {α β : Type} [BEq α] [LawfulBEq α] [BEq β] [LawfulBEq β]
    {f : α → β} {list : List α} {a : α} (injective : ∀ b ∈ list, f b = f a → b = a) :
    (list.map f).idxOf (f a) = list.idxOf a := by
  induction list with
  | nil => rfl
  | cons b rest ih =>
    have later := ih fun c member => injective c (List.mem_cons_of_mem _ member)
    rw [List.map_cons, List.idxOf_cons, List.idxOf_cons, later]
    have same : (f b == f a) = (b == a) := by
      rw [Bool.eq_iff_iff, beq_iff_eq, beq_iff_eq]
      exact ⟨injective b List.mem_cons_self, congrArg f⟩
    rw [same]

namespace Search

variable {α β : Type} [BEq α] [Hashable α] [BEq β] [Hashable β]

/-- `image` has come as far through the renamed nodes as `search` through the nodes. -/
structure Mirrors (f : α → β) (search : Search α) (image : Search β) : Prop where
  found : image.found = search.found.map f
  pending : image.pending = search.pending.map f
  visited : image.visited = search.visited.map f

/-- Among the nodes of `region`, which successors do not leave, `f` renames one to one and along with
the successors. -/
structure Renames (f : α → β) (region : α → Prop) (successors : α → List α)
    (successors' : β → List β) : Prop where
  injective : ∀ a b, region a → region b → f a = f b → a = b
  closed : ∀ a, region a → ∀ b ∈ successors a, region b
  commutes : ∀ a, region a → successors' (f a) = (successors a).map f

variable {f : α → β} {search : Search α} {image : Search β}

theorem Mirrors.start (f : α → β) : (start : Search α).Mirrors f start := ⟨rfl, rfl, rfl⟩

/-- A node is new to both searches or to neither. -/
theorem Mirrors.discover (mirrors : search.Mirrors f image) (accounted : search.Accounted)
    (accounted' : image.Accounted) {node : α}
    (injective : ∀ a ∈ search.found, f a = f node → a = node) :
    (search.discover node).Mirrors f (image.discover (f node)) := by
  have known : image.seen.contains (f node) = search.seen.contains node := by
    rw [Bool.eq_iff_iff, accounted.seen_iff, accounted'.seen_iff, mirrors.found, List.mem_map]
    constructor
    · rintro ⟨a, member, same⟩
      rw [← injective a member same]
      exact member
    · intro member
      exact ⟨node, member, rfl⟩
  unfold Search.discover
  rw [known]
  split
  · exact mirrors
  · refine ⟨?_, ?_, mirrors.visited⟩
    · rw [mirrors.found, List.map_cons]
    · rw [mirrors.pending, List.map_cons]

variable [LawfulBEq α] [LawfulBEq β]

theorem Mirrors.foldl_discover {region : α → Prop}
    (mirrors : search.Mirrors f image) (injective : ∀ a b, region a → region b → f a = f b → a = b)
    (accounted : search.Accounted) (accounted' : image.Accounted)
    (inside : ∀ a ∈ search.found, region a) {nodes : List α}
    (nodesInside : ∀ a ∈ nodes, region a) :
    (nodes.foldl Search.discover search).Mirrors f
      ((nodes.map f).foldl Search.discover image) := by
  induction nodes generalizing search image with
  | nil => exact mirrors
  | cons node rest ih =>
    have nodeInside := nodesInside node List.mem_cons_self
    rw [List.map_cons, List.foldl_cons, List.foldl_cons]
    refine ih (mirrors.discover accounted accounted' ?_) (accounted.discover node)
      (accounted'.discover (f node)) (found_discover nodeInside inside) ?_
    · exact fun a found => injective a node (inside a found) nodeInside
    · exact fun a member => nodesInside a (List.mem_cons_of_mem _ member)

section Run

variable {successors : α → List α} {successors' : β → List β} {bounded : Bounded successors}
  {bounded' : Bounded successors'} {region : α → Prop}

theorem run_of_pending_nil (done : search.pending = []) :
    run successors bounded search = search := by
  unfold Search.run
  split
  · rfl
  · next taken => rw [done] at taken; cases taken

theorem run_of_pending_cons {node : α} {rest : List α} (taken : search.pending = node :: rest) :
    run successors bounded search =
      run successors bounded (search.step successors node rest) := by
  rw [Search.run]
  split
  · next done => rw [done] at taken; cases taken
  · next taken' => rw [taken'] at taken; cases taken; rfl

/-- Searches that are as far as each other end alike. -/
theorem Renames.run (renames : Renames f region successors successors')
    (mirrors : search.Mirrors f image) (accounted : search.Accounted)
    (accounted' : image.Accounted) (inside : ∀ a ∈ search.found, region a) :
    (run successors bounded search).Mirrors f (Search.run successors' bounded' image) := by
  fun_induction Search.run successors bounded search generalizing image with
  | case1 search done =>
    have done' : image.pending = [] := by rw [mirrors.pending, done, List.map_nil]
    rw [run_of_pending_nil done']
    exact mirrors
  | case2 search node rest taken ih =>
    have taken' : image.pending = f node :: rest.map f := by
      rw [mirrors.pending, taken, List.map_cons]
    have nodeInside : region node := by
      apply inside node
      apply accounted.parted.mem_iff.mpr
      simp [taken]
    have nextInside := renames.closed node nodeInside
    have moved := accounted.take taken
    have moved' := accounted'.take taken'
    have mirrors : Mirrors f { search with pending := rest, visited := node :: search.visited }
        { image with pending := rest.map f, visited := f node :: image.visited } := by
      refine ⟨mirrors.found, rfl, ?_⟩
      rw [mirrors.visited, List.map_cons]
    rw [run_of_pending_cons taken']
    refine ih ?_ (moved.foldl_discover _) (moved'.foldl_discover _)
      (found_foldl_discover nextInside inside)
    rw [Search.step, Search.step, renames.commutes node nodeInside]
    exact mirrors.foldl_discover renames.injective moved moved' inside nextInside

/-- A search from renamed seeds finds and takes the renamed nodes, in the same order. -/
theorem Renames.run_ofList (renames : Renames f region successors successors') {seeds : List α}
    (seedsInside : ∀ a ∈ seeds, region a) :
    (Search.run successors bounded (ofList seeds)).Mirrors f
      (Search.run successors' bounded' (ofList (seeds.map f))) := by
  have nothing : ∀ a ∈ (Search.start : Search α).found, region a :=
    fun _ absent => absurd absent List.not_mem_nil
  refine renames.run ?_ (accounted_start.foldl_discover _) (accounted_start.foldl_discover _)
    (found_foldl_discover seedsInside nothing)
  exact (Mirrors.start f).foldl_discover renames.injective accounted_start accounted_start nothing
    seedsInside

end Run

end Search

/-- Automata are equal if they have the same start, accept states and rules. -/
theorem Dfa.eq_of_same {left right : Dfa} (start : left.start = right.start)
    (accept : left.accept = right.accept) (rules : left.rules = right.rules) : left = right := by
  have table : left.table = right.table := RuleTable.ext (Array.toList_inj.mp rules)
  cases left
  cases right
  simp only [Dfa.mk.injEq]
  exact ⟨start, accept, table⟩

namespace Nfa

/-- What symbols do to the sets of `nfa` they do to their images in `image`, and an image accepts if
its set does. -/
structure Mirrors (g : StateSet → StateSet) (nfa image : Nfa) : Prop where
  alphabet : image.table.alphabet = nfa.table.alphabet
  initial : image.initial = g nfa.initial
  after : ∀ set ∈ nfa.subsets, ∀ symbol ∈ nfa.table.alphabet,
    image.after (g set) symbol = g (nfa.after set symbol)
  injective : ∀ left right, left ∈ nfa.subsets → right ∈ nfa.subsets → g left = g right → left = right
  accepts : ∀ set ∈ nfa.subsets, (g set).meets image.accept = set.meets nfa.accept

namespace Mirrors

variable {g : StateSet → StateSet} {nfa image : Nfa} (mirrors : nfa.Mirrors g image)

include mirrors

theorem search : (nfa.subsetSearch nfa.table.alphabet).Mirrors g
    (image.subsetSearch image.table.alphabet) := by
  have renames : Search.Renames g (· ∈ nfa.subsets) (nfa.row nfa.table.alphabet)
      (image.row image.table.alphabet) := by
    refine ⟨mirrors.injective, fun set found next member => ?_, fun set found => ?_⟩
    · obtain ⟨symbol, listed, rfl⟩ := List.mem_map.mp member
      exact after_mem_subsets found (mem_alphabet_iff_knows.mp listed)
    · rw [row, row, mirrors.alphabet, List.map_map]
      exact List.map_congr_left fun symbol listed => mirrors.after set found symbol listed
  have seeds : [image.initial] = [nfa.initial].map g := by
    rw [mirrors.initial, List.map_singleton]
  rw [subsetSearch, subsetSearch, seeds]
  refine renames.run_ofList fun set member => ?_
  rw [List.mem_singleton.mp member]
  exact nfa.initial_mem_subsets

theorem subsets : image.subsets = nfa.subsets.map g := by
  rw [Nfa.subsets, Nfa.subsets, Search.inOrderFound, Search.inOrderFound, mirrors.search.found,
    List.map_reverse]

theorem subsetName {set : StateSet} (found : set ∈ nfa.subsets) (next : Nat) :
    image.subsetName next (g set) = nfa.subsetName next set := by
  rw [Nfa.subsetName, Nfa.subsetName, mirrors.subsets, idxOf_map_of_injective]
  exact fun other member => mirrors.injective other set member found

theorem rules (next : Nat) :
    (image.determinize next).1.rules = (nfa.determinize next).1.rules := by
  have taken : (image.subsetSearch image.table.alphabet).inOrderTaken =
      (nfa.subsetSearch nfa.table.alphabet).inOrderTaken.map g := by
    rw [Search.inOrderTaken, Search.inOrderTaken, mirrors.search.visited, List.map_reverse]
  rw [Dfa.rules, Dfa.rules, toList_determinize, toList_determinize, taken, subsetRules, subsetRules,
    mirrors.alphabet, List.flatMap_map]
  refine List.flatMap_congr fun set listed => List.map_congr_left fun symbol known => ?_
  have found := (taken_perm_subsets nfa).mem_iff.mp listed
  have after := after_mem_subsets found (mem_alphabet_iff_knows.mp known)
  rw [mirrors.subsetName found, mirrors.after set found symbol known, mirrors.subsetName after]

theorem accept (next : Nat) :
    (image.determinize next).1.accept = (nfa.determinize next).1.accept := by
  rw [accept_determinize, accept_determinize, mirrors.subsets, List.filter_map, List.map_map]
  have kept : nfa.subsets.filter ((·.meets image.accept) ∘ g) =
      nfa.subsets.filter (·.meets nfa.accept) :=
    List.filter_congr fun set found => mirrors.accepts set found
  rw [kept]
  congr 1
  exact List.map_congr_left fun set member =>
    mirrors.subsetName (List.mem_filter.mp member).1 next

end Mirrors

/-- Automata whose sets of states correspond have the same determinisation. -/
theorem determinize_eq_of_mirrors {g : StateSet → StateSet} {nfa image : Nfa}
    (mirrors : nfa.Mirrors g image) (next : Nat) :
    image.determinize next = nfa.determinize next := by
  have dfa : (image.determinize next).1 = (nfa.determinize next).1 := by
    refine Dfa.eq_of_same ?_ (mirrors.accept next) (mirrors.rules next)
    rw [start_determinize, start_determinize, mirrors.initial,
      mirrors.subsetName nfa.initial_mem_subsets]
  have supply : (image.determinize next).2 = (nfa.determinize next).2 := by
    rw [next_determinize, next_determinize, mirrors.subsets, List.length_map]
  exact Prod.ext dfa supply

end Nfa

end PatternAutomata
