import PatternAutomata.Proofs.Renumbering
import PatternAutomata.Proofs.Settling

/-!
# Compiling in any order

Where rules are added for all accept states of a part, the order in which these are taken is left
open (`Compiles`). It shows only in the order of neighbouring epsilon rules into one state
(`Compiles.reordered`). And where the supply stands makes no difference but to the numbers of the
states, which stay in their order (`fragment_eq_rename`). So all ways to compile a pattern agree up
to the numbering once runs of such rules are sorted (`compile_in_any_order`).
-/
namespace PatternAutomata

namespace Fragment

/-- Goes on with the second fragment from the accept states of the first, listed in some order. -/
def concatIn (order : List State) (first second : Fragment) : Fragment :=
  ⟨first.start, second.accept, first.rules ++ second.rules ++ order.map (.epsilon · second.start)⟩

/-- Goes through the body again from its accept states, listed in some order. -/
def starIn (order : List State) (start : State) (body : Fragment) : Fragment :=
  ⟨start, body.accept.insert start,
    body.rules ++ .epsilon start body.start :: order.map (.epsilon · body.start)⟩

end Fragment

namespace Pattern

/-- Compiling a pattern with the supply at `next` may give the fragment and leave the supply at
`after`, if at each place accept states may be taken in any order. -/
inductive Compiles : Pattern → (next : Nat) → Fragment → (after : Nat) → Prop
  | empty {next after : Nat} {start : State} (new : State.take next = (start, after)) :
      Compiles .empty next (.empty start) after
  | literal {next middle after : Nat} {start accept : State} (symbol : Char)
      (begins : State.take next = (start, middle)) (ends : State.take middle = (accept, after)) :
      Compiles (.literal symbol) next (.literal start symbol accept) after
  | concat {first second : Pattern} {next middle after : Nat} {front back : Fragment}
      {order : List State} (begins : Compiles first next front middle)
      (ends : Compiles second middle back after) (all : order.Perm front.accept.toList) :
      Compiles (.concat first second) next (.concatIn order front back) after
  | choice {first second : Pattern} {next middle last after : Nat} {start : State}
      {left right : Fragment} (one : Compiles first next left middle)
      (other : Compiles second middle right last) (new : State.take last = (start, after)) :
      Compiles (.choice first second) next (.choice start left right) after
  | star {body : Pattern} {next last after : Nat} {start : State} {inner : Fragment}
      {order : List State} (inside : Compiles body next inner last)
      (all : order.Perm inner.accept.toList) (new : State.take last = (start, after)) :
      Compiles (.star body) next (.starIn order start inner) after

/-- Accept states may be taken in increasing order. -/
theorem compiles_fragment (pattern : Pattern) (next : Nat) :
    pattern.Compiles next (pattern.fragment next).1 (pattern.fragment next).2 := by
  induction pattern generalizing next with
  | empty => exact .empty rfl
  | literal symbol => exact .literal symbol rfl rfl
  | concat first second hf hs => exact .concat (hf next) (hs _) (.refl _)
  | choice first second hf hs => exact .choice (hf next) (hs _) rfl
  | star body hb => exact .star (hb next) (.refl _) rfl

end Pattern

/-! ### The order of rules -/

/-- Fragments that differ only in the order of neighbouring epsilon rules into one state. -/
structure Fragment.Reordered (left right : Fragment) : Prop where
  start : left.start = right.start
  accept : left.accept = right.accept
  rules : Rule.Reordered left.rules right.rules

namespace Fragment.Reordered

variable {front back front' back' : Fragment} {order : List State}

theorem refl (fragment : Fragment) : fragment.Reordered fragment := ⟨rfl, rfl, .refl _⟩

theorem symm (same : front.Reordered front') : front'.Reordered front :=
  ⟨same.start.symm, same.accept.symm, same.rules.symm⟩

theorem trans (first : front.Reordered back) (second : back.Reordered back') :
    front.Reordered back' :=
  ⟨first.start.trans second.start, first.accept.trans second.accept,
    first.rules.trans second.rules⟩

theorem mem_allStates (same : front.Reordered front') {s : State} :
    s ∈ front.toNfa.allStates ↔ s ∈ front'.toNfa.allStates := by
  have rules : ∀ rule, rule ∈ front.toNfa.rules ↔ rule ∈ front'.toNfa.rules :=
    fun _ => same.rules.perm.mem_iff
  have start : front.toNfa.start = front'.toNfa.start := same.start
  have accept : front.toNfa.accept = front'.toNfa.accept := same.accept
  simp only [Nfa.mem_allStates, start, accept, rules]

theorem bridges (same : front.Reordered front') (all : order.Perm front.accept.toList)
    {s t : State} (targets : s = t) :
    Rule.Reordered (order.map (.epsilon · s)) (front'.bridges t) := by
  subst targets
  rw [same.accept] at all
  exact .of_perm all s

theorem concatIn (first : front.Reordered front') (second : back.Reordered back')
    (all : order.Perm front.accept.toList) :
    (concatIn order front back).Reordered (concat front' back') where
  start := first.start
  accept := second.accept
  rules := (first.rules.append second.rules).append (first.bridges all second.start)

theorem choice (first : front.Reordered front') (second : back.Reordered back') (start : State) :
    (choice start front back).Reordered (choice start front' back') where
  start := rfl
  accept := by simp only [Fragment.choice, first.accept, second.accept]
  rules := by
    simp only [Fragment.choice, first.start, second.start]
    exact (first.rules.append second.rules).append_right _

theorem starIn (inside : front.Reordered front') (all : order.Perm front.accept.toList)
    (start : State) : (starIn order start front).Reordered (star start front') where
  start := rfl
  accept := congrArg (·.insert start) inside.accept
  rules := by
    have enter : Rule.Reordered [.epsilon start front.start] [.epsilon start front'.start] :=
      inside.start ▸ .refl _
    exact inside.rules.append (enter.append (inside.bridges all inside.start))

end Fragment.Reordered

namespace Pattern

/-- Any order gives the fragment that increasing order gives, up to the order in runs. -/
theorem Compiles.reordered {pattern : Pattern} {next after : Nat} {fragment : Fragment}
    (compiles : pattern.Compiles next fragment after) :
    fragment.Reordered (pattern.fragment next).1 ∧ after = (pattern.fragment next).2 := by
  induction compiles with
  | empty new =>
    cases new
    exact ⟨.refl _, rfl⟩
  | literal symbol begins ends =>
    cases begins
    cases ends
    exact ⟨.refl _, rfl⟩
  | concat _ _ all hf hs =>
    obtain ⟨first, rfl⟩ := hf
    obtain ⟨second, rfl⟩ := hs
    exact ⟨first.concatIn second all, rfl⟩
  | choice _ _ new hf hs =>
    obtain ⟨first, rfl⟩ := hf
    obtain ⟨second, rfl⟩ := hs
    cases new
    exact ⟨first.choice second _, rfl⟩
  | star _ all new hb =>
    obtain ⟨inside, rfl⟩ := hb
    cases new
    exact ⟨inside.starIn all _, rfl⟩

end Pattern

/-! ### The place in the supply -/

namespace StateSet

variable (f : State → State)

/-- The members keep their order when `f` is applied. -/
def KeepsOrder (set : StateSet) : Prop := ∀ s ∈ set, ∀ t ∈ set, s < t → f s < f t

theorem toList_image {f : State → State} {set : StateSet} (keeps : set.KeepsOrder f) :
    (set.image f).toList = set.toList.map f := by
  refine eq_of_sorted (set.image f).sorted ?_ fun t => ?_
  · exact List.pairwise_map.mpr (set.sorted.imp_of_mem fun hs ht => keeps _ hs _ ht)
  · simp only [mem_toList, mem_image, List.mem_map]

theorem image_singleton (s : State) : (singleton s).image f = singleton (f s) := by
  apply ext
  intro t
  simp only [mem_image, mem_singleton, exists_eq_left]
  exact eq_comm

theorem image_insert (set : StateSet) (s : State) :
    (set.insert s).image f = (set.image f).insert (f s) := by
  apply ext
  intro t
  simp only [mem_image, mem_insert, or_and_right, exists_or, exists_eq_left]
  exact or_congr_left eq_comm

theorem image_union (left right : StateSet) :
    (left.union right).image f = (left.image f).union (right.image f) := by
  apply ext
  intro t
  simp only [mem_image, mem_union, or_and_right, exists_or]

end StateSet

/-- Takes the states of the supply from `old` on, in order, to those from `new` on. -/
def State.Shifts (f : State → State) (old new : Nat) : Prop :=
  ∀ place, f (.fresh (old + place)) = .fresh (new + place)

namespace State

variable {f : State → State} {old new : Nat}

theorem shifts_renumber (old new : Nat) : Shifts (renumber old new) old new := by
  intro place
  rw [renumber, Nat.add_sub_cancel_left, Nat.add_comm]

theorem Shifts.add (shifts : Shifts f old new) (count : Nat) :
    Shifts f (old + count) (new + count) := by
  intro place
  rw [Nat.add_assoc, shifts, Nat.add_assoc]

theorem Shifts.take (shifts : Shifts f old new) :
    f (State.take old).1 = (State.take new).1 ∧ Shifts f (State.take old).2 (State.take new).2 :=
  ⟨shifts 0, shifts.add 1⟩

theorem Shifts.increasing (shifts : Shifts f old new) {high : Nat} {s t : State}
    (first : s.IsFreshIn old high) (second : t.IsFreshIn old high) (before : s < t) :
    f s < f t := by
  obtain ⟨i, rfl, leastFirst, _⟩ := first
  obtain ⟨j, rfl, leastSecond, _⟩ := second
  obtain ⟨i, rfl⟩ := Nat.exists_eq_add_of_le leastFirst
  obtain ⟨j, rfl⟩ := Nat.exists_eq_add_of_le leastSecond
  rw [shifts, shifts]
  simp only [lt_def, rank] at before ⊢
  omega

end State

namespace Fragment

/-- The fragment with other states in place of its own. -/
def rename (f : State → State) (fragment : Fragment) : Fragment :=
  ⟨f fragment.start, fragment.accept.image f, fragment.rules.map (·.rename f)⟩

variable {f : State → State} {first body : Fragment}

theorem bridges_rename (keeps : first.accept.KeepsOrder f) (target : State) :
    (first.bridges target).map (·.rename f) = (first.rename f).bridges (f target) := by
  rw [bridges, bridges, rename, StateSet.toList_image keeps, List.map_map, List.map_map]
  rfl

theorem rename_empty (f : State → State) (start : State) :
    (empty start).rename f = empty (f start) := by
  rw [rename, empty, empty, StateSet.image_singleton, List.map_nil]

theorem rename_literal (f : State → State) (start : State) (symbol : Char) (accept : State) :
    (literal start symbol accept).rename f = literal (f start) symbol (f accept) := by
  rw [rename, literal, literal, StateSet.image_singleton]
  rfl

theorem rename_concat (keeps : first.accept.KeepsOrder f) (second : Fragment) :
    (concat first second).rename f = concat (first.rename f) (second.rename f) := by
  rw [rename, concat, List.map_append, List.map_append, bridges_rename keeps]
  rfl

theorem rename_choice (f : State → State) (start : State) (first second : Fragment) :
    (choice start first second).rename f =
      choice (f start) (first.rename f) (second.rename f) := by
  rw [rename, choice, StateSet.image_union, List.map_append, List.map_append]
  rfl

theorem rename_star (keeps : body.accept.KeepsOrder f) (start : State) :
    (star start body).rename f = star (f start) (body.rename f) := by
  rw [rename, star, StateSet.image_insert, List.map_append, List.map_cons, bridges_rename keeps]
  rfl

end Fragment

namespace Pattern

variable {f : State → State} {old new : Nat}

theorem keepsOrder_fragment (pattern : Pattern) (shifts : State.Shifts f old new) :
    (pattern.fragment old).1.accept.KeepsOrder f := by
  obtain ⟨_, within⟩ := within_fragment pattern old
  exact fun s hs t ht => shifts.increasing (within.accept s hs) (within.accept t ht)

/-- What compiling has used up does not depend on where it began. -/
theorem shifts_next_fragment (pattern : Pattern) (shifts : State.Shifts f old new) :
    State.Shifts f (pattern.fragment old).2 (pattern.fragment new).2 := by
  rw [next_fragment, next_fragment]
  exact shifts.add pattern.stateCount

/-- Compiling with the supply at another place takes the states from there in the same order. -/
theorem fragment_eq_rename (pattern : Pattern) (shifts : State.Shifts f old new) :
    (pattern.fragment new).1 = (pattern.fragment old).1.rename f := by
  induction pattern generalizing old new with
  | empty =>
    obtain ⟨start, _⟩ := shifts.take
    simp only [fragment, Fragment.rename_empty, start]
  | literal symbol =>
    obtain ⟨start, rest⟩ := shifts.take
    obtain ⟨accept, _⟩ := rest.take
    simp only [fragment, Fragment.rename_literal, start, accept]
  | concat first second hf hs =>
    have rest := shifts_next_fragment first shifts
    simp only [fragment, Fragment.rename_concat (keepsOrder_fragment first shifts), hf shifts,
      hs rest]
  | choice first second hf hs =>
    have rest := shifts_next_fragment first shifts
    obtain ⟨start, _⟩ := (shifts_next_fragment second rest).take
    simp only [fragment, Fragment.rename_choice, hf shifts, hs rest, start]
  | star body hb =>
    obtain ⟨start, _⟩ := (shifts_next_fragment body shifts).take
    simp only [fragment, Fragment.rename_star (keepsOrder_fragment body shifts), hb shifts, start]

end Pattern

/-! ### Order and place together -/

namespace Rule

theorem joinAt_rename {r s : Rule} (f : State → State) (joined : r.joinAt s = true) :
    (r.rename f).joinAt (s.rename f) = true := by
  obtain ⟨first, second, same⟩ := joinAt_iff.mp joined
  exact joinAt_iff.mpr ⟨first, second, congrArg f same⟩

theorem Reordered.rename {left right : List Rule} (f : State → State)
    (reordered : Reordered left right) :
    Reordered (left.map (·.rename f)) (right.map (·.rename f)) := by
  induction reordered with
  | nil => exact .nil
  | cons _ _ ih => exact .cons _ ih
  | swap joined _ => exact .swap (joinAt_rename f joined) _
  | trans _ _ ihFirst ihSecond => exact .trans ihFirst ihSecond

end Rule

theorem Fragment.Reordered.rename {left right : Fragment} (f : State → State)
    (same : left.Reordered right) : (left.rename f).Reordered (right.rename f) where
  start := congrArg f same.start
  accept := congrArg (·.image f) same.accept
  rules := same.rules.rename f

/-- The automaton with other states in place of its own. -/
def Nfa.rename (f : State → State) (nfa : Nfa) : Nfa :=
  .ofRules (f nfa.start) (nfa.accept.image f) (nfa.rules.map (·.rename f))

namespace Pattern

/-- The automaton of a pattern does not depend on the order in which accept states are taken nor on
where the supply stands. Taking them in increasing order is one way to compile; and of any two ways,
with the supply at any two places, the second goes over as much of the supply as the first and gives
the first automaton with its states, which are all from the supply, numbered from the second place:
the same start and accept states, and the same rules once each longest run of epsilon rules into one
state is listed by sources. -/
theorem compile_in_any_order (pattern : Pattern) (first second : Nat) :
    (∃ own, pattern.Compiles first own (pattern.compile first).2 ∧
      (pattern.compile first).1 = own.toNfa) ∧
    ∀ {one other : Fragment} {after after' : Nat}, pattern.Compiles first one after →
      pattern.Compiles second other after' →
        after' + first = after + second ∧
        (∀ s ∈ one.toNfa.allStates, ∃ id, s = .fresh id ∧ first ≤ id) ∧
        other.toNfa.start = (one.toNfa.rename (.renumber first second)).start ∧
        other.toNfa.accept = (one.toNfa.rename (.renumber first second)).accept ∧
        other.toNfa.shownRules = (one.toNfa.rename (.renumber first second)).shownRules := by
  refine ⟨⟨_, pattern.compiles_fragment first, rfl⟩, fun {one other _ _} here there => ?_⟩
  obtain ⟨sameOne, rfl⟩ := here.reordered
  obtain ⟨sameOther, rfl⟩ := there.reordered
  have renamed := pattern.fragment_eq_rename (State.shifts_renumber first second)
  have same : other.Reordered (one.rename (.renumber first second)) :=
    sameOther.trans (renamed ▸ (sameOne.rename _).symm)
  refine ⟨?_, fun s member => ?_, same.start, same.accept, same.rules.settle_eq⟩
  · rw [next_fragment, next_fragment]
    omega
  · have within := (pattern.within_fragment first).2
    obtain ⟨id, rfl, least, _⟩ := within.of_mem_allStates (sameOne.mem_allStates.mp member)
    exact ⟨id, rfl, least⟩

/-- Two ways to compile `(a*)*`: with the supply at its beginning and the later accept state of the
body first, or with the supply further on and the earlier one first. The bridges go on with the run
that the way into the loop begins, and stand in different orders in the two lists of rules. -/
theorem loop_in_two_orders :
    let body := Pattern.star (.literal 'a')
    let one := Fragment.starIn [.fresh 2, .fresh 1] (.fresh 3) (body.fragment 0).1
    let other := Fragment.starIn [.fresh 11, .fresh 12] (.fresh 13) (body.fragment 10).1
    (star body).Compiles 0 one 4 ∧ (star body).Compiles 10 other 14 ∧
      other.toNfa.rules ≠ (one.toNfa.rename (.renumber 0 10)).rules ∧
      other.toNfa.shownRules = (one.toNfa.rename (.renumber 0 10)).shownRules := by
  intro body one other
  have here : (star body).Compiles 0 one 4 := .star (body.compiles_fragment 0) (.swap _ _ _) rfl
  have there : (star body).Compiles 10 other 14 := .star (body.compiles_fragment 10) (.refl _) rfl
  obtain ⟨_, _, _, _, same⟩ := ((star body).compile_in_any_order 0 10).2 here there
  exact ⟨here, there, by decide, same⟩

end Pattern

end PatternAutomata
