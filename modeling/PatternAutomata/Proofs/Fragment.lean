import PatternAutomata.Pattern.Compile
import PatternAutomata.Proofs.Walk

/-!
# What fragments read

The states of a fragment are taken from one interval of the supply, and the intervals of its parts
do not overlap. So a walk that is in a part stays there until it takes a rule that was added around
the parts. Each `reads_*` lemma says what a fragment reads through what its parts read.
-/
namespace PatternAutomata

/-- A state of the supply from `low` on and before `high`. -/
def State.IsFreshIn (low high : Nat) (s : State) : Prop :=
  ∃ id, s = .fresh id ∧ low ≤ id ∧ id < high

namespace State

theorem IsFreshIn.mono {low high low' high' : Nat} {s : State} (fresh : s.IsFreshIn low high)
    (below : low' ≤ low) (above : high ≤ high') : s.IsFreshIn low' high' := by
  obtain ⟨id, rfl, least, most⟩ := fresh
  exact ⟨id, rfl, by omega, by omega⟩

theorem not_isFreshIn_of_isFreshIn {low middle high : Nat} {s : State}
    (fresh : s.IsFreshIn low middle) : ¬ s.IsFreshIn middle high := by
  obtain ⟨id, rfl, _, most⟩ := fresh
  rintro ⟨_, same, least, _⟩
  cases same
  omega

theorem isFreshIn_fresh {low high id : Nat} (least : low ≤ id) (most : id < high) :
    (fresh id).IsFreshIn low high := ⟨id, rfl, least, most⟩

theorem not_isFreshIn_fresh {low high : Nat} : ¬ (fresh high).IsFreshIn low high := by
  rintro ⟨id, same, _, most⟩
  cases same
  omega

end State

/-- A walk that no rule leads out of a region only takes rules of the region. -/
theorem Walk.confined {rules part : List Rule} {region : State → Prop}
    (closed : ∀ rule ∈ rules, region rule.source → rule ∈ part ∧ region rule.target)
    {s t : State} {text : List Char} (walk : Walk rules s text t) (inside : region s) :
    Walk part s text t ∧ region t := by
  induction walk with
  | done => exact ⟨.done _, inside⟩
  | step member _ ih =>
    obtain ⟨own, next⟩ := closed _ member inside
    obtain ⟨rest, last⟩ := ih next
    exact ⟨.step own rest, last⟩

namespace Fragment

/-- All states of a fragment are from one interval of the supply. -/
structure Within (fragment : Fragment) (low high : Nat) : Prop where
  start : fragment.start.IsFreshIn low high
  accept : ∀ s ∈ fragment.accept, s.IsFreshIn low high
  source : ∀ rule ∈ fragment.rules, rule.source.IsFreshIn low high
  target : ∀ rule ∈ fragment.rules, rule.target.IsFreshIn low high

/-- Some walk from the start to an accept state spells the text. -/
def Reads (fragment : Fragment) (text : List Char) : Prop :=
  ∃ t ∈ fragment.accept, Walk fragment.rules fragment.start text t

theorem mem_bridges {fragment : Fragment} {target : State} {rule : Rule} :
    rule ∈ fragment.bridges target ↔ ∃ s ∈ fragment.accept, rule = .epsilon s target := by
  simp only [bridges, List.mem_map, StateSet.mem_toList, eq_comm]

theorem reads_empty (start : State) (text : List Char) :
    (empty start).Reads text ↔ text = [] := by
  constructor
  · rintro ⟨t, _, walk⟩
    cases walk with
    | done => rfl
    | step member => exact absurd member List.not_mem_nil
  · rintro rfl
    exact ⟨start, StateSet.mem_singleton.mpr rfl, .done start⟩

theorem reads_literal {start accept : State} (different : start ≠ accept) (symbol : Char)
    (text : List Char) : (literal start symbol accept).Reads text ↔ text = [symbol] := by
  have only : ∀ rule ∈ (literal start symbol accept).rules,
      rule = .reading start symbol accept := fun _ => List.mem_singleton.mp
  constructor
  · rintro ⟨t, accepted, walk⟩
    have last : t = accept := StateSet.mem_singleton.mp accepted
    subst last
    generalize first : (literal start symbol t).start = s at walk
    cases walk with
    | done => exact absurd first different
    | step member rest =>
      cases only _ member
      generalize second : (Rule.reading start symbol t).target = s at rest
      cases rest with
      | done => rfl
      | step member =>
        cases only _ member
        exact absurd second.symm different
  · rintro rfl
    exact ⟨accept, StateSet.mem_singleton.mpr rfl, .reading (List.mem_singleton.mpr rfl) (.done _)⟩

theorem within_empty (next : Nat) : (empty (.fresh next)).Within next (next + 1) := by
  have start : (State.fresh next).IsFreshIn next (next + 1) :=
    State.isFreshIn_fresh (Nat.le_refl _) (by omega)
  refine ⟨start, fun s accepted => ?_, fun _ absent => ?_, fun _ absent => ?_⟩
  · rw [StateSet.mem_singleton.mp accepted]
    exact start
  · exact absurd absent List.not_mem_nil
  · exact absurd absent List.not_mem_nil

theorem within_literal (next : Nat) (symbol : Char) :
    (literal (.fresh next) symbol (.fresh (next + 1))).Within next (next + 2) := by
  have start : (State.fresh next).IsFreshIn next (next + 2) :=
    State.isFreshIn_fresh (Nat.le_refl _) (by omega)
  have accept : (State.fresh (next + 1)).IsFreshIn next (next + 2) :=
    State.isFreshIn_fresh (by omega) (by omega)
  refine ⟨start, fun s accepted => ?_, fun rule member => ?_, fun rule member => ?_⟩
  · rw [StateSet.mem_singleton.mp accepted]
    exact accept
  · rw [List.mem_singleton.mp member]
    exact start
  · rw [List.mem_singleton.mp member]
    exact accept

section Concat

variable {first second : Fragment} {low middle high : Nat}

theorem mem_rules_concat {rule : Rule} : rule ∈ (concat first second).rules ↔
    rule ∈ first.rules ∨ rule ∈ second.rules ∨
      ∃ s ∈ first.accept, rule = .epsilon s second.start := by
  simp only [concat, List.mem_append, mem_bridges, or_assoc]

/-- A walk from the first part to the end crosses over by one bridge. -/
theorem crosses_bridge (hf : first.Within low middle) (hs : second.Within middle high)
    {s t : State} {text : List Char} (walk : Walk (concat first second).rules s text t)
    (inside : s.IsFreshIn low middle) (accepted : t ∈ second.accept) :
    ∃ front back, text = front ++ back ∧
      (∃ a ∈ first.accept, Walk first.rules s front a) ∧ second.Reads back := by
  induction walk with
  | done => exact absurd (hs.accept _ accepted) (State.not_isFreshIn_of_isFreshIn inside)
  | @step rule text t member rest ih =>
    rcases mem_rules_concat.mp member with own | other | ⟨a, accepts, rfl⟩
    · obtain ⟨front, back, rfl, ⟨a, accepts, walk⟩, reads⟩ := ih (hf.target rule own) accepted
      exact ⟨rule.spelled ++ front, back, by rw [List.append_assoc], ⟨a, accepts, .step own walk⟩,
        reads⟩
    · exact absurd (hs.source rule other) (State.not_isFreshIn_of_isFreshIn inside)
    · have closed : ∀ rule ∈ (concat first second).rules,
          rule.source.IsFreshIn middle high →
            rule ∈ second.rules ∧ rule.target.IsFreshIn middle high := by
        intro rule member source
        rcases mem_rules_concat.mp member with other | own | ⟨b, accepts, rfl⟩
        · exact absurd source (State.not_isFreshIn_of_isFreshIn (hf.source rule other))
        · exact ⟨own, hs.target rule own⟩
        · exact absurd source (State.not_isFreshIn_of_isFreshIn (hf.accept b accepts))
      have confined := (rest.confined closed hs.start).1
      exact ⟨[], text, rfl, ⟨a, accepts, .done a⟩, t, accepted, confined⟩

theorem reads_concat (hf : first.Within low middle) (hs : second.Within middle high)
    (text : List Char) : (concat first second).Reads text ↔
      ∃ front back, text = front ++ back ∧ first.Reads front ∧ second.Reads back := by
  constructor
  · rintro ⟨t, accepted, walk⟩
    exact crosses_bridge hf hs walk hf.start accepted
  · rintro ⟨front, back, rfl, ⟨a, accepts, before⟩, ⟨t, accepted, after⟩⟩
    have before : Walk (concat first second).rules first.start front a :=
      before.mono fun rule member => mem_rules_concat.mpr (Or.inl member)
    have after : Walk (concat first second).rules second.start back t :=
      after.mono fun rule member => mem_rules_concat.mpr (Or.inr (Or.inl member))
    have bridge : Rule.epsilon a second.start ∈ (concat first second).rules :=
      mem_rules_concat.mpr (Or.inr (Or.inr ⟨a, accepts, rfl⟩))
    exact ⟨t, accepted, before.append (.free bridge after)⟩

theorem within_concat (hf : first.Within low middle) (hs : second.Within middle high)
    (least : low ≤ middle) (most : middle ≤ high) : (concat first second).Within low high := by
  refine ⟨hf.start.mono (Nat.le_refl _) most, fun s accepted => (hs.accept s accepted).mono least
    (Nat.le_refl _), fun rule member => ?_, fun rule member => ?_⟩
  · rcases mem_rules_concat.mp member with member | member | ⟨a, accepts, rfl⟩
    · exact (hf.source rule member).mono (Nat.le_refl _) most
    · exact (hs.source rule member).mono least (Nat.le_refl _)
    · exact (hf.accept a accepts).mono (Nat.le_refl _) most
  · rcases mem_rules_concat.mp member with member | member | ⟨a, accepts, rfl⟩
    · exact (hf.target rule member).mono (Nat.le_refl _) most
    · exact (hs.target rule member).mono least (Nat.le_refl _)
    · exact hs.start.mono least (Nat.le_refl _)

end Concat

section Choice

variable {start : State} {first second : Fragment} {low middle high : Nat}

theorem mem_rules_choice {rule : Rule} : rule ∈ (choice start first second).rules ↔
    rule ∈ first.rules ∨ rule ∈ second.rules ∨
      rule = .epsilon start first.start ∨ rule = .epsilon start second.start := by
  simp only [choice, List.mem_append, List.mem_cons, List.not_mem_nil, or_false, or_assoc]

/-- A walk that is in the first part stays there. -/
theorem stays_in_first (hf : first.Within low middle) (hs : second.Within middle high)
    (outside : ¬ start.IsFreshIn low middle) {s t : State} {text : List Char}
    (walk : Walk (choice start first second).rules s text t) (inside : s.IsFreshIn low middle) :
    Walk first.rules s text t ∧ t.IsFreshIn low middle := by
  refine walk.confined (fun rule member source => ?_) inside
  rcases mem_rules_choice.mp member with own | other | rfl | rfl
  · exact ⟨own, hf.target rule own⟩
  · exact absurd (hs.source rule other) (State.not_isFreshIn_of_isFreshIn source)
  · exact absurd source outside
  · exact absurd source outside

/-- A walk that is in the second part stays there. -/
theorem stays_in_second (hf : first.Within low middle) (hs : second.Within middle high)
    (outside : ¬ start.IsFreshIn middle high) {s t : State} {text : List Char}
    (walk : Walk (choice start first second).rules s text t) (inside : s.IsFreshIn middle high) :
    Walk second.rules s text t ∧ t.IsFreshIn middle high := by
  refine walk.confined (fun rule member source => ?_) inside
  rcases mem_rules_choice.mp member with other | own | rfl | rfl
  · exact absurd source (State.not_isFreshIn_of_isFreshIn (hf.source rule other))
  · exact ⟨own, hs.target rule own⟩
  · exact absurd source outside
  · exact absurd source outside

theorem reads_choice (hf : first.Within low middle) (hs : second.Within middle high)
    (notFirst : ¬ start.IsFreshIn low middle) (notSecond : ¬ start.IsFreshIn middle high)
    (text : List Char) :
    (choice start first second).Reads text ↔ first.Reads text ∨ second.Reads text := by
  constructor
  · rintro ⟨t, accepted, walk⟩
    have accepted : t ∈ first.accept ∨ t ∈ second.accept := StateSet.mem_union.mp accepted
    generalize begin : (choice start first second).start = s at walk
    have begin : start = s := begin
    cases walk with
    | done =>
      subst begin
      rcases accepted with accepted | accepted
      · exact absurd (hf.accept _ accepted) notFirst
      · exact absurd (hs.accept _ accepted) notSecond
    | @step rule text _ member rest =>
      rcases mem_rules_choice.mp member with member | member | rfl | rfl
      · exact absurd (begin ▸ hf.source rule member) notFirst
      · exact absurd (begin ▸ hs.source rule member) notSecond
      · obtain ⟨walk, last⟩ := stays_in_first hf hs notFirst rest hf.start
        rcases accepted with accepted | accepted
        · exact Or.inl ⟨t, accepted, walk⟩
        · exact absurd (hs.accept t accepted) (State.not_isFreshIn_of_isFreshIn last)
      · obtain ⟨walk, last⟩ := stays_in_second hf hs notSecond rest hs.start
        rcases accepted with accepted | accepted
        · exact absurd last (State.not_isFreshIn_of_isFreshIn (hf.accept t accepted))
        · exact Or.inr ⟨t, accepted, walk⟩
  · rintro (⟨t, accepted, walk⟩ | ⟨t, accepted, walk⟩)
    · have enter : Rule.epsilon start first.start ∈ (choice start first second).rules :=
        mem_rules_choice.mpr (Or.inr (Or.inr (Or.inl rfl)))
      have walk : Walk (choice start first second).rules first.start text t :=
        walk.mono fun rule member => mem_rules_choice.mpr (Or.inl member)
      exact ⟨t, StateSet.mem_union.mpr (Or.inl accepted), .free enter walk⟩
    · have enter : Rule.epsilon start second.start ∈ (choice start first second).rules :=
        mem_rules_choice.mpr (Or.inr (Or.inr (Or.inr rfl)))
      have walk : Walk (choice start first second).rules second.start text t :=
        walk.mono fun rule member => mem_rules_choice.mpr (Or.inr (Or.inl member))
      exact ⟨t, StateSet.mem_union.mpr (Or.inr accepted), .free enter walk⟩

theorem within_choice (hf : first.Within low middle) (hs : second.Within middle high)
    (least : low ≤ middle) (most : middle ≤ high) :
    (choice (.fresh high) first second).Within low (high + 1) := by
  have start : (State.fresh high).IsFreshIn low (high + 1) :=
    State.isFreshIn_fresh (by omega) (by omega)
  refine ⟨start, fun s accepted => ?_, fun rule member => ?_, fun rule member => ?_⟩
  · rcases StateSet.mem_union.mp accepted with accepted | accepted
    · exact (hf.accept s accepted).mono (Nat.le_refl _) (by omega)
    · exact (hs.accept s accepted).mono least (by omega)
  · rcases mem_rules_choice.mp member with member | member | rfl | rfl
    · exact (hf.source rule member).mono (Nat.le_refl _) (by omega)
    · exact (hs.source rule member).mono least (by omega)
    · exact start
    · exact start
  · rcases mem_rules_choice.mp member with member | member | rfl | rfl
    · exact (hf.target rule member).mono (Nat.le_refl _) (by omega)
    · exact (hs.target rule member).mono least (by omega)
    · exact hf.start.mono (Nat.le_refl _) (by omega)
    · exact hs.start.mono least (by omega)

end Choice

section Star

variable {start : State} {body : Fragment} {low high : Nat}

theorem mem_rules_star {rule : Rule} : rule ∈ (star start body).rules ↔
    rule ∈ body.rules ∨ rule = .epsilon start body.start ∨
      ∃ s ∈ body.accept, rule = .epsilon s body.start := by
  simp only [star, List.mem_append, List.mem_cons, mem_bridges]

/-- All rules lead into the body, and none into the new start. -/
theorem target_star (hb : body.Within low high) :
    ∀ rule ∈ (star start body).rules, rule.target.IsFreshIn low high := by
  intro rule member
  rcases mem_rules_star.mp member with own | rfl | ⟨a, _, rfl⟩
  · exact hb.target rule own
  · exact hb.start
  · exact hb.start

/-- A walk from within the body to one of its accept states leaves the body only to begin it
again. -/
theorem splits_at_loops (hb : body.Within low high) (outside : ¬ start.IsFreshIn low high)
    {s t : State} {text : List Char} (walk : Walk (star start body).rules s text t)
    (inside : s.IsFreshIn low high) (accepted : t ∈ body.accept) :
    ∃ (front : List Char) (pieces : List (List Char)), text = front ++ pieces.flatten ∧
      (∃ a ∈ body.accept, Walk body.rules s front a) ∧ ∀ piece ∈ pieces, body.Reads piece := by
  induction walk with
  | done s => exact ⟨[], [], rfl, ⟨s, accepted, .done s⟩, by simp⟩
  | @step rule text t member rest ih =>
    rcases mem_rules_star.mp member with own | rfl | ⟨a, accepts, rfl⟩
    · obtain ⟨front, pieces, rfl, ⟨a, accepts, walk⟩, reads⟩ := ih (hb.target rule own) accepted
      exact ⟨rule.spelled ++ front, pieces, by rw [List.append_assoc], ⟨a, accepts, .step own walk⟩,
        reads⟩
    · exact absurd inside outside
    · obtain ⟨front, pieces, rfl, first, reads⟩ := ih hb.start accepted
      refine ⟨[], front :: pieces, rfl, ⟨a, accepts, .done a⟩, fun piece member => ?_⟩
      rcases List.mem_cons.mp member with rfl | member
      · exact first
      · exact reads piece member

/-- From an accept state the body can be gone through any number of times. -/
theorem loops (start : State) {pieces : List (List Char)}
    (reads : ∀ piece ∈ pieces, body.Reads piece) {a : State} (accepts : a ∈ body.accept) :
    ∃ t ∈ body.accept, Walk (star start body).rules a pieces.flatten t := by
  induction pieces generalizing a with
  | nil => exact ⟨a, accepts, .done a⟩
  | cons piece pieces ih =>
    obtain ⟨b, accepted, walk⟩ := reads piece List.mem_cons_self
    obtain ⟨t, last, rest⟩ :=
      ih (fun piece member => reads piece (List.mem_cons_of_mem _ member)) accepted
    have back : Rule.epsilon a body.start ∈ (star start body).rules :=
      mem_rules_star.mpr (Or.inr (Or.inr ⟨a, accepts, rfl⟩))
    have through : Walk (star start body).rules body.start piece b :=
      walk.mono fun rule member => mem_rules_star.mpr (Or.inl member)
    exact ⟨t, last, (Walk.free back through).append rest⟩

theorem reads_star (hb : body.Within low high) (outside : ¬ start.IsFreshIn low high)
    (text : List Char) : (star start body).Reads text ↔
      ∃ pieces : List (List Char), text = pieces.flatten ∧ ∀ piece ∈ pieces, body.Reads piece := by
  have enter : Rule.epsilon start body.start ∈ (star start body).rules :=
    mem_rules_star.mpr (Or.inr (Or.inl rfl))
  constructor
  · rintro ⟨t, accepted, walk⟩
    have accepted : t = start ∨ t ∈ body.accept := StateSet.mem_insert.mp accepted
    generalize begin : (star start body).start = s at walk
    have begin : start = s := begin
    cases walk with
    | done => exact ⟨[], rfl, by simp⟩
    | @step rule text _ member rest =>
      have stays : Walk (star start body).rules rule.target text t ∧ t.IsFreshIn low high :=
        rest.confined (fun rule member _ => ⟨member, target_star hb rule member⟩)
          (target_star hb rule member)
      have accepted : t ∈ body.accept := by
        rcases accepted with rfl | accepted
        · exact absurd stays.2 outside
        · exact accepted
      rcases mem_rules_star.mp member with own | rfl | ⟨a, accepts, rfl⟩
      · exact absurd (begin ▸ hb.source rule own) outside
      · obtain ⟨front, pieces, rfl, first, reads⟩ :=
          splits_at_loops hb outside rest hb.start accepted
        refine ⟨front :: pieces, rfl, fun piece member => ?_⟩
        rcases List.mem_cons.mp member with rfl | member
        · exact first
        · exact reads piece member
      · exact absurd (begin ▸ hb.accept a accepts) outside
  · rintro ⟨pieces, rfl, reads⟩
    cases pieces with
    | nil => exact ⟨start, StateSet.mem_insert.mpr (Or.inl rfl), .done start⟩
    | cons piece pieces =>
      obtain ⟨a, accepts, walk⟩ := reads piece List.mem_cons_self
      obtain ⟨t, accepted, rest⟩ :=
        loops start (fun piece member => reads piece (List.mem_cons_of_mem _ member)) accepts
      have through : Walk (star start body).rules body.start piece a :=
        walk.mono fun rule member => mem_rules_star.mpr (Or.inl member)
      exact ⟨t, StateSet.mem_insert.mpr (Or.inr accepted), (Walk.free enter through).append rest⟩

theorem within_star (hb : body.Within low high) (least : low ≤ high) :
    (star (.fresh high) body).Within low (high + 1) := by
  have start : (State.fresh high).IsFreshIn low (high + 1) :=
    State.isFreshIn_fresh least (by omega)
  refine ⟨start, fun s accepted => ?_, fun rule member => ?_, fun rule member => ?_⟩
  · rcases StateSet.mem_insert.mp accepted with rfl | accepted
    · exact start
    · exact (hb.accept s accepted).mono (Nat.le_refl _) (by omega)
  · rcases mem_rules_star.mp member with member | rfl | ⟨a, accepts, rfl⟩
    · exact (hb.source rule member).mono (Nat.le_refl _) (by omega)
    · exact start
    · exact (hb.accept a accepts).mono (Nat.le_refl _) (by omega)
  · exact (target_star hb rule member).mono (Nat.le_refl _) (by omega)

end Star

end Fragment

end PatternAutomata
