import Mathlib.Data.List.Nodup
import PatternAutomata.Proofs.Language
import PatternAutomata.Proofs.Supply

/-!
# Compiled automata are trim

Every state of the automaton of a pattern lies on a way from the start to an accept state, no rule
is listed twice and none leads into the start (`compile_isTrim`). The clauses are proved together,
since each needs another of a part: a star lists no rule twice because no rule leads into the start
of its body, and what is behind a bridge is reached because the first part accepts somewhere.
-/
namespace PatternAutomata

/-- Some rules, one after the other, lead from a state to a state; none are needed from a state to
itself. -/
def Leads (rules : List Rule) (s t : State) : Prop := ∃ text, Walk rules s text t

namespace Leads

variable {rules : List Rule} {s t u : State}

theorem refl (rules : List Rule) (s : State) : Leads rules s s := ⟨[], .done s⟩

theorem trans (first : Leads rules s t) (second : Leads rules t u) : Leads rules s u := by
  obtain ⟨front, before⟩ := first
  obtain ⟨back, after⟩ := second
  exact ⟨front ++ back, before.append after⟩

theorem epsilon (member : Rule.epsilon s t ∈ rules) : Leads rules s t :=
  ⟨[], .free member (.done t)⟩

theorem mono {more : List Rule} (sub : ∀ rule ∈ rules, rule ∈ more) (leads : Leads rules s t) :
    Leads more s t := by
  obtain ⟨text, walk⟩ := leads
  exact ⟨text, walk.mono sub⟩

end Leads

/-- Nothing of the automaton is idle: each state is reached from the start and goes on to an accept
state, and each rule is listed once. The start is left for good. -/
structure Nfa.IsTrim (nfa : Nfa) : Prop where
  entry : ∀ rule ∈ nfa.rules, rule.target ≠ nfa.start
  nodup : nfa.rules.Nodup
  accepts : ∃ s, s ∈ nfa.accept
  reached : ∀ s ∈ nfa.allStates, Leads nfa.rules nfa.start s
  finishes : ∀ s ∈ nfa.allStates, ∃ t ∈ nfa.accept, Leads nfa.rules s t

namespace State.IsFreshIn

variable {low middle high : Nat} {s t : State}

theorem ne (early : s.IsFreshIn low middle) (late : t.IsFreshIn middle high) : s ≠ t := by
  intro same
  subst same
  exact not_isFreshIn_of_isFreshIn early late

theorem ne_fresh (inside : s.IsFreshIn low high) : s ≠ fresh high := by
  intro same
  subst same
  exact not_isFreshIn_fresh inside

theorem eq_fresh (inside : s.IsFreshIn low (low + 1)) : s = fresh low := by
  obtain ⟨id, rfl, least, most⟩ := inside
  rw [Nat.le_antisymm (Nat.le_of_lt_succ most) least]

end State.IsFreshIn

namespace Fragment

/-- The fragment is trim as it stands, and its states are exactly those of one interval of the
supply. -/
structure Trim (fragment : Fragment) (low high : Nat) : Prop extends fragment.Fills low high where
  entry : ∀ rule ∈ fragment.rules, rule.target ≠ fragment.start
  nodup : fragment.rules.Nodup
  reached : ∀ s : State, s.IsFreshIn low high → Leads fragment.rules fragment.start s
  finishes : ∀ s : State, s.IsFreshIn low high → ∃ t ∈ fragment.accept, Leads fragment.rules s t

theorem Trim.isTrim {fragment : Fragment} {low high : Nat} (trim : fragment.Trim low high) :
    fragment.toNfa.IsTrim where
  entry := trim.entry
  nodup := trim.nodup
  accepts := trim.accepts
  reached s member := trim.reached s (trim.toWithin.of_mem_allStates member)
  finishes s member := trim.finishes s (trim.toWithin.of_mem_allStates member)

/-- A part has its rules in the whole fragment, where its start is reached and each of its accept
states goes on to an accept state. -/
structure PartOf (part whole : Fragment) : Prop where
  rules : ∀ rule ∈ part.rules, rule ∈ whole.rules
  enter : Leads whole.rules whole.start part.start
  leave : ∀ a ∈ part.accept, ∃ t ∈ whole.accept, Leads whole.rules a t

namespace PartOf

variable {part whole : Fragment} {low high : Nat} {s : State}

theorem reached (inside : part.PartOf whole) (trim : part.Trim low high)
    (own : s.IsFreshIn low high) : Leads whole.rules whole.start s :=
  inside.enter.trans ((trim.reached s own).mono inside.rules)

theorem finishes (inside : part.PartOf whole) (trim : part.Trim low high)
    (own : s.IsFreshIn low high) : ∃ t ∈ whole.accept, Leads whole.rules s t := by
  obtain ⟨a, accepts, before⟩ := trim.finishes s own
  obtain ⟨t, accepted, after⟩ := inside.leave a accepts
  exact ⟨t, accepted, (before.mono inside.rules).trans after⟩

end PartOf

theorem trim_empty (next : Nat) : (empty (.fresh next)).Trim next (next + 1) where
  toFills := fills_empty next
  entry _ absent := absurd absent List.not_mem_nil
  nodup := .nil
  reached s inside := by
    rw [inside.eq_fresh]
    exact .refl _ _
  finishes s inside := by
    rw [inside.eq_fresh]
    exact ⟨_, StateSet.mem_singleton.mpr rfl, .refl _ _⟩

theorem trim_literal (next : Nat) (symbol : Char) :
    (literal (.fresh next) symbol (.fresh (next + 1))).Trim next (next + 2) := by
  have only : ∀ rule ∈ (literal (.fresh next) symbol (.fresh (next + 1))).rules,
      rule = .reading (.fresh next) symbol (.fresh (next + 1)) := fun _ => List.mem_singleton.mp
  have crossed : Leads (literal (.fresh next) symbol (.fresh (next + 1))).rules (.fresh next)
      (.fresh (next + 1)) := ⟨[symbol], .reading (List.mem_singleton.mpr rfl) (.done _)⟩
  refine ⟨fills_literal next symbol, fun rule member => ?_, List.nodup_singleton _,
    fun s inside => ?_, fun s inside => ⟨.fresh (next + 1), StateSet.mem_singleton.mpr rfl, ?_⟩⟩
  · rw [only rule member]
    intro same
    cases same
  · rcases inside.split (next + 1) with first | second
    · rw [first.eq_fresh]
      exact .refl _ _
    · rw [second.eq_fresh]
      exact crossed
  · rcases inside.split (next + 1) with first | second
    · rw [first.eq_fresh]
      exact crossed
    · rw [second.eq_fresh]
      exact .refl _ _

theorem nodup_bridges (fragment : Fragment) (target : State) : (fragment.bridges target).Nodup :=
  fragment.accept.nodup_toList.map fun _ _ same => congrArg Rule.source same

/-- Rules that read nothing add no symbol. -/
theorem exists_reading_append {rules added : List Rule} {symbol : Char}
    (free : ∀ rule ∈ added, rule.symbol? = none) :
    (∃ rule ∈ rules ++ added, rule.symbol? = some symbol) ↔
      ∃ rule ∈ rules, rule.symbol? = some symbol := by
  constructor
  · rintro ⟨rule, member, reads⟩
    rcases List.mem_append.mp member with own | new
    · exact ⟨rule, own, reads⟩
    · rw [free rule new] at reads
      cases reads
  · rintro ⟨rule, own, reads⟩
    exact ⟨rule, List.mem_append_left _ own, reads⟩

section Parts

variable {first second body : Fragment} {low middle high : Nat}

/-- Parts that share no state share no rule. -/
theorem nodup_parts (hf : first.Trim low middle) (hs : second.Trim middle high) :
    (first.rules ++ second.rules).Nodup := by
  refine List.nodup_append.mpr ⟨hf.nodup, hs.nodup, fun rule own other late same => ?_⟩
  subst same
  exact (hf.source rule own).ne (hs.source rule late) rfl

theorem nodup_concat (hf : first.Trim low middle) (hs : second.Trim middle high) :
    (concat first second).rules.Nodup := by
  refine List.nodup_append.mpr ⟨nodup_parts hf hs, first.nodup_bridges _,
    fun rule member bridge added same => ?_⟩
  subst same
  obtain ⟨a, accepts, rfl⟩ := mem_bridges.mp added
  -- a bridge goes from one part to the other, which no rule of a part does
  rcases List.mem_append.mp member with own | late
  · exact (hf.target _ own).ne hs.start rfl
  · exact (hf.accept a accepts).ne (hs.source _ late) rfl

theorem nodup_choice (hf : first.Trim low middle) (hs : second.Trim middle high)
    (most : middle ≤ high) : (choice (.fresh high) first second).rules.Nodup := by
  have entries : [Rule.epsilon (.fresh high) first.start,
      .epsilon (.fresh high) second.start].Nodup := by
    refine List.nodup_cons.mpr ⟨fun member => ?_, List.nodup_singleton _⟩
    exact hf.start.ne hs.start (congrArg Rule.target (List.mem_singleton.mp member))
  refine List.nodup_append.mpr ⟨nodup_parts hf hs, entries, fun rule member entry added same => ?_⟩
  subst same
  have source : rule.source = .fresh high := by
    simp only [List.mem_cons, List.not_mem_nil, or_false] at added
    rcases added with rfl | rfl <;> rfl
  rcases List.mem_append.mp member with own | late
  · exact ((hf.source rule own).mono (Nat.le_refl _) most).ne_fresh source
  · exact (hs.source rule late).ne_fresh source

/-- The rules that go back to the start of the body are new, since the body has none. -/
theorem nodup_star (hb : body.Trim low high) : (star (.fresh high) body).rules.Nodup := by
  have entry : Rule.epsilon (.fresh high) body.start ∉ body.bridges body.start := by
    intro member
    obtain ⟨a, accepts, same⟩ := mem_bridges.mp member
    exact (hb.accept a accepts).ne_fresh (congrArg Rule.source same).symm
  refine List.nodup_append.mpr ⟨hb.nodup, List.nodup_cons.mpr ⟨entry, body.nodup_bridges _⟩,
    fun rule own other added same => ?_⟩
  subst same
  have target : rule.target = body.start := by
    rcases List.mem_cons.mp added with rfl | added
    · rfl
    · obtain ⟨a, _, rfl⟩ := mem_bridges.mp added
      rfl
  exact hb.entry rule own target

theorem first_partOf_concat (hs : second.Trim middle high) :
    first.PartOf (concat first second) where
  rules _ member := mem_rules_concat.mpr (.inl member)
  enter := .refl _ _
  leave a accepts := by
    obtain ⟨t, accepted, after⟩ := hs.finishes second.start hs.start
    have bridge : Leads (concat first second).rules a second.start :=
      .epsilon (mem_rules_concat.mpr (.inr (.inr ⟨a, accepts, rfl⟩)))
    exact ⟨t, accepted,
      bridge.trans (after.mono fun rule member => mem_rules_concat.mpr (.inr (.inl member)))⟩

theorem second_partOf_concat (hf : first.Trim low middle) :
    second.PartOf (concat first second) where
  rules _ member := mem_rules_concat.mpr (.inr (.inl member))
  enter := by
    obtain ⟨a, accepts⟩ := hf.accepts
    have before : Leads (concat first second).rules first.start a :=
      (hf.reached a (hf.accept a accepts)).mono fun _ member => mem_rules_concat.mpr (.inl member)
    exact before.trans (.epsilon (mem_rules_concat.mpr (.inr (.inr ⟨a, accepts, rfl⟩))))
  leave a accepts := ⟨a, accepts, .refl _ _⟩

theorem first_partOf_choice (start : State) : first.PartOf (choice start first second) where
  rules _ member := mem_rules_choice.mpr (.inl member)
  enter := .epsilon (mem_rules_choice.mpr (.inr (.inr (.inl rfl))))
  leave a accepts := ⟨a, StateSet.mem_union.mpr (.inl accepts), .refl _ _⟩

theorem second_partOf_choice (start : State) : second.PartOf (choice start first second) where
  rules _ member := mem_rules_choice.mpr (.inr (.inl member))
  enter := .epsilon (mem_rules_choice.mpr (.inr (.inr (.inr rfl))))
  leave a accepts := ⟨a, StateSet.mem_union.mpr (.inr accepts), .refl _ _⟩

theorem body_partOf_star (start : State) : body.PartOf (star start body) where
  rules _ member := mem_rules_star.mpr (.inl member)
  enter := .epsilon (mem_rules_star.mpr (.inr (.inl rfl)))
  leave a accepts := ⟨a, StateSet.mem_insert.mpr (.inr accepts), .refl _ _⟩

theorem trim_concat (hf : first.Trim low middle) (hs : second.Trim middle high)
    (least : low ≤ middle) (most : middle ≤ high) : (concat first second).Trim low high where
  toFills := fills_concat hf.toFills hs.toFills least most
  nodup := nodup_concat hf hs
  entry rule member := by
    rcases mem_rules_concat.mp member with own | late | ⟨a, _, rfl⟩
    · exact hf.entry rule own
    · exact (hf.start.ne (hs.target rule late)).symm
    · exact (hf.start.ne hs.start).symm
  reached s inside := by
    rcases inside.split middle with early | late
    · exact (first_partOf_concat hs).reached hf early
    · exact (second_partOf_concat hf).reached hs late
  finishes s inside := by
    rcases inside.split middle with early | late
    · exact (first_partOf_concat hs).finishes hf early
    · exact (second_partOf_concat hf).finishes hs late

theorem trim_choice (hf : first.Trim low middle) (hs : second.Trim middle high)
    (least : low ≤ middle) (most : middle ≤ high) :
    (choice (.fresh high) first second).Trim low (high + 1) where
  toFills := fills_choice hf.toFills hs.toFills least most
  nodup := nodup_choice hf hs most
  entry rule member := by
    rcases mem_rules_choice.mp member with own | late | rfl | rfl
    · exact ((hf.target rule own).mono (Nat.le_refl _) most).ne_fresh
    · exact (hs.target rule late).ne_fresh
    · exact (hf.start.mono (Nat.le_refl _) most).ne_fresh
    · exact hs.start.ne_fresh
  reached s inside := by
    rcases inside.split high with part | new
    · rcases part.split middle with early | late
      · exact (first_partOf_choice _).reached hf early
      · exact (second_partOf_choice _).reached hs late
    · rw [new.eq_fresh]
      exact .refl _ _
  finishes s inside := by
    rcases inside.split high with part | new
    · rcases part.split middle with early | late
      · exact (first_partOf_choice _).finishes hf early
      · exact (second_partOf_choice _).finishes hs late
    · rw [new.eq_fresh]
      -- the start goes on through either part
      obtain ⟨t, accepted, after⟩ := (first_partOf_choice _).finishes hf hf.start
      exact ⟨t, accepted, (first_partOf_choice _).enter.trans after⟩

theorem trim_star (hb : body.Trim low high) (least : low ≤ high) :
    (star (.fresh high) body).Trim low (high + 1) where
  toFills := fills_star hb.toFills least
  nodup := nodup_star hb
  entry rule member := (target_star hb.toWithin rule member).ne_fresh
  reached s inside := by
    rcases inside.split high with part | new
    · exact (body_partOf_star _).reached hb part
    · rw [new.eq_fresh]
      exact .refl _ _
  finishes s inside := by
    rcases inside.split high with part | new
    · exact (body_partOf_star _).finishes hb part
    · rw [new.eq_fresh]
      exact ⟨_, StateSet.mem_insert.mpr (.inl rfl), .refl _ _⟩

end Parts

end Fragment

namespace Pattern

theorem trim_fragment (pattern : Pattern) (next : Nat) :
    (pattern.fragment next).1.Trim next (pattern.fragment next).2 := by
  induction pattern generalizing next with
  | empty => exact Fragment.trim_empty next
  | literal symbol => exact Fragment.trim_literal next symbol
  | concat first second hf hs =>
    exact Fragment.trim_concat (hf next) (hs _) (within_fragment first next).1
      (within_fragment second _).1
  | choice first second hf hs =>
    exact Fragment.trim_choice (hf next) (hs _) (within_fragment first next).1
      (within_fragment second _).1
  | star body hb => exact Fragment.trim_star (hb next) (within_fragment body next).1

/-- The rules read the symbols of the literals, each of which is read somewhere. -/
theorem reads_symbol_iff (pattern : Pattern) (next : Nat) (symbol : Char) :
    (∃ rule ∈ (pattern.fragment next).1.rules, rule.symbol? = some symbol) ↔
      symbol ∈ pattern.literals := by
  induction pattern generalizing next with
  | empty => simp [fragment, Fragment.empty, literals]
  | literal own => simp [fragment, Fragment.literal, Rule.reading, literals, eq_comm]
  | concat first second hf hs =>
    refine (Fragment.exists_reading_append fun rule added => ?_).trans ?_
    · obtain ⟨a, _, rfl⟩ := Fragment.mem_bridges.mp added
      rfl
    · simp only [List.mem_append, or_and_right, exists_or, hf, hs, literals]
  | choice first second hf hs =>
    refine (Fragment.exists_reading_append fun rule added => ?_).trans ?_
    · simp only [List.mem_cons, List.not_mem_nil, or_false] at added
      rcases added with rfl | rfl <;> rfl
    · simp only [List.mem_append, or_and_right, exists_or, hf, hs, literals]
  | star body hb =>
    refine (Fragment.exists_reading_append fun rule added => ?_).trans (hb next)
    rcases List.mem_cons.mp added with rfl | added
    · rfl
    · obtain ⟨a, _, rfl⟩ := Fragment.mem_bridges.mp added
      rfl

/-- The automaton of a pattern, its states taken from anywhere in the supply, is trim, and its
alphabet lists the symbols of the literals, each once and in order. -/
theorem compile_isTrim (pattern : Pattern) (next : Nat) :
    (pattern.compile next).1.IsTrim ∧
      (pattern.compile next).1.table.alphabet.Pairwise (· < ·) ∧
      ∀ symbol, symbol ∈ (pattern.compile next).1.table.alphabet ↔ symbol ∈ pattern.literals := by
  refine ⟨(trim_fragment pattern next).isTrim, RuleTable.alphabet_sorted _, fun symbol => ?_⟩
  exact RuleTable.mem_alphabet.trans (reads_symbol_iff pattern next symbol)

end Pattern

end PatternAutomata
