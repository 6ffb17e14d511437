import PatternAutomata.Proofs.Fragment

/-!
# Compiling keeps the meaning

The automaton of a pattern accepts the texts that the pattern stands for, wherever in the supply its
states are taken from. The induction is on the pattern: its fragment is within the interval of the
supply that compiling has used up (`within_fragment`), which keeps the fragments of two operands
apart, and reads what the pattern denotes (`reads_fragment`).
-/
namespace PatternAutomata.Pattern

/-- Compiling only goes forward in the supply and takes all states from what it goes over. -/
theorem within_fragment (pattern : Pattern) (next : Nat) :
    next ≤ (pattern.fragment next).2 ∧
      (pattern.fragment next).1.Within next (pattern.fragment next).2 := by
  induction pattern generalizing next with
  | empty => exact ⟨Nat.le_succ next, Fragment.within_empty next⟩
  | literal symbol => exact ⟨Nat.le_add_right next 2, Fragment.within_literal next symbol⟩
  | concat first second hf hs =>
    obtain ⟨least, first⟩ := hf next
    obtain ⟨most, second⟩ := hs (fragment _ next).2
    exact ⟨Nat.le_trans least most, Fragment.within_concat first second least most⟩
  | choice first second hf hs =>
    obtain ⟨least, first⟩ := hf next
    obtain ⟨most, second⟩ := hs (fragment _ next).2
    exact ⟨Nat.le_succ_of_le (Nat.le_trans least most),
      Fragment.within_choice first second least most⟩
  | star body hb =>
    obtain ⟨least, body⟩ := hb next
    exact ⟨Nat.le_succ_of_le least, Fragment.within_star body least⟩

/-- The fragment of a pattern reads what the pattern stands for. -/
theorem reads_fragment (pattern : Pattern) (next : Nat) (text : List Char) :
    (pattern.fragment next).1.Reads text ↔ pattern.Denotes text := by
  induction pattern generalizing next text with
  | empty => exact Fragment.reads_empty _ text
  | literal symbol =>
    have different : State.fresh next ≠ State.fresh (next + 1) := by
      intro same
      cases same
    exact Fragment.reads_literal different symbol text
  | concat first second hf hs =>
    have split := Fragment.reads_concat (within_fragment first next).2
      (within_fragment second (first.fragment next).2).2 text
    simp only [hf, hs] at split
    exact split
  | choice first second hf hs =>
    obtain ⟨_, within_first⟩ := within_fragment first next
    obtain ⟨most, within_second⟩ := within_fragment second (first.fragment next).2
    have notFirst : ¬ (State.fresh (second.fragment (first.fragment next).2).2).IsFreshIn next
        (first.fragment next).2 := fun fresh =>
      State.not_isFreshIn_fresh (fresh.mono (Nat.le_refl _) most)
    have either := Fragment.reads_choice within_first within_second notFirst
      State.not_isFreshIn_fresh text
    simp only [hf, hs] at either
    exact either
  | star body hb =>
    have pieces := Fragment.reads_star (within_fragment body next).2
      State.not_isFreshIn_fresh text
    simp only [hb] at pieces
    exact pieces

theorem accepts_compile (pattern : Pattern) (next : Nat) (text : List Char) :
    (pattern.compile next).1.accepts text = true ↔ pattern.Denotes text :=
  Nfa.accepts_iff_walk.trans (reads_fragment pattern next text)

/-- The automaton of a pattern, its states taken from anywhere in the supply, accepts exactly the
texts that the pattern stands for, and so matching decides the meaning of the pattern. -/
theorem compile_accepts_iff_denotes (pattern : Pattern) (next : Nat) (text : List Char) :
    ((pattern.compile next).1.accepts text = true ↔ pattern.Denotes text) ∧
      ((pattern.matchesFrom next text).1 = true ↔ pattern.Denotes text) :=
  ⟨accepts_compile pattern next text, accepts_compile pattern next text⟩

end PatternAutomata.Pattern
