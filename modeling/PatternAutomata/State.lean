/-!
# States

A state is either labelled by hand or taken from a supply that never repeats itself. States are
ordered by `State.rank`: labelled states come first, each kind by its number.
-/
namespace PatternAutomata

/-- The identity of a point of an automaton. -/
inductive State where
  /-- A state named by hand. -/
  | labelled (label : UInt32)
  /-- The `id`-th state of the supply. -/
  | fresh (id : Nat)
  deriving DecidableEq, Hashable, Repr, Inhabited

namespace State

/-- Takes the next state from the supply, and says what is next in the supply after it. -/
def take (next : Nat) : State × Nat := (fresh next, next + 1)

/-- How many labels there are. -/
@[noinline] def labelCount : Nat := UInt32.size

/-- Place in the order of states: all labels, then the supply. -/
def rank : State → Nat
  | labelled label => label.toNat
  | fresh id => labelCount + id

theorem rank_injective {s t : State} (h : s.rank = t.rank) : s = t := by
  cases s with
  | labelled a =>
    cases t with
    | labelled b => exact congrArg labelled (UInt32.toNat_inj.1 h)
    | fresh j => have := a.toNat_lt; simp only [rank, labelCount, UInt32.size] at h; omega
  | fresh i =>
    cases t with
    | labelled b => have := b.toNat_lt; simp only [rank, labelCount, UInt32.size] at h; omega
    | fresh j => simp only [rank] at h; exact congrArg fresh (by omega)

instance : LT State := ⟨fun s t => s.rank < t.rank⟩

instance (s t : State) : Decidable (s < t) := inferInstanceAs (Decidable (s.rank < t.rank))

theorem lt_def {s t : State} : s < t ↔ s.rank < t.rank := Iff.rfl

theorem lt_irrefl (s : State) : ¬ s < s := Nat.lt_irrefl _

theorem lt_trans {s t u : State} (h : s < t) (k : t < u) : s < u := Nat.lt_trans h k

/-- Of two different states one comes first. -/
theorem lt_or_lt_of_ne {s t : State} (h : s ≠ t) : s < t ∨ t < s :=
  Nat.lt_or_gt_of_ne fun e => h (rank_injective e)

instance : Ord State := ⟨fun s t => compare s.rank t.rank⟩

/-- The label of a state named by hand. -/
def label? : State → Option UInt32
  | labelled label => some label
  | fresh _ => none

def isFresh : State → Bool
  | labelled _ => false
  | fresh _ => true

/-- A label is written as its number, a state of the supply with a leading `q`. -/
def render : State → String
  | labelled label => toString label.toNat
  | fresh id => "q" ++ toString id

end State

end PatternAutomata
