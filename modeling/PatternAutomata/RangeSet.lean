/-!
# Sets as lists of ranges

A set over an ordered alphabet is kept as a list of ranges. `Endpoint` numbers the members of the
alphabet and says which comes next, so an alphabet may have holes: `Char` has one, the surrogates.
`RangeSet.ofRanges` sorts ranges and joins those that overlap or touch, so that the ranges of its
sets are separated. Every operation keeps them so but `RangeSet.negate`, whose ranges may touch at a
hole; `RangeSet.joined` joins those too.
-/
namespace PatternAutomata

/-- An alphabet whose members can bound a range. -/
class Endpoint (α : Type) where
  /-- The number of a member, which decides the order. -/
  rank : α → Nat
  rank_injective : ∀ {a b : α}, rank a = rank b → a = b
  least : α
  greatest : α
  /-- The member after this one; the greatest is its own successor. -/
  next : α → α
  /-- The member before this one; the least is its own predecessor. -/
  previous : α → α

open Endpoint (rank)

namespace Endpoint

/-- The last scalar value before the surrogates, and the first after them. -/
def surrogateGap : Char × Char := ('\uD7FF', '\uE000')

instance : Endpoint Char where
  rank := Char.toNat
  rank_injective h := Char.toNat_inj.1 h
  least := '\x00'
  greatest := Char.ofNat 0x10FFFF
  next c :=
    if c = surrogateGap.1 then surrogateGap.2
    else if c.toNat = 0x10FFFF then c
    else Char.ofNat (c.toNat + 1)
  previous c := if c = surrogateGap.2 then surrogateGap.1 else Char.ofNat (c.toNat - 1)

instance : Endpoint UInt8 where
  rank := UInt8.toNat
  rank_injective h := UInt8.toNat_inj.1 h
  least := 0
  greatest := 255
  next b := if b = 255 then b else b + 1
  previous b := if b = 0 then b else b - 1

end Endpoint

/-- All members of the alphabet from `low` to `high`. -/
structure Range (α : Type) [Endpoint α] where
  low : α
  high : α
  ordered : rank low ≤ rank high
  deriving DecidableEq, Repr

namespace Range

variable {α : Type} [Endpoint α]

/-- The range with the given ends, in whichever order they come. -/
def between (a b : α) : Range α :=
  if h : rank a ≤ rank b then ⟨a, b, h⟩ else ⟨b, a, by omega⟩

/-- The range of one member. -/
def single (a : α) : Range α := ⟨a, a, Nat.le_refl _⟩

/-- How many numbers lie between the ends; a hole inside the range is counted too. -/
def size (r : Range α) : Nat := rank r.high - rank r.low + 1

def contains (r : Range α) (a : α) : Bool := rank r.low ≤ rank a && rank a ≤ rank r.high

/-- The order in which ranges are listed: by lower end, then by upper end. -/
def before (r s : Range α) : Bool :=
  rank r.low < rank s.low || (rank r.low == rank s.low && rank r.high ≤ rank s.high)

/-- A range that is not listed before `r`, joined to `r`. -/
def extend (r s : Range α) : Range α :=
  if h : rank r.high ≤ rank s.high then ⟨r.low, s.high, Nat.le_trans r.ordered h⟩ else r

/-- What two ranges share. -/
def overlap (r s : Range α) : Option (Range α) :=
  let low := if rank r.low ≤ rank s.low then s.low else r.low
  let high := if rank r.high ≤ rank s.high then r.high else s.high
  if h : rank low ≤ rank high then some ⟨low, high, h⟩ else none

/-- What is left of `r` without `s`: nothing, `r` itself, or a piece on either side of `s`. -/
def without (r s : Range α) : List (Range α) :=
  if (r.overlap s).isNone then [r]
  else
    let left := if rank r.low < rank s.low then [between r.low (Endpoint.previous s.low)] else []
    let right := if rank s.high < rank r.high then [between (Endpoint.next s.high) r.high] else []
    left ++ right

theorem extend_low (r s : Range α) : (r.extend s).low = r.low := by
  unfold extend; split <;> rfl

end Range

/-- A set of members of an alphabet, as a list of ranges. -/
structure RangeSet (α : Type) [Endpoint α] where
  ranges : List (Range α)
  deriving DecidableEq, Repr

namespace RangeSet

variable {α : Type} [Endpoint α]

/-- The ranges are in increasing order, and between two of them lies a number of no member. -/
def IsSeparated (set : RangeSet α) : Prop :=
  set.ranges.Pairwise fun r s => rank r.high + 1 < rank s.low

/-- Joins `current` to the ranges after it as long as they overlap or touch it. -/
def glue (current : Range α) : List (Range α) → List (Range α)
  | [] => [current]
  | r :: rest =>
    if rank r.low ≤ rank current.high + 1 then glue (current.extend r) rest
    else current :: glue r rest

/-- Joins ranges that are listed by their lower ends. -/
def join : List (Range α) → List (Range α)
  | [] => []
  | r :: rest => glue r rest

theorem le_low_of_mem_glue {bound : Nat} {current : Range α} {rest : List (Range α)}
    (first : bound ≤ rank current.low) (others : ∀ r ∈ rest, bound ≤ rank r.low) :
    ∀ r ∈ glue current rest, bound ≤ rank r.low := by
  induction rest generalizing current with
  | nil => simpa [glue] using first
  | cons s rest ih =>
    have hs := others s List.mem_cons_self
    have hrest : ∀ r ∈ rest, bound ≤ rank r.low := fun r hr => others r (List.mem_cons_of_mem _ hr)
    unfold glue
    split
    · exact ih (by rw [Range.extend_low]; exact first) hrest
    · intro r hr
      rcases List.mem_cons.1 hr with rfl | hr
      · exact first
      · exact ih hs hrest r hr

theorem glue_separated {current : Range α} {rest : List (Range α)}
    (listed : (current :: rest).Pairwise fun r s => rank r.low ≤ rank s.low) :
    (glue current rest).Pairwise fun r s => rank r.high + 1 < rank s.low := by
  induction rest generalizing current with
  | nil => exact List.pairwise_singleton _ _
  | cons s rest ih =>
    have ⟨first, others⟩ := List.pairwise_cons.1 listed
    have ⟨second, tail⟩ := List.pairwise_cons.1 others
    unfold glue
    split
    · refine ih (List.pairwise_cons.2 ⟨fun r hr => ?_, tail⟩)
      rw [Range.extend_low]
      exact first r (List.mem_cons_of_mem _ hr)
    · next apart =>
      refine List.pairwise_cons.2 ⟨?_, ih others⟩
      exact le_low_of_mem_glue (by omega) fun r hr => by have := second r hr; omega

theorem before_total (r s : Range α) : (r.before s || s.before r) = true := by
  simp only [Range.before, Bool.or_eq_true, decide_eq_true_eq, Bool.and_eq_true, beq_iff_eq]
  omega

theorem before_trans (r s t : Range α) (h : r.before s = true) (k : s.before t = true) :
    r.before t = true := by
  simp only [Range.before, Bool.or_eq_true, decide_eq_true_eq, Bool.and_eq_true, beq_iff_eq] at *
  omega

theorem low_le_of_before {r s : Range α} (h : r.before s = true) : rank r.low ≤ rank s.low := by
  simp only [Range.before, Bool.or_eq_true, decide_eq_true_eq, Bool.and_eq_true, beq_iff_eq] at h
  omega

theorem join_separated {list : List (Range α)}
    (listed : list.Pairwise fun r s => rank r.low ≤ rank s.low) :
    (join list).Pairwise fun r s => rank r.high + 1 < rank s.low := by
  cases list with
  | nil => exact .nil
  | cons r rest => exact glue_separated listed

/-- The union of some ranges. -/
def ofRanges (list : List (Range α)) : RangeSet α := ⟨join (list.mergeSort Range.before)⟩

theorem isSeparated_ofRanges (list : List (Range α)) : (ofRanges list).IsSeparated :=
  join_separated <|
    (List.pairwise_mergeSort (fun r s t => before_trans r s t) before_total list).imp low_le_of_before

/-- The same set with separated ranges. -/
def joined (set : RangeSet α) : RangeSet α := ofRanges set.ranges

def empty : RangeSet α := ⟨[]⟩

instance : Inhabited (RangeSet α) := ⟨empty⟩

/-- The whole alphabet. -/
def all : RangeSet α := ofRanges [.between Endpoint.least Endpoint.greatest]

def single (a : α) : RangeSet α := ⟨[.single a]⟩

def isEmpty (set : RangeSet α) : Bool := set.ranges.isEmpty

def contains (set : RangeSet α) (a : α) : Bool := set.ranges.any (·.contains a)

/-- The sizes of the ranges, summed. -/
def size (set : RangeSet α) : Nat := set.ranges.foldr (fun r total => r.size + total) 0

/-- The one member of a set that has just one. -/
def only? (set : RangeSet α) : Option α :=
  match set.ranges with
  | [r] => if rank r.low = rank r.high then some r.low else none
  | _ => none

def union (left right : RangeSet α) : RangeSet α := ofRanges (left.ranges ++ right.ranges)

def intersect (left right : RangeSet α) : RangeSet α :=
  ofRanges (left.ranges.flatMap fun r => right.ranges.filterMap r.overlap)

def difference (left right : RangeSet α) : RangeSet α :=
  ofRanges <| left.ranges.flatMap fun r =>
    right.ranges.foldl (fun pieces s => pieces.flatMap (·.without s)) [r]

def symmetricDifference (left right : RangeSet α) : RangeSet α :=
  (left.union right).difference (left.intersect right)

/-- The ranges between the listed ones, and after the last of them. -/
def gapsAfter (last : Range α) : List (Range α) → List (Range α)
  | [] =>
    if rank last.high < rank (Endpoint.greatest : α) then
      [.between (Endpoint.next last.high) Endpoint.greatest]
    else []
  | r :: rest =>
    .between (Endpoint.next last.high) (Endpoint.previous r.low) :: gapsAfter r rest

/-- What the listed ranges leave out. Where they end and begin on either side of a hole of the
alphabet, nothing lies between them and the gap is the range of those two ends. -/
def gaps : List (Range α) → List (Range α)
  | [] => [.between Endpoint.least Endpoint.greatest]
  | r :: rest =>
    let first :=
      if rank (Endpoint.least : α) < rank r.low then
        [.between Endpoint.least (Endpoint.previous r.low)]
      else []
    first ++ gapsAfter r rest

/-- The gaps of a set, as they are. -/
def negate (set : RangeSet α) : RangeSet α := ⟨gaps set.ranges⟩

/-- Whether every member has a number of at most `bound`. -/
def within (set : RangeSet α) (bound : Nat) : Bool := set.ranges.all (rank ·.high ≤ bound)

end RangeSet

/-- A set of characters. -/
abbrev CharSet := RangeSet Char

/-- A set of bytes. -/
abbrev ByteSet := RangeSet UInt8

namespace CharSet

/-- The set of the characters in some ranges of code points. A range that begins or ends in the
surrogates is left out; one that goes across them stays whole. -/
def ofCodes (codes : List (Nat × Nat)) : CharSet :=
  .ofRanges <| codes.filterMap fun (low, high) =>
    if low.isValidChar ∧ high.isValidChar then some (.between (.ofNat low) (.ofNat high)) else none

/-- The members of a set, in order. -/
def members (set : CharSet) : List Char :=
  set.ranges.flatMap fun r =>
    (List.range' r.low.toNat r.size).filterMap fun code =>
      if h : code.isValidChar then some (Char.ofNatAux code h) else none

end CharSet

end PatternAutomata
