import PatternAutomata.RangeSet

/-!
# Packed sets of code points

The tables of the character database are kept as text. A number is written in base 26, most
significant digit first, with lower-case letters and an upper-case letter for its last digit, so
numbers need no separator. A set is written as pairs: how many code points to skip, and how many
more than one to take.
-/
namespace PatternAutomata.Unicode.Packed

/-- The numbers of a packed text; an unfinished one at the end is dropped. -/
def numbers (text : List String) : List Nat :=
  let digit (state : Array Nat × Nat) (c : Char) : Array Nat × Nat :=
    if c.isUpper then (state.1.push (state.2 * 26 + (c.toNat - 'A'.toNat)), 0)
    else (state.1, state.2 * 26 + (c.toNat - 'a'.toNat))
  (text.foldl (fun state line => line.foldl digit state) (#[], 0)).1.toList

/-- The ranges that pairs of numbers stand for, the first of them counted from `start`. -/
def rangesFrom (start : Nat) : List Nat → List (Nat × Nat)
  | skip :: more :: rest =>
    (start + skip, start + skip + more) :: rangesFrom (start + skip + more + 1) rest
  | _ => []

/-- The ranges of code points of a packed set, in increasing order. -/
def codes (text : List String) : List (Nat × Nat) := rangesFrom 0 (numbers text)

/-- The characters of a packed set. -/
def set (text : List String) : CharSet := .ofCodes (codes text)

/-- A packed set under a name, which may also be called by other names. -/
structure Entry where
  name : String
  aliases : List String
  packed : List String
  deriving Repr

namespace Entry

def codes (entry : Entry) : List (Nat × Nat) := Packed.codes entry.packed

def set (entry : Entry) : CharSet := Packed.set entry.packed

end Entry

/-- Merges ranges of code points, of sets without common members, into increasing order. -/
def mergeCodes (parts : List (List (Nat × Nat))) : List (Nat × Nat) :=
  let listed := parts.flatten.mergeSort fun a b => a.1 ≤ b.1
  listed.foldr
    (fun (low, high) rest =>
      match rest with
      | (low', high') :: later => if low' = high + 1 then (low, high') :: later
        else (low, high) :: rest
      | [] => [(low, high)])
    []

end PatternAutomata.Unicode.Packed
