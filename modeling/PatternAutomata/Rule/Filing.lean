import PatternAutomata.Rule.Table

/-!
# Filing rules one by one

An index may also be filled by filing each rule behind those with its key. What it then finds is the
positions of the rules with the key it is asked for (`getD_filed`), and the keys it has are those of
the rules (`mem_filed`). Rules without a key are left out: by `symbolKey?`, those that read nothing.
-/
namespace PatternAutomata

namespace Rule

/-- A key for rules that read a symbol. -/
abbrev SymbolKey := State × Char

/-- A key is hashed by its state and the code of its symbol. -/
instance : Hashable SymbolKey := ⟨fun key => mixHash (hash key.1) (hash key.2.toNat)⟩

/-- What a rule is looked up by if it reads a symbol. -/
def symbolKey? (rule : Rule) : Option SymbolKey := rule.symbol?.map (rule.source, ·)

end Rule

namespace RuleIndex

/-- The symbols of the keys of an index, each once, in increasing order. -/
def symbols (index : Std.HashMap Rule.SymbolKey (List Nat)) : List Char :=
  (index.keys.map (·.2)).foldr RuleTable.alphabet.place []

variable {κ : Type} [BEq κ] [Hashable κ] {key? : Rule → Option κ}

/-- Puts the position of a rule behind those that its key has. A rule without a key is left out. -/
def file (key? : Rule → Option κ) (index : Std.HashMap κ (List Nat)) (entry : Rule × Nat) :
    Std.HashMap κ (List Nat) :=
  match key? entry.1 with
  | some key => index.insert key (index.getD key [] ++ [entry.2])
  | none => index

/-- The index of rules that are filed one after the other. -/
def filed (key? : Rule → Option κ) (rules : List Rule) : Std.HashMap κ (List Nat) :=
  rules.zipIdx.foldl (file key?) ∅

variable [LawfulBEq κ]

theorem getD_file (index : Std.HashMap κ (List Nat)) (entry : Rule × Nat) (key : κ) :
    (file key? index entry).getD key [] =
      index.getD key [] ++ if key? entry.1 == some key then [entry.2] else [] := by
  unfold file
  split
  · next own found =>
    rw [Std.HashMap.getD_insert, found]
    by_cases same : own = key
    · simp [same]
    · simp [same]
  · next absent => simp [absent]

theorem getD_foldl_file (entries : List (Rule × Nat)) (index : Std.HashMap κ (List Nat))
    (key : κ) : (entries.foldl (file key?) index).getD key [] =
      index.getD key [] ++ (entries.filter (key? ·.1 == some key)).map (·.2) := by
  induction entries generalizing index with
  | nil => simp
  | cons entry rest ih =>
    rw [List.foldl_cons, ih, getD_file, List.append_assoc, List.filter_cons]
    by_cases own : (key? entry.1 == some key) = true
    · simp [own]
    · simp [own]

/-- Filing rule by rule, each key gets the positions of the rules that have it, in their order. -/
theorem getD_filed (rules : List Rule) (key : κ) : (filed key? rules).getD key [] =
    (rules.zipIdx.filter (key? ·.1 == some key)).map (·.2) := by
  rw [filed, getD_foldl_file, Std.HashMap.getD_empty, List.nil_append]

theorem mem_file {index : Std.HashMap κ (List Nat)} {entry : Rule × Nat} {key : κ} :
    key ∈ file key? index entry ↔ key ∈ index ∨ key? entry.1 = some key := by
  unfold file
  split
  · next own found =>
    rw [Std.HashMap.mem_insert, beq_iff_eq, found, Option.some_inj, or_comm]
  · next absent => simp [absent]

theorem mem_foldl_file {entries : List (Rule × Nat)} {index : Std.HashMap κ (List Nat)} {key : κ} :
    key ∈ entries.foldl (file key?) index ↔
      key ∈ index ∨ ∃ entry ∈ entries, key? entry.1 = some key := by
  induction entries generalizing index with
  | nil => simp
  | cons entry rest ih =>
    simp only [List.foldl_cons, ih, mem_file, or_assoc, List.mem_cons, exists_eq_or_imp]

/-- The keys of an index are those of the rules that have been filed. -/
theorem mem_filed {rules : List Rule} {key : κ} :
    key ∈ filed key? rules ↔ ∃ rule ∈ rules, key? rule = some key := by
  rw [filed, mem_foldl_file, or_iff_right Std.HashMap.not_mem_empty]
  constructor
  · rintro ⟨⟨rule, _⟩, listed, own⟩
    exact ⟨rule, List.fst_mem_of_mem_zipIdx listed, own⟩
  · rintro ⟨rule, listed, own⟩
    obtain ⟨place, inside, rfl⟩ := List.getElem_of_mem listed
    exact ⟨(rules[place], place), List.mk_mem_zipIdx_iff_getElem?.mpr
      (List.getElem?_eq_getElem inside), own⟩

end RuleIndex

end PatternAutomata
