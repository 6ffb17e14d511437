import PatternAutomata.Proofs.WrittenMeaning

/-!
# The grammar of written patterns

A written pattern is a choice of branches, a branch is a row of parts, a part is an atom with stars
behind it, and an atom is a symbol or a choice in brackets (`Parses`). Rows of parts and of branches
group to the right; which way they were grouped is not written, so patterns are compared up to
`Regroups`. The grammar leaves no doubt about a text: a reader that never looks ahead finds the tree
of every text that has one (`treeOf_eq_of_parses`).
-/
namespace PatternAutomata.Pattern

/-- What a part of a written pattern can be. -/
inductive Phrase where
  /-- A symbol, or a choice in brackets. -/
  | atom
  /-- An atom with any number of stars. -/
  | part
  /-- Parts, one after the other. -/
  | branch
  /-- Branches with bars between them. -/
  | choice
  deriving DecidableEq, Repr

/-- The text is a phrase that stands for the tree. -/
inductive Parses : Phrase → List Char → Pattern → Prop
  | symbol {c : Char} (plain : c ∉ marks) : Parses .atom [c] (.literal c)
  | brackets {text : List Char} {tree : Pattern} (inside : Parses .choice text tree) :
      Parses .atom ('(' :: text ++ [')']) tree
  | atom {text : List Char} {tree : Pattern} (only : Parses .atom text tree) :
      Parses .part text tree
  | star {text : List Char} {tree : Pattern} (body : Parses .part text tree) :
      Parses .part (text ++ ['*']) (.star tree)
  | part {text : List Char} {tree : Pattern} (only : Parses .part text tree) :
      Parses .branch text tree
  | concat {front back : List Char} {first second : Pattern} (begins : Parses .part front first)
      (ends : Parses .branch back second) : Parses .branch (front ++ back) (.concat first second)
  | branch {text : List Char} {tree : Pattern} (only : Parses .branch text tree) :
      Parses .choice text tree
  | choice {front back : List Char} {first second : Pattern} (one : Parses .branch front first)
      (others : Parses .choice back second) :
      Parses .choice (front ++ '|' :: back) (.choice first second)

/-- The patterns differ only in how nested concatenations and nested choices are grouped. -/
inductive Regroups : Pattern → Pattern → Prop
  | refl (pattern : Pattern) : Regroups pattern pattern
  | symm {left right : Pattern} (same : Regroups left right) : Regroups right left
  | trans {left middle right : Pattern} (first : Regroups left middle)
      (second : Regroups middle right) : Regroups left right
  | concat_assoc (first second third : Pattern) :
      Regroups (.concat (.concat first second) third) (.concat first (.concat second third))
  | choice_assoc (first second third : Pattern) :
      Regroups (.choice (.choice first second) third) (.choice first (.choice second third))
  | concat {first second first' second' : Pattern} (begins : Regroups first first')
      (ends : Regroups second second') : Regroups (.concat first second) (.concat first' second')
  | choice {first second first' second' : Pattern} (one : Regroups first first')
      (other : Regroups second second') : Regroups (.choice first second) (.choice first' second')
  | star {body body' : Pattern} (inside : Regroups body body') : Regroups (.star body) (.star body')

/-- The grammar reads the text as the pattern, up to grouping. -/
def WrittenAs (pattern : Pattern) (text : String) : Prop :=
  ∃ tree, Parses .choice text.toList tree ∧ tree.Regroups pattern

section Phrases

variable {front back : List Char} {first second : Pattern}

/-- Branches may be put together. -/
theorem Parses.append (begins : Parses .branch front first) (ends : Parses .branch back second) :
    ∃ tree, Parses .branch (front ++ back) tree ∧ tree.Regroups (.concat first second) := by
  generalize kind : Phrase.branch = phrase at begins
  induction begins with
  | part only => exact ⟨_, .concat only ends, .refl _⟩
  | @concat front rest p q part _ _ ih =>
    obtain ⟨tree, whole, grouped⟩ := ih kind
    rw [List.append_assoc]
    exact ⟨.concat p tree, .concat part whole,
      (Regroups.concat (.refl p) grouped).trans (.symm (.concat_assoc p q second))⟩
  | symbol | brackets | atom | star | branch | choice => cases kind

/-- Choices may be put together. -/
theorem Parses.bar (begins : Parses .choice front first) (ends : Parses .choice back second) :
    ∃ tree, Parses .choice (front ++ '|' :: back) tree ∧ tree.Regroups (.choice first second) := by
  generalize kind : Phrase.choice = phrase at begins
  induction begins with
  | branch only => exact ⟨_, .choice only ends, .refl _⟩
  | @choice front rest p q one _ _ ih =>
    obtain ⟨tree, whole, grouped⟩ := ih kind
    rw [List.append_assoc, List.cons_append]
    exact ⟨.choice p tree, .choice one whole,
      (Regroups.choice (.refl p) grouped).trans (.symm (.choice_assoc p q second))⟩
  | symbol | brackets | atom | star | part | concat => cases kind

end Phrases

/-! ### A reader -/

/-- Joins the items of a list to the right; without items there is nothing to join. -/
def gather (join : Pattern → Pattern → Pattern) : List Pattern → Pattern
  | [] => empty
  | [only] => only
  | first :: second :: rest => join first (gather join (second :: rest))

theorem gather_cons {join : Pattern → Pattern → Pattern} {rest : List Pattern} (first : Pattern)
    (more : rest ≠ []) : gather join (first :: rest) = join first (gather join rest) := by
  cases rest with
  | nil => exact absurd rfl more
  | cons second rest => rfl

/-- What has been read inside one pair of brackets: the branches that are finished and the parts of
the branch that is being read, the last of each first. -/
structure Scope where
  branches : List Pattern
  parts : List Pattern

namespace Scope

def addPart (scope : Scope) (part : Pattern) : Scope := { scope with parts := part :: scope.parts }

def branch (scope : Scope) : Pattern := gather .concat scope.parts.reverse

/-- The tree, if the last branch ends here. -/
def tree (scope : Scope) : Pattern := gather .choice (scope.branches.reverse ++ [scope.branch])

end Scope

/-- The scope that is being read, and those around it, the closest first. -/
structure Scopes where
  scope : Scope
  outer : List Scope

namespace Scopes

/-- Reads one character. Where the grammar does not allow it nothing is said about what follows. -/
def read (scopes : Scopes) (c : Char) : Scopes :=
  match c with
  | '(' => ⟨⟨[], []⟩, scopes.scope :: scopes.outer⟩
  | ')' =>
    match scopes.outer with
    | [] => scopes
    | around :: outer => ⟨around.addPart scopes.scope.tree, outer⟩
  | '|' => ⟨⟨scopes.scope.branch :: scopes.scope.branches, []⟩, scopes.outer⟩
  | '*' =>
    match scopes.scope.parts with
    | [] => scopes
    | part :: parts => ⟨⟨scopes.scope.branches, .star part :: parts⟩, scopes.outer⟩
  | c => ⟨scopes.scope.addPart (.literal c), scopes.outer⟩

def readAll (scopes : Scopes) (text : List Char) : Scopes := text.foldl read scopes

theorem readAll_cons (scopes : Scopes) (c : Char) (text : List Char) :
    scopes.readAll (c :: text) = (scopes.read c).readAll text := rfl

theorem readAll_append (scopes : Scopes) (front back : List Char) :
    scopes.readAll (front ++ back) = (scopes.readAll front).readAll back := List.foldl_append

theorem read_symbol {c : Char} (plain : c ∉ marks) (scopes : Scopes) :
    scopes.read c = ⟨scopes.scope.addPart (.literal c), scopes.outer⟩ := by
  unfold read
  split
  · exact absurd (by decide) plain
  · exact absurd (by decide) plain
  · exact absurd (by decide) plain
  · exact absurd (by decide) plain
  · rfl

end Scopes

/-- The tree that the reader finds for a text. -/
def treeOf (text : List Char) : Pattern :=
  ((Scopes.mk ⟨[], []⟩ []).readAll text).scope.tree

/-- The reader takes the text for one part. -/
def TakesPart (text : List Char) (part : Pattern) : Prop :=
  ∀ scope outer, (Scopes.mk scope outer).readAll text = ⟨scope.addPart part, outer⟩

/-- The reader takes the text for parts that make up the tree. -/
def TakesParts (text : List Char) (tree : Pattern) : Prop :=
  ∃ parts, parts ≠ [] ∧ gather .concat parts = tree ∧ ∀ scope outer,
    (Scopes.mk scope outer).readAll text = ⟨⟨scope.branches, parts.reverse ++ scope.parts⟩, outer⟩

/-- After finished branches the reader takes the text for further branches that make up the tree,
the last of which may go on. -/
def TakesBranches (text : List Char) (tree : Pattern) : Prop :=
  ∃ branches parts, gather .choice (branches ++ [gather .concat parts]) = tree ∧
    ∀ finished outer, (Scopes.mk ⟨finished, []⟩ outer).readAll text =
      ⟨⟨branches.reverse ++ finished, parts.reverse⟩, outer⟩

/-- What the reader does on a phrase. -/
def Takes : Phrase → List Char → Pattern → Prop
  | .atom => TakesPart
  | .part => TakesPart
  | .branch => TakesParts
  | .choice => TakesBranches

section Reader

variable {text front back : List Char} {tree first second : Pattern}

theorem TakesBranches.exists_tree (takes : TakesBranches text tree) (outer : List Scope) :
    ∃ last : Scope, (Scopes.mk ⟨[], []⟩ outer).readAll text = ⟨last, outer⟩ ∧ last.tree = tree := by
  obtain ⟨branches, parts, gathered, reads⟩ := takes
  refine ⟨_, reads [] outer, ?_⟩
  rw [Scope.tree, Scope.branch, List.append_nil, List.reverse_reverse, List.reverse_reverse,
    gathered]

theorem takesPart_symbol {c : Char} (plain : c ∉ marks) : TakesPart [c] (.literal c) := by
  intro scope outer
  exact Scopes.read_symbol plain _

theorem TakesBranches.brackets (takes : TakesBranches text tree) :
    TakesPart ('(' :: text ++ [')']) tree := by
  intro scope outer
  obtain ⟨last, reads, rfl⟩ := takes.exists_tree (scope :: outer)
  rw [List.cons_append, Scopes.readAll_cons, Scopes.readAll_append]
  have opened : (Scopes.mk scope outer).read '(' = ⟨⟨[], []⟩, scope :: outer⟩ := rfl
  rw [opened, reads]
  rfl

theorem TakesPart.star (takes : TakesPart text tree) : TakesPart (text ++ ['*']) (.star tree) := by
  intro scope outer
  rw [Scopes.readAll_append, takes]
  rfl

theorem TakesPart.parts (takes : TakesPart text tree) : TakesParts text tree :=
  ⟨[tree], List.cons_ne_nil _ _, rfl, takes⟩

theorem TakesPart.concat (begins : TakesPart front first) (ends : TakesParts back second) :
    TakesParts (front ++ back) (.concat first second) := by
  obtain ⟨parts, some, rfl, reads⟩ := ends
  refine ⟨first :: parts, List.cons_ne_nil _ _, gather_cons first some, fun scope outer => ?_⟩
  rw [Scopes.readAll_append, begins, reads, List.reverse_cons, List.append_assoc]
  rfl

theorem TakesParts.branches (takes : TakesParts text tree) : TakesBranches text tree := by
  obtain ⟨parts, _, rfl, reads⟩ := takes
  refine ⟨[], parts, rfl, fun finished outer => ?_⟩
  rw [reads, List.append_nil]
  rfl

theorem TakesParts.choice (one : TakesParts front first) (others : TakesBranches back second) :
    TakesBranches (front ++ '|' :: back) (.choice first second) := by
  obtain ⟨own, _, rfl, reads⟩ := one
  obtain ⟨branches, parts, rfl, goesOn⟩ := others
  refine ⟨gather .concat own :: branches, parts, ?_, fun finished outer => ?_⟩
  · exact gather_cons _ (List.append_ne_nil_of_right_ne_nil _ (List.cons_ne_nil _ _))
  · have ended : (Scopes.mk ⟨finished, own.reverse ++ []⟩ outer).read '|' =
        ⟨⟨gather .concat own :: finished, []⟩, outer⟩ := by
      rw [List.append_nil]
      exact congrArg (fun parts => Scopes.mk ⟨gather .concat parts :: finished, []⟩ outer)
        (List.reverse_reverse own)
    rw [Scopes.readAll_append, reads, Scopes.readAll_cons, ended, goesOn, List.reverse_cons,
      List.append_assoc]
    rfl

/-- The reader follows every rule of the grammar. -/
theorem Parses.takes {phrase : Phrase} (parses : Parses phrase text tree) :
    Takes phrase text tree := by
  induction parses with
  | symbol plain => exact takesPart_symbol plain
  | brackets _ inside => exact TakesBranches.brackets inside
  | atom _ only => exact only
  | star _ body => exact TakesPart.star body
  | part _ only => exact TakesPart.parts only
  | concat _ _ begins ends => exact TakesPart.concat begins ends
  | branch _ only => exact TakesParts.branches only
  | choice _ _ one others => exact TakesParts.choice one others

theorem treeOf_eq_of_parses (parses : Parses .choice text tree) : treeOf text = tree := by
  obtain ⟨last, reads, rfl⟩ := TakesBranches.exists_tree parses.takes []
  rw [treeOf, reads]

/-- No text has two trees. -/
theorem Parses.unique {other : Pattern} (parses : Parses .choice text tree)
    (parses' : Parses .choice text other) : tree = other :=
  (treeOf_eq_of_parses parses).symm.trans (treeOf_eq_of_parses parses')

end Reader

end PatternAutomata.Pattern
