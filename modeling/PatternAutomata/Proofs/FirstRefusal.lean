import PatternAutomata.Proofs.Translate

/-!
# Which node is refused

An expression is refused for one of its nodes, and the error is that of the first node that cannot
be said, where a node comes after its parts and those come from left to right
(`ofExpr_reports_first_offence`). The search along the nodes stops where translating stops
(`ofExpr_eq_error_iff`), though translating goes down the tree and knows nothing of the list. Allowing
larger classes never changes a pattern.
-/
namespace PatternAutomata

namespace Expr

/-- A node cannot be said, whatever its parts are, and the reason describes it. -/
inductive Offends (limit : Nat) : Expr → Unsupported → Prop
  | look (kind : Look) : Offends limit (.look kind) (.assertion kind)
  | bytes (set : ByteSet) : Offends limit (.bytes set) .byteClass
  | emptyClass {set : CharSet} (empty : set.ranges = []) : Offends limit (.chars set) .emptyClass
  | largeClass {set : CharSet} (large : limit < set.size) :
      Offends limit (.chars set) (.largeClass set.size limit)
  | notUtf8 {encoded : ByteArray} (spellsNothing : ∀ text : List Char, text.utf8Encode ≠ encoded) :
      Offends limit (.literal encoded) .notUtf8
  | counted {min : Nat} {max? : Option Nat} {greedy : Bool} {body : Expr}
      (bounds : (min, max?) ∉ [(0, none), (1, none), (0, some 1), (1, some 1)]) :
      Offends limit (.repetition min max? greedy body) (.countedRepetition min max?)

mutual

/-- The nodes of an expression, each after its parts. -/
def nodes : Expr → List Expr
  | repetition min max? greedy body => body.nodes ++ [repetition min max? greedy body]
  | capture index name? body => body.nodes ++ [capture index name? body]
  | concat items => nodesOfAll items ++ [concat items]
  | alternation branches => nodesOfAll branches ++ [alternation branches]
  | leaf => [leaf]

/-- The nodes of several expressions, from left to right. -/
def nodesOfAll : List Expr → List Expr
  | [] => []
  | expr :: rest => expr.nodes ++ nodesOfAll rest

end

theorem utf8Decode?_eq_none_iff {encoded : ByteArray} :
    encoded.utf8Decode? = none ↔ ∀ text : List Char, text.utf8Encode ≠ encoded := by
  rw [← Option.not_isSome_iff_eq_none, ByteArray.isSome_utf8Decode?_iff]
  constructor
  · intro invalid text same
    exact invalid ⟨text, same.symm⟩
  · rintro spellsNothing ⟨text, same⟩
    exact spellsNothing text same.symm

/-- A node offends for the reason that `refusal?` computes, and for no other. -/
theorem offends_iff {limit : Nat} {node : Expr} {reason : Unsupported} :
    node.Offends limit reason ↔ node.refusal? limit = some reason := by
  constructor
  · intro offends
    cases offends with
    | look kind => rfl
    | bytes set => rfl
    | emptyClass empty => simp [refusal?, empty, RangeSet.size]
    | largeClass large => simp [refusal?, large]
    | notUtf8 spellsNothing => simp [refusal?, utf8Decode?_eq_none_iff.mpr spellsNothing]
    | counted bounds => exact if_neg bounds
  · intro refused
    cases node <;> simp only [refusal?] at refused
    case literal encoded =>
      split at refused
      · next undecoded =>
        cases refused
        exact .notUtf8 (utf8Decode?_eq_none_iff.mp undecoded)
      · cases refused
    case chars set =>
      split at refused
      · next large =>
        cases refused
        exact .largeClass large
      · split at refused
        · next empty =>
          cases refused
          exact .emptyClass empty
        · cases refused
    case bytes set =>
      cases refused
      exact .bytes set
    case look kind =>
      cases refused
      exact .look kind
    case repetition min max? greedy body =>
      split at refused
      · cases refused
      · next bounds =>
        cases refused
        exact .counted bounds
    all_goals cases refused

theorem not_offends_iff {limit : Nat} {node : Expr} :
    (∀ reason, ¬ node.Offends limit reason) ↔ node.refusal? limit = none := by
  simp only [offends_iff, Option.eq_none_iff_forall_ne_some, ne_eq]

/-- The reason of the first node that cannot be said. -/
def firstRefusal? (limit : Nat) (expr : Expr) : Option Unsupported :=
  expr.nodes.findSome? (·.refusal? limit)

/-- The reason of the first node of several expressions that cannot be said. -/
def firstRefusalOfAll? (limit : Nat) (exprs : List Expr) : Option Unsupported :=
  (nodesOfAll exprs).findSome? (·.refusal? limit)

section FirstRefusal

variable (limit : Nat)

/-- What is repeated is looked at before how often it is. -/
theorem firstRefusal?_repetition (min : Nat) (max? : Option Nat) (greedy : Bool) (body : Expr) :
    (repetition min max? greedy body).firstRefusal? limit =
      (body.firstRefusal? limit).or ((repetition min max? greedy body).refusal? limit) := by
  simp [firstRefusal?, nodes]

theorem firstRefusal?_capture (index : Nat) (name? : Option (List Char)) (body : Expr) :
    (capture index name? body).firstRefusal? limit = body.firstRefusal? limit := by
  simp [firstRefusal?, nodes, refusal?]

theorem firstRefusal?_concat (items : List Expr) :
    (concat items).firstRefusal? limit = firstRefusalOfAll? limit items := by
  simp [firstRefusal?, firstRefusalOfAll?, nodes, refusal?]

theorem firstRefusal?_alternation (branches : List Expr) :
    (alternation branches).firstRefusal? limit = firstRefusalOfAll? limit branches := by
  simp [firstRefusal?, firstRefusalOfAll?, nodes, refusal?]

theorem firstRefusalOfAll?_cons (expr : Expr) (rest : List Expr) :
    firstRefusalOfAll? limit (expr :: rest) =
      (expr.firstRefusal? limit).or (firstRefusalOfAll? limit rest) := by
  simp [firstRefusal?, firstRefusalOfAll?, nodesOfAll]

end FirstRefusal

theorem forall_mem_snoc {P : Expr → Prop} {parts : List Expr} {node : Expr} :
    (∀ other ∈ parts ++ [node], P other) ↔ P node ∧ ∀ other ∈ parts, P other := by
  simp only [List.mem_append, List.mem_singleton, or_imp, forall_and, forall_eq, and_comm]

mutual

theorem everywhere_iff_nodes {P : Expr → Prop} {expr : Expr} :
    expr.Everywhere P ↔ ∀ node ∈ expr.nodes, P node := by
  cases expr <;> simp only [Everywhere, nodes]
  case repetition min max? greedy body => rw [forall_mem_snoc, everywhere_iff_nodes]
  case capture index name? body => rw [forall_mem_snoc, everywhere_iff_nodes]
  case concat items => rw [forall_mem_snoc, everywhereAll_iff_nodes]
  case alternation branches => rw [forall_mem_snoc, everywhereAll_iff_nodes]
  all_goals exact List.forall_mem_singleton.symm

theorem everywhereAll_iff_nodes {P : Expr → Prop} {exprs : List Expr} :
    EverywhereAll P exprs ↔ ∀ node ∈ nodesOfAll exprs, P node := by
  cases exprs with
  | nil => simp [EverywhereAll, nodesOfAll]
  | cons expr rest =>
    rw [EverywhereAll, nodesOfAll, List.forall_mem_append, everywhere_iff_nodes,
      everywhereAll_iff_nodes]

end

end Expr

namespace Pattern

variable {limit larger : Nat}

/-! ### Errors -/

theorem ofBytes_of_refusal {encoded : ByteArray} {reason : Unsupported}
    (refused : (Expr.literal encoded).refusal? limit = some reason) :
    ofBytes encoded = .error reason := by
  simp only [Expr.refusal?] at refused
  split at refused
  · next undecoded =>
    cases refused
    simp only [ofBytes, undecoded]
  · cases refused

theorem ofChars_of_refusal {set : CharSet} {reason : Unsupported}
    (refused : (Expr.chars set).refusal? limit = some reason) :
    ofChars limit set = .error reason := by
  simp only [Expr.refusal?] at refused
  unfold ofChars
  split at refused
  · next large =>
    cases refused
    rw [if_pos large]
  · next small =>
    split at refused
    · next empty =>
      cases refused
      have no_members : CharSet.members set = [] := by
        rw [CharSet.members, empty, List.flatMap_nil]
      have unjoined : joinBalanced choice ((CharSet.members set).map literal) = none :=
        joinBalanced_eq_none.mpr (List.map_eq_nil_iff.mpr no_members)
      rw [if_neg small, unjoined]
    · cases refused

theorem repeated_of_refusal {min : Nat} {max? : Option Nat} {greedy : Bool} {expr : Expr}
    {reason : Unsupported} (body : Pattern)
    (refused : (Expr.repetition min max? greedy expr).refusal? limit = some reason) :
    repeated min max? body = .error reason := by
  simp only [Expr.refusal?] at refused
  split at refused
  · cases refused
  · next bounds =>
    cases refused
    unfold repeated
    split
    case h_5 => rfl
    all_goals exact absurd (by simp) bounds

theorem ofExpr_isOk_of_firstRefusal {expr : Expr} (sayable : expr.firstRefusal? limit = none) :
    ∃ pattern, ofExpr limit expr = .ok pattern :=
  ofExpr_isOk (Expr.everywhere_iff_nodes.mpr (List.findSome?_eq_none_iff.mp sayable))

mutual

/-- The first node that cannot be said is the one that translating reports. -/
theorem ofExpr_eq_error {expr : Expr} {reason : Unsupported}
    (first : expr.firstRefusal? limit = some reason) : ofExpr limit expr = .error reason := by
  cases expr <;> simp only [ofExpr]
  case empty => cases first
  case literal encoded =>
    exact ofBytes_of_refusal (by simpa [Expr.firstRefusal?, Expr.nodes] using first)
  case chars set =>
    exact ofChars_of_refusal (by simpa [Expr.firstRefusal?, Expr.nodes] using first)
  case bytes set =>
    cases first
    rfl
  case look kind =>
    cases first
    rfl
  case repetition min max? greedy body =>
    rw [Expr.firstRefusal?_repetition] at first
    cases inner : body.firstRefusal? limit with
    | some other =>
      -- the body fails, so its repetition is never looked at
      rw [inner] at first
      cases first
      exact bind_eq_error.mpr (.inl (ofExpr_eq_error inner))
    | none =>
      rw [inner, Option.none_or] at first
      obtain ⟨pattern, translated⟩ := ofExpr_isOk_of_firstRefusal inner
      exact bind_eq_error.mpr (.inr ⟨pattern, translated, repeated_of_refusal pattern first⟩)
  case capture index name? body =>
    rw [Expr.firstRefusal?_capture] at first
    exact ofExpr_eq_error first
  case concat items =>
    rw [Expr.firstRefusal?_concat] at first
    exact bind_eq_error.mpr (.inl (ofExprs_eq_error first))
  case alternation branches =>
    rw [Expr.firstRefusal?_alternation] at first
    exact bind_eq_error.mpr (.inl (ofExprs_eq_error first))

theorem ofExprs_eq_error {exprs : List Expr} {reason : Unsupported}
    (first : Expr.firstRefusalOfAll? limit exprs = some reason) :
    ofExprs limit exprs = .error reason := by
  cases exprs with
  | nil => cases first
  | cons expr rest =>
    rw [Expr.firstRefusalOfAll?_cons] at first
    simp only [ofExprs]
    cases head : expr.firstRefusal? limit with
    | some other =>
      rw [head] at first
      cases first
      exact bind_eq_error.mpr (.inl (ofExpr_eq_error head))
    | none =>
      rw [head, Option.none_or] at first
      obtain ⟨pattern, translated⟩ := ofExpr_isOk_of_firstRefusal head
      exact bind_eq_error.mpr (.inr ⟨pattern, translated,
        bind_eq_error.mpr (.inl (ofExprs_eq_error first))⟩)

end

theorem ofExpr_eq_error_iff {expr : Expr} {reason : Unsupported} :
    ofExpr limit expr = .error reason ↔ expr.firstRefusal? limit = some reason := by
  constructor
  · intro failed
    cases first : expr.firstRefusal? limit with
    | none =>
      obtain ⟨pattern, translated⟩ := ofExpr_isOk_of_firstRefusal first
      cases failed.symm.trans translated
    | some other =>
      cases failed.symm.trans (ofExpr_eq_error first)
      rfl
  · exact ofExpr_eq_error

theorem ofExpr_isOk_iff {expr : Expr} :
    (∃ pattern, ofExpr limit expr = .ok pattern) ↔ expr.firstRefusal? limit = none := by
  constructor
  · rintro ⟨pattern, translated⟩
    cases first : expr.firstRefusal? limit with
    | none => rfl
    | some reason => cases translated.symm.trans (ofExpr_eq_error first)
  · exact ofExpr_isOk_of_firstRefusal

/-! ### Larger classes -/

theorem ofChars_mono (le : limit ≤ larger) {set : CharSet} {pattern : Pattern}
    (translated : ofChars limit set = .ok pattern) : ofChars larger set = .ok pattern := by
  unfold ofChars at translated ⊢
  split at translated
  · cases translated
  · next small => rwa [if_neg (by omega)]

mutual

/-- Allowing larger classes keeps the pattern that there is. -/
theorem ofExpr_mono (le : limit ≤ larger) {expr : Expr} {pattern : Pattern}
    (translated : ofExpr limit expr = .ok pattern) : ofExpr larger expr = .ok pattern := by
  cases expr <;> simp only [ofExpr] at translated ⊢
  case literal encoded => exact translated
  case chars set => exact ofChars_mono le translated
  case repetition min max? greedy body =>
    obtain ⟨inner, hinner, h⟩ := bind_eq_ok.mp translated
    exact bind_eq_ok.mpr ⟨inner, ofExpr_mono le hinner, h⟩
  case capture index name? body => exact ofExpr_mono le translated
  case concat items =>
    obtain ⟨patterns, hpatterns, h⟩ := bind_eq_ok.mp translated
    exact bind_eq_ok.mpr ⟨patterns, ofExprs_mono le hpatterns, h⟩
  case alternation branches =>
    obtain ⟨patterns, hpatterns, h⟩ := bind_eq_ok.mp translated
    exact bind_eq_ok.mpr ⟨patterns, ofExprs_mono le hpatterns, h⟩
  all_goals exact translated

theorem ofExprs_mono (le : limit ≤ larger) {exprs : List Expr} {patterns : List Pattern}
    (translated : ofExprs limit exprs = .ok patterns) : ofExprs larger exprs = .ok patterns := by
  cases exprs <;> simp only [ofExprs] at translated ⊢
  case nil => exact translated
  case cons expr rest =>
    obtain ⟨pattern, hpattern, h⟩ := bind_eq_ok.mp translated
    obtain ⟨others, hothers, h⟩ := bind_eq_ok.mp h
    exact bind_eq_ok.mpr ⟨pattern, ofExpr_mono le hpattern,
      bind_eq_ok.mpr ⟨others, ofExprs_mono le hothers, h⟩⟩

end

/-- An expression has a pattern if none of its nodes offends, and else the error is that of the first
node that does, parts before what is made of them and from left to right. If larger classes are
allowed, the pattern stays the same. -/
theorem ofExpr_reports_first_offence (limit : Nat) (expr : Expr) :
    ((∃ pattern, ofExpr limit expr = .ok pattern) ↔
      ∀ node ∈ expr.nodes, ∀ reason, ¬ node.Offends limit reason) ∧
    (∀ reason, ofExpr limit expr = .error reason ↔
      ∃ before node after, expr.nodes = before ++ node :: after ∧ node.Offends limit reason ∧
        ∀ earlier ∈ before, ∀ other, ¬ earlier.Offends limit other) ∧
    ∀ larger pattern, limit ≤ larger → ofExpr limit expr = .ok pattern →
      ofExpr larger expr = .ok pattern := by
  refine ⟨?_, fun reason => ?_, fun larger pattern le => ofExpr_mono le⟩
  · simp only [Expr.not_offends_iff]
    exact ofExpr_isOk_iff.trans List.findSome?_eq_none_iff
  · simp only [Expr.not_offends_iff]
    simp only [Expr.offends_iff]
    exact ofExpr_eq_error_iff.trans List.findSome?_eq_some_iff

/-- `a((?:[a-c]|\b)){2,3}$`, where most nodes cannot be said if classes may have two members. -/
def nestedOffences : Expr :=
  .concat [.literal "a".toUTF8,
    .repetition 2 (some 3) true
      (.capture 1 none (.alternation [.chars ⟨[.between 'a' 'c']⟩, .look .wordUnicode])),
    .look .stop]

theorem nestedOffences_reports_class :
    ofExpr 2 nestedOffences = .error (.largeClass 3 2) ∧
      3 ≤ 64 ∧ ofExpr 3 (.chars ⟨[.between 'a' 'c']⟩) =
        .ok (choice (choice (literal 'a') (literal 'b')) (literal 'c')) ∧
      ofExpr 64 (.chars ⟨[.between 'a' 'c']⟩) =
        .ok (choice (choice (literal 'a') (literal 'b')) (literal 'c')) := by
  have small : ofExpr 3 (.chars ⟨[.between 'a' 'c']⟩) =
      .ok (choice (choice (literal 'a') (literal 'b')) (literal 'c')) := by decide +kernel
  refine ⟨((ofExpr_reports_first_offence 2 nestedOffences).2.1 _).mpr ?_, by omega, small,
    (ofExpr_reports_first_offence 3 _).2.2 64 _ (by omega) small⟩
  refine ⟨[.literal "a".toUTF8], _, _, rfl, .largeClass (by decide), ?_⟩
  intro earlier member reason offends
  cases List.mem_singleton.mp member
  cases offends with
  | notUtf8 spellsNothing => exact spellsNothing ['a'] rfl

end Pattern

end PatternAutomata
