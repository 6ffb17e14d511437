import PatternAutomata.Pattern.OfExpr
import PatternAutomata.Proofs.Language
import PatternAutomata.Proofs.Ranges

/-!
# The language of an expression

An expression has the language of its operators, and its pattern has the same one
(`language_ofExpr`). The induction is on the expression: what is joined in pairs has the product or
the sum of the languages of the parts, the choice between the members of a class has the language of
the class, and each repetition that patterns can say is a set of powers. What cannot be said is a
matter of one node (`Expr.refusal?`), so an expression whose nodes can all be said has a pattern.
-/
namespace PatternAutomata

open scoped Computability

theorem bind_eq_ok {ε α β : Type} {x : Except ε α} {f : α → Except ε β} {b : β} :
    x >>= f = .ok b ↔ ∃ a, x = .ok a ∧ f a = .ok b := by
  cases x with
  | error e => exact ⟨fun h => (by cases h), fun ⟨_, h, _⟩ => (by cases h)⟩
  | ok a => exact ⟨fun h => ⟨a, rfl, h⟩, fun ⟨_, same, h⟩ => (by cases same; exact h)⟩

theorem bind_eq_error {ε α β : Type} {x : Except ε α} {f : α → Except ε β} {e : ε} :
    x >>= f = .error e ↔ x = .error e ∨ ∃ a, x = .ok a ∧ f a = .error e := by
  cases x with
  | error first => simp [bind, Except.bind]
  | ok a => simp [bind, Except.bind]

/-- Texts of a language in a row, at least `min` and at most `max?` of them. -/
def powers (min : Nat) (max? : Option Nat) (language : Language Char) : Language Char :=
  {text | ∃ count, min ≤ count ∧ (∀ max ∈ max?, count ≤ max) ∧ text ∈ language ^ count}

theorem mem_powers {min : Nat} {max? : Option Nat} {language : Language Char} {text : List Char} :
    text ∈ powers min max? language ↔
      ∃ count, min ≤ count ∧ (∀ max ∈ max?, count ≤ max) ∧ text ∈ language ^ count := Iff.rfl

theorem powers_zero_none (language : Language Char) : powers 0 none language = language∗ := by
  ext text
  rw [mem_powers, Language.kstar_eq_iSup_pow, Language.mem_iSup]
  constructor
  · intro h
    obtain ⟨count, _, _, member⟩ := h
    exact ⟨count, member⟩
  · intro h
    obtain ⟨count, member⟩ := h
    exact ⟨count, Nat.zero_le _, (fun _ absent => by cases absent), member⟩

theorem powers_one_none (language : Language Char) :
    powers 1 none language = language * language∗ := by
  ext text
  rw [mem_powers, Language.kstar_eq_iSup_pow, Language.mul_iSup, Language.mem_iSup]
  constructor
  · intro h
    obtain ⟨count, positive, _, member⟩ := h
    refine ⟨count - 1, ?_⟩
    rw [← pow_succ', Nat.sub_add_cancel positive]
    exact member
  · intro h
    obtain ⟨count, member⟩ := h
    rw [← pow_succ'] at member
    exact ⟨count + 1, Nat.succ_pos count, (fun _ absent => by cases absent), member⟩

theorem powers_zero_one (language : Language Char) :
    powers 0 (some 1) language = language + 1 := by
  ext text
  rw [mem_powers, Language.mem_add]
  constructor
  · intro h
    obtain ⟨count, _, bounded, member⟩ := h
    have most := bounded 1 rfl
    match count, most with
    | 0, _ => exact .inr member
    | 1, _ =>
      rw [pow_one] at member
      exact .inl member
  · intro h
    cases h with
    | inl once => exact ⟨1, Nat.zero_le _, by simp, by rwa [pow_one]⟩
    | inr never => exact ⟨0, Nat.zero_le _, by simp, never⟩

theorem powers_one_one (language : Language Char) : powers 1 (some 1) language = language := by
  ext text
  rw [mem_powers]
  constructor
  · intro h
    obtain ⟨count, least, bounded, member⟩ := h
    have once : count = 1 := Nat.le_antisymm (bounded 1 rfl) least
    rwa [once, pow_one] at member
  · intro member
    exact ⟨1, Nat.le_refl _, by simp, by rwa [pow_one]⟩

namespace Expr

mutual

/-- The texts that an expression stands for. A set of bytes has its ASCII characters, and an
assertion takes no character, wherever it may hold. -/
def language : Expr → Language Char
  | empty => 1
  | literal encoded => {text | text.utf8Encode = encoded}
  | chars set => {text | ∃ c, set.contains c = true ∧ text = [c]}
  | bytes set => {text | ∃ c, c.toNat < 0x80 ∧ set.contains c.toUInt8 = true ∧ text = [c]}
  | look _ => 1
  | repetition min max? _ body => powers min max? body.language
  | capture _ _ body => body.language
  | concat items => (languages items).prod
  | alternation branches => (languages branches).sum

/-- The languages of several expressions. -/
def languages : List Expr → List (Language Char)
  | [] => []
  | expr :: rest => expr.language :: languages rest

end

theorem languages_eq_map (exprs : List Expr) : languages exprs = exprs.map language := by
  induction exprs with
  | nil => rfl
  | cons expr rest ih => rw [languages, ih, List.map_cons]

mutual

/-- A property holds of the expression and of all that it is made of. -/
def Everywhere (P : Expr → Prop) : Expr → Prop
  | repetition min max? greedy body => P (repetition min max? greedy body) ∧ body.Everywhere P
  | capture index name? body => P (capture index name? body) ∧ body.Everywhere P
  | concat items => P (concat items) ∧ EverywhereAll P items
  | alternation branches => P (alternation branches) ∧ EverywhereAll P branches
  | expr => P expr

/-- `Everywhere` for each expression of a list. -/
def EverywhereAll (P : Expr → Prop) : List Expr → Prop
  | [] => True
  | expr :: rest => expr.Everywhere P ∧ EverywhereAll P rest

end

theorem everywhereAll_iff {P : Expr → Prop} {exprs : List Expr} :
    EverywhereAll P exprs ↔ ∀ expr ∈ exprs, expr.Everywhere P := by
  induction exprs with
  | nil => simp [EverywhereAll]
  | cons expr rest ih => simp [EverywhereAll, ih]

theorem Everywhere.here {P : Expr → Prop} {expr : Expr} (h : expr.Everywhere P) : P expr := by
  cases expr <;> simp only [Everywhere] at h
  case repetition => exact h.1
  case capture => exact h.1
  case concat => exact h.1
  case alternation => exact h.1
  all_goals exact h

mutual

theorem Everywhere.imp {P Q : Expr → Prop} (weaker : ∀ expr, P expr → Q expr) {expr : Expr}
    (h : expr.Everywhere P) : expr.Everywhere Q := by
  cases expr <;> simp only [Everywhere] at h ⊢
  case repetition => exact ⟨weaker _ h.1, h.2.imp weaker⟩
  case capture => exact ⟨weaker _ h.1, h.2.imp weaker⟩
  case concat => exact ⟨weaker _ h.1, EverywhereAll.imp weaker h.2⟩
  case alternation => exact ⟨weaker _ h.1, EverywhereAll.imp weaker h.2⟩
  all_goals exact weaker _ h

theorem EverywhereAll.imp {P Q : Expr → Prop} (weaker : ∀ expr, P expr → Q expr)
    {exprs : List Expr} (h : EverywhereAll P exprs) : EverywhereAll Q exprs := by
  cases exprs with
  | nil => trivial
  | cons expr rest => exact ⟨h.1.imp weaker, EverywhereAll.imp weaker h.2⟩

end

/-- Why one node of an expression has no pattern, whatever its parts are. -/
def refusal? (limit : Nat) : Expr → Option Unsupported
  | literal encoded => if encoded.utf8Decode? = none then some .notUtf8 else none
  | chars set =>
    if limit < set.size then some (.largeClass set.size limit)
    else if set.ranges = [] then some .emptyClass
    else none
  | bytes _ => some .byteClass
  | look kind => some (.assertion kind)
  | repetition min max? _ _ =>
    if (min, max?) ∈ [(0, none), (1, none), (0, some 1), (1, some 1)] then none
    else some (.countedRepetition min max?)
  | empty | capture .. | concat _ | alternation _ => none

end Expr

namespace Pattern

theorem language_ofChars {limit : Nat} {set : CharSet} {pattern : Pattern}
    (h : ofChars limit set = .ok pattern) : pattern.language = (Expr.chars set).language := by
  unfold ofChars at h
  split at h
  · cases h
  · split at h
    · next joined =>
      cases h
      ext text
      rw [language_joinBalanced_choice joined, mem_sum]
      simp only [List.map_map, List.mem_map, Function.comp_apply, language_literal,
        exists_exists_and_eq_and, CharSet.mem_members, mem_singleton, Expr.language]
      rfl
    · cases h

theorem language_ofBytes {bytes : ByteArray} {pattern : Pattern}
    (h : ofBytes bytes = .ok pattern) : pattern.language = (Expr.literal bytes).language := by
  unfold ofBytes at h
  split at h
  · next text decoded =>
    cases h
    rw [language_string]
    ext word
    have encoded : text.toList.utf8Encode = bytes := by
      have := ByteArray.utf8Encode_get_utf8Decode? (b := bytes) (h := by simp [decoded])
      simpa only [decoded, Option.get_some] using this
    constructor
    · intro same
      rw [mem_singleton.mp same]
      exact encoded
    · intro (same : word.utf8Encode = bytes)
      rw [← same, List.utf8Decode?_utf8Encode] at decoded
      cases decoded
      rfl
  · cases h

theorem language_repeated {min : Nat} {max? : Option Nat} {body pattern : Pattern}
    (h : repeated min max? body = .ok pattern) :
    pattern.language = powers min max? body.language := by
  unfold repeated at h
  split at h <;> cases h
  · exact (powers_zero_none _).symm
  · rw [language_concat]
    exact (powers_one_none _).symm
  · exact (powers_zero_one _).symm
  · exact (powers_one_one _).symm

theorem language_joined_concat (patterns : List Pattern) :
    (joined concat patterns).language = (patterns.map language).prod := by
  unfold joined
  cases pairs : joinBalanced concat patterns with
  | none =>
    rw [joinBalanced_eq_none.mp pairs]
    rfl
  | some pattern => exact language_joinBalanced_concat pairs

theorem language_joined_choice {patterns : List Pattern} (nonempty : patterns ≠ []) :
    (joined choice patterns).language = (patterns.map language).sum := by
  unfold joined
  cases pairs : joinBalanced choice patterns with
  | none => exact absurd (joinBalanced_eq_none.mp pairs) nonempty
  | some pattern => exact language_joinBalanced_choice pairs

mutual

/-- The pattern of an expression stands for the same texts, if no alternation in it is empty. -/
theorem language_ofExpr {limit : Nat} {expr : Expr} {pattern : Pattern}
    (branched : expr.Everywhere (· ≠ .alternation [])) (h : ofExpr limit expr = .ok pattern) :
    pattern.language = expr.language := by
  cases expr <;> simp only [ofExpr] at h
  case empty => cases h; rfl
  case literal encoded => exact language_ofBytes h
  case chars set => exact language_ofChars h
  case bytes set => cases h
  case look kind => cases h
  case repetition min max? greedy body =>
    obtain ⟨inner, hinner, h⟩ := bind_eq_ok.mp h
    rw [language_repeated h, language_ofExpr branched.2 hinner]
    rfl
  case capture index name? body =>
    rw [language_ofExpr branched.2 h]
    rfl
  case concat items =>
    obtain ⟨patterns, hpatterns, h⟩ := bind_eq_ok.mp h
    cases h
    rw [language_joined_concat, languages_ofExprs branched.2 hpatterns]
    rfl
  case alternation branches =>
    obtain ⟨patterns, hpatterns, h⟩ := bind_eq_ok.mp h
    cases h
    have same := languages_ofExprs branched.2 hpatterns
    have nonempty : patterns ≠ [] := by
      intro none
      subst none
      cases branches with
      | nil => exact branched.1 rfl
      | cons branch rest => cases same
    rw [language_joined_choice nonempty, same]
    rfl

theorem languages_ofExprs {limit : Nat} {exprs : List Expr} {patterns : List Pattern}
    (branched : Expr.EverywhereAll (· ≠ .alternation []) exprs)
    (h : ofExprs limit exprs = .ok patterns) :
    patterns.map language = Expr.languages exprs := by
  cases exprs <;> simp only [ofExprs] at h
  case nil => cases h; rfl
  case cons expr rest =>
    obtain ⟨pattern, hpattern, h⟩ := bind_eq_ok.mp h
    obtain ⟨others, hothers, h⟩ := bind_eq_ok.mp h
    cases h
    rw [List.map_cons, language_ofExpr branched.1 hpattern, languages_ofExprs branched.2 hothers]
    rfl

end

theorem ofBytes_isOk {encoded : ByteArray} (h : encoded.utf8Decode? ≠ none) :
    ∃ pattern, ofBytes encoded = .ok pattern := by
  obtain ⟨text, decoded⟩ := Option.ne_none_iff_exists'.mp h
  exact ⟨string text.toList, by simp only [ofBytes, decoded]⟩

theorem ofChars_isOk {limit : Nat} {set : CharSet} (small : set.size ≤ limit)
    (nonempty : set.ranges ≠ []) : ∃ pattern, ofChars limit set = .ok pattern := by
  unfold ofChars
  rw [if_neg (Nat.not_lt.mpr small)]
  cases pairs : joinBalanced choice (set.members.map literal) with
  | none =>
    have nothing := List.map_eq_nil_iff.mp (joinBalanced_eq_none.mp pairs)
    exact absurd nothing (CharSet.members_ne_nil nonempty)
  | some pattern => exact ⟨pattern, rfl⟩

theorem repeated_isOk {min : Nat} {max? : Option Nat} (body : Pattern)
    (h : (min, max?) ∈ [(0, none), (1, none), (0, some 1), (1, some 1)]) :
    ∃ pattern, repeated min max? body = .ok pattern := by
  simp only [List.mem_cons, Prod.mk.injEq, List.not_mem_nil, or_false] at h
  rcases h with ⟨rfl, rfl⟩ | ⟨rfl, rfl⟩ | ⟨rfl, rfl⟩ | ⟨rfl, rfl⟩
  · exact ⟨_, rfl⟩
  · exact ⟨_, rfl⟩
  · exact ⟨_, rfl⟩
  · exact ⟨_, rfl⟩

mutual

/-- An expression has a pattern if each of its nodes can be said. -/
theorem ofExpr_isOk {limit : Nat} {expr : Expr}
    (sayable : expr.Everywhere (·.refusal? limit = none)) :
    ∃ pattern, ofExpr limit expr = .ok pattern := by
  have here := sayable.here
  cases expr <;> simp only [ofExpr] <;> simp only [Expr.refusal?] at here
  case empty => exact ⟨empty, rfl⟩
  case literal encoded => exact ofBytes_isOk fun bad => by simp [bad] at here
  case chars set =>
    split at here
    · cases here
    · split at here
      · cases here
      · exact ofChars_isOk (Nat.not_lt.mp (by assumption)) (by assumption)
  case bytes set => cases here
  case look kind => cases here
  case repetition min max? greedy body =>
    obtain ⟨inner, hinner⟩ := ofExpr_isOk sayable.2
    rw [hinner]
    refine repeated_isOk inner (Classical.byContradiction fun other => ?_)
    rw [if_neg other] at here
    cases here
  case capture index name? body => exact ofExpr_isOk sayable.2
  case concat items =>
    obtain ⟨patterns, hpatterns⟩ := ofExprs_isOk sayable.2
    exact ⟨joined concat patterns, by rw [hpatterns]; rfl⟩
  case alternation branches =>
    obtain ⟨patterns, hpatterns⟩ := ofExprs_isOk sayable.2
    exact ⟨joined choice patterns, by rw [hpatterns]; rfl⟩

theorem ofExprs_isOk {limit : Nat} {exprs : List Expr}
    (sayable : Expr.EverywhereAll (·.refusal? limit = none) exprs) :
    ∃ patterns, ofExprs limit exprs = .ok patterns := by
  cases exprs with
  | nil => exact ⟨[], rfl⟩
  | cons expr rest =>
    obtain ⟨pattern, hpattern⟩ := ofExpr_isOk sayable.1
    obtain ⟨patterns, hpatterns⟩ := ofExprs_isOk sayable.2
    exact ⟨pattern :: patterns, by simp only [ofExprs, hpattern, hpatterns]; rfl⟩

end

end Pattern

end PatternAutomata
