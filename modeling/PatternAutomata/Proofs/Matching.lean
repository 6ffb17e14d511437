import PatternAutomata.Pattern.Parse
import PatternAutomata.Proofs.Compile
import PatternAutomata.Proofs.Translate

/-!
# Matching an expression

The rules by which an expression matches a text, one for each kind of expression and written without
sets of texts. They give the language of the expression (`mem_language_iff_matches`), so the pattern of
an expression stands for the texts that the rules let it match (`ofExpr_denotes_iff_matches`).
-/
namespace PatternAutomata

open scoped Computability

namespace Expr

/-- The expression matches the whole text. An assertion takes no character, and a set of bytes takes
the ASCII characters that it holds. -/
inductive Matches : Expr → List Char → Prop
  | empty : Matches .empty []
  | literal (text : List Char) : Matches (.literal text.utf8Encode) text
  | chars {set : CharSet} {r : Range Char} {c : Char} (member : r ∈ set.ranges)
      (least : r.low.toNat ≤ c.toNat) (most : c.toNat ≤ r.high.toNat) : Matches (.chars set) [c]
  | bytes {set : ByteSet} {c : Char} (ascii : c.toNat < 0x80)
      (member : set.contains c.toUInt8 = true) : Matches (.bytes set) [c]
  | look (look : Look) : Matches (.look look) []
  /-- Any admitted number of matches of the body in a row. -/
  | repetition {min : Nat} {max? : Option Nat} {greedy : Bool} {body : Expr}
      {pieces : List (List Char)} (least : min ≤ pieces.length)
      (most : ∀ max ∈ max?, pieces.length ≤ max) (each : ∀ piece ∈ pieces, Matches body piece) :
      Matches (.repetition min max? greedy body) pieces.flatten
  | capture {index : Nat} {name? : Option (List Char)} {body : Expr} {text : List Char}
      (inner : Matches body text) : Matches (.capture index name? body) text
  | concatNil : Matches (.concat []) []
  | concatCons {item : Expr} {rest : List Expr} {front back : List Char}
      (first : Matches item front) (others : Matches (.concat rest) back) :
      Matches (.concat (item :: rest)) (front ++ back)
  | alternation {branches : List Expr} {branch : Expr} {text : List Char}
      (member : branch ∈ branches) (inner : Matches branch text) : Matches (.alternation branches) text

/-- Whatever the rules match is in the language. -/
theorem Matches.mem_language {expr : Expr} {text : List Char} (matched : expr.Matches text) :
    text ∈ expr.language := by
  induction matched with
  | empty => exact rfl
  | literal text => exact rfl
  | chars member least most =>
    exact ⟨_, RangeSet.contains_eq_true.mpr ⟨_, member, least, most⟩, rfl⟩
  | bytes ascii member => exact ⟨_, ascii, member, rfl⟩
  | look look => exact rfl
  | @repetition min max? greedy body pieces least most each ih =>
    rw [language, mem_powers]
    exact ⟨pieces.length, least, most, Language.mem_pow.mpr ⟨pieces, rfl, rfl, ih⟩⟩
  | capture inner ih => exact ih
  | concatNil => exact rfl
  | concatCons first others ihFirst ihOthers =>
    rw [language, languages, List.prod_cons]
    exact Language.append_mem_mul ihFirst ihOthers
  | alternation member inner ih =>
    rw [language, languages_eq_map, mem_sum]
    exact ⟨_, List.mem_map_of_mem member, ih⟩

mutual

/-- Whatever is in the language is matched by the rules. -/
theorem matches_of_mem_language {expr : Expr} {text : List Char} (member : text ∈ expr.language) :
    expr.Matches text := by
  cases expr <;> simp only [language] at member
  case empty =>
    cases member
    exact .empty
  case literal encoded =>
    cases member
    exact .literal text
  case chars set =>
    obtain ⟨c, contained, rfl⟩ := member
    obtain ⟨r, listed, least, most⟩ := RangeSet.contains_eq_true.mp contained
    exact .chars listed least most
  case bytes set =>
    obtain ⟨c, ascii, contained, rfl⟩ := member
    exact .bytes ascii contained
  case look kind =>
    cases member
    exact .look kind
  case repetition min max? greedy body =>
    obtain ⟨count, least, most, power⟩ := mem_powers.mp member
    obtain ⟨pieces, rfl, rfl, each⟩ := Language.mem_pow.mp power
    exact .repetition least most fun piece inPieces => matches_of_mem_language (each piece inPieces)
  case capture index name? body => exact .capture (matches_of_mem_language member)
  case concat items => exact matches_of_mem_prod member
  case alternation branches =>
    obtain ⟨branch, listed, inner⟩ := matches_of_mem_sum member
    exact .alternation listed inner

theorem matches_of_mem_prod {items : List Expr} {text : List Char}
    (member : text ∈ (languages items).prod) : (concat items).Matches text := by
  cases items <;> simp only [languages] at member
  case nil =>
    cases member
    exact .concatNil
  case cons item rest =>
    rw [List.prod_cons, Language.mem_mul] at member
    obtain ⟨front, inFirst, back, inOthers, rfl⟩ := member
    exact .concatCons (matches_of_mem_language inFirst) (matches_of_mem_prod inOthers)

theorem matches_of_mem_sum {branches : List Expr} {text : List Char}
    (member : text ∈ (languages branches).sum) : ∃ branch ∈ branches, branch.Matches text := by
  cases branches <;> simp only [languages] at member
  case nil => exact absurd member (Language.notMem_zero text)
  case cons branch rest =>
    rw [List.sum_cons, Language.mem_add] at member
    rcases member with inFirst | inOthers
    · exact ⟨branch, List.mem_cons_self, matches_of_mem_language inFirst⟩
    · obtain ⟨other, listed, inner⟩ := matches_of_mem_sum inOthers
      exact ⟨other, List.mem_cons_of_mem _ listed, inner⟩

end

theorem mem_language_iff_matches {expr : Expr} {text : List Char} :
    text ∈ expr.language ↔ expr.Matches text :=
  ⟨matches_of_mem_language, Matches.mem_language⟩

end Expr

namespace Pattern

/-- If an expression has a pattern, and no alternation in the expression is without branches, the
pattern stands for exactly the texts that the expression matches, and its automaton accepts them. -/
theorem ofExpr_denotes_iff_matches (config : Config) (expr : Expr) (pattern : Pattern)
    (branched : expr.Everywhere (· ≠ .alternation []))
    (translated : ofExpr config.classLimit expr = .ok pattern) (text : List Char) :
    (pattern.Denotes text ↔ expr.Matches text) ∧
      ∀ next, (pattern.matchesFrom next text).1 = true ↔ expr.Matches text := by
  have same : pattern.Denotes text ↔ expr.Matches text := by
    rw [← mem_language, language_ofExpr branched translated, Expr.mem_language_iff_matches]
  exact ⟨same, fun next => (accepts_compile pattern next text).trans same⟩

/-- `é[ac-d]+|(x??)`: a literal of two bytes, a class of two ranges, and a capture. -/
def accented : Expr :=
  .alternation [
    .concat [.literal "é".toUTF8,
      .repetition 1 none true (.chars ⟨[.single 'a', .between 'c' 'd']⟩)],
    .capture 1 none (.repetition 0 (some 1) false (.chars ⟨[.single 'x']⟩))]

/-- What `accented` is said as with the five operators. -/
def accentedPattern : Pattern :=
  let letter := choice (choice (literal 'a') (literal 'c')) (literal 'd')
  choice (concat (literal 'é') (concat letter (star letter))) (choice (literal 'x') empty)

theorem accented_denotes :
    accented.Everywhere (· ≠ .alternation []) ∧
      ofExpr (Config.classLimit ⟨false, 250, 3⟩) accented = .ok accentedPattern ∧
      (accentedPattern.Denotes ['é', 'd', 'a'] ↔ accented.Matches ['é', 'd', 'a']) ∧
      ∀ next, (accentedPattern.matchesFrom next ['é', 'd', 'a']).1 = true ↔
        accented.Matches ['é', 'd', 'a'] := by
  have branched : accented.Everywhere (· ≠ .alternation []) := by
    simp [accented, Expr.Everywhere, Expr.EverywhereAll]
  have translated : ofExpr (Config.classLimit ⟨false, 250, 3⟩) accented = .ok accentedPattern := by
    decide +kernel
  exact ⟨branched, translated,
    ofExpr_denotes_iff_matches ⟨false, 250, 3⟩ accented accentedPattern branched translated _⟩

end Pattern

end PatternAutomata
