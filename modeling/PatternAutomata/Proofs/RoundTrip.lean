import PatternAutomata.Proofs.Compile
import PatternAutomata.Proofs.Conventions
import PatternAutomata.Proofs.Rendered

/-!
# Rendering and parsing

A rendered pattern is parsed to a pattern with the same language. The parsed pattern need not be the
same: the tree that is read is flat, the expression is in normal form, and the pattern is balanced.

The result depends on what texts mean as regular expressions, which is held as follows.

- Grammar: a sign that is no operator is an item (`reads_literal`), a star repeats the item before it
  (`reads_star`), a bar ends a branch (`reads_bar`), and a text in parentheses is one item, a
  capturing group (`reads_group`).
- Nesting: groups, repetitions, alternations and sequences add a level each, and a text is refused
  for its levels only (`Node.ofText_eq_ok_iff`).
- Groups: they are numbered as they are opened, with no bound other than the length of the text
  (`openParenthesis_number`, `nextCapture_run`).
- Normal form: sequences and alternations are spread out, literals in a row are one literal, single
  characters or classes in an alternation are one class, a common beginning is taken out, and what
  takes nothing is repeated once at most (`sequence_spread`, `sequence_texts`, `either_spread`,
  `either_symbols`, `either_append`, `repeated_of_takesNothing`). None of it changes a language
  (`sequence_spec`, `either_spec`, `language_repeated`).
-/
namespace PatternAutomata.Pattern

open Regex

/-- Reading a rendered pattern ends with one tree. -/
theorem readTree_chars {pattern : Pattern} {symbols : List Char}
    (readable : Readable pattern symbols) :
    ∃ node, readTree pattern.chars = .ok node ∧
      node.Means symbols (2 * pattern.height - 2) pattern.language := by
  have start : Reader.initial.At [] [] [] := ⟨rfl, rfl, .start, rfl⟩
  obtain ⟨after, before, items, reads, there, means⟩ := readable.branches.whole start trivial
  exact ⟨after.branches.1, readTree_of_reads reads there, means⟩

/-- A tree that stands for a language becomes an expression that does, if it is not too deep. -/
theorem ofText_of_means {config : Config} {text symbols : List Char} {depth : Nat}
    {language : Language Char} {node : Node} (sensitive : config.caseInsensitive = false)
    (deep : depth ≤ config.nestLimit) (read : readTree text = .ok node)
    (means : node.Means symbols depth language) :
    ∃ expr, Expr.ofText config text = .ok expr ∧ expr.Plain symbols ∧
      expr.language = language := by
  obtain ⟨expr, translated, plain, same⟩ := means.expr
  have shallow : node.checkDepth config.nestLimit 0 = .ok () := means.shallow _ _ (by omega)
  have kept : Node.ofText config.nestLimit text = .ok node :=
    bind_eq_ok.mpr ⟨node, read, bind_eq_ok.mpr ⟨(), shallow, rfl⟩⟩
  refine ⟨expr, ?_, plain, same⟩
  rw [Expr.ofText, sensitive]
  exact bind_eq_ok.mpr ⟨node, kept, bind_eq_ok.mpr ⟨_, translated, rfl⟩⟩

/-- A rendered pattern is parsed, and what is parsed stands for the same texts. The pattern may have
empty parts and stars of stars, but no star of the empty pattern itself, and no literal that is an
operator. Of the nesting limit twice the height is needed at most, less two for the leaves, and no
class has more members than the pattern has literals. -/
theorem parse_render_keeps_language (pattern : Pattern) (config : Config)
    (bodies : pattern.StarsHaveBodies) (plain : ∀ c ∈ pattern.literals, c ∉ operators)
    (sensitive : config.caseInsensitive = false)
    (deep : 2 * pattern.height ≤ config.nestLimit + 2)
    (wide : pattern.literals.length ≤ config.classLimit) :
    ∃ parsed, Pattern.parse config pattern.render.toList = .ok parsed ∧
      (∀ text, parsed.Denotes text ↔ pattern.Denotes text) ∧
      ∀ text next next',
        (parsed.matchesFrom next text).1 = (pattern.matchesFrom next' text).1 := by
  obtain ⟨node, read, means⟩ :=
    readTree_chars (readable pattern bodies plain (List.Subset.refl _))
  obtain ⟨expr, fromText, plainExpr, sameExpr⟩ :=
    ofText_of_means sensitive (by omega) read means
  obtain ⟨parsed, translated, sameParsed⟩ := plainExpr.exists_pattern wide
  have same : ∀ text, parsed.Denotes text ↔ pattern.Denotes text := by
    intro text
    rw [← mem_language, sameParsed, sameExpr, mem_language]
  refine ⟨parsed, ?_, same, fun text next next' => ?_⟩
  · unfold Pattern.parse
    rw [render, String.toList_ofList, fromText]
    simp only [translated]
  · refine Bool.eq_iff_iff.mpr ?_
    exact (accepts_compile parsed next text).trans
      ((same text).trans (accepts_compile pattern next' text).symm)

/-- Stars of stars, parts that are empty, and branches that begin alike. -/
def nested : Pattern :=
  concat (star (star (choice (concat (star (literal 'a')) (literal 'b'))
    (concat (star (literal 'a')) (choice (literal 'c') empty))))) (choice empty (literal '/'))

theorem nested_parse_render :
    nested.render = "(a*b|a*(c|))**(|/)" ∧
      ∃ parsed, Pattern.parse ⟨false, 14, 5⟩ nested.render.toList = .ok parsed ∧
        (∀ text, parsed.Denotes text ↔ nested.Denotes text) ∧
        ∀ text next next',
          (parsed.matchesFrom next text).1 = (nested.matchesFrom next' text).1 := by
  refine ⟨by decide, parse_render_keeps_language nested ⟨false, 14, 5⟩ ?_ ?_ rfl ?_ ?_⟩
  · simp [nested, StarsHaveBodies]
  · simp [nested, literals, operators]
  · decide
  · decide

end PatternAutomata.Pattern
