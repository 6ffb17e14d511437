import PatternAutomata.Pattern.Parse
import PatternAutomata.Proofs.Reading
import PatternAutomata.Proofs.Tree

/-!
# Conventions of regular expressions

What the meaning of a regular expression owes to the way in which it is read, apart from any pattern.

- Signs other than `operators` stand for themselves, and next to each other they are one literal
  (`ofText_symbols`).
- Groups, repetitions, alternations and sequences add a level each, and so do classes in brackets,
  unions and operators in them. A text is refused exactly if its tree has more levels than the limit
  (`ofText_eq_ok_iff`).
- Capturing groups are numbered from 1 in the order of their parentheses. No bound is set to the
  numbers: those of a text with fewer than `2 ^ 32` opening parentheses fit into 32 bits
  (`nextCapture_run_initial_lt`).
- A sequence in a sequence, and an alternation in an alternation, is spread out (`sequence_spread`,
  `either_spread`); an alternation of single characters is a class (`either_symbols`); what sequences
  begin with in common is taken out of an alternation of them (`either_append`); and what takes
  nothing is repeated once at most (`repeated_of_takesNothing`).
-/
namespace PatternAutomata

/-! ### Levels -/

namespace Regex

mutual

/-- How many levels of a class lie one in the other. -/
def ClassNode.levels : ClassNode → Nat
  | .bracketed _ _ body => body.levels + 1
  | .union _ items => ClassNode.mostLevels items + 1
  | .binary _ _ left right => max left.levels right.levels + 1
  | _ => 0

/-- The greatest `levels` of a list. -/
def ClassNode.mostLevels : List ClassNode → Nat
  | [] => 0
  | node :: rest => max node.levels (ClassNode.mostLevels rest)

end

mutual

/-- How many levels of a tree lie one in the other. -/
def Node.levels : Node → Nat
  | .bracketed _ _ body => body.levels + 1
  | .repetition _ _ body => body.levels + 1
  | .group _ _ body => body.levels + 1
  | .alternation _ branches => Node.mostLevels branches + 1
  | .concat _ items => Node.mostLevels items + 1
  | _ => 0

/-- The greatest `levels` of a list. -/
def Node.mostLevels : List Node → Nat
  | [] => 0
  | node :: rest => max node.levels (Node.mostLevels rest)

end

theorem bind_unit_eq_ok {one other : Except SyntaxError Unit} :
    (one >>= fun _ => other) = .ok () ↔ one = .ok () ∧ other = .ok () := by
  rw [bind_eq_ok]
  exact ⟨fun ⟨_, first, second⟩ => ⟨first, second⟩, fun ⟨first, second⟩ => ⟨(), first, second⟩⟩

/-- To enter a level and then stay within the limit is to have room for that level too. -/
theorem enter_bind_eq_ok {limit level depth : Nat} {span : Span} {check : Except SyntaxError Unit}
    (inside : level + 1 ≤ limit → (check = .ok () ↔ level + 1 + depth ≤ limit)) :
    (enter limit (level + 1) span >>= fun _ => check) = .ok () ↔ level + (depth + 1) ≤ limit := by
  rw [bind_unit_eq_ok]
  by_cases room : level + 1 ≤ limit
  · rw [inside room, enter, if_neg (Nat.not_lt.mpr room), eq_self, true_and]
    omega
  · rw [enter, if_pos (Nat.not_le.mp room)]
    constructor
    · rintro ⟨refused, _⟩
      cases refused
    · intro deep
      omega

mutual

theorem ClassNode.checkDepth_eq_ok_iff {limit level : Nat} (inside : level ≤ limit)
    (node : ClassNode) :
    node.checkDepth limit level = .ok () ↔ level + node.levels ≤ limit := by
  cases node with
  | bracketed span negated body =>
    exact enter_bind_eq_ok fun room => ClassNode.checkDepth_eq_ok_iff room body
  | union span items =>
    exact enter_bind_eq_ok fun room => ClassNode.checkDepths_eq_ok_iff room items
  | binary span operator left right =>
    refine enter_bind_eq_ok fun room => ?_
    rw [bind_unit_eq_ok, ClassNode.checkDepth_eq_ok_iff room left,
      ClassNode.checkDepth_eq_ok_iff room right]
    omega
  | _ => simp [ClassNode.checkDepth, ClassNode.levels, inside]

theorem ClassNode.checkDepths_eq_ok_iff {limit level : Nat} (inside : level ≤ limit)
    (nodes : List ClassNode) :
    ClassNode.checkDepths limit level nodes = .ok () ↔
      level + ClassNode.mostLevels nodes ≤ limit := by
  cases nodes with
  | nil => simp [ClassNode.checkDepths, ClassNode.mostLevels, inside]
  | cons node rest =>
    rw [ClassNode.checkDepths, bind_unit_eq_ok, ClassNode.checkDepth_eq_ok_iff inside node,
      ClassNode.checkDepths_eq_ok_iff inside rest, ClassNode.mostLevels]
    omega

end

mutual

theorem Node.checkDepth_eq_ok_iff {limit level : Nat} (inside : level ≤ limit) (node : Node) :
    node.checkDepth limit level = .ok () ↔ level + node.levels ≤ limit := by
  cases node with
  | bracketed span negated body =>
    exact enter_bind_eq_ok fun room => body.checkDepth_eq_ok_iff room
  | repetition span repeats body =>
    exact enter_bind_eq_ok fun room => Node.checkDepth_eq_ok_iff room body
  | group span kind body =>
    exact enter_bind_eq_ok fun room => Node.checkDepth_eq_ok_iff room body
  | alternation span branches =>
    exact enter_bind_eq_ok fun room => Node.checkDepths_eq_ok_iff room branches
  | concat span items =>
    exact enter_bind_eq_ok fun room => Node.checkDepths_eq_ok_iff room items
  | _ => simp [Node.checkDepth, Node.levels, inside]

theorem Node.checkDepths_eq_ok_iff {limit level : Nat} (inside : level ≤ limit)
    (nodes : List Node) :
    Node.checkDepths limit level nodes = .ok () ↔ level + Node.mostLevels nodes ≤ limit := by
  cases nodes with
  | nil => simp [Node.checkDepths, Node.mostLevels, inside]
  | cons node rest =>
    rw [Node.checkDepths, bind_unit_eq_ok, Node.checkDepth_eq_ok_iff inside node,
      Node.checkDepths_eq_ok_iff inside rest, Node.mostLevels]
    omega

end

/-- A tree is kept exactly if it has no more levels than the limit. -/
theorem Node.ofText_eq_ok_iff {limit : Nat} {text : List Char} {node : Node} :
    Node.ofText limit text = .ok node ↔ readTree text = .ok node ∧ node.levels ≤ limit := by
  have levels := node.checkDepth_eq_ok_iff (Nat.zero_le limit)
  rw [Nat.zero_add] at levels
  rw [Node.ofText, bind_eq_ok]
  constructor
  · rintro ⟨tree, read, checked⟩
    obtain ⟨_, shallow, same⟩ := bind_eq_ok.mp checked
    cases same
    exact ⟨read, levels.mp shallow⟩
  · rintro ⟨read, shallow⟩
    exact ⟨node, read, bind_eq_ok.mpr ⟨(), levels.mpr shallow, rfl⟩⟩

/-! ### Numbers of groups -/

/-- A group that is opened without a name has the number that it is offered. -/
theorem opening_number {index number : Nat} {names : GroupNames} {cursor after : Cursor}
    {name? : Option (List Char)}
    (opens : opening index names cursor = .ok (.group (.capture number name?), after)) :
    number = index := by
  unfold opening at opens
  simp only at opens
  split at opens
  · cases opens
  · split at opens
    · obtain ⟨⟨name, span, rest⟩, _, made⟩ := bind_eq_ok.mp opens
      cases made
    · split at opens
      · unfold flagsOpening at opens
        split at opens
        · cases opens
        · obtain ⟨⟨settings, rest, position⟩, _, made⟩ := bind_eq_ok.mp opens
          simp only at made
          split at made
          · split at made
            · cases made
            · cases made
          · cases made
      · cases opens
        rfl

namespace Reader

variable {reader next : Reader} {cursor : Cursor}

/-- A parenthesis opens at most one capturing group, which has the number that is due. -/
theorem openParenthesis_number (opens : reader.openParenthesis cursor = .ok next) :
    next.nextCapture = reader.nextCapture ∨
      next.nextCapture = reader.nextCapture + 1 ∧ ∃ span name? spaces,
        next.frames = .group span (.capture reader.nextCapture name?) spaces reader.items
          reader.start :: reader.frames := by
  obtain ⟨⟨opened, after⟩, found, made⟩ := bind_eq_ok.mp opens
  cases opened with
  | flags settings =>
    cases made
    exact .inl rfl
  | named name span =>
    cases made
    exact .inr ⟨rfl, _, _, _, rfl⟩
  | group kind =>
    cases kind with
    | plain settings =>
      cases made
      exact .inl rfl
    | capture index name? =>
      cases made
      refine .inr ⟨rfl, cursor.nextSpan, name?, reader.ignoresSpace, ?_⟩
      have due : index = reader.nextCapture := opening_number found
      rw [due]
      rfl

theorem nextCapture_closeGroup (closes : reader.closeGroup cursor = .ok next) :
    next.nextCapture = reader.nextCapture := by
  unfold closeGroup at closes
  split at closes
  · cases closes
    rfl
  · cases closes

theorem nextCapture_bracket (reads : reader.bracket cursor = .ok next) :
    next.nextCapture = reader.nextCapture := by
  obtain ⟨⟨body, after⟩, _, made⟩ := bind_eq_ok.mp reads
  cases body with
  | bracketed span negated body =>
    cases made
    rfl
  | _ => cases made

theorem nextCapture_repeatLast {repeats : Except SyntaxError (Repeats × Cursor)}
    (applies : reader.repeatLast cursor repeats = .ok next) :
    next.nextCapture = reader.nextCapture := by
  unfold repeatLast at applies
  split at applies
  · cases applies
  · cases applies
  · obtain ⟨⟨repeats, after⟩, _, made⟩ := bind_eq_ok.mp applies
    cases made
    rfl

theorem nextCapture_primitive {c : Char} (reads : reader.primitive c cursor = .ok next) :
    next.nextCapture = reader.nextCapture := by
  unfold primitive at reads
  split at reads
  · obtain ⟨⟨node, after⟩, _, made⟩ := bind_eq_ok.mp reads
    cases made
    rfl
  all_goals
    cases reads
    rfl

/-- Only a parenthesis uses up a number. -/
theorem nextCapture_step {c : Char} (steps : reader.step c cursor = .ok next) :
    next.nextCapture ≤ reader.nextCapture + if c = '(' then 1 else 0 := by
  cases blank : cursor.skipBlank.position != cursor.position with
  | true =>
    simp only [step, blank, if_true] at steps
    cases steps
    exact Nat.le_add_right _ _
  | false =>
    simp only [step, blank, Bool.false_eq_true, if_false] at steps
    split at steps
    · rcases openParenthesis_number steps with same | ⟨one, _⟩
      · rw [same]
        exact Nat.le_add_right _ _
      · rw [one]
        exact Nat.le_refl _
    · exact Nat.le_of_eq (nextCapture_closeGroup steps)
    · cases steps
      exact Nat.le_refl _
    · exact Nat.le_of_eq (nextCapture_bracket steps)
    · split at steps
      · exact Nat.le_add_right_of_le (Nat.le_of_eq (nextCapture_repeatLast steps))
      · exact Nat.le_add_right_of_le (Nat.le_of_eq (nextCapture_primitive steps))

/-- A text uses up no more numbers than it has opening parentheses. -/
theorem nextCapture_run {text : List Char} {skip : Nat} (runs : run text skip reader = .ok next) :
    next.nextCapture ≤ reader.nextCapture + text.count '(' := by
  induction text generalizing skip reader with
  | nil =>
    cases runs
    exact Nat.le_add_right _ _
  | cons c rest ih =>
    have one : (c :: rest).count '(' = rest.count '(' + if c = '(' then 1 else 0 := by
      rw [List.count_cons]
      simp only [beq_iff_eq]
    rw [one]
    cases skip with
    | zero =>
      obtain ⟨middle, steps, runs⟩ := bind_eq_ok.mp runs
      have first := nextCapture_step steps
      have later := ih runs
      omega
    | succ skip =>
      have later := ih runs
      omega

/-- The numbers of groups fit into 32 bits in every text with fewer parentheses than that. -/
theorem nextCapture_run_initial_lt {text : List Char} (runs : run text 0 initial = .ok next)
    (few : text.count '(' + 1 < UInt32.size) : next.nextCapture < UInt32.size := by
  have used := nextCapture_run runs
  have first : initial.nextCapture = 1 := rfl
  omega

end Reader

end Regex

/-! ### The normal form of expressions -/

namespace Expr

/-- Parts that are not made of others stay as they are where parts are spread out. -/
theorem flatMap_eq_self {spread : Expr → List Expr} {parts : List Expr}
    (whole : ∀ part ∈ parts, spread part = [part]) : parts.flatMap spread = parts :=
  (List.flatMap_congr whole).trans (List.flatMap_singleton' parts)

/-- Literals in a row are one literal. -/
theorem foldr_prepend_texts (first : List Char) (others : List (List Char)) :
    ((first :: others).map text).foldr prepend [] = [text (first :: others).flatten] := by
  induction others generalizing first with
  | nil => simp [prepend, text]
  | cons second rest ih =>
    rw [List.map_cons, List.foldr_cons, ih]
    simp only [text_eq_literal, prepend, List.flatten_cons, List.utf8Encode_append]

theorem sequence_texts {texts : List (List Char)} (nonempty : texts ≠ []) :
    sequence (texts.map text) = text texts.flatten := by
  have apart : (texts.map text).flatMap items = texts.map text :=
    flatMap_eq_self (List.forall_mem_map.mpr fun _ _ => rfl)
  cases texts with
  | nil => exact absurd rfl nonempty
  | cons first others => rw [sequence, apart, foldr_prepend_texts]

/-- The items of a sequence within a sequence are items of that sequence. -/
theorem sequence_spread (front back : List Expr) {inner : List Expr}
    (flat : ∀ item ∈ inner, item.items = [item]) :
    sequence (front ++ concat inner :: back) = sequence (front ++ inner ++ back) := by
  have spread : inner.flatMap items = (concat inner).items := flatMap_eq_self flat
  rw [sequence, sequence, List.flatMap_append, List.flatMap_cons, List.flatMap_append,
    List.flatMap_append, spread, List.append_assoc]

/-- The branches of an alternation within an alternation are branches of that alternation. -/
theorem either_spread (front back : List Expr) {inner : List Expr}
    (flat : ∀ branch ∈ inner, branch.branches = [branch]) :
    either (front ++ alternation inner :: back) = either (front ++ inner ++ back) := by
  have spread : inner.flatMap branches = (alternation inner).branches := flatMap_eq_self flat
  rw [either, either, List.flatMap_append, List.flatMap_cons, List.flatMap_append,
    List.flatMap_append, spread, List.append_assoc]

theorem mapM_map_of_forall {α β : Type} {f : Expr → Option β} {g : α → Expr} (value : α → β)
    (each : ∀ a, f (g a) = some (value a)) (list : List α) :
    (list.map g).mapM f = some (list.map value) := by
  have values : f ∘ g = fun a => pure (value a) := funext each
  rw [List.mapM_map, values, List.mapM_pure]
  rfl

theorem char?_text (c : Char) : (text [c]).char? = some c := by
  rw [text_eq_literal, char?, List.utf8Decode?_utf8Encode]
  rfl

/-- An alternation of several single characters is their class. -/
theorem either_symbols {symbols : List Char} (several : 2 ≤ symbols.length) :
    either (symbols.map fun c => text [c]) = ofChars (.ofRanges (symbols.map .single)) := by
  have apart : (symbols.map fun c => text [c]).flatMap branches = symbols.map fun c => text [c] :=
    flatMap_eq_self (List.forall_mem_map.mpr fun _ _ => rfl)
  have read : (symbols.map fun c => text [c]).mapM char? = some symbols := by
    rw [mapM_map_of_forall id char?_text, List.map_id]
  match symbols, several with
  | first :: second :: rest, _ =>
    rw [either, apart]
    simp only [List.map_cons] at read ⊢
    simp only [collapse?, read, List.map_cons]

mutual

theorem same_refl (expr : Expr) : expr.same expr = true := by
  cases expr with
  | repetition min max? greedy body => simp [same, same_refl body]
  | capture index name? body => simp [same, same_refl body]
  | concat items => exact sameAll_refl items
  | alternation branches => exact sameAll_refl branches
  | _ => simp [same]

theorem sameAll_refl (exprs : List Expr) : sameAll exprs exprs = true := by
  cases exprs with
  | nil => rfl
  | cons expr rest => rw [sameAll, same_refl expr, sameAll_refl rest, Bool.true_and]

end

theorem commonItems_append (common left right : List Expr) :
    commonItems (common ++ left) (common ++ right) = common ++ commonItems left right := by
  induction common with
  | nil => rfl
  | cons item common ih =>
    rw [List.cons_append, List.cons_append, commonItems_cons, if_pos (same_refl item), ih,
      List.cons_append]

theorem foldl_commonItems_append (common first : List Expr) (others : List (List Expr)) :
    (others.map (common ++ ·)).foldl commonItems (common ++ first) =
      common ++ others.foldl commonItems first := by
  induction others generalizing first with
  | nil => rfl
  | cons other rest ih =>
    rw [List.map_cons, List.foldl_cons, commonItems_append, ih, List.foldl_cons]

/-- What several sequences begin with in common is taken out of an alternation of them. -/
theorem either_append {common first second : List Expr} {others : List (List Expr)}
    (some_common : common ≠ []) (no_more : (second :: others).foldl commonItems first = []) :
    either ((first :: second :: others).map fun rest => concat (common ++ rest)) =
      sequence (common ++ [choice ((first :: second :: others).map sequence)]) := by
  have apart : ((first :: second :: others).map fun rest => concat (common ++ rest)).flatMap
      branches = (first :: second :: others).map fun rest => concat (common ++ rest) :=
    flatMap_eq_self (List.forall_mem_map.mpr fun _ _ => rfl)
  have parts : ((first :: second :: others).map fun rest => concat (common ++ rest)).mapM concat? =
      some ((first :: second :: others).map (common ++ ·)) :=
    mapM_map_of_forall (common ++ ·) (fun _ => rfl) _
  have left : ((first :: second :: others).map (common ++ ·)).map (·.drop common.length) =
      first :: second :: others := by
    simp [Function.comp_def]
  have shared : commonPrefix? ((first :: second :: others).map fun rest => concat (common ++ rest)) =
      some (common, first :: second :: others) := by
    have all := foldl_commonItems_append common first (second :: others)
    rw [no_more, List.append_nil] at all
    rw [commonPrefix?, parts, List.map_cons]
    simp only [all, List.isEmpty_eq_false_iff.mpr some_common, Bool.false_eq_true, if_false]
    rw [← List.map_cons (f := (common ++ ·)), left]
  have classes : collapse? ((first :: second :: others).map fun rest => concat (common ++ rest)) =
      none := by
    simp [collapse?, List.mapM_cons, char?, charSet?]
  rw [either, apart]
  simp only [List.map_cons] at shared classes ⊢
  simp only [classes, shared, List.map_cons]

/-- What takes nothing is repeated once at most. -/
theorem repeated_of_takesNothing {body : Expr} (nothing : body.takesNothing = true) {min : Nat}
    {max? : Option Nat} (possible : ∀ max ∈ max?, min ≤ max) (greedy : Bool) :
    repeated min max? greedy body =
      if max? = some 0 then empty
      else if min = 0 then .repetition 0 (some 1) greedy body
      else body := by
  cases max? with
  | none => cases min <;> simp [repeated, nothing]
  | some max =>
    have least := possible max rfl
    cases max <;> cases min <;> simp_all [repeated]

end Expr

/-! ### Texts without operators -/

/-- Signs that are no operators are read as literals, one after the other. -/
theorem Regex.Reader.reads_symbols {reader : Reader} {outer : List Frame} {earlier items : List Node}
    {text : List Char} (plain : ∀ c ∈ text, c ∉ operators) (there : reader.At outer earlier items) :
    ∃ after nodes, Reads text reader after ∧ after.At outer earlier (nodes.reverse ++ items) ∧
      List.Forall₂ (fun c node => ∃ span, node = .literal ⟨span, c, false⟩) text nodes := by
  induction text generalizing reader items with
  | nil => exact ⟨reader, [], Reads.nil reader, there, .nil⟩
  | cons c rest ih =>
    have ⟨first, others⟩ := List.forall_mem_cons.mp plain
    obtain ⟨middle, span, reads, atMiddle⟩ := reads_literal there first
    obtain ⟨after, nodes, more, atAfter, literals⟩ := ih others atMiddle
    have absent : '?' ∉ rest := fun member => others '?' member (by decide)
    refine ⟨after, .literal ⟨span, c, false⟩ :: nodes, reads.append more absent, ?_,
      .cons ⟨span, rfl⟩ literals⟩
    rw [List.reverse_cons, List.append_assoc]
    exact atAfter

namespace Expr

open Regex

theorem ofNodes_literals {text : List Char} {nodes : List Node}
    (literals : List.Forall₂ (fun c node => ∃ span, node = .literal ⟨span, c, false⟩) text nodes) :
    ofNodes plainFlags nodes = .ok (text.map fun c => Expr.text [c], plainFlags) ∧
      Node.mostLevels nodes = 0 := by
  induction literals with
  | nil => exact ⟨rfl, rfl⟩
  | cons first _ ih =>
    obtain ⟨span, rfl⟩ := first
    obtain ⟨reads, shallow⟩ := ih
    refine ⟨?_, by rw [Node.mostLevels, shallow]; rfl⟩
    rw [ofNodes]
    exact bind_eq_ok.mpr ⟨_, rfl, bind_eq_ok.mpr ⟨_, reads, rfl⟩⟩

theorem sequence_symbols {text : List Char} (nonempty : text ≠ []) :
    sequence (text.map fun c => Expr.text [c]) = .text text := by
  have some_symbols : text.map (fun c => [c]) ≠ [] := by simpa using nonempty
  have joined := sequence_texts some_symbols
  rwa [List.map_map, ← List.flatMap_def, List.flatMap_singleton'] at joined

/-- Literals that have been read in a row have one level at most, and are one literal. -/
theorem ofNode_sequence_literals {reader : Reader} {text : List Char} {nodes : List Node}
    (nonempty : text ≠ []) (read : reader.items = nodes.reverse)
    (literals : List.Forall₂ (fun c node => ∃ span, node = .literal ⟨span, c, false⟩) text nodes) :
    reader.sequence.levels ≤ 1 ∧
      ofNode plainFlags reader.sequence = .ok (.text text, plainFlags) := by
  have listed : nodes = reader.items.reverse := by rw [read, List.reverse_reverse]
  unfold Reader.sequence
  split
  · next none =>
    rw [none] at listed
    subst listed
    cases literals
    exact absurd rfl nonempty
  · next node one =>
    rw [one, List.reverse_singleton] at listed
    subst listed
    cases literals with
    | cons first none =>
      cases none
      obtain ⟨span, rfl⟩ := first
      exact ⟨Nat.zero_le 1, rfl⟩
  · obtain ⟨exprs, shallow⟩ := ofNodes_literals literals
    rw [listed] at exprs shallow
    refine ⟨?_, bind_eq_ok.mpr ⟨_, exprs, ?_⟩⟩
    · rw [Node.levels, shallow]
    · simp only [sequence_symbols nonempty]

/-- A text in which no sign is an operator is read as one literal that stands for itself. -/
theorem ofText_symbols {config : Config} {text : List Char}
    (sensitive : config.caseInsensitive = false) (deep : 1 ≤ config.nestLimit)
    (nonempty : text ≠ []) (plain : ∀ c ∈ text, c ∉ operators) :
    ofText config text = .ok (.text text) := by
  have start : Reader.initial.At [] [] [] := ⟨rfl, rfl, .start, rfl⟩
  obtain ⟨after, nodes, reads, there, literals⟩ := Reader.reads_symbols plain start
  have items : after.items = nodes.reverse := by rw [there.items, List.append_nil]
  obtain ⟨levels, expr⟩ := ofNode_sequence_literals nonempty items literals
  have read := readTree_of_reads reads there
  rw [(there.branches_eq trivial).2.1 rfl] at read
  have kept := Node.ofText_eq_ok_iff.mpr ⟨read, Nat.le_trans levels deep⟩
  rw [ofText, sensitive]
  exact bind_eq_ok.mpr ⟨_, kept, bind_eq_ok.mpr ⟨_, expr, rfl⟩⟩

end Expr

end PatternAutomata
