import PseudocodeLint.Proofs.Coverage
import PseudocodeLint.Proofs.Recognition
import PseudocodeLint.Proofs.Segmentation

namespace PseudocodeLint

/-! The blank line below a header, as it stands in the text.  An empty logical line stands below a
header exactly when two newlines follow the header and a line begins behind them: at the end of the
text, and in front of indented prose, the second newline belongs to the line below. -/

section

variable {text line : Text} {before after rest : List Text}

/-- The lines from some line on are the text from the place where that line starts. -/
theorem drop_startAfter (before : List Text) (more : rest ≠ []) :
    (joinLines (before ++ rest)).drop (startAfter before) = joinLines rest := by
  induction before with
  | nil => rfl
  | cons first others othersIH =>
      have filled : others ++ rest ≠ [] := by simp [more]
      rw [List.cons_append, joinLines_cons filled, startAfter, Nat.add_assoc, ← List.drop_drop,
        List.drop_left, Nat.add_comm, List.drop_succ_cons, othersIH]

theorem drop_behind_line (before : List Text) (line : Text) (more : after ≠ []) :
    (joinLines (before ++ line :: after)).drop (startAfter before + line.length) =
      '\n' :: joinLines after := by
  rw [← List.drop_drop, drop_startAfter before (List.cons_ne_nil line after), joinLines_cons more,
    List.drop_left]

theorem drop_behind_last_line (before : List Text) (line : Text) :
    (joinLines (before ++ [line])).drop (startAfter before + line.length) = [] := by
  rw [← List.drop_drop, drop_startAfter before (List.cons_ne_nil line []), joinLines, joinWith,
    List.drop_length]

/-- A line begins behind every newline that ends a logical line. -/
theorem opensLine_joinLines (cut : logicalLines text = before ++ line :: after)
    (more : after ≠ []) : opensLine (joinLines after) = true := by
  have joint : IsJoint (logicalLines text) (startAfter before + line.length) :=
    ⟨before, line, after, cut, more, rfl⟩
  have opens := (isJoint_logicalLines_iff.mp joint).2
  have joined := joinLines_logicalLines text
  rw [cut] at joined
  rw [← joined, ← List.drop_drop, drop_behind_line before line more] at opens
  exact opens

/-- A newline behind which a line begins stands in no line. -/
theorem not_standsInLine_of_opensLine {position : Nat}
    (opens : opensLine (text.drop (position + 1)) = true) :
    ¬ StandsInLine (logicalLines text) position '\n' := by
  intro stands
  obtain ⟨newline, kept⟩ := standsInLine_logicalLines_iff.mp stands
  exact kept (isJoint_logicalLines_iff.mpr ⟨newline, opens⟩)

/-- A newline in front of a line that begins makes an empty line, since otherwise it would stand
inside of one. -/
theorem eq_nil_of_opensLine {tail : Text} (cut : logicalLines text = before ++ line :: after)
    (same : joinLines (line :: after) = '\n' :: tail) (opens : opensLine tail = true) :
    line = [] := by
  cases line with
  | nil => rfl
  | cons c others =>
      obtain ⟨remainder, whole⟩ := isPrefix_joinWith '\n' (c :: others) after
      obtain rfl : c = '\n' := (List.cons.inj (whole.trans same)).1
      have stands : StandsInLine (logicalLines text) (startAfter before) '\n' :=
        ⟨before, '\n' :: others, after, 0, cut, rfl, rfl⟩
      have joined := joinLines_logicalLines text
      rw [cut] at joined
      have behind : text.drop (startAfter before + 1) = tail := by
        rw [← joined, ← List.drop_drop, drop_startAfter before (List.cons_ne_nil _ after), same]
        rfl
      rw [← behind] at opens
      exact absurd stands (not_standsInLine_of_opensLine opens)

/-- The line below is empty exactly when two newlines stand behind this one and a line begins after
them. -/
theorem empty_below_iff (cut : logicalLines text = before ++ line :: after) :
    after.head? = some [] ↔
      ∃ rest, text.drop (startAfter before + line.length) = '\n' :: '\n' :: rest ∧
        BeginsLine rest := by
  have joined := joinLines_logicalLines text
  rw [cut] at joined
  cases after with
  | nil => simp [← joined, drop_behind_last_line]
  | cons next more =>
      have behind : text.drop (startAfter before + line.length) =
          '\n' :: joinLines (next :: more) := by
        rw [← joined]
        exact drop_behind_line before line (List.cons_ne_nil next more)
      have deeper : logicalLines text = (before ++ [line]) ++ next :: more := by simp [cut]
      constructor
      · intro empty
        obtain rfl := Option.some.inj empty
        -- at the end of the text there is no empty line, since none begins there
        have opens := opensLine_joinLines cut (List.cons_ne_nil [] more)
        have filled : more ≠ [] := by
          intro last
          rw [last] at opens
          contradiction
        have begins := opensLine_joinLines deeper filled
        rw [behind, joinLines_cons filled]
        exact ⟨joinLines more, rfl, opensLine_iff.mp begins⟩
      · intro ⟨rest, newlines, begins⟩
        rw [behind] at newlines
        have second := (List.cons.inj newlines).2
        have empty := eq_nil_of_opensLine deeper second (opensLine_iff.mpr begins)
        exact congrArg some empty

end

section

variable {policy : Policy} {document : Document} {header : AlgorithmHeader}
  {before after : List Text}

/-- Outside the grammar document every algorithm header opens a block. -/
theorem filter_header_blocks {lines : List Text}
    (cut : lines = before ++ header.toText :: after) (wellFormed : header.WellFormed) :
    (blocks lines false).filter (·.header = before.length) =
      [⟨before.length, .algorithm header.name header.hasBlankGap⟩] := by
  have found : lines[before.length]? = some header.toText := by simp [cut]
  have opened : Block.Opened lines false
      ⟨before.length, .algorithm header.name header.hasBlankGap⟩ :=
    openingAt_of_read? found (AlgorithmHeader.read?_toText wellFormed)
  have member := mem_blocks_iff.mpr ⟨opened, isHidden_outside_grammar lines before.length⟩
  apply eq_singleton_of_mem (length_filter_header_le_one lines false before.length)
  exact List.mem_filter.mpr ⟨member, decide_eq_true rfl⟩

theorem diagnosticsAt_missingBlank (outside : document.name ≠ policy.grammarDocument)
    (wellFormed : header.WellFormed) (cut : document.lines = before ++ header.toText :: after) :
    document.diagnosticsAt policy before.length .missingBlankAfterHeader =
      if after.head? = some [] then []
      else [Finding.toDiagnostic policy document.name
        ⟨before.length, .missingBlankAfterHeader .algorithm header.name, [header.toText]⟩] := by
  have plain : document.isGrammar policy = false := decide_eq_false outside
  have here : document.lines[before.length]? = some header.toText := by simp [cut]
  have below : document.lines[before.length + 1]? = after.head? := by
    rw [cut, List.getElem?_append_right (Nat.le_add_right _ 1), Nat.add_sub_cancel_left,
      List.head?_eq_getElem?]
    rfl
  rw [diagnosticsAt_eq, plain, filter_rule_of_header rfl, filter_header_blocks cut wellFormed,
    List.flatMap_singleton]
  simp only [Block.headerFindings_algorithm, Block.hasBlankAfterHeader, here, below,
    Option.toList_some]
  cases header.hasBlankGap <;> by_cases empty : after.head? = some [] <;>
    simp [empty, Violation.rule]

end

/-- Outside the grammar document the text behind an algorithm header decides whether its blank line
is missing: nothing is reported when two newlines follow the header and a line begins behind them,
and in all other cases the header is reported once. -/
theorem missingBlank_iff_text_behind_header {policy : Policy} {document : Document}
    {header : AlgorithmHeader} {before after : List Text}
    (outside : document.name ≠ policy.grammarDocument) (wellFormed : header.WellFormed)
    (cut : document.lines = before ++ header.toText :: after) :
    let behind := document.text.drop (startAfter before + header.toText.length)
    let hasBlank := ∃ rest, behind = '\n' :: '\n' :: rest ∧ BeginsLine rest
    let reported := document.diagnosticsAt policy before.length .missingBlankAfterHeader
    (reported = [] ↔ hasBlank) ∧
      (¬ hasBlank → reported = [Finding.toDiagnostic policy document.name
        ⟨before.length, .missingBlankAfterHeader .algorithm header.name, [header.toText]⟩]) := by
  intro behind hasBlank reported
  have empty : after.head? = some [] ↔ hasBlank := empty_below_iff cut
  have report := diagnosticsAt_missingBlank outside wellFormed cut
  constructor
  · rw [← empty]
    simp only [reported, report]
    split <;> simp_all
  · intro missing
    simp only [reported, report]
    exact if_neg (mt empty.mp missing)

/-- Below the second header stands indented prose, so the newline in front of it ends no line. -/
theorem blank_line_lost_to_indented_prose :
    let header : AlgorithmHeader := ⟨"Foo".toList, [], "a,\n b".toList, [], []⟩
    let document : Document := ⟨"a.md".toList, "Run():\n\nFoo(a,\n b):\n\n  c".toList⟩
    let behind := document.text.drop 19
    let reported := document.diagnosticsAt {} 2 .missingBlankAfterHeader
    document.name ≠ Policy.grammarDocument {} ∧ header.WellFormed ∧
      document.lines = ["Run():".toList, []] ++ header.toText :: ["\n  c".toList] ∧
      behind = "\n\n  c".toList ∧
      (¬ ∃ rest, behind = '\n' :: '\n' :: rest ∧ BeginsLine rest) ∧
      reported = [Finding.toDiagnostic {} "a.md".toList
        ⟨2, .missingBlankAfterHeader .algorithm "Foo".toList, ["Foo(a,\n b):".toList]⟩] := by
  intro header document behind reported
  have outside : document.name ≠ Policy.grammarDocument {} := by decide
  have wellFormed : header.WellFormed := {
    named := by decide
    name_alphanumeric := List.all_eq_true.mp rfl
    beforeArguments_blank := List.all_eq_true.mp rfl
    arguments_open := fun _ member same => absurd (same ▸ member) (by decide)
    beforeColon_blank := List.all_eq_true.mp rfl
    afterColon_blank := List.all_eq_true.mp rfl }
  have cut : document.lines = ["Run():".toList, []] ++ header.toText :: ["\n  c".toList] := by
    decide
  have behind_eq : behind = "\n\n  c".toList := by decide
  have lost : ¬ ∃ rest, behind = '\n' :: '\n' :: rest ∧ BeginsLine rest := by
    intro ⟨rest, same, begins⟩
    rw [behind_eq] at same
    cases same
    exact absurd (opensLine_iff.mpr begins) (by decide)
  obtain ⟨_, missing⟩ := missingBlank_iff_text_behind_header outside wellFormed cut
  exact ⟨outside, wellFormed, cut, behind_eq, lost, missing lost⟩

end PseudocodeLint
