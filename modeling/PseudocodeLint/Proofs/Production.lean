import PseudocodeLint.Proofs.LineFindings
import PseudocodeLint.Proofs.Recognition

namespace PseudocodeLint

/-- The definition whose header stands at `header` runs up to `stop`, the first line below it
without a visible character, or the number of lines. -/
structure EndsDefinition (lines : List Text) (header stop : Nat) : Prop where
  below : header < stop
  stop_le_length : stop ≤ lines.length
  visible : ∀ line, header < line → line < stop →
    ∃ text c, lines[line]? = some text ∧ c ∈ text ∧ isBlank c = false
  blank : ∀ text, lines[stop]? = some text → ∀ c ∈ text, isBlank c = true

/-- The list of a block begins at `start` with `step`, and at that line the block reports what the
step breaks and nothing else. -/
structure Block.BeginsWithStep (lines : List Text) (block : Block) (start : Nat) (step : Text) :
    Prop where
  found : lines[start]? = some step
  item : isItem step = true
  checked : (Block.stepRun lines start).head? = some step
  reported : (block.findings lines).filter (·.line = start) = block.stepFindings step start
  wellShaped : ∀ finding ∈ block.findings lines, finding.line = start →
    finding.violation.rule ≠ .malformedStepShape

section

variable {lines : List Text} {cursor stop : Nat} {name : Text} {needsBlank hasSteps : Bool}

theorem endsDefinition_definitionEnd (inside : cursor < lines.length) :
    EndsDefinition lines cursor (definitionEnd lines cursor) := by
  have run := endsRun_definitionEnd lines cursor
  constructor
  case below => exact lt_definitionEnd lines cursor
  case stop_le_length => exact definitionEnd_le_length inside
  case visible =>
    intro line below above
    obtain ⟨text, found, filled⟩ := run.inside line below above
    obtain ⟨c, member, visible⟩ := isBlankLine_eq_false_iff.mp (by simpa using filled)
    exact ⟨text, c, found, member, visible⟩
  case blank =>
    intro text found
    exact List.all_eq_true.mp (isBlankLine_definitionEnd found)

theorem EndsDefinition.endsRun (ends : EndsDefinition lines cursor stop) :
    EndsRun (!isBlankLine ·) lines (cursor + 1) stop := by
  constructor
  case start_le => exact ends.below
  case inside =>
    intro line lower upper
    obtain ⟨text, c, found, member, visible⟩ := ends.visible line lower upper
    have filled := isBlankLine_eq_false_iff.mpr ⟨c, member, visible⟩
    exact ⟨text, found, by simp [filled]⟩
  case outside =>
    intro text found
    have blank : isBlankLine text = true := List.all_eq_true.mpr (ends.blank text found)
    simp [blank]

theorem endsDefinition_iff (inside : cursor < lines.length) :
    EndsDefinition lines cursor stop ↔ definitionEnd lines cursor = stop := by
  constructor
  · intro ends
    exact (endsRun_definitionEnd lines cursor).unique ends.endsRun
  · intro same
    rw [← same]
    exact endsDefinition_definitionEnd inside

theorem any_startsWithBullet_iff :
    lines[cursor]?.any startsWithBullet = true ↔
      ∃ next, lines[cursor]? = some next ∧ "- ".toList <+: next := by
  simp only [Option.any_eq_true, startsWithBullet, List.isPrefixOf_iff_prefix]

theorem isItem_of_startsWithBullet {text : Text} (bullet : startsWithBullet text = true) :
    isItem text = true := by
  obtain ⟨body, rfl⟩ := List.isPrefixOf_iff_prefix.mp bullet
  exact isItem_iff.mpr ⟨⟨[], .bullet, body⟩, ⟨by simp, trivial⟩, rfl⟩

theorem grammarOpening?_eq_some_iff {line : Text} :
    grammarOpening? lines cursor line = some (.grammar name needsBlank stop hasSteps) ↔
      ∃ production, Production.read? line = some production ∧ ¬ production.isTable = true ∧
        production.name = name ∧ production.needsBlank = needsBlank ∧
        definitionEnd lines cursor = stop ∧
        lines[stop + 1]?.any startsWithBullet = hasSteps := by
  simp only [grammarOpening?, Option.bind_eq_bind, Option.bind_eq_some_iff]
  apply exists_congr
  intro production
  apply and_congr_right
  intro _
  split
  · rename_i table
    simp [table]
  · rename_i block
    simp only [Option.some.injEq, Opening.grammar.injEq, block, not_false_eq_true, true_and,
      Bool.false_eq_true]
    grind

theorem AlgorithmHeader.read?_eq_none_iff {line : Text} :
    AlgorithmHeader.read? line = none ↔
      ∀ header : AlgorithmHeader, header.WellFormed → line ≠ header.toText := by
  simp only [Option.eq_none_iff_forall_ne_some, ne_eq, read?_eq_some_iff, not_and]

theorem openingAt_eq_grammarOpening?_iff (inside : cursor < lines.length) :
    openingAt lines true cursor = some (.grammar name needsBlank stop hasSteps) ↔
      AlgorithmHeader.read? lines[cursor] = none ∧
        grammarOpening? lines cursor lines[cursor] =
          some (.grammar name needsBlank stop hasSteps) := by
  have found : lines[cursor]? = some lines[cursor] := List.getElem?_eq_getElem inside
  cases algorithm : AlgorithmHeader.read? lines[cursor] with
  | some header => simp [openingAt_of_read? found algorithm]
  | none => simp [openingAt, found, algorithm]

theorem openingAt_eq_grammar_iff (inside : cursor < lines.length) :
    openingAt lines true cursor = some (.grammar name needsBlank stop hasSteps) ↔
      (∀ header : AlgorithmHeader, header.WellFormed → lines[cursor] ≠ header.toText) ∧
      (∃ production : Production, production.WellFormed ∧ lines[cursor] = production.toText ∧
        trimEnd (trimStart production.definition) ≠ "one of".toList ∧ production.name = name) ∧
      needsBlank = false ∧ EndsDefinition lines cursor stop ∧
      (hasSteps = true ↔ ∃ next, lines[stop + 1]? = some next ∧ "- ".toList <+: next) := by
  rw [openingAt_eq_grammarOpening?_iff inside, AlgorithmHeader.read?_eq_none_iff,
    grammarOpening?_eq_some_iff, endsDefinition_iff inside, ← any_startsWithBullet_iff,
    ← Bool.eq_iff_iff]
  apply and_congr_right
  intro _
  constructor
  · intro ⟨production, read, block, named, unblanked, ended, listed⟩
    obtain ⟨wellFormed, written⟩ := Production.read?_eq_some_iff.mp read
    rw [wellFormed.isTable_iff] at block
    rw [wellFormed.needsBlank_eq_false] at unblanked
    exact ⟨⟨production, wellFormed, written, block, named⟩, unblanked.symm, ended, listed.symm⟩
  · intro ⟨⟨production, wellFormed, written, block, named⟩, unblanked, ended, listed⟩
    have read := Production.read?_eq_some_iff.mpr ⟨wellFormed, written⟩
    rw [ne_eq, ← wellFormed.isTable_iff] at block
    exact ⟨production, read, block, named, wellFormed.needsBlank_eq_false.trans unblanked.symm,
      ended, listed.symm⟩

/-- A list whose first line is an item begins with a step. -/
theorem Block.beginsWithStep {block : Block} {start : Nat} {step : Text}
    (steps : block.stepsStart? = some start) (below : block.header < start)
    (found : lines[start]? = some step) (item : isItem step = true) :
    block.BeginsWithStep lines start step := by
  have bound := (List.getElem?_eq_some_iff.mp found).1
  have lower := (endsRun_stepsEnd lines start).start_le
  have examined : block.examines lines start = true :=
    Block.examines_iff.mpr ⟨start, steps, Nat.le_refl start, lower, bound⟩
  have checked : (stepRun lines start).head? = some step := by
    rw [← List.head?_drop] at found
    obtain ⟨rest, same⟩ := List.head?_eq_some_iff.mp found
    simp [stepRun, same, item]
  have reported : (block.findings lines).filter (·.line = start) =
      block.stepFindings step start := by
    rw [Block.filter_line_findings, if_neg (Nat.ne_of_lt below), if_pos examined,
      lineReport_of_isItem found item, List.nil_append]
  have wellShaped : ∀ finding ∈ block.findings lines, finding.line = start →
      finding.violation.rule ≠ .malformedStepShape := by
    intro finding member atStart malformed
    have kept : finding ∈ block.stepFindings step start := by
      rw [← reported]
      exact List.mem_filter.mpr ⟨member, decide_eq_true atStart⟩
    have never : (block.stepFindings step start).filter
        (·.violation.rule = .malformedStepShape) = [] := by
      rw [filter_rule_stepFindings, if_neg (by decide)]
    exact List.filter_eq_nil_iff.mp never finding kept (decide_eq_true malformed)
  exact ⟨found, item, checked, reported, wellShaped⟩

/-- The list that a production announces begins with a bullet. -/
theorem Block.Opened.exists_beginsWithStep
    (opened : Block.Opened lines true ⟨cursor, .grammar name needsBlank stop true⟩) :
    ∃ step,
      Block.BeginsWithStep lines ⟨cursor, .grammar name needsBlank stop true⟩ (stop + 1) step := by
  have ended := opened.stop_eq
  have below := lt_definitionEnd lines cursor
  have listed := (grammar_of_openingAt opened).2.2.2
  obtain ⟨step, found, bullet⟩ := (Option.any_eq_true _ _).mp listed.symm
  have first : cursor < stop + 1 := by omega
  exact ⟨step, Block.beginsWithStep rfl first found (isItem_of_startsWithBullet bullet)⟩

end

/-- In the grammar document a line is recognised as a production exactly when it is no algorithm
header and it is the text of a production other than a table of terminals; no line is the text of
two productions.  No header needs a blank line of its own.  The definition ends at the first blank
line below, or with the lines, and steps belong to the block exactly when a bullet stands on the
line after that, so that an announced list begins with a step.  In other documents no line is
recognised as a production. -/
theorem classify_eq_grammar_iff {lines : List Text} {cursor : Nat}
    (inside : cursor < lines.length) :
    (∀ name, (∃ needsBlank stop hasSteps,
      classify lines true cursor = .ok (some (.grammar name needsBlank stop hasSteps))) ↔
        (∀ header : AlgorithmHeader, header.WellFormed → lines[cursor] ≠ header.toText) ∧
        ∃ production : Production, production.WellFormed ∧ lines[cursor] = production.toText ∧
          trimEnd (trimStart production.definition) ≠ "one of".toList ∧ production.name = name) ∧
    (∀ name needsBlank stop hasSteps,
      classify lines true cursor = .ok (some (.grammar name needsBlank stop hasSteps)) →
        needsBlank = false ∧ EndsDefinition lines cursor stop ∧
        (hasSteps = true ↔ ∃ next, lines[stop + 1]? = some next ∧ "- ".toList <+: next)) ∧
    (∀ production other : Production, production.WellFormed → other.WellFormed →
      lines[cursor] = production.toText → lines[cursor] = other.toText → production = other) ∧
    (∀ production : Production, production.WellFormed → lines[cursor] = production.toText →
      production.needsBlank = false) ∧
    (∀ name needsBlank stop,
      classify lines true cursor = .ok (some (.grammar name needsBlank stop true)) →
        ∃ step, Block.BeginsWithStep lines ⟨cursor, .grammar name needsBlank stop true⟩
          (stop + 1) step) ∧
    ∀ name needsBlank stop hasSteps,
      classify lines false cursor ≠ .ok (some (.grammar name needsBlank stop hasSteps)) := by
  simp only [classify_eq_ok inside, ne_eq, Except.ok.injEq]
  constructor
  · intro name
    constructor
    · intro ⟨needsBlank, stop, hasSteps, recognised⟩
      obtain ⟨noHeader, written, -⟩ := (openingAt_eq_grammar_iff inside).mp recognised
      exact ⟨noHeader, written⟩
    · intro ⟨noHeader, written⟩
      have ends := endsDefinition_definitionEnd inside
      exact ⟨_, _, _, (openingAt_eq_grammar_iff inside).mpr
        ⟨noHeader, written, rfl, ends, any_startsWithBullet_iff⟩⟩
  constructor
  · intro name needsBlank stop hasSteps recognised
    exact ((openingAt_eq_grammar_iff inside).mp recognised).2.2
  constructor
  · intro production other wellFormed wellFormedToo written writtenToo
    apply Production.toText_injective wellFormed wellFormedToo
    exact written.symm.trans writtenToo
  constructor
  · intro production wellFormed _
    exact wellFormed.needsBlank_eq_false
  constructor
  · intro name needsBlank stop recognised
    exact Block.Opened.exists_beginsWithStep recognised
  · intro name needsBlank stop hasSteps recognised
    have inGrammar := (grammar_of_openingAt recognised).1
    contradiction

/-- A production whose definition holds colons and goes on on a second line, with a list below. -/
theorem multiline_production_recognised :
    let production : Production := ⟨"Foo".toList, "::".toList, "\n ".toList, "a : b".toList⟩
    let lines := [production.toText, "  c".toList, " \t".toList, "- Do.".toList]
    let opening : Opening := .grammar "Foo".toList false 2 true
    0 < lines.length ∧ production.WellFormed ∧ lines[0] = "Foo ::\n a : b".toList ∧
      (∀ header : AlgorithmHeader, header.WellFormed → lines[0] ≠ header.toText) ∧
      classify lines true 0 = .ok (some opening) ∧ EndsDefinition lines 0 2 ∧
      (∀ other : Production, other.WellFormed → lines[0] = other.toText → production = other) ∧
      production.needsBlank = false ∧
      (∃ step, Block.BeginsWithStep lines ⟨0, opening⟩ 3 step) ∧
      classify lines false 0 ≠ .ok (some opening) := by
  intro production lines opening
  have wellFormed : production.WellFormed := {
    named := by decide
    name_alphanumeric := List.all_eq_true.mp rfl
    one_or_two_colons := Or.inr rfl
    spaced := by decide
    gap_blank := List.all_eq_true.mp rfl
    definition_visible := ⟨'a', rfl, rfl⟩
    definition_on_line := by decide }
  have inside : 0 < lines.length := by decide
  have found : classify lines true 0 = .ok (some opening) := by decide
  obtain ⟨recognised, extent, unique, unblanked, listed, outside⟩ := classify_eq_grammar_iff inside
  obtain ⟨noHeader, _⟩ := (recognised "Foo".toList).mp ⟨false, 2, true, found⟩
  obtain ⟨_, ends, _⟩ := extent _ _ _ _ found
  exact ⟨inside, wellFormed, rfl, noHeader, found, ends,
    fun other wellFormedToo same => unique production other wellFormed wellFormedToo rfl same,
    unblanked production wellFormed rfl, listed _ _ _ found, outside _ _ _ _⟩

end PseudocodeLint
