import PseudocodeLint.Proofs.LineFindings

namespace PseudocodeLint

/-- The steps of the block run to the end of the document. -/
def Block.reachesEnd (lines : List Text) (block : Block) : Bool :=
  block.stepsStart?.any fun start => stepsEnd lines start = lines.length

section

variable {lines more : List Text} {gap : Text} {inGrammar : Bool} {line header start : Nat}
  {block : Block}

theorem definitionEnd_append_gap (blank : isBlankLine gap = true)
    (bound : header < lines.length) :
    definitionEnd (lines ++ gap :: more) header = definitionEnd lines header := by
  rw [definitionEnd, List.drop_append_of_le_length bound, takeWhile_append_stop (by simp [blank])]
  rfl

theorem Block.stepRun_append_gap (blank : isBlankLine gap = true)
    (bound : start ≤ lines.length) :
    stepRun (lines ++ gap :: more) start = stepRun lines start := by
  rw [stepRun, List.drop_append_of_le_length bound,
    takeWhile_append_stop (isItem_eq_false_of_isBlankLine blank)]
  rfl

theorem Block.stepsEnd_append_gap (blank : isBlankLine gap = true)
    (bound : start ≤ lines.length) :
    stepsEnd (lines ++ gap :: more) start = stepsEnd lines start := by
  rw [stepsEnd, stepRun_append_gap blank bound]
  rfl

theorem startsWithBullet_eq_false_of_isBlankLine (blank : isBlankLine gap = true) :
    startsWithBullet gap = false := by
  cases gap with
  | nil => rfl
  | cons c rest =>
      simp only [isBlankLine, List.all_cons, Bool.and_eq_true] at blank
      have other : ('-' == c) = false := by
        apply beq_eq_false_iff_ne.mpr
        rintro rfl
        exact absurd blank.1 (by decide)
      rw [startsWithBullet, String.toList_ofList, List.isPrefixOf, other, Bool.false_and]

/-- A list behind the end of a definition is there without the blank line too, unless it begins
right behind that line. -/
theorem bullet_append_gap (blank : isBlankLine gap = true) (bound : line ≤ lines.length)
    (unlisted : more.head?.any startsWithBullet = false) :
    (lines ++ gap :: more)[line + 1]?.any startsWithBullet =
      lines[line + 1]?.any startsWithBullet := by
  rcases Nat.lt_trichotomy (line + 1) lines.length with inside | last | outside
  · rw [List.getElem?_append_left inside]
  · have bare := startsWithBullet_eq_false_of_isBlankLine blank
    have missing : lines[line + 1]? = none := List.getElem?_eq_none (by omega)
    rw [missing, List.getElem?_append_right (Nat.le_of_eq last.symm), last]
    simpa using bare
  · obtain rfl : lines.length = line := by omega
    have missing : lines[lines.length + 1]? = none := List.getElem?_eq_none (by omega)
    rw [missing, List.getElem?_append_right (Nat.le_succ _)]
    simpa [List.head?_eq_getElem?] using unlisted

theorem openingAt_append_gap (blank : isBlankLine gap = true) (bound : line < lines.length)
    (unlisted : inGrammar = true → more.head?.any startsWithBullet = false) :
    openingAt (lines ++ gap :: more) inGrammar line = openingAt lines inGrammar line := by
  have production : inGrammar = true → ∀ text, grammarOpening? (lines ++ gap :: more) line text =
      grammarOpening? lines line text := by
    intro listed text
    simp only [grammarOpening?, definitionEnd_append_gap blank bound,
      bullet_append_gap blank (definitionEnd_le_length bound) (unlisted listed)]
  simp only [openingAt, List.getElem?_append_left bound]
  cases inGrammar with
  | false => rfl
  | true => simp only [production rfl]

theorem isHidden_append_gap (blank : isBlankLine gap = true) (bound : line < lines.length)
    (unlisted : inGrammar = true → more.head?.any startsWithBullet = false) :
    isHidden (lines ++ gap :: more) inGrammar line = isHidden lines inGrammar line :=
  isHidden_congr fun _ above =>
    openingAt_append_gap blank (Nat.lt_trans above bound) unlisted

theorem visibleBlock?_append_gap (blank : isBlankLine gap = true) (bound : line < lines.length)
    (unlisted : inGrammar = true → more.head?.any startsWithBullet = false) :
    visibleBlock? (lines ++ gap :: more) inGrammar line = visibleBlock? lines inGrammar line := by
  simp only [visibleBlock?, isHidden_append_gap blank bound unlisted,
    openingAt_append_gap blank bound unlisted]

theorem visibleBlock?_eq_none_of_isBlankLine {text : Text} (found : lines[line]? = some text)
    (blank : isBlankLine text = true) : visibleBlock? lines inGrammar line = none := by
  have closed : openingAt lines inGrammar line = none := by
    refine openingAt_eq_none fun other same => ?_
    obtain rfl : text = other := Option.some.inj (found.symm.trans same)
    exact unnamed_of_isBlankLine blank
  simp [visibleBlock?, closed]

theorem blocks_append_gap (blank : isBlankLine gap = true)
    (unlisted : inGrammar = true → more.head?.any startsWithBullet = false) :
    blocks (lines ++ gap :: more) inGrammar =
      blocks lines inGrammar ++ (List.range' (lines.length + 1) more.length).filterMap
        (visibleBlock? (lines ++ gap :: more) inGrammar) := by
  have closed : visibleBlock? (lines ++ gap :: more) inGrammar lines.length = none :=
    visibleBlock?_eq_none_of_isBlankLine (by simp) blank
  have parts : List.range (lines ++ gap :: more).length =
      List.range lines.length ++ lines.length :: List.range' (lines.length + 1) more.length := by
    rw [List.length_append, List.length_cons, List.range_eq_range', ← List.range'_append_1,
      Nat.zero_add, List.range'_succ, List.range_eq_range']
  rw [blocks_eq_filterMap, blocks_eq_filterMap, parts, List.filterMap_append,
    List.filterMap_cons_none closed]
  congr 1
  refine List.filterMap_congr fun line member => ?_
  exact visibleBlock?_append_gap blank (List.mem_range.mp member) unlisted

theorem Block.endFindings_append_gap {stop : Nat} (bound : stop ≤ lines.length) :
    block.endFindings (lines ++ gap :: more) stop = block.endFindings lines stop ++
      if stop = lines.length ∧ gap ≠ [] then
        [⟨stop, .malformedStepShape block.kind block.name, [gap]⟩]
      else [] := by
  rcases Nat.lt_or_eq_of_le bound with inside | rfl
  · have other : stop ≠ lines.length := Nat.ne_of_lt inside
    simp [endFindings, List.getElem?_append_left inside, other]
  · cases gap <;> simp [endFindings]

theorem Block.bodyFindings_append_gap (blank : isBlankLine gap = true)
    (bound : start ≤ lines.length) :
    block.bodyFindings (lines ++ gap :: more) start = block.bodyFindings lines start ++
      if stepsEnd lines start = lines.length ∧ gap ≠ [] then
        [⟨lines.length, .malformedStepShape block.kind block.name, [gap]⟩]
      else [] := by
  have limited := (endsRun_stepsEnd lines start).stop_le_length bound
  rw [bodyFindings, stepRun_append_gap blank bound, stepsEnd_append_gap blank bound,
    endFindings_append_gap limited, ← List.append_assoc]
  congr 1
  split
  · rename_i reached
    rw [reached.1]
  · rfl

theorem Block.Opened.headerFindings_append_gap (opened : block.Opened lines inGrammar)
    (bound : block.kind = .algorithm → block.header + 1 < lines.length) :
    block.headerFindings (lines ++ gap :: more) = block.headerFindings lines := by
  obtain ⟨header, opening⟩ := block
  cases opening with
  | grammar name needsBlank stop hasSteps =>
      obtain rfl := (grammar_of_openingAt opened).2.1
      rfl
  | algorithm name blankGap =>
      have inside : header + 1 < lines.length := bound rfl
      have followed : hasBlankAfterHeader (lines ++ gap :: more) header =
          hasBlankAfterHeader lines header := by
        simp [hasBlankAfterHeader, List.getElem?_append_left inside]
      simp only [headerFindings_algorithm, followed,
        List.getElem?_append_left (Nat.lt_of_succ_lt inside)]

theorem Block.Opened.stepsStart_le_length (opened : block.Opened lines inGrammar)
    (bound : block.kind = .algorithm → block.header + 1 < lines.length)
    (steps : block.stepsStart? = some start) : start ≤ lines.length := by
  obtain ⟨header, opening⟩ := block
  cases opening with
  | algorithm name blankGap =>
      cases steps
      exact bound rfl
  | grammar name needsBlank stop hasSteps =>
      have listed := (grammar_of_openingAt opened).2.2.2
      cases hasSteps with
      | false => contradiction
      | true =>
          cases steps
          obtain ⟨text, found, _⟩ := (Option.any_eq_true _ _).mp listed.symm
          exact Nat.le_of_lt (List.getElem?_eq_some_iff.mp found).1

/-- A block reports the same above a blank line, unless it is an algorithm whose header was the last
line, and also that line itself where its list would have run to the end and the line is not
empty. -/
theorem Block.Opened.findings_append_gap (opened : block.Opened lines inGrammar)
    (blank : isBlankLine gap = true)
    (bound : block.kind = .algorithm → block.header + 1 < lines.length) :
    block.findings (lines ++ gap :: more) = block.findings lines ++
      if block.reachesEnd lines = true ∧ gap ≠ [] then
        [⟨lines.length, .malformedStepShape block.kind block.name, [gap]⟩]
      else [] := by
  cases steps : block.stepsStart? with
  | none => simp [Block.findings, opened.headerFindings_append_gap bound, Block.reachesEnd, steps]
  | some start =>
      have limited := opened.stepsStart_le_length bound steps
      simp only [Block.findings, opened.headerFindings_append_gap bound, Block.reachesEnd, steps,
        Option.toList_some, List.flatMap_singleton, Option.any_some, decide_eq_true_eq,
        bodyFindings_append_gap blank limited, List.append_assoc]

end

end PseudocodeLint
