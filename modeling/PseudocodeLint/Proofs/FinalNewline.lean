import PseudocodeLint.Proofs.LineTail
import PseudocodeLint.Proofs.Verdict

namespace PseudocodeLint

/-! A newline at the end of a document.  It joins the last line, where only the header of an
algorithm and a step that breaks off after `Assert` can tell it is there. -/

/-- What a newline behind a header makes of its opening. -/
def Opening.ended : Opening → Option Opening
  | .algorithm name _ => some (.algorithm name true)
  | .grammar _ _ _ _ => none

def Finding.entry (policy : Policy) (finding : Finding) : Rule × Severity × Nat :=
  (finding.violation.rule, policy.severity finding.violation.rule, finding.line)

/-- The rule, the severity and the line of a diagnostic. -/
def Diagnostic.entry (diagnostic : Diagnostic) : Rule × Severity × Nat :=
  (diagnostic.rule, diagnostic.severity, diagnostic.line)

/-- What a newline at the end of the last line adds where that line is checked as a step. -/
def assertEntries (front : List Text) (last : Text) : List (Rule × Severity × Nat) :=
  if bareAssert last then [(.assertFormatting, .enforced, front.length)] else []

section

variable {front : List Text} {last : Text} {inGrammar : Bool} {line start header : Nat}
  {block : Block}

theorem getElem?_ended (other : line ≠ front.length) :
    (front ++ [last ++ ['\n']])[line]? = (front ++ [last])[line]? := by
  rcases Nat.lt_or_gt_of_ne other with above | below
  · rw [List.getElem?_append_left above, List.getElem?_append_left above]
  · have length : ∀ text : Text, (front ++ [text]).length ≤ line := fun text => by
      rw [List.length_append]
      exact below
    rw [List.getElem?_eq_none (length _), List.getElem?_eq_none (length _)]

theorem map_getElem?_ended {view : Text → α} (same : view (last ++ ['\n']) = view last)
    (line : Nat) :
    (front ++ [last ++ ['\n']])[line]?.map view = (front ++ [last])[line]?.map view := by
  by_cases final : line = front.length
  · simp [final, same]
  · rw [getElem?_ended final]

theorem definitionEnd_ended :
    definitionEnd (front ++ [last ++ ['\n']]) header = definitionEnd (front ++ [last]) header :=
  (endsRun_definitionEnd _ header).unique
    ((endsRun_definitionEnd (front ++ [last]) header).congr fun line =>
      (map_getElem?_ended (by rw [isBlankLine_append_newline]) line).symm)

theorem Block.stepsEnd_ended :
    stepsEnd (front ++ [last ++ ['\n']]) start = stepsEnd (front ++ [last]) start :=
  (endsRun_stepsEnd _ start).unique
    ((endsRun_stepsEnd (front ++ [last]) start).congr fun line =>
      (map_getElem?_ended isItem_append_newline line).symm)

theorem openingAt_ended (other : line ≠ front.length) :
    openingAt (front ++ [last ++ ['\n']]) inGrammar line =
      openingAt (front ++ [last]) inGrammar line := by
  have bullet : ∀ line : Nat, (front ++ [last ++ ['\n']])[line]?.any startsWithBullet =
      (front ++ [last])[line]?.any startsWithBullet := by
    intro line
    by_cases final : line = front.length
    · simp [final, startsWithBullet_append_newline]
    · rw [getElem?_ended final]
  simp only [openingAt, grammarOpening?, getElem?_ended other, definitionEnd_ended, bullet]

theorem openingAt_ended_last :
    openingAt (front ++ [last ++ ['\n']]) inGrammar front.length =
      (openingAt (front ++ [last]) inGrammar front.length).bind Opening.ended := by
  have closed : grammarOpening? (front ++ [last ++ ['\n']]) front.length (last ++ ['\n']) =
      none := by
    simp [grammarOpening?, Production.read?_append_newline]
  have vanishes : (grammarOpening? (front ++ [last]) front.length last).bind Opening.ended =
      none := by
    simp only [grammarOpening?]
    cases Production.read? last with
    | none => rfl
    | some production =>
        simp only [Option.bind_eq_bind, Option.bind_some]
        split <;> rfl
  simp only [openingAt, List.getElem?_concat_length, Option.bind_eq_bind, Option.bind_some,
    AlgorithmHeader.read?_append_newline, closed]
  cases AlgorithmHeader.read? last with
  | some header => simp [Opening.ended, AlgorithmHeader.hasBlankGap]
  | none =>
      cases inGrammar with
      | false => rfl
      | true => exact vanishes.symm

theorem isHidden_ended (bound : line ≤ front.length) :
    isHidden (front ++ [last ++ ['\n']]) inGrammar line =
      isHidden (front ++ [last]) inGrammar line :=
  isHidden_congr fun _ above =>
    openingAt_ended (Nat.ne_of_lt (Nat.lt_of_lt_of_le above bound))

theorem visibleBlock?_ended (above : line < front.length) :
    visibleBlock? (front ++ [last ++ ['\n']]) inGrammar line =
      visibleBlock? (front ++ [last]) inGrammar line := by
  simp only [visibleBlock?, isHidden_ended (Nat.le_of_lt above),
    openingAt_ended (Nat.ne_of_lt above)]

theorem visibleBlock?_ended_last :
    visibleBlock? (front ++ [last ++ ['\n']]) inGrammar front.length =
      (visibleBlock? (front ++ [last]) inGrammar front.length).bind fun block =>
        block.opening.ended.map (⟨front.length, ·⟩) := by
  simp only [visibleBlock?, isHidden_ended (Nat.le_refl _), openingAt_ended_last]
  split
  · rfl
  · cases openingAt (front ++ [last]) inGrammar front.length <;> rfl

theorem blocks_concat (front : List Text) (last : Text) :
    blocks (front ++ [last]) inGrammar =
      (List.range front.length).filterMap (visibleBlock? (front ++ [last]) inGrammar) ++
        (visibleBlock? (front ++ [last]) inGrammar front.length).toList := by
  rw [blocks_eq_filterMap, List.length_append, List.length_singleton, List.range_succ,
    List.filterMap_append, List.filterMap_cons]
  cases visibleBlock? (front ++ [last]) inGrammar front.length <;> rfl

variable {policy : Policy}

theorem Block.stepFindings_ended (block : Block) (step : Text) (line : Nat) :
    Adds (if bareAssert step then [(.assertFormatting, .enforced, line)] else [])
      ((block.stepFindings step line).map (Finding.entry policy))
      ((block.stepFindings (step ++ ['\n']) line).map (Finding.entry policy)) := by
  let view (violation : Violation) : Rule × Severity × Nat :=
    (violation.rule, policy.severity violation.rule, line)
  have entries : ∀ step, (block.stepFindings step line).map (Finding.entry policy) =
      (stepViolations block.kind block.name step).map view := by
    intro step
    rw [stepFindings, List.map_map]
    rfl
  have extra : (if bareAssert step then [.assertFormatting block.name '\n'] else []).map view =
      if bareAssert step then [(.assertFormatting, .enforced, line)] else [] := by
    split
    · simp [view, Violation.rule, Policy.severity, Rule.defaultSeverity]
    · rfl
  rw [entries, entries, ← extra]
  exact (stepViolations_append_newline ..).map view

theorem Block.lineReport_ended (filled : last ≠ []) (block : Block) (line : Nat) :
    Adds (if line = front.length then assertEntries front last else [])
      ((block.lineReport (front ++ [last]) line).map (Finding.entry policy))
      ((block.lineReport (front ++ [last ++ ['\n']]) line).map (Finding.entry policy)) := by
  by_cases final : line = front.length
  · subst final
    simp only [lineReport, List.getElem?_concat_length, isItem_append_newline, if_true,
      assertEntries]
    cases item : isItem last with
    | true => exact block.stepFindings_ended last front.length
    | false =>
        have bare : ¬ bareAssert last = true := fun bare => by
          rw [isItem_of_bareAssert bare] at item
          contradiction
        have ends : ∀ text ≠ [], (block.endFindings (front ++ [text]) front.length).map
            (Finding.entry policy) =
              [(.malformedStepShape, policy.severity .malformedStepShape, front.length)] := by
          intro text filled
          cases text with
          | nil => contradiction
          | cons c rest => simp [endFindings, Finding.entry, Violation.rule]
        have same := (ends last filled).trans (ends (last ++ ['\n']) (by simp)).symm
        rw [if_neg bare]
        exact same ▸ Adds.refl _
  · have same : block.lineReport (front ++ [last ++ ['\n']]) line =
        block.lineReport (front ++ [last]) line := by
      simp only [lineReport, endFindings, getElem?_ended final]
    rw [same, if_neg final]
    exact Adds.refl _

theorem Block.headerFindings_ended (above : block.header < front.length) (filled : last ≠ []) :
    block.headerFindings (front ++ [last ++ ['\n']]) = block.headerFindings (front ++ [last]) := by
  have followed : hasBlankAfterHeader (front ++ [last ++ ['\n']]) block.header =
      hasBlankAfterHeader (front ++ [last]) block.header := by
    simp only [hasBlankAfterHeader]
    by_cases final : block.header + 1 = front.length
    · simp [final, filled]
    · rw [getElem?_ended final]
  simp only [headerFindings, missingBlankFindings, headerFinding, followed,
    getElem?_ended (Nat.ne_of_lt above)]

/-- A block above the last line reports more of it only where it checks it as a step. -/
theorem Block.findings_ended (above : block.header < front.length) (filled : last ≠ []) :
    Adds (if block.examines (front ++ [last]) front.length then assertEntries front last else [])
      ((block.findings (front ++ [last])).map (Finding.entry policy))
      ((block.findings (front ++ [last ++ ['\n']])).map (Finding.entry policy)) := by
  simp only [findings, headerFindings_ended above filled, List.map_append]
  apply Adds.append_left
  cases steps : block.stepsStart? with
  | none =>
      simp only [examines, steps]
      exact Adds.refl []
  | some start =>
      have inside : front.length < (front ++ [last]).length := by simp
      have extra : (List.range' start (stepsEnd (front ++ [last]) start + 1 - start)).flatMap
            (fun line => if line = front.length then assertEntries front last else []) =
          if block.examines (front ++ [last]) front.length then assertEntries front last
          else [] := by
        rw [flatMap_at_key List.nodup_range']
        simp only [mem_range'_iff_examines steps inside]
      simp only [Option.toList_some, List.flatMap_singleton, bodyFindings_eq_flatMap,
        stepsEnd_ended, List.map_flatMap, ← extra]
      exact Adds.flatMap fun line _ => block.lineReport_ended filled line

/-- A block that the last line opens reports its header only. -/
theorem Block.Opened.findings_of_last {lines : List Text} (opened : block.Opened lines inGrammar)
    (final : block.header + 1 = lines.length) : block.findings lines = block.headerFindings lines := by
  have body : ∀ start, lines.length ≤ start → block.bodyFindings lines start = [] := by
    intro start outside
    simp [bodyFindings, stepsEnd, stepRun, endFindings, List.drop_eq_nil_of_le outside,
      List.getElem?_eq_none outside]
  obtain ⟨header, opening⟩ := block
  cases opening with
  | algorithm name blankGap =>
      simp [findings, stepsStart?, body (header + 2) (by simp at final; omega)]
  | grammar name needsBlank stop hasSteps =>
      obtain ⟨_, _, ends, listed⟩ := grammar_of_openingAt opened
      have below : lines.length ≤ stop := by
        rw [ends, ← final]
        exact lt_definitionEnd lines header
      rw [List.getElem?_eq_none (Nat.le_succ_of_le below)] at listed
      obtain rfl : hasSteps = false := listed
      simp [findings, stepsStart?]

/-- What a newline at the end of the last line adds for a block. -/
def Block.newlineEntries (front : List Text) (last : Text) (block : Block) :
    List (Rule × Severity × Nat) :=
  if block.header = front.length then
    match block.opening with
    | .algorithm _ false => [(.headerWhitespace, .enforced, front.length)]
    | _ => []
  else if block.examines (front ++ [last]) front.length then assertEntries front last
  else []

theorem headerEntries_of_last (name text : Text) (blankGap : Bool) :
    (Block.headerFindings (front ++ [text]) ⟨front.length, .algorithm name blankGap⟩).map
        (Finding.entry policy) =
      (if blankGap then [(.headerWhitespace, .enforced, front.length)] else []) ++
        [(.missingBlankAfterHeader, .enforced, front.length)] := by
  have unfollowed : Block.hasBlankAfterHeader (front ++ [text]) front.length = false := by
    simp [Block.hasBlankAfterHeader]
  cases blankGap <;>
    simp [Block.headerFindings_algorithm, unfollowed, Finding.entry, Violation.rule,
      Policy.severity, Rule.defaultSeverity]

theorem lastBlock_ended (opened : block.Opened (front ++ [last]) inGrammar)
    (final : block.header = front.length) :
    Adds (block.newlineEntries front last)
      ((block.findings (front ++ [last])).map (Finding.entry policy))
      ((block.opening.ended.map (Block.mk front.length ·)).toList.flatMap fun ended =>
        (ended.findings (front ++ [last ++ ['\n']])).map (Finding.entry policy)) := by
  rw [opened.findings_of_last (by simp [final]), Block.newlineEntries, if_pos final]
  obtain ⟨header, opening⟩ := block
  obtain rfl : header = front.length := final
  cases opening with
  | grammar name needsBlank stop hasSteps =>
      obtain rfl := (grammar_of_openingAt opened).2.1
      exact Adds.refl []
  | algorithm name blankGap =>
      have openedToo : Block.Opened (front ++ [last ++ ['\n']]) inGrammar
          ⟨front.length, .algorithm name true⟩ := by
        rw [Block.Opened] at opened ⊢
        rw [openingAt_ended_last, opened]
        rfl
      simp only [Opening.ended, Option.map_some, Option.toList_some, List.flatMap_singleton,
        openedToo.findings_of_last (by simp), headerEntries_of_last, if_true]
      cases blankGap with
      | true => exact Adds.refl _
      | false => exact (Adds.singleton _).append_right _

theorem blockEntries_ended (filled : front ≠ [] → last ≠ []) :
    Adds ((blocks (front ++ [last]) inGrammar).flatMap (Block.newlineEntries front last))
      (((blocks (front ++ [last]) inGrammar).flatMap (Block.findings (front ++ [last]))).map
        (Finding.entry policy))
      (((blocks (front ++ [last ++ ['\n']]) inGrammar).flatMap
        (Block.findings (front ++ [last ++ ['\n']]))).map (Finding.entry policy)) := by
  have above : (List.range front.length).filterMap
        (visibleBlock? (front ++ [last ++ ['\n']]) inGrammar) =
      (List.range front.length).filterMap (visibleBlock? (front ++ [last]) inGrammar) :=
    List.filterMap_congr fun line member => visibleBlock?_ended (List.mem_range.mp member)
  simp only [blocks_concat, above, visibleBlock?_ended_last, List.flatMap_append, List.map_append,
    List.map_flatMap]
  refine Adds.append (Adds.flatMap fun block found => ?_) ?_
  · obtain ⟨line, member, shown⟩ := List.mem_filterMap.mp found
    obtain rfl := (visibleBlock?_eq_some_iff.mp shown).2.2
    have upper := List.mem_range.mp member
    rw [Block.newlineEntries, if_neg (Nat.ne_of_lt upper)]
    exact Block.findings_ended upper (filled (List.ne_nil_of_length_pos (Nat.zero_lt_of_lt upper)))
  · cases shown : visibleBlock? (front ++ [last]) inGrammar front.length with
    | none => exact Adds.refl []
    | some block =>
        obtain ⟨_, opened, final⟩ := visibleBlock?_eq_some_iff.mp shown
        simp only [Option.toList_some, List.flatMap_singleton, Option.bind_some]
        exact lastBlock_ended opened final

theorem indentFinding?_ended (line : Nat) (current next : Text) :
    (indentFinding? line current (next ++ ['\n'])).map (Finding.entry policy) =
      (indentFinding? line current next).map (Finding.entry policy) := by
  simp only [indentFinding?]
  cases colonIndent? current with
  | none => rfl
  | some indent =>
      have same : (indent ++ "  ".toList).isPrefixOf (next ++ ['\n']) =
          (indent ++ "  ".toList).isPrefixOf next := isPrefixOf_append_singleton (by simp)
      simp only [same]
      split <;> rfl

theorem indentEntries_ended (front : List Text) (last : Text) :
    (indentFindings (front ++ [last ++ ['\n']])).map (Finding.entry policy) =
      (indentFindings (front ++ [last])).map (Finding.entry policy) := by
  simp only [indentFindings_eq_flatMap, List.length_append, List.length_singleton,
    List.map_flatMap]
  refine List.flatMap_congr fun line member => ?_
  by_cases final : line = front.length
  · simp [indentReport, final]
  · by_cases next : line + 1 = front.length
    · simp only [indentReport, getElem?_ended final, next, List.getElem?_concat_length]
      cases (front ++ [last])[line]? with
      | none => rfl
      | some current =>
          simp only [← Option.toList_map, indentFinding?_ended]
    · simp only [indentReport, getElem?_ended final, getElem?_ended next]

theorem lintDocument_entries (policy : Policy) (document : Document) :
    (lintDocument policy document).map Diagnostic.entry =
      ((findings document.lines (document.isGrammar policy)).map
        (Finding.entry policy)).insertionSort fun left right => left.2.2 ≤ right.2.2 := by
  rw [map_lintDocument (Finding.entry policy) fun _ => rfl, sortByLine_eq_insertionSort]
  exact List.map_insertionSort _ _ _ _ fun _ _ _ _ => Iff.rfl

theorem findings_ended (filled : front ≠ [] → last ≠ []) :
    Adds ((blocks (front ++ [last]) inGrammar).flatMap (Block.newlineEntries front last))
      ((findings (front ++ [last]) inGrammar).map (Finding.entry policy))
      ((findings (front ++ [last ++ ['\n']]) inGrammar).map (Finding.entry policy)) := by
  simp only [findings, List.map_append, indentEntries_ended]
  exact (blockEntries_ended filled).append_right _

end

section

variable {policy : Policy} {name text : Text} {front : List Text} {last : Text} {inGrammar : Bool}
  {block : Block}

theorem assertEntries_eq_nil (bare : ¬ bareAssert last = true) : assertEntries front last = [] :=
  if_neg bare

theorem not_bareAssert_of_opened (opened : block.Opened (front ++ [last]) inGrammar)
    (final : block.header = front.length) : ¬ bareAssert last = true := by
  intro bare
  refine absurd (isItem_of_bareAssert bare) (Bool.eq_false_iff.mp ?_)
  exact opened.header_not_isItem (by simp [final])

theorem newlineEntries_of_header {heading : Text}
    (found : ⟨front.length, .algorithm heading false⟩ ∈ blocks (front ++ [last]) inGrammar) :
    (blocks (front ++ [last]) inGrammar).flatMap (Block.newlineEntries front last) =
      [(.headerWhitespace, .enforced, front.length)] := by
  obtain ⟨opened, visible⟩ := mem_blocks_iff.mp found
  have shown := visibleBlock?_eq_some_iff.mpr ⟨visible, opened, rfl⟩
  have bare := not_bareAssert_of_opened opened rfl
  have above : ((List.range front.length).filterMap
      (visibleBlock? (front ++ [last]) inGrammar)).flatMap (Block.newlineEntries front last) =
        [] := by
    refine List.flatMap_eq_nil_iff.mpr fun block member => ?_
    obtain ⟨line, inside, opens⟩ := List.mem_filterMap.mp member
    obtain rfl := (visibleBlock?_eq_some_iff.mp opens).2.2
    rw [Block.newlineEntries, if_neg (Nat.ne_of_lt (List.mem_range.mp inside)),
      assertEntries_eq_nil bare, ite_self]
  rw [blocks_concat, List.flatMap_append, above, shown]
  simp [Block.newlineEntries]

theorem newlineEntries_of_bareAssert (bare : bareAssert last = true) :
    (blocks (front ++ [last]) inGrammar).flatMap (Block.newlineEntries front last) =
      List.replicate (examiners (front ++ [last]) inGrammar front.length).length
        (.assertFormatting, .enforced, front.length) := by
  have checked : (blocks (front ++ [last]) inGrammar).flatMap (Block.newlineEntries front last) =
      (blocks (front ++ [last]) inGrammar).flatMap fun block =>
        if block.examines (front ++ [last]) front.length then assertEntries front last else [] := by
    refine List.flatMap_congr fun block found => ?_
    have other : block.header ≠ front.length := fun final =>
      not_bareAssert_of_opened (mem_blocks_iff.mp found).1 final bare
    rw [Block.newlineEntries, if_neg other]
  rw [checked, flatMap_ite, assertEntries, if_pos bare]
  exact List.map_eq_flatMap.symm.trans (List.map_const' ..)

theorem newlineEntries_eq_nil
    (unheaded : ∀ heading, ⟨front.length, .algorithm heading false⟩ ∉
      blocks (front ++ [last]) inGrammar)
    (unchecked : bareAssert last = true → examiners (front ++ [last]) inGrammar front.length = []) :
    (blocks (front ++ [last]) inGrammar).flatMap (Block.newlineEntries front last) = [] := by
  refine List.flatMap_eq_nil_iff.mpr fun block found => ?_
  obtain ⟨header, opening⟩ := block
  rw [Block.newlineEntries]
  split
  · rename_i final
    obtain rfl : header = front.length := final
    split
    · rename_i heading same
      obtain rfl : opening = .algorithm heading false := same
      exact absurd found (unheaded heading)
    · rfl
  · split
    · rename_i examined
      refine assertEntries_eq_nil fun bare => ?_
      have member := List.mem_filter.mpr ⟨found, examined⟩
      rw [← examiners, unchecked bare] at member
      contradiction
    · rfl

/-- Where a newline adds an entry, an enforced rule is broken without it. -/
theorem enforced_of_mem_newlineEntries {entry : Rule × Severity × Nat}
    (member : entry ∈ block.newlineEntries front last) :
    ∃ finding ∈ block.findings (front ++ [last]),
      finding.violation.rule.defaultSeverity = .enforced := by
  simp only [Block.newlineEntries] at member
  split at member
  · rename_i final
    split at member
    · rename_i heading opens
      refine ⟨⟨front.length, .missingBlankAfterHeader .algorithm heading, [last]⟩, ?_, rfl⟩
      apply List.mem_append_left
      obtain ⟨header, opening⟩ := block
      cases final
      cases opens
      simp [Block.headerFindings_algorithm, Block.hasBlankAfterHeader]
    · contradiction
  · split at member
    · rename_i examined
      by_cases bare : bareAssert last = true
      · refine ⟨⟨front.length, .stepPunctuation block.name, [last]⟩, ?_, rfl⟩
        refine mem_findings_of_examines examined ?_
        rw [lineReport_of_isItem List.getElem?_concat_length (isItem_of_bareAssert bare)]
        refine List.mem_map.mpr ⟨.stepPunctuation block.name, ?_, rfl⟩
        simp [stepViolations, endsSentence_of_bareAssert bare]
      · rw [assertEntries_eq_nil bare] at member
        contradiction
    · contradiction

theorem lintDocument_ended (unterminated : text.getLast? ≠ some '\n')
    (cut : logicalLines text = front ++ [last]) (policy : Policy) (name : Text) :
    Adds ((blocks (front ++ [last]) (Document.isGrammar ⟨name, text⟩ policy)).flatMap
        (Block.newlineEntries front last))
      ((lintDocument policy ⟨name, text⟩).map Diagnostic.entry)
      ((lintDocument policy ⟨name, text ++ ['\n']⟩).map Diagnostic.entry) := by
  have filled := ne_nil_of_logicalLines_eq_append cut
  have cutToo := logicalLines_append_final_newline unterminated cut
  simp only [lintDocument_entries, Document.lines, cut, cutToo]
  exact (findings_ended filled).insertionSort

theorem passed_iff_entries (policy : Policy) (document : Document) :
    (lintDocuments policy [document]).passed = true ↔
      ∀ entry ∈ (lintDocument policy document).map Diagnostic.entry, entry.2.1 = .advisory := by
  simp only [lintDocument_entries, List.mem_insertionSort, List.forall_mem_map,
    passed_iff, List.forall_mem_singleton]
  rfl

theorem passed_ended (unterminated : text.getLast? ≠ some '\n') :
    (lintDocuments policy [⟨name, text ++ ['\n']⟩]).passed =
      (lintDocuments policy [⟨name, text⟩]).passed := by
  obtain ⟨front, last, cut⟩ := exists_last_line text
  have added := lintDocument_ended unterminated cut policy name
  refine Bool.eq_iff_iff.mpr ⟨fun passes => ?_, fun passes => ?_⟩
  · rw [passed_iff_entries] at passes ⊢
    exact fun entry member => passes entry (added.keeps.subset member)
  · have findingsPass := passed_iff.mp passes ⟨name, text⟩ (List.mem_singleton_self _)
    rw [passed_iff_entries] at passes ⊢
    intro entry member
    rcases List.mem_append.mp (added.counts.mem_iff.mp member) with extra | kept
    · obtain ⟨block, found, new⟩ := List.mem_flatMap.mp extra
      obtain ⟨finding, reported, default⟩ := enforced_of_mem_newlineEntries new
      have advisory := findingsPass finding (List.mem_append_left _ (List.mem_flatMap.mpr
        ⟨block, by rwa [Document.lines, cut], by rwa [Document.lines, cut]⟩))
      rw [Policy.severity_of_default default] at advisory
      contradiction
    · exact passes entry kept

end

/-- A newline at the end of a text joins its last line and leaves the verdict as it is.  The rules
broken, their severities and their lines stay the same too, except that a header there has a blank
behind it, and that a step which breaks off after `Assert` has a character after that word. -/
theorem lintDocument_append_newline (policy : Policy) (name text : Text)
    (unterminated : text.getLast? ≠ some '\n') :
    ∃ front last,
      logicalLines text = front ++ [last] ∧
      logicalLines (text ++ ['\n']) = front ++ [last ++ ['\n']] ∧
      (lintDocuments policy [⟨name, text ++ ['\n']⟩]).passed =
        (lintDocuments policy [⟨name, text⟩]).passed ∧
      let inGrammar := Document.isGrammar ⟨name, text⟩ policy
      let opened := blocks (logicalLines text) inGrammar
      let checks := examiners (logicalLines text) inGrammar front.length
      let entries := (lintDocument policy ⟨name, text⟩).map Diagnostic.entry
      let entriesAfter := (lintDocument policy ⟨name, text ++ ['\n']⟩).map Diagnostic.entry
      (∀ heading, ⟨front.length, .algorithm heading false⟩ ∈ opened →
        Adds [(.headerWhitespace, .enforced, front.length)] entries entriesAfter) ∧
      (isItem last = true → IsBareAssert last →
        Adds (List.replicate checks.length (.assertFormatting, .enforced, front.length)) entries
          entriesAfter) ∧
      ((∀ heading, ⟨front.length, .algorithm heading false⟩ ∉ opened) →
        ¬ (isItem last = true ∧ IsBareAssert last ∧ checks ≠ []) → entriesAfter = entries) := by
  obtain ⟨front, last, cut⟩ := exists_last_line text
  refine ⟨front, last, cut, logicalLines_append_final_newline unterminated cut,
    passed_ended unterminated, ?_⟩
  intro inGrammar opened checks entries entriesAfter
  have added : Adds (opened.flatMap (Block.newlineEntries front last)) entries entriesAfter := by
    simp only [opened, cut]
    exact lintDocument_ended unterminated cut policy name
  simp only [opened, checks, cut] at added ⊢
  refine ⟨fun heading found => ?_, fun item bare => ?_, fun unheaded unchecked => ?_⟩
  · rwa [newlineEntries_of_header found] at added
  · rwa [newlineEntries_of_bareAssert (bareAssert_iff.mpr ⟨item, bare⟩)] at added
  · have nothing := newlineEntries_eq_nil unheaded fun bare => by
      obtain ⟨item, shape⟩ := bareAssert_iff.mp bare
      exact not_not.mp fun checked => unchecked ⟨item, shape, checked⟩
    rw [nothing] at added
    exact added.eq_of_nil

/-- A step that breaks off after `Assert` below two headers, both of which check it. -/
theorem newline_behind_twice_checked_assert :
    let text := "Foo(a):\nBar(b):\n- Go.\n- Assert".toList
    let report (text : Text) := lintDocument {} ⟨"a.md".toList, text⟩
    let passes (text : Text) := (lintDocuments {} [⟨"a.md".toList, text⟩]).passed
    text.getLast? ≠ some '\n' ∧
      passes (text ++ ['\n']) = passes text ∧
      Adds [(.assertFormatting, .enforced, 3), (.assertFormatting, .enforced, 3)]
        ((report text).map Diagnostic.entry) ((report (text ++ ['\n'])).map Diagnostic.entry) := by
  intro text report passes
  have unterminated : text.getLast? ≠ some '\n' := by decide
  obtain ⟨front, last, cut, _, verdict, _, asserts, _⟩ :=
    lintDocument_append_newline {} "a.md".toList text unterminated
  have lines : logicalLines text =
      ["Foo(a):".toList, "Bar(b):".toList, "- Go.".toList] ++ ["- Assert".toList] := by decide
  obtain ⟨rfl, ends⟩ := List.append_inj' (cut.symm.trans lines) rfl
  obtain rfl : last = "- Assert".toList := (List.cons.inj ends).1
  have shape : IsBareAssert "- Assert".toList :=
    ⟨[], .bullet, [' '], by simp, trivial, List.forall_mem_singleton.mpr rfl, by decide⟩
  have twice : (examiners (logicalLines text) (Document.isGrammar ⟨"a.md".toList, text⟩ {}) 3).length
      = 2 := by decide +kernel
  have added := asserts (by decide) shape
  simp only [List.length_cons, List.length_nil, Nat.zero_add, Nat.reduceAdd, twice] at added
  exact ⟨unterminated, verdict, added⟩

end PseudocodeLint
