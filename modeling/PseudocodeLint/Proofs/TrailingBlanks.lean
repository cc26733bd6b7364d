import PseudocodeLint.Proofs.FinalNewline
import PseudocodeLint.Proofs.Seam

namespace PseudocodeLint

/-! Newlines at the end of a document that passes.  All but the last two of them make empty lines,
which end a list silently.  The last two make one line that holds a newline, and a list that this
line ends takes it for a malformed step. -/

section

variable {lines more : List Text} {gap : Text} {inGrammar : Bool} {policy : Policy}
  {name text longer : Text} {block : Block}

theorem blocks_append_blanks (blanks : ∀ line ∈ gap :: more, isBlankLine line = true) :
    blocks (lines ++ gap :: more) inGrammar = blocks lines inGrammar := by
  have unlisted : more.head?.any startsWithBullet = false := by
    cases more with
    | nil => rfl
    | cons first rest => exact startsWithBullet_eq_false_of_isBlankLine (blanks first (by simp))
  rw [blocks_append_gap (blanks gap (List.mem_cons_self ..)) fun _ => unlisted]
  refine List.append_right_eq_self.mpr (List.filterMap_eq_nil_iff.mpr fun line member => ?_)
  obtain ⟨lower, upper⟩ := List.mem_range'_1.mp member
  have bound : line < (lines ++ gap :: more).length := by
    simp only [List.length_append, List.length_cons]
    omega
  refine visibleBlock?_eq_none_of_isBlankLine (List.getElem?_eq_getElem bound) ?_
  rw [List.getElem_append_right (Nat.le_of_succ_le lower)]
  exact blanks _ (List.getElem_mem _)

/-- A lenient run looks at the blocks alone. -/
theorem passed_iff_blocks (lenient : policy.strict = false) (document : Document) :
    (lintDocuments policy [document]).passed = true ↔
      ∀ block ∈ blocks document.lines (document.isGrammar policy),
        ∀ finding ∈ block.findings document.lines,
          policy.severity finding.violation.rule = .advisory := by
  simp only [passed_iff, List.forall_mem_singleton, findings, List.forall_mem_append,
    List.forall_mem_flatMap]
  refine and_iff_left fun finding member => ?_
  obtain ⟨⟨⟨current, next⟩, line⟩, _, found⟩ := List.mem_filterMap.mp member
  rw [(indentFinding?_eq_some found).2, Policy.severity_eq]
  simp [lenient]

theorem header_lt_of_advisory
    (advisory : ∀ finding ∈ block.findings lines,
      policy.severity finding.violation.rule = .advisory)
    (algorithm : block.kind = .algorithm) : block.header + 1 < lines.length := by
  refine Nat.lt_of_not_le fun outside => ?_
  obtain ⟨header, opening⟩ := block
  cases opening with
  | grammar name needsBlank stop hasSteps => contradiction
  | algorithm name blankGap =>
      have missing : Block.hasBlankAfterHeader lines header = false := by
        simp [Block.hasBlankAfterHeader, List.getElem?_eq_none outside]
      have reported := advisory
        ⟨header, .missingBlankAfterHeader .algorithm name, lines[header]?.toList⟩
        (List.mem_append_left _ (by simp [Block.headerFindings_algorithm, missing]))
      rw [Policy.severity_of_default rfl] at reported
      contradiction

/-- Below a document that passes, blank lines are in the way of a list that ran to its end only, and
only when the first of them is not empty. -/
theorem passed_append_blanks (lenient : policy.strict = false)
    (passes : (lintDocuments policy [⟨name, text⟩]).passed = true)
    (cut : logicalLines longer = logicalLines text ++ gap :: more)
    (blanks : ∀ line ∈ gap :: more, isBlankLine line = true) :
    (lintDocuments policy [⟨name, longer⟩]).passed = true ↔
      ¬ (gap ≠ [] ∧ ∃ block ∈ blocks (logicalLines text) (Document.isGrammar ⟨name, text⟩ policy),
        block.reachesEnd (logicalLines text) = true) := by
  rw [passed_iff_blocks lenient] at passes ⊢
  have same : Document.isGrammar ⟨name, longer⟩ policy = Document.isGrammar ⟨name, text⟩ policy :=
    rfl
  simp only [Document.lines, cut, same, blocks_append_blanks blanks] at passes ⊢
  have reports : ∀ block ∈ blocks (logicalLines text) (Document.isGrammar ⟨name, text⟩ policy),
      block.findings (logicalLines text ++ gap :: more) = block.findings (logicalLines text) ++
        if block.reachesEnd (logicalLines text) = true ∧ gap ≠ [] then
          [⟨(logicalLines text).length, .malformedStepShape block.kind block.name, [gap]⟩]
        else [] := fun block found =>
    (mem_blocks_iff.mp found).1.findings_append_gap (blanks gap (List.mem_cons_self ..))
      (header_lt_of_advisory (passes block found))
  constructor
  · rintro advisory ⟨filled, block, found, reaches⟩
    have malformed := advisory block found
      ⟨(logicalLines text).length, .malformedStepShape block.kind block.name, [gap]⟩
      (by simp [reports block found, reaches, filled])
    rw [Policy.severity_of_default rfl] at malformed
    contradiction
  · intro silent block found finding member
    have ended : ¬ (block.reachesEnd (logicalLines text) = true ∧ gap ≠ []) :=
      fun reached => silent ⟨reached.2, block, found, reached.1⟩
    rw [reports block found, if_neg ended, List.append_nil] at member
    exact passes block found finding member

theorem logicalLines_append_newlines (unterminated : text.getLast? ≠ some '\n') (count : Nat) :
    logicalLines (text ++ List.replicate (count + 2) '\n') =
      logicalLines text ++ (List.replicate count [] ++ [['\n']]) := by
  have blank : isBlankLine (List.replicate (count + 1) '\n') = true := by
    have newline : isBlank '\n' = true := rfl
    simp [isBlankLine, newline]
  have unlisted := isItem_eq_false_of_isBlankLine blank
  rw [List.replicate_succ, logicalLines_append_newline unterminated
    (fun item => absurd item (Bool.eq_false_iff.mp unlisted)) rfl, logicalLines_replicate_newline]

end

/-- A text that passes also passes with newlines behind it, except with two of them behind a list
that runs to the end. -/
theorem passed_append_newlines (policy : Policy) (name text : Text)
    (lenient : policy.strict = false) (unterminated : text.getLast? ≠ some '\n')
    (passes : (lintDocuments policy [⟨name, text⟩]).passed = true) (count : Nat) :
    (lintDocuments policy [⟨name, text ++ List.replicate count '\n'⟩]).passed = true ↔
      ¬ (count = 2 ∧
        ∃ block ∈ blocks (logicalLines text) (Document.isGrammar ⟨name, text⟩ policy),
          block.reachesEnd (logicalLines text) = true) := by
  match count with
  | 0 => simpa using passes
  | 1 => simpa [passed_ended unterminated] using passes
  | 2 =>
      have cut : logicalLines (text ++ List.replicate 2 '\n') = logicalLines text ++ [['\n']] :=
        logicalLines_append_newlines unterminated 0
      have blanks : ∀ line ∈ [['\n']], isBlankLine line = true :=
        List.forall_mem_singleton.mpr rfl
      simpa using passed_append_blanks lenient passes cut blanks
  | count + 3 =>
      have cut : logicalLines (text ++ List.replicate (count + 3) '\n') =
          logicalLines text ++ [] :: (List.replicate count [] ++ [['\n']]) :=
        logicalLines_append_newlines unterminated (count + 1)
      have blanks : ∀ line ∈ [] :: (List.replicate count [] ++ [['\n']]),
          isBlankLine line = true := by
        intro line member
        simp only [List.mem_cons, List.mem_append, List.mem_replicate, List.not_mem_nil,
          or_false] at member
        rcases member with rfl | ⟨_, rfl⟩ | rfl <;> rfl
      simpa using passed_append_blanks lenient passes cut blanks

/-- A list at the end, with two newlines behind it and with three. -/
theorem newlines_behind_list :
    let text := "Foo(a):\n\n- Do it.".toList
    let passes (text : Text) := (lintDocuments {} [⟨"a.md".toList, text⟩]).passed
    text.getLast? ≠ some '\n' ∧ passes text = true ∧
      passes (text ++ List.replicate 2 '\n') = false ∧
      passes (text ++ List.replicate 3 '\n') = true := by
  intro text passes
  have unterminated : text.getLast? ≠ some '\n' := by decide
  have passing : passes text = true := by decide +kernel
  have behind := passed_append_newlines {} "a.md".toList text rfl unterminated passing
  have ended : ∃ block ∈ blocks (logicalLines text) false,
      block.reachesEnd (logicalLines text) = true := by
    refine ⟨⟨0, .algorithm "Foo".toList false⟩, ?_, by decide⟩
    decide +kernel
  refine ⟨unterminated, passing, ?_, (behind 3).mpr (by simp)⟩
  refine Bool.eq_false_iff.mpr fun passesToo => ?_
  exact (behind 2).mp passesToo ⟨rfl, ended⟩

theorem newlines_behind_passing_text_fail :
    ¬ ∀ (policy : Policy) (name text : Text), policy.strict = false →
      text.getLast? ≠ some '\n' → (lintDocuments policy [⟨name, text⟩]).passed = true →
        ∀ count : Nat,
          (lintDocuments policy [⟨name, text ++ List.replicate count '\n'⟩]).passed = true := by
  intro always
  have passes := always {} "a.md".toList "Foo(a):\n\n- Do it.".toList rfl (by decide)
    (by decide +kernel) 2
  revert passes
  decide +kernel

end PseudocodeLint
