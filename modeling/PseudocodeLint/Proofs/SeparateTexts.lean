import PseudocodeLint.Proofs.Continuation
import PseudocodeLint.Proofs.Seam

namespace PseudocodeLint

/-! Texts with a blank line between them.  Outside the grammar document each is linted on its own,
and the findings of the lower one move down by the lines above it. -/

def Finding.moveDown (count : Nat) (finding : Finding) : Finding :=
  { finding with line := count + finding.line }

def Block.moveDown (count : Nat) (block : Block) : Block :=
  { block with header := count + block.header }

def Diagnostic.moveDown (count : Nat) (diagnostic : Diagnostic) : Diagnostic :=
  { diagnostic with line := count + diagnostic.line }

section

variable {upper lower : List Text} {line start : Nat} {block : Block}

theorem getElem?_length_add (line : Nat) : (upper ++ lower)[upper.length + line]? = lower[line]? := by
  rw [List.getElem?_append_right (Nat.le_add_right ..), Nat.add_sub_cancel_left]

theorem Block.stepsEnd_length_add :
    stepsEnd (upper ++ lower) (upper.length + start) = upper.length + stepsEnd lower start := by
  rw [stepsEnd, stepRun, List.drop_length_add_append, Nat.add_assoc]
  rfl

theorem openingAt_length_add :
    openingAt (upper ++ lower) false (upper.length + line) = openingAt lower false line := by
  simp only [openingAt, getElem?_length_add]
  rfl

theorem visibleBlock?_length_add :
    visibleBlock? (upper ++ lower) false (upper.length + line) =
      (visibleBlock? lower false line).map (Block.moveDown upper.length) := by
  simp only [visibleBlock?, isHidden_outside_grammar, Bool.false_eq_true, if_false,
    openingAt_length_add, Option.map_map]
  rfl

theorem Block.lineReport_length_add :
    (block.moveDown upper.length).lineReport (upper ++ lower) (upper.length + line) =
      (block.lineReport lower line).map (Finding.moveDown upper.length) := by
  have ended : (block.moveDown upper.length).endFindings (upper ++ lower) (upper.length + line) =
      (block.endFindings lower line).map (Finding.moveDown upper.length) := by
    simp only [endFindings, getElem?_length_add]
    split <;> rfl
  simp only [lineReport, getElem?_length_add, ended]
  split
  · rfl
  · split
    · simp only [stepFindings, List.map_map]
      rfl
    · rfl

theorem Block.bodyFindings_length_add :
    (block.moveDown upper.length).bodyFindings (upper ++ lower) (upper.length + start) =
      (block.bodyFindings lower start).map (Finding.moveDown upper.length) := by
  have width : upper.length + stepsEnd lower start + 1 - (upper.length + start) =
      stepsEnd lower start + 1 - start := by omega
  rw [bodyFindings_eq_flatMap, bodyFindings_eq_flatMap, stepsEnd_length_add, width,
    ← List.map_add_range', List.flatMap_map, List.map_flatMap]
  exact List.flatMap_congr fun line _ => lineReport_length_add

theorem Block.Opened.findings_length_add (opened : block.Opened lower false) :
    (block.moveDown upper.length).findings (upper ++ lower) =
      (block.findings lower).map (Finding.moveDown upper.length) := by
  obtain ⟨header, opening⟩ := block
  cases opening with
  | grammar name needsBlank stop hasSteps =>
      have inGrammar := (grammar_of_openingAt opened).1
      contradiction
  | algorithm name blankGap =>
      have followed : hasBlankAfterHeader (upper ++ lower) (upper.length + header) =
          hasBlankAfterHeader lower header := by
        simp [hasBlankAfterHeader, Nat.add_assoc, getElem?_length_add]
      have head : headerFindings (upper ++ lower)
            (moveDown upper.length ⟨header, .algorithm name blankGap⟩) =
          (headerFindings lower ⟨header, .algorithm name blankGap⟩).map
            (Finding.moveDown upper.length) := by
        simp only [headerFindings_algorithm, moveDown, followed, getElem?_length_add,
          List.map_append]
        congr 1
        · split <;> rfl
        · split <;> rfl
      have steps : (moveDown upper.length ⟨header, .algorithm name blankGap⟩).stepsStart? =
          some (upper.length + (header + 2)) := rfl
      have below : stepsStart? ⟨header, .algorithm name blankGap⟩ = some (header + 2) := rfl
      simp only [findings, head, List.map_append, steps, below, Option.toList_some,
        List.flatMap_singleton, bodyFindings_length_add]

theorem indentReport_length_add :
    indentReport (upper ++ lower) (upper.length + line) =
      (indentReport lower line).map (Finding.moveDown upper.length) := by
  simp only [indentReport, Nat.add_assoc, getElem?_length_add]
  split
  · simp only [indentFinding?]
    split
    · split <;> rfl
    · rfl
  · rfl

theorem blocks_separated (upper lower : List Text) :
    blocks (upper ++ [] :: lower) false =
      blocks upper false ++ (blocks lower false).map (Block.moveDown (upper ++ [[]]).length) := by
  have whole : upper ++ [] :: lower = (upper ++ [[]]) ++ lower := by simp
  have length : upper.length + 1 = (upper ++ [[]]).length := by simp
  rw [blocks_append_gap rfl (by simp), blocks_eq_filterMap lower, List.map_filterMap, length,
    List.range'_eq_map_range, List.filterMap_map, whole]
  congr 1
  exact List.filterMap_congr fun line _ => visibleBlock?_length_add

/-- The last line is no algorithm header, whose blank line would be missing, and no bullet that
asks for an indent below it. -/
def EndsSettled (lines : List Text) : Prop :=
  ∀ last, lines.getLast? = some last →
    AlgorithmHeader.read? last = none ∧ colonIndent? last = none

theorem EndsSettled.of_last (settled : EndsSettled upper) (bound : line < upper.length)
    (last : line + 1 = upper.length) :
    AlgorithmHeader.read? upper[line] = none ∧ colonIndent? upper[line] = none := by
  have index : upper.length - 1 = line := by omega
  apply settled
  rw [List.getLast?_eq_getElem?, index, List.getElem?_eq_getElem bound]

theorem EndsSettled.header_lt (settled : EndsSettled upper) (opened : block.Opened upper false) :
    block.header + 1 < upper.length := by
  have bound := opened.header_lt
  refine Nat.lt_of_le_of_ne bound fun last => ?_
  have opens : openingAt upper false block.header = some block.opening := opened
  simp [openingAt, List.getElem?_eq_getElem bound, (settled.of_last bound last).1] at opens

theorem flatMap_findings_separated (settled : EndsSettled upper) :
    (blocks (upper ++ [] :: lower) false).flatMap (Block.findings (upper ++ [] :: lower)) =
      (blocks upper false).flatMap (Block.findings upper) ++
        ((blocks lower false).flatMap (Block.findings lower)).map
          (Finding.moveDown (upper ++ [[]]).length) := by
  have whole : upper ++ [] :: lower = (upper ++ [[]]) ++ lower := by simp
  rw [blocks_separated, List.flatMap_append, List.flatMap_map, List.map_flatMap]
  congr 1
  · refine List.flatMap_congr fun block found => ?_
    obtain ⟨opened, _⟩ := mem_blocks_iff.mp found
    rw [opened.findings_append_gap rfl fun _ => settled.header_lt opened]
    simp
  · refine List.flatMap_congr fun block found => ?_
    rw [whole]
    exact (mem_blocks_iff.mp found).1.findings_length_add

theorem indentReport_append_left (settled : EndsSettled upper) (bound : line < upper.length) :
    indentReport (upper ++ lower) line = indentReport upper line := by
  rcases Nat.lt_or_eq_of_le (Nat.succ_le_of_lt bound) with inside | last
  · simp only [indentReport, List.getElem?_append_left bound, List.getElem?_append_left inside]
  · have missing : upper[line + 1]? = none := List.getElem?_eq_none (Nat.le_of_eq last.symm)
    simp only [indentReport, List.getElem?_append_left bound, missing,
      List.getElem?_eq_getElem bound]
    cases (upper ++ lower)[line + 1]? with
    | none => rfl
    | some next => simp [indentFinding?, (settled.of_last bound last).2]

theorem indentFindings_separated (settled : EndsSettled upper) :
    indentFindings (upper ++ [] :: lower) =
      indentFindings upper ++ (indentFindings lower).map (Finding.moveDown (upper ++ [[]]).length) := by
  have whole : upper ++ [] :: lower = (upper ++ [[]]) ++ lower := by simp
  have blank : indentReport (upper ++ [] :: lower) upper.length = [] := by
    simp only [indentReport, List.getElem?_append_right, Nat.le_refl, Nat.sub_self,
      List.getElem?_cons_zero]
    cases (upper ++ [] :: lower)[upper.length + 1]? <;> rfl
  have parts : List.range (upper ++ [] :: lower).length = List.range upper.length ++
      upper.length :: (List.range lower.length).map ((upper ++ [[]]).length + ·) := by
    rw [whole, List.length_append, List.range_add, List.length_append, List.length_singleton,
      List.range_succ, List.append_assoc]
    rfl
  simp only [indentFindings_eq_flatMap, parts, List.flatMap_append, List.flatMap_cons, blank,
    List.nil_append, List.flatMap_map, List.map_flatMap]
  congr 1
  · exact List.flatMap_congr fun line member =>
      indentReport_append_left settled (List.mem_range.mp member)
  · refine List.flatMap_congr fun line _ => ?_
    rw [whole]
    exact indentReport_length_add

theorem sortByLine_moveDown (count : Nat) (found : List Finding) :
    sortByLine (found.map (Finding.moveDown count)) =
      (sortByLine found).map (Finding.moveDown count) := by
  simp only [sortByLine_eq_insertionSort]
  refine (List.map_insertionSort _ _ _ found fun left _ right _ => ?_).symm
  exact Nat.add_le_add_iff_left.symm

/-- The findings of a text in two parts are those of each part, and those of the upper one stand
above the line between them. -/
theorem filter_findings_separated (settled : EndsSettled upper) (lower : List Text) :
    let early (finding : Finding) : Bool := finding.line < upper.length
    (findings (upper ++ [] :: lower) false).filter early = findings upper false ∧
      (findings (upper ++ [] :: lower) false).filter (!early ·) =
        (findings lower false).map (Finding.moveDown (upper ++ [[]]).length) := by
  intro early
  have above : ∀ finding ∈ findings upper false, early finding = true := fun finding member =>
    decide_eq_true (line_lt_of_mem_findings member)
  have below : ∀ finding ∈ (findings lower false).map (Finding.moveDown (upper ++ [[]]).length),
      early finding = false := by
    intro finding member
    obtain ⟨source, _, rfl⟩ := List.mem_map.mp member
    apply decide_eq_false
    simp only [Finding.moveDown, List.length_append, List.length_singleton]
    omega
  have allEarly : ∀ part : List Finding, (∀ finding ∈ part, early finding = true) →
      part.filter early = part ∧ part.filter (!early ·) = [] := fun part all =>
    ⟨List.filter_eq_self.mpr all, List.filter_eq_nil_iff.mpr (by simpa using all)⟩
  have allLate : ∀ part : List Finding, (∀ finding ∈ part, early finding = false) →
      part.filter early = [] ∧ part.filter (!early ·) = part := fun part all =>
    ⟨List.filter_eq_nil_iff.mpr (by simpa using all), List.filter_eq_self.mpr (by simpa using all)⟩
  simp only [findings, List.map_append, List.forall_mem_append] at above below ⊢
  rw [flatMap_findings_separated settled, indentFindings_separated settled]
  simp only [List.filter_append, allEarly _ above.1, allEarly _ above.2, allLate _ below.1,
    allLate _ below.2, List.append_nil, List.nil_append, and_self]

theorem sortByLine_findings_separated (settled : EndsSettled upper) :
    sortByLine (findings (upper ++ [] :: lower) false) =
      sortByLine (findings upper false) ++
        (sortByLine (findings lower false)).map (Finding.moveDown (upper ++ [[]]).length) := by
  let early (finding : Finding) : Bool := finding.line < upper.length
  have apart : ∀ left right, early left = true → early right = false → left.line < right.line := by
    intro left right leftEarly rightLate
    have before : left.line < upper.length := of_decide_eq_true leftEarly
    have after : ¬ right.line < upper.length := of_decide_eq_false rightLate
    omega
  obtain ⟨above, below⟩ := filter_findings_separated settled lower
  rw [← sortByLine_moveDown]
  simp only [sortByLine_eq_insertionSort]
  rw [insertionSort_eq_append early apart, above, below]

end

/-- Two texts with a blank line between them are linted one by one when the upper one ends visibly,
with a line that does not care for the next, and the lower one opens a line of its own. -/
theorem lintDocument_separated (policy : Policy) (name upper lower : Text)
    (other : name ≠ policy.grammarDocument) (visible : EndsVisible upper)
    (opens : opensLine lower = true) (settled : EndsSettled (logicalLines upper)) :
    logicalLines (upper ++ "\n\n".toList ++ lower) =
        logicalLines upper ++ [[]] ++ logicalLines lower ∧
      lintDocument policy ⟨name, upper ++ "\n\n".toList ++ lower⟩ =
        lintDocument policy ⟨name, upper⟩ ++
          (lintDocument policy ⟨name, lower⟩).map
            (Diagnostic.moveDown ((logicalLines upper).length + 1)) := by
  have unterminated : upper.getLast? ≠ some '\n' := by
    obtain ⟨final, found, visible⟩ := visible
    rintro newline
    obtain rfl : final = '\n' := Option.some.inj (found.symm.trans newline)
    contradiction
  have cutBelow : logicalLines ('\n' :: lower) = [] :: logicalLines lower := by
    rw [logicalLines, if_pos ⟨rfl, opens⟩]
  have cut : logicalLines (upper ++ "\n\n".toList ++ lower) =
      logicalLines upper ++ [] :: logicalLines lower := by
    have whole : upper ++ "\n\n".toList ++ lower = upper ++ '\n' :: '\n' :: lower := by simp
    rw [whole, logicalLines_append_newline unterminated (fun _ => visible) rfl, cutBelow]
  refine ⟨by rw [cut, List.append_assoc]; rfl, ?_⟩
  have outside : ∀ text : Text, Document.isGrammar ⟨name, text⟩ policy = false :=
    fun _ => decide_eq_false other
  simp only [lintDocument, Document.lines, outside, cut, sortByLine_findings_separated settled,
    List.map_append, List.map_map, List.length_append, List.length_singleton]
  rfl

/-- A list that ran to the end of its text, above a header. -/
theorem list_above_header_separated :
    let upper := "Foo(a):\n\n- return true".toList
    let lower := "Bar(b): \n\n- Do y".toList
    let report (text : Text) := lintDocument {} ⟨"a.md".toList, text⟩
    logicalLines (upper ++ "\n\n".toList ++ lower) =
        logicalLines upper ++ [[]] ++ logicalLines lower ∧
      report (upper ++ "\n\n".toList ++ lower) =
        report upper ++ (report lower).map (Diagnostic.moveDown 4) ∧
      (report (upper ++ "\n\n".toList ++ lower)).map (fun entry => (entry.rule, entry.line)) =
        [(.stepPunctuation, 2), (.stepCapitalization, 2), (.unwrappedLiteralKeyword, 2),
          (.headerWhitespace, 4), (.stepPunctuation, 6)] := by
  intro upper lower report
  have final : (logicalLines upper).getLast? = some "- return true".toList := by decide
  have settled : EndsSettled (logicalLines upper) := by
    intro last found
    obtain rfl : "- return true".toList = last := Option.some.inj (final.symm.trans found)
    exact ⟨by decide, by decide⟩
  have separated := lintDocument_separated {} "a.md".toList upper lower (by decide)
    ⟨'e', by decide, by decide⟩ (by decide) settled
  exact ⟨separated.1, separated.2, by decide +kernel⟩

end PseudocodeLint
