import PseudocodeLint.Proofs.ColonIndent
import PseudocodeLint.Proofs.Coverage
import PseudocodeLint.Proofs.LiteralSpans

namespace PseudocodeLint

/-! The order of the diagnostics.  They do not arise in the order of the lines, and sorting them
keeps those of one line as they arose.  What comes first at a line then follows from the order in
which the blocks visit it: a list reaches a line only from a header further up. -/

section

variable {lines : List Text} {inGrammar : Bool} {line : Nat} {block : Block} {step text : Text}

theorem sortByLine_pairwise (found : List Finding) :
    (sortByLine found).Pairwise fun upper lower => upper.line ≤ lower.line := by
  rw [sortByLine_eq_insertionSort]
  exact List.pairwise_insertionSort _ found

theorem filter_line_map_toDiagnostic (policy : Policy) (name : Text) (found : List Finding) :
    (found.map (Finding.toDiagnostic policy name)).filter (·.line = line) =
      (found.filter (·.line = line)).map (Finding.toDiagnostic policy name) :=
  List.filter_map

/-- Where the early entries stand in front, what only they report comes before what only the others
report. -/
theorem flatMap_append_of_ordered {entries : List α} {upper lower : α → List β} (early : α → Bool)
    (ordered : entries.Pairwise fun first second => early second = true → early first = true)
    (upperEarly : ∀ entry ∈ entries, early entry = false → upper entry = [])
    (lowerLate : ∀ entry ∈ entries, early entry = true → lower entry = []) :
    entries.flatMap (fun entry => lower entry ++ upper entry) =
      entries.flatMap upper ++ entries.flatMap lower := by
  induction entries with
  | nil => rfl
  | cons first rest restIH =>
      obtain ⟨firstBefore, restOrdered⟩ := List.pairwise_cons.mp ordered
      have restEarly := fun entry member => upperEarly entry (List.mem_cons_of_mem first member)
      have restLate := fun entry member => lowerLate entry (List.mem_cons_of_mem first member)
      rw [List.flatMap_cons, List.flatMap_cons, List.flatMap_cons,
        restIH restOrdered restEarly restLate]
      cases kind : early first with
      | true => simp [lowerLate first (List.mem_cons_self ..) kind]
      | false =>
          have none_left : rest.flatMap upper = [] := by
            apply List.flatMap_eq_nil_iff.mpr
            intro entry member
            apply restEarly entry member
            rw [Bool.eq_false_iff, ne_eq]
            intro late
            rw [firstBefore entry member late] at kind
            contradiction
          simp [upperEarly first (List.mem_cons_self ..) kind, none_left]

theorem Block.Opened.header_lt_of_examines (opened : block.Opened lines inGrammar)
    (examined : block.examines lines line = true) : block.header < line := by
  obtain ⟨start, steps, after, _, _⟩ := Block.examines_iff.mp examined
  have below := opened.add_two_le_start steps
  omega

/-- At a line come first what the lists report that reach it, then what the header at the line is
reported for itself, and last the indent below it. -/
theorem filter_line_findings_ordered (lines : List Text) (inGrammar : Bool) (line : Nat) :
    (findings lines inGrammar).filter (·.line = line) =
      (examiners lines inGrammar line).flatMap (Block.lineReport lines line) ++
        ((blocks lines inGrammar).filter (·.header = line)).flatMap (Block.headerFindings lines) ++
        indentReport lines line := by
  have ordered : (blocks lines inGrammar).Pairwise fun first second =>
      decide (second.header < line) = true → decide (first.header < line) = true := by
    apply (blocks_pairwise lines inGrammar).imp
    intro first second above
    simp only [decide_eq_true_eq]
    omega
  have reached : ∀ block ∈ blocks lines inGrammar, decide (block.header < line) = false →
      (if block.examines lines line then block.lineReport lines line else []) = [] := by
    intro block found late
    apply if_neg
    intro examined
    have early := (mem_blocks_iff.mp found).1.header_lt_of_examines examined
    exact of_decide_eq_false late early
  have headed : ∀ block ∈ blocks lines inGrammar, decide (block.header < line) = true →
      (if decide (block.header = line) then block.headerFindings lines else []) = [] := by
    intro block _ early
    have apart := Nat.ne_of_lt (of_decide_eq_true early)
    simp [apart]
  rw [filter_line_findings, filter_line_indentFindings, examiners, ← flatMap_ite, ← flatMap_ite,
    ← flatMap_append_of_ordered _ ordered reached headed]
  simp only [decide_eq_true_eq]

theorem map_rule_headerFindings (lines : List Text) (block : Block) :
    ((block.headerFindings lines).map (·.violation.rule)).Sublist
      [.headerWhitespace, .missingBlankAfterHeader] :=
  (headerFindings_sublist lines block).map _

theorem map_rule_headed (lines : List Text) (inGrammar : Bool) (line : Nat) :
    ((((blocks lines inGrammar).filter (·.header = line)).flatMap
      (Block.headerFindings lines)).map (·.violation.rule)).Sublist
        [.headerWhitespace, .missingBlankAfterHeader] := by
  have single := length_filter_header_le_one lines inGrammar line
  generalize (blocks lines inGrammar).filter (·.header = line) = headed at single ⊢
  match headed, single with
  | [], _ => exact List.nil_sublist _
  | [block], _ =>
      rw [List.flatMap_singleton]
      exact map_rule_headerFindings lines block

theorem map_rule_indentReport (lines : List Text) (line : Nat) :
    ((indentReport lines line).map (·.violation.rule)).Sublist [.missingIndentAfterColon] := by
  have single := length_indentReport_le_one lines line
  have rules := fun finding => @of_mem_indentReport lines line finding
  match indentReport lines line, single, rules with
  | [], _, _ => exact List.nil_sublist _
  | [finding], _, rules => simp [(rules finding (List.mem_singleton_self _)).2]

theorem indentReport_eq_nil (found : lines[line]? = some text) (unlisted : isItem text = false) :
    indentReport lines line = [] := by
  have unindented : colonIndent? text = none := by
    apply Option.eq_none_iff_forall_ne_some.mpr
    intro indent bullet
    rw [isItem_of_colonIndent? bullet] at unlisted
    contradiction
  simp only [indentReport, found]
  split
  · rename_i current next same _
    obtain rfl := Option.some.inj same
    simp [indentFinding?, unindented]
  · rfl

theorem rule_of_mem_lineReport {finding : Finding} (found : lines[line]? = some text)
    (unlisted : isItem text = false) (member : finding ∈ block.lineReport lines line) :
    finding.violation.rule = .malformedStepShape := by
  simp only [Block.lineReport, found, unlisted, Bool.false_eq_true, if_false] at member
  exact (of_mem_endFindings member).2

theorem filter_header_eq_nil (found : lines[line]? = some step) (item : isItem step = true) :
    (blocks lines inGrammar).filter (·.header = line) = [] := by
  apply List.filter_eq_nil_iff.mpr
  intro block member heads
  obtain rfl := of_decide_eq_true heads
  rw [(mem_blocks_iff.mp member).1.header_not_isItem found] at item
  contradiction

/-- At a line that is no item come first the lists that end there, then the header's own. -/
theorem map_rule_filter_line_findings (found : lines[line]? = some text)
    (unlisted : isItem text = false) :
    ∃ ended own, ((findings lines inGrammar).filter (·.line = line)).map (·.violation.rule) =
        List.replicate ended .malformedStepShape ++ own ∧
      own.Sublist [.headerWhitespace, .missingBlankAfterHeader] := by
  have ended : ∀ finding ∈ (examiners lines inGrammar line).flatMap (Block.lineReport lines line),
      finding.violation.rule = .malformedStepShape := by
    intro finding member
    obtain ⟨block, _, reported⟩ := List.mem_flatMap.mp member
    exact rule_of_mem_lineReport found unlisted reported
  rw [filter_line_findings_ordered, indentReport_eq_nil found unlisted, List.append_nil,
    List.map_append, List.map_eq_replicate_iff.mpr ended]
  exact ⟨_, _, rfl, map_rule_headed lines inGrammar line⟩

/-- At an item come first the checks of the step, list by list, and last the indent below it. -/
theorem filter_line_findings_of_isItem (found : lines[line]? = some step)
    (item : isItem step = true) :
    (findings lines inGrammar).filter (·.line = line) =
      (examiners lines inGrammar line).flatMap (fun block => block.stepFindings step line) ++
        indentReport lines line := by
  rw [filter_line_findings_ordered, filter_header_eq_nil found item, List.flatMap_nil,
    List.append_nil]
  congr 1
  apply List.flatMap_congr
  intro block _
  exact lineReport_of_isItem found item

end

theorem stepViolations_pairwise (kind : BlockKind) (name step : Text) :
    (stepViolations kind name step).Pairwise fun first second =>
      stepRules.idxOf first.rule ≤ stepRules.idxOf second.rule := by
  have ordered : stepRules.Pairwise fun first second =>
      stepRules.idxOf first ≤ stepRules.idxOf second := by decide
  rw [stepViolations_eq_flatMap, List.pairwise_flatMap]
  constructor
  · intro rule _
    apply List.pairwise_of_forall_mem_list
    intro first member second memberToo
    rw [rule_of_mem_ruleViolations member, rule_of_mem_ruleViolations memberToo]
  · apply ordered.imp
    intro rule other before first member second memberToo
    rwa [rule_of_mem_ruleViolations member, rule_of_mem_ruleViolations memberToo]

theorem rule_of_mem_stepViolations {kind : BlockKind} {name step : Text} {violation : Violation}
    (member : violation ∈ stepViolations kind name step) : violation.rule ∈ stepRules := by
  rw [stepViolations_eq_flatMap] at member
  obtain ⟨rule, listed, source⟩ := List.mem_flatMap.mp member
  rwa [rule_of_mem_ruleViolations source]

/-- The spans of the nested literals of a text, from left to right. -/
def nestedSpans (text : Text) : List Span :=
  (literalSpans text).filter fun span => (bracePairs text).any span.encloses

theorem nestedSpans_pairwise (text : Text) :
    (nestedSpans text).Pairwise fun span other => span.last < other.first :=
  (literalSpansFrom_pairwise 0 (pieces text)).filter _

theorem map_slice_nestedSpans (text : Text) :
    (nestedSpans text).map (·.slice text) = nestedLiterals text :=
  slices_of_nested [] (pieces text) (fun _ => body_of_mem_pieces) (pieces_flatMap_toText text).symm

/-- The violations follow the order of the rules, and those for nested literals that of the literals
in the step. -/
structure FollowsRules (step : Text) (violations : List Violation) : Prop where
  among : ∀ violation ∈ violations, violation.rule ∈ stepRules
  ordered : violations.Pairwise fun first second =>
    stepRules.idxOf first.rule ≤ stepRules.idxOf second.rule
  spans_left_to_right : (nestedSpans step).Pairwise fun span other => span.last < other.first
  nested_left_to_right : ∃ name, (violations.filter (·.rule = .nestedValueLiteral)).Sublist
    ((nestedSpans step).map fun span => .nestedValueLiteral name (span.slice step))

theorem followsRules_stepViolations (kind : BlockKind) (name step : Text) :
    FollowsRules step (stepViolations kind name step) := by
  have nested : ((stepViolations kind name step).filter (·.rule = .nestedValueLiteral)).Sublist
      ((nestedSpans step).map fun span => .nestedValueLiteral name (span.slice step)) := by
    rw [filter_rule_stepViolations, if_pos (by decide), ruleViolations]
    split
    · rw [← map_slice_nestedSpans, List.map_map]
      exact List.Sublist.refl _
    · exact List.nil_sublist _
  exact ⟨fun _ => rule_of_mem_stepViolations, stepViolations_pairwise kind name step,
    nestedSpans_pairwise step, name, nested⟩

/-- The diagnostics are those that arise, in the order of the lines, and at one line in the order in
which they arise.  At a line that is no item the lists that end there come first, then its blanks
and its missing blank line as a header.  At an item the lists that check it come first, from the
upper header to the lower, each in the order of the rules, and last comes the indent below it. -/
theorem lintDocument_order (policy : Policy) (document : Document) :
    let lines := document.lines
    let inGrammar := document.isGrammar policy
    let toDiagnostic := Finding.toDiagnostic policy document.name
    let arisen := (findings lines inGrammar).map toDiagnostic
    let returned := lintDocument policy document
    returned.Perm arisen ∧
    (returned.Pairwise fun upper lower => upper.line ≤ lower.line) ∧
    (∀ line, returned.filter (·.line = line) = arisen.filter (·.line = line)) ∧
    (∀ line text, lines[line]? = some text → isItem text = false →
      ∃ ended own, (returned.filter (·.line = line)).map Diagnostic.rule =
          List.replicate ended .malformedStepShape ++ own ∧
        own.Sublist [.headerWhitespace, .missingBlankAfterHeader]) ∧
    ∀ line step, lines[line]? = some step → isItem step = true →
      ∃ below, returned.filter (·.line = line) =
          ((examiners lines inGrammar line).flatMap fun block =>
            (stepViolations block.kind block.name step).map fun violation =>
              toDiagnostic ⟨line, violation, [step]⟩) ++ below ∧
        (below.map Diagnostic.rule).Sublist [.missingIndentAfterColon] ∧
        ((examiners lines inGrammar line).Pairwise fun upper lower => upper.header < lower.header) ∧
        ∀ block ∈ examiners lines inGrammar line,
          FollowsRules step (stepViolations block.kind block.name step) := by
  intro lines inGrammar toDiagnostic arisen returned
  have atLine : ∀ line, returned.filter (·.line = line) =
      ((findings lines inGrammar).filter (·.line = line)).map toDiagnostic := by
    intro line
    rw [← filter_line_sortByLine]
    exact filter_line_map_toDiagnostic policy document.name _
  have rules : ∀ found : List Finding,
      (found.map toDiagnostic).map Diagnostic.rule = found.map (·.violation.rule) := by
    intro found
    rw [List.map_map]
    rfl
  refine ⟨?_, ?_, ?_, ?_, ?_⟩
  · apply List.Perm.map
    rw [sortByLine_eq_insertionSort]
    exact List.perm_insertionSort _ _
  · exact List.pairwise_map.mpr (sortByLine_pairwise _)
  · intro line
    rw [atLine]
    exact (filter_line_map_toDiagnostic policy document.name _).symm
  · intro line text found unlisted
    rw [atLine, rules]
    exact map_rule_filter_line_findings found unlisted
  · intro line step found item
    refine ⟨(indentReport lines line).map toDiagnostic, ?_, ?_, ?_, ?_⟩
    · rw [atLine, filter_line_findings_of_isItem found item, List.map_append, List.map_flatMap]
      congr 1
      apply List.flatMap_congr
      intro block _
      rw [Block.stepFindings, List.map_map]
      rfl
    · rw [rules]
      exact map_rule_indentReport lines line
    · exact (blocks_pairwise lines inGrammar).filter _
    · exact fun block _ => followsRules_stepViolations block.kind block.name step

/-- Two lists that end at a header, and a step that both of them check. -/
theorem lists_of_adjacent_headers_ordered :
    let document : Document := ⟨"a.md".toList, "Foo(a):\nBar(b):\n- Do.\n- if c:\nBaz (d):".toList⟩
    let returned := lintDocument {} document
    let step := "- if c:".toList
    document.lines[4]? = some "Baz (d):".toList ∧ isItem "Baz (d):".toList = false ∧
      (returned.filter (·.line = 4)).map Diagnostic.rule =
        [.malformedStepShape, .malformedStepShape, .headerWhitespace, .missingBlankAfterHeader] ∧
      (∃ ended own, (returned.filter (·.line = 4)).map Diagnostic.rule =
          List.replicate ended .malformedStepShape ++ own ∧
        own.Sublist [.headerWhitespace, .missingBlankAfterHeader]) ∧
      document.lines[3]? = some step ∧ isItem step = true ∧
      (returned.filter (·.line = 3)).map Diagnostic.rule =
        [.stepCapitalization, .stepCapitalization, .missingIndentAfterColon] ∧
      ∃ below, returned.filter (·.line = 3) =
          ((examiners document.lines false 3).flatMap fun block =>
            (stepViolations block.kind block.name step).map fun violation =>
              Finding.toDiagnostic {} document.name ⟨3, violation, [step]⟩) ++ below ∧
        (below.map Diagnostic.rule).Sublist [.missingIndentAfterColon] := by
  intro document returned step
  have header : document.lines[4]? = some "Baz (d):".toList := by decide
  have unlisted : isItem "Baz (d):".toList = false := by decide
  have found : document.lines[3]? = some step := by decide
  have item : isItem step = true := by decide
  obtain ⟨_, _, _, atHeader, atItem⟩ := lintDocument_order {} document
  obtain ⟨below, groups, last, _⟩ := atItem 3 step found item
  exact ⟨header, unlisted, by decide +kernel, atHeader 4 _ header unlisted, found, item,
    by decide +kernel, below, groups, last⟩

end PseudocodeLint
