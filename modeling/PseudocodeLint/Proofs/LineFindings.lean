import PseudocodeLint.Proofs.BlockScan
import PseudocodeLint.Proofs.Sorting

namespace PseudocodeLint

/-- Whether the list of a block examines a line, as a step or as the line that ends the list. -/
def Block.examines (lines : List Text) (line : Nat) (block : Block) : Bool :=
  block.stepsStart?.any fun start =>
    start ≤ line && line ≤ Block.stepsEnd lines start && line < lines.length

/-- What a list reports at a line that it examines. -/
def Block.lineReport (lines : List Text) (line : Nat) (block : Block) : List Finding :=
  match lines[line]? with
  | none => []
  | some text => if isItem text then block.stepFindings text line else block.endFindings lines line

/-- The place at which a rule is checked. -/
inductive Site where
  | header
  | list
  | indent
deriving DecidableEq, Repr

def Rule.site : Rule → Site
  | .headerWhitespace | .missingBlankAfterHeader => .header
  | .missingIndentAfterColon => .indent
  | _ => .list

/-- Reports that each keep to their own key can be told apart in their concatenation. -/
theorem filter_key_flatMap [DecidableEq κ] {key : α → κ} {report : κ → List α}
    {reported : List κ} {wanted : κ} (keyed : ∀ own, ∀ entry ∈ report own, key entry = own)
    (distinct : reported.Nodup) :
    (reported.flatMap report).filter (key · = wanted) =
      if wanted ∈ reported then report wanted else [] := by
  induction reported with
  | nil => rfl
  | cons first rest restIH =>
      obtain ⟨absent, restDistinct⟩ := List.nodup_cons.mp distinct
      rw [List.flatMap_cons, List.filter_append, restIH restDistinct]
      by_cases same : wanted = first
      · subst same
        have kept : (report wanted).filter (key · = wanted) = report wanted :=
          List.filter_eq_self.mpr fun entry member => by simp [keyed wanted entry member]
        simp [kept, absent]
      · have dropped : (report first).filter (key · = wanted) = [] :=
          List.filter_eq_nil_iff.mpr fun entry member => by
            simp [keyed first entry member, Ne.symm same]
        simp [dropped, same]

/-- Of reports that only one key brings, one is left. -/
theorem flatMap_at_key [DecidableEq κ] {keys : List κ} (distinct : keys.Nodup) (wanted : κ)
    (report : List α) :
    keys.flatMap (fun key => if key = wanted then report else []) =
      if wanted ∈ keys then report else [] := by
  induction keys with
  | nil => rfl
  | cons first rest restIH =>
      obtain ⟨absent, restDistinct⟩ := List.nodup_cons.mp distinct
      rw [List.flatMap_cons, restIH restDistinct]
      by_cases same : first = wanted
      · subst same
        simp [absent]
      · simp [same, Ne.symm same]

section

variable {lines : List Text} {line : Nat} {block : Block} {finding : Finding}

theorem Block.examines_iff :
    block.examines lines line = true ↔
      ∃ start, block.stepsStart? = some start ∧ start ≤ line ∧
        line ≤ stepsEnd lines start ∧ line < lines.length := by
  simp only [examines, Option.any_eq_true, Bool.and_eq_true, decide_eq_true_eq, and_assoc]

theorem Block.mem_range'_iff_examines {start : Nat} (steps : block.stepsStart? = some start)
    (bound : line < lines.length) :
    line ∈ List.range' start (stepsEnd lines start + 1 - start) ↔
      block.examines lines line = true := by
  simp only [List.mem_range'_1, examines, steps, Option.any_some, Bool.and_eq_true,
    decide_eq_true_eq]
  omega

theorem of_mem_endFindings (member : finding ∈ block.endFindings lines line) :
    finding.line = line ∧ finding.violation.rule = .malformedStepShape := by
  simp only [Block.endFindings] at member
  split at member
  · contradiction
  · contradiction
  · rw [List.mem_singleton.mp member]
    exact ⟨rfl, rfl⟩

/-- A header is reported for at most two things, each of them once. -/
theorem headerFindings_sublist (lines : List Text) (block : Block) :
    (block.headerFindings lines).Sublist
      [block.headerFinding lines (.headerWhitespace block.name),
        block.headerFinding lines (.missingBlankAfterHeader block.kind block.name)] := by
  have missing : (block.missingBlankFindings lines).Sublist
      [block.headerFinding lines (.missingBlankAfterHeader block.kind block.name)] := by
    simp only [Block.missingBlankFindings]
    split
    · exact List.nil_sublist _
    · exact List.Sublist.refl _
  obtain ⟨header, opening⟩ := block
  cases opening with
  | algorithm name blankGap =>
      cases blankGap with
      | false => exact missing.cons _
      | true => exact missing.cons_cons _
  | grammar name needsBlank stop hasSteps =>
      cases needsBlank with
      | false => exact List.nil_sublist _
      | true => exact missing.cons _

theorem exists_of_mem_headerFindings (member : finding ∈ block.headerFindings lines) :
    ∃ violation, finding = block.headerFinding lines violation ∧
      violation.rule.site = .header := by
  have listed := (headerFindings_sublist lines block).subset member
  rcases List.mem_pair.mp listed with rfl | rfl <;> exact ⟨_, rfl, rfl⟩

theorem of_mem_headerFindings (member : finding ∈ block.headerFindings lines) :
    finding.line = block.header ∧ finding.violation.rule.site = .header := by
  obtain ⟨violation, rfl, site⟩ := exists_of_mem_headerFindings member
  exact ⟨rfl, site⟩

theorem line_of_mem_lineReport (member : finding ∈ block.lineReport lines line) :
    finding.line = line := by
  simp only [Block.lineReport] at member
  split at member
  · contradiction
  · split at member
    · obtain ⟨violation, _, rfl⟩ := List.mem_map.mp member
      rfl
    · exact (of_mem_endFindings member).1

theorem Block.bodyFindings_eq_flatMap (lines : List Text) (block : Block) (start : Nat) :
    block.bodyFindings lines start =
      (List.range' start (stepsEnd lines start + 1 - start)).flatMap
        (fun line => block.lineReport lines line) := by
  have run := endsRun_stepsEnd lines start
  have placed : ∀ offset < (stepRun lines start).length,
      lines[start + offset]? = (stepRun lines start)[offset]? :=
    fun offset bound => getElem?_stepRun bound
  have last : block.endFindings lines (stepsEnd lines start) =
      block.lineReport lines (stepsEnd lines start) := by
    simp only [lineReport]
    cases found : lines[stepsEnd lines start]? with
    | none => simp [endFindings, found]
    | some text => simp [run.outside text found]
  have width : stepsEnd lines start + 1 - start = (stepRun lines start).length + 1 := by
    simp only [stepsEnd]
    omega
  rw [bodyFindings, flatMap_zipIdx placed block.stepFindings, width, List.range'_concat,
    List.flatMap_append, List.flatMap_singleton, last]
  congr 1
  · refine List.flatMap_congr fun line member => ?_
    obtain ⟨lower, upper⟩ := List.mem_range'_1.mp member
    obtain ⟨text, found, item⟩ := run.inside line lower upper
    simp [lineReport, found, item, List.getD_eq_getElem?_getD]
  · simp [stepsEnd]

theorem Block.filter_line_bodyFindings (start : Nat) :
    (block.bodyFindings lines start).filter (·.line = line) =
      if start ≤ line ∧ line ≤ stepsEnd lines start then block.lineReport lines line else [] := by
  have lower := (endsRun_stepsEnd lines start).start_le
  have member : line ∈ List.range' start (stepsEnd lines start + 1 - start) ↔
      start ≤ line ∧ line ≤ stepsEnd lines start := by
    rw [List.mem_range'_1]
    omega
  rw [bodyFindings_eq_flatMap, filter_key_flatMap (fun _ _ => line_of_mem_lineReport)
    List.nodup_range']
  simp only [member]

theorem Block.filter_line_findings :
    (block.findings lines).filter (·.line = line) =
      (if block.header = line then block.headerFindings lines else []) ++
        if block.examines lines line then block.lineReport lines line else [] := by
  have heads : (block.headerFindings lines).filter (·.line = line) =
      if block.header = line then block.headerFindings lines else [] := by
    split
    · rename_i same
      refine List.filter_eq_self.mpr fun finding member => ?_
      simp [(of_mem_headerFindings member).1, same]
    · rename_i other
      refine List.filter_eq_nil_iff.mpr fun finding member => ?_
      simp [(of_mem_headerFindings member).1, other]
  rw [findings, List.filter_append, heads]
  congr 1
  cases steps : block.stepsStart? with
  | none => simp [examines, steps]
  | some start =>
      rw [Option.toList_some, List.flatMap_singleton, filter_line_bodyFindings]
      by_cases missing : line < lines.length
      · simp [examines, steps, missing]
      · have nothing : block.lineReport lines line = [] := by
          simp [lineReport, List.getElem?_eq_none (Nat.le_of_not_lt missing)]
        simp [nothing]

theorem mem_findings_of_examines (examined : block.examines lines line = true)
    (reported : finding ∈ block.lineReport lines line) : finding ∈ block.findings lines := by
  have atLine : finding ∈ (block.findings lines).filter (·.line = line) := by
    rw [Block.filter_line_findings, if_pos examined]
    exact List.mem_append_right _ reported
  exact List.mem_of_mem_filter atLine

end

def stepRules : List Rule :=
  [.stepPunctuation, .stepCapitalization, .assertFormatting, .unwrappedAlgorithmCall,
    .nestedValueLiteral, .unwrappedLiteralKeyword]

/-- What a single rule finds at a step.  Calls and nested literals count in algorithms only. -/
def ruleViolations (kind : BlockKind) (name step : Text) : Rule → List Violation
  | .stepPunctuation => if endsSentence step then [] else [.stepPunctuation name]
  | .stepCapitalization =>
      if (Item.read? step).any Item.startsLowercase then [.stepCapitalization name] else []
  | .assertFormatting =>
      (((Item.read? step).bind Item.assertFollower?).map (.assertFormatting name)).toList
  | .unwrappedAlgorithmCall =>
      if kind = .algorithm ∧ hasBareCall step then [.unwrappedAlgorithmCall name] else []
  | .nestedValueLiteral =>
      if kind = .algorithm then (nestedLiterals step).map (.nestedValueLiteral name) else []
  | .unwrappedLiteralKeyword => if hasBareKeyword step then [.unwrappedLiteralKeyword name] else []
  | _ => []

section

variable {rule : Rule} {kind : BlockKind} {name step : Text} {violation : Violation}

theorem stepViolations_eq_flatMap :
    stepViolations kind name step = stepRules.flatMap (ruleViolations kind name step) := by
  cases kind <;>
    simp [stepViolations, stepRules, ruleViolations, List.flatMap_cons, List.append_assoc]

theorem rule_of_mem_ruleViolations
    (member : violation ∈ ruleViolations kind name step rule) : violation.rule = rule := by
  cases rule with
  | assertFormatting =>
      obtain ⟨found, _, rfl⟩ := Option.map_eq_some_iff.mp (Option.mem_toList.mp member)
      rfl
  | nestedValueLiteral =>
      simp only [ruleViolations] at member
      split at member
      · obtain ⟨literal, _, rfl⟩ := List.mem_map.mp member
        rfl
      · contradiction
  | headerWhitespace | missingBlankAfterHeader | malformedStepShape | missingIndentAfterColon =>
      contradiction
  | stepPunctuation | stepCapitalization | unwrappedAlgorithmCall | unwrappedLiteralKeyword =>
      simp only [ruleViolations] at member
      split at member <;> simp_all [Violation.rule]

theorem filter_rule_stepViolations :
    (stepViolations kind name step).filter (·.rule = rule) =
      if rule ∈ stepRules then ruleViolations kind name step rule else [] := by
  rw [stepViolations_eq_flatMap]
  exact filter_key_flatMap (fun _ _ => rule_of_mem_ruleViolations) (by decide)

theorem length_ruleViolations (single : rule ≠ .nestedValueLiteral) :
    (ruleViolations kind name step rule).length ≤ 1 := by
  cases rule with
  | nestedValueLiteral => contradiction
  | assertFormatting => exact Option.length_toList_le
  | headerWhitespace | missingBlankAfterHeader | malformedStepShape | missingIndentAfterColon =>
      exact Nat.zero_le 1
  | stepPunctuation | stepCapitalization | unwrappedAlgorithmCall | unwrappedLiteralKeyword =>
      simp only [ruleViolations]
      split <;> simp

end

section

variable {lines : List Text} {inGrammar : Bool} {line : Nat} {rule : Rule} {block : Block}
  {finding : Finding} {step : Text}

theorem lineReport_of_isItem (found : lines[line]? = some step) (item : isItem step = true) :
    block.lineReport lines line = block.stepFindings step line := by
  simp [Block.lineReport, found, item]

theorem filter_rule_stepFindings :
    (block.stepFindings step line).filter (·.violation.rule = rule) =
      if rule ∈ stepRules then
        (ruleViolations block.kind block.name step rule).map (⟨line, ·, [step]⟩)
      else [] := by
  have swapped : (block.stepFindings step line).filter (·.violation.rule = rule) =
      ((stepViolations block.kind block.name step).filter (·.rule = rule)).map
        (⟨line, ·, [step]⟩) := by
    rw [Block.stepFindings, List.filter_map]
    rfl
  rw [swapped, filter_rule_stepViolations]
  split <;> rfl

theorem site_of_mem_stepFindings (member : finding ∈ block.stepFindings step line) :
    finding.violation.rule.site = .list := by
  obtain ⟨violation, found, rfl⟩ := List.mem_map.mp member
  rw [stepViolations_eq_flatMap] at found
  obtain ⟨rule, listed, source⟩ := List.mem_flatMap.mp found
  have sites : ∀ rule ∈ stepRules, rule.site = .list := by decide
  rw [rule_of_mem_ruleViolations source]
  exact sites rule listed

theorem site_of_mem_lineReport (member : finding ∈ block.lineReport lines line) :
    finding.violation.rule.site = .list := by
  simp only [Block.lineReport] at member
  split at member
  · contradiction
  · split at member
    · exact site_of_mem_stepFindings member
    · rw [(of_mem_endFindings member).2]
      rfl

theorem length_filter_lineReport (single : rule ≠ .nestedValueLiteral) :
    ((block.lineReport lines line).filter (·.violation.rule = rule)).length ≤ 1 := by
  simp only [Block.lineReport]
  split
  · exact Nat.zero_le 1
  · split
    · rw [filter_rule_stepFindings]
      split
      · rw [List.length_map]
        exact length_ruleViolations single
      · exact Nat.zero_le 1
    · refine Nat.le_trans (List.length_filter_le ..) ?_
      simp only [Block.endFindings]
      split <;> simp

theorem length_filter_headerFindings :
    ((block.headerFindings lines).filter (·.violation.rule = rule)).length ≤ 1 := by
  refine Nat.le_trans ((headerFindings_sublist lines block).filter _).length_le ?_
  cases rule <;> simp [Block.headerFinding, Violation.rule]

theorem indentFinding?_eq_some {current next : Text}
    (found : indentFinding? line current next = some finding) :
    finding.line = line ∧ finding.violation.rule = .missingIndentAfterColon := by
  simp only [indentFinding?] at found
  split at found
  · split at found
    · contradiction
    · cases found
      exact ⟨rfl, rfl⟩
  · contradiction

/-- What the indent below a line is reported for. -/
def indentReport (lines : List Text) (line : Nat) : List Finding :=
  match lines[line]?, lines[line + 1]? with
  | some current, some next => (indentFinding? line current next).toList
  | _, _ => []

theorem indentFindings_eq_flatMap (lines : List Text) :
    indentFindings lines = (List.range lines.length).flatMap (indentReport lines) := by
  have placed : ∀ (run : List Text) (start : Nat), lines.drop start = run →
      ((run.zip (run.drop 1)).zipIdx start).filterMap
        (fun pair => indentFinding? pair.2 pair.1.1 pair.1.2) =
      (List.range' start run.length).flatMap (indentReport lines) := by
    intro run
    induction run with
    | nil => intros; rfl
    | cons current rest restIH =>
        intro start from_start
        have here : lines[start]? = some current := by
          rw [← List.head?_drop, from_start, List.head?_cons]
        have later : lines.drop (start + 1) = rest := by
          rw [← List.tail_drop, from_start, List.tail_cons]
        have below : lines[start + 1]? = rest.head? := by
          rw [← List.head?_drop, later]
        rw [List.length_cons, List.range'_succ, List.flatMap_cons, ← restIH (start + 1) later]
        cases rest with
        | nil => simp [indentReport, here, below]
        | cons next rest =>
            simp only [List.drop_succ_cons, List.drop_zero, List.zip_cons_cons, List.zipIdx_cons,
              List.filterMap_cons, indentReport, here, below, List.head?_cons]
            cases indentFinding? start current next <;> rfl
  have whole := placed lines 0 rfl
  rw [← List.range_eq_range'] at whole
  exact whole

/-- Every finding is at a line of the document. -/
theorem line_lt_of_mem_findings (member : finding ∈ findings lines inGrammar) :
    finding.line < lines.length := by
  rcases List.mem_append.mp member with inBlock | inIndent
  · obtain ⟨block, found, member⟩ := List.mem_flatMap.mp inBlock
    rcases List.mem_append.mp member with atHeader | inList
    · rw [(of_mem_headerFindings atHeader).1]
      exact (mem_blocks_iff.mp found).1.header_lt
    · obtain ⟨start, _, body⟩ := List.mem_flatMap.mp inList
      rw [Block.bodyFindings_eq_flatMap] at body
      obtain ⟨line, _, report⟩ := List.mem_flatMap.mp body
      rw [line_of_mem_lineReport report]
      refine Nat.lt_of_not_le fun outside => ?_
      simp [Block.lineReport, List.getElem?_eq_none outside] at report
  · rw [indentFindings_eq_flatMap] at inIndent
    obtain ⟨line, inside, report⟩ := List.mem_flatMap.mp inIndent
    simp only [indentReport] at report
    split at report
    · rw [(indentFinding?_eq_some (Option.mem_toList.mp report)).1]
      exact List.mem_range.mp inside
    · contradiction

theorem site_of_mem_indentFindings (member : finding ∈ indentFindings lines) :
    finding.violation.rule.site = .indent := by
  obtain ⟨⟨⟨current, next⟩, line⟩, _, found⟩ := List.mem_filterMap.mp member
  rw [(indentFinding?_eq_some found).2]
  rfl

theorem indentFindings_pairwise (lines : List Text) :
    (indentFindings lines).Pairwise fun upper lower => upper.line < lower.line := by
  have ascending : ((lines.zip (lines.drop 1)).zipIdx).Pairwise fun upper lower =>
      upper.2 < lower.2 := by
    refine List.pairwise_map.mp ?_
    rw [List.zipIdx_map_snd]
    exact List.pairwise_lt_range'
  refine List.pairwise_filterMap.mpr (ascending.imp ?_)
  intro upper lower below first found second foundToo
  rw [(indentFinding?_eq_some found).1, (indentFinding?_eq_some foundToo).1]
  exact below

end

/-- The diagnostics of a document for a rule at a line, in the order in which they are returned. -/
def Document.diagnosticsAt (policy : Policy) (document : Document) (line : Nat) (rule : Rule) :
    List Diagnostic :=
  (lintDocument policy document).filter fun diagnostic =>
    diagnostic.line = line ∧ diagnostic.rule = rule

/-- The blocks whose lists examine a line. -/
def examiners (lines : List Text) (inGrammar : Bool) (line : Nat) : List Block :=
  (blocks lines inGrammar).filter (Block.examines lines line)

section

variable {lines : List Text} {inGrammar : Bool} {line : Nat} {rule : Rule}

theorem flatMap_ite (keep : α → Bool) (report : α → List β) (entries : List α) :
    entries.flatMap (fun entry => if keep entry then report entry else []) =
      (entries.filter keep).flatMap report := by
  induction entries with
  | nil => rfl
  | cons first rest restIH =>
      rw [List.flatMap_cons, restIH, List.filter_cons]
      split <;> simp

theorem filter_rule_eq_nil {found : List Finding} {site : Site}
    (sites : ∀ finding ∈ found, finding.violation.rule.site = site) (other : rule.site ≠ site) :
    found.filter (·.violation.rule = rule) = [] := by
  refine List.filter_eq_nil_iff.mpr fun finding member => ?_
  have site_eq := sites finding member
  intro same
  rw [of_decide_eq_true same] at site_eq
  exact other site_eq

theorem filter_line_sortByLine (found : List Finding) (line : Nat) :
    (sortByLine found).filter (·.line = line) = found.filter (·.line = line) := by
  rw [sortByLine_eq_insertionSort, filter_insertionSort]
  refine List.Pairwise.insertionSort_eq (List.pairwise_of_forall_mem_list ?_)
  intro left first right second
  simp only [List.mem_filter, decide_eq_true_eq] at first second
  exact Nat.le_of_eq (first.2.trans second.2.symm)

theorem diagnosticsAt_eq (policy : Policy) (document : Document) (line : Nat) (rule : Rule) :
    document.diagnosticsAt policy line rule =
      (((findings document.lines (document.isGrammar policy)).filter (·.line = line)).filter
        (·.violation.rule = rule)).map (Finding.toDiagnostic policy document.name) := by
  rw [Document.diagnosticsAt, lintDocument, List.filter_map, ← filter_line_sortByLine,
    List.filter_filter]
  congr 1
  refine List.filter_congr fun finding _ => ?_
  exact (Bool.decide_and ..).trans (Bool.and_comm ..)

theorem filter_line_findings (lines : List Text) (inGrammar : Bool) (line : Nat) :
    (findings lines inGrammar).filter (·.line = line) =
      (blocks lines inGrammar).flatMap (fun block =>
        (if block.header = line then block.headerFindings lines else []) ++
          if block.examines lines line then block.lineReport lines line else []) ++
      (indentFindings lines).filter (·.line = line) := by
  rw [findings, List.filter_append, List.filter_flatMap]
  congr 1
  exact List.flatMap_congr fun block _ => block.filter_line_findings

theorem filter_rule_header_eq_nil (other : rule.site ≠ .header) (block : Block) :
    (if block.header = line then block.headerFindings lines else []).filter
      (·.violation.rule = rule) = [] := by
  refine filter_rule_eq_nil (fun finding member => ?_) other
  split at member
  · exact (of_mem_headerFindings member).2
  · contradiction

theorem filter_rule_list_eq_nil (other : rule.site ≠ .list) (block : Block) :
    (if block.examines lines line then block.lineReport lines line else []).filter
      (·.violation.rule = rule) = [] := by
  refine filter_rule_eq_nil (fun finding member => ?_) other
  split at member
  · exact site_of_mem_lineReport member
  · contradiction

theorem filter_rule_indent_eq_nil (other : rule.site ≠ .indent) :
    ((indentFindings lines).filter (·.line = line)).filter (·.violation.rule = rule) = [] :=
  filter_rule_eq_nil (fun _ member =>
    site_of_mem_indentFindings (List.mem_of_mem_filter member)) other

theorem filter_rule_of_list (site : rule.site = .list) :
    ((findings lines inGrammar).filter (·.line = line)).filter (·.violation.rule = rule) =
      (examiners lines inGrammar line).flatMap fun block =>
        (block.lineReport lines line).filter (·.violation.rule = rule) := by
  rw [filter_line_findings, List.filter_append, filter_rule_indent_eq_nil (by simp [site]),
    List.append_nil, List.filter_flatMap, examiners, ← flatMap_ite]
  refine List.flatMap_congr fun block _ => ?_
  rw [List.filter_append, filter_rule_header_eq_nil (by simp [site]), List.nil_append]
  split <;> rfl

theorem filter_rule_of_header (site : rule.site = .header) :
    ((findings lines inGrammar).filter (·.line = line)).filter (·.violation.rule = rule) =
      ((blocks lines inGrammar).filter (·.header = line)).flatMap fun block =>
        (block.headerFindings lines).filter (·.violation.rule = rule) := by
  rw [filter_line_findings, List.filter_append, filter_rule_indent_eq_nil (by simp [site]),
    List.append_nil, List.filter_flatMap, ← flatMap_ite]
  refine List.flatMap_congr fun block _ => ?_
  rw [List.filter_append, filter_rule_list_eq_nil (by simp [site]), List.append_nil]
  split <;> simp_all

theorem filter_rule_of_indent (site : rule.site = .indent) :
    ((findings lines inGrammar).filter (·.line = line)).filter (·.violation.rule = rule) =
      ((indentFindings lines).filter (·.line = line)).filter (·.violation.rule = rule) := by
  rw [filter_line_findings, List.filter_append, List.filter_flatMap]
  refine List.append_left_eq_self.mpr (List.flatMap_eq_nil_iff.mpr fun block _ => ?_)
  rw [List.filter_append, filter_rule_header_eq_nil (by simp [site]),
    filter_rule_list_eq_nil (by simp [site]), List.append_nil]

end

end PseudocodeLint
