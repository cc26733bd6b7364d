import Mathlib.Data.List.Basic
import PseudocodeLint.Lint
import PseudocodeLint.Proofs.Opening

namespace PseudocodeLint

/-! The search for blocks visits every line that opens one, unless the line stands inside the
definition of a production above it.  The search jumps over step runs and definitions, and goes back
behind a header whose blank line is missing; none of this loses or repeats a block. -/

/-- A line is hidden when it stands inside the definition of a production above it. -/
def isHidden (lines : List Text) (inGrammar : Bool) (line : Nat) : Bool :=
  (List.range line).any fun header =>
    match openingAt lines inGrammar header with
    | some (.grammar _ _ stop _) => line < stop
    | _ => false

/-- The block that a line opens in plain sight. -/
def visibleBlock? (lines : List Text) (inGrammar : Bool) (line : Nat) : Option Block :=
  if isHidden lines inGrammar line then none
  else (openingAt lines inGrammar line).map (⟨line, ·⟩)

section

variable {lines : List Text} {inGrammar : Bool} {line cursor : Nat} {block : Block}

theorem isHidden_iff :
    isHidden lines inGrammar line = true ↔
      ∃ header name needsBlank stop hasSteps, header < line ∧
        openingAt lines inGrammar header = some (.grammar name needsBlank stop hasSteps) ∧
        line < stop := by
  simp only [isHidden, List.any_eq_true, List.mem_range]
  constructor
  · intro hidden
    obtain ⟨header, above, inside⟩ := hidden
    split at inside
    · rename_i name needsBlank stop hasSteps opens
      exact ⟨header, name, needsBlank, stop, hasSteps, above, opens, of_decide_eq_true inside⟩
    · contradiction
  · intro hidden
    obtain ⟨header, name, needsBlank, stop, hasSteps, above, opens, inside⟩ := hidden
    exact ⟨header, above, by simp [opens, inside]⟩

/-- Only what the lines above open can hide a line. -/
theorem isHidden_congr {linesToo : List Text}
    (same : ∀ header < line, openingAt lines inGrammar header =
      openingAt linesToo inGrammar header) :
    isHidden lines inGrammar line = isHidden linesToo inGrammar line := by
  refine Bool.eq_iff_iff.mpr (isHidden_iff.trans (Iff.trans ?_ isHidden_iff.symm))
  refine exists_congr fun header => exists_congr fun name => exists_congr fun needsBlank =>
    exists_congr fun stop => exists_congr fun hasSteps => and_congr_right fun above => ?_
  rw [same header above]

theorem isHidden_outside_grammar (lines : List Text) (line : Nat) :
    isHidden lines false line = false := by
  refine Bool.eq_false_iff.mpr fun hidden => ?_
  obtain ⟨header, name, needsBlank, stop, hasSteps, _, opens, _⟩ := isHidden_iff.mp hidden
  have inGrammar := (grammar_of_openingAt opens).1
  contradiction

namespace Block

/-- The block is what its header line opens. -/
def Opened (lines : List Text) (inGrammar : Bool) (block : Block) : Prop :=
  openingAt lines inGrammar block.header = some block.opening

theorem Opened.header_lt (opened : block.Opened lines inGrammar) :
    block.header < lines.length :=
  lt_length_of_openingAt opened

theorem Opened.header_not_isItem (opened : block.Opened lines inGrammar) {text : Text}
    (found : lines[block.header]? = some text) : isItem text = false := by
  refine Bool.eq_false_iff.mpr fun item => ?_
  have closed : openingAt lines inGrammar block.header = none :=
    openingAt_eq_none_of_isItem found item
  rw [opened] at closed
  contradiction

theorem Opened.stop_eq {header stop : Nat} {name : Text} {needsBlank hasSteps : Bool}
    (opened : Opened lines inGrammar ⟨header, .grammar name needsBlank stop hasSteps⟩) :
    stop = definitionEnd lines header :=
  (grammar_of_openingAt opened).2.2.1

theorem Opened.lt_resume (opened : block.Opened lines inGrammar) :
    block.header < block.resume lines := by
  obtain ⟨header, opening⟩ := block
  cases opening with
  | algorithm name blankGap =>
      have lower := (endsRun_stepsEnd lines (header + 2)).start_le
      simp only [resume]
      split <;> omega
  | grammar name needsBlank stop hasSteps =>
      have below := lt_definitionEnd lines header
      have lower := (endsRun_stepsEnd lines (stop + 1)).start_le
      obtain rfl := opened.stop_eq
      simp only [resume]
      split <;> omega

theorem Opened.resume_le_length (opened : block.Opened lines inGrammar) :
    block.resume lines ≤ lines.length := by
  have bound := opened.header_lt
  obtain ⟨header, opening⟩ := block
  cases opening with
  | algorithm name blankGap =>
      simp only [resume]
      split
      · rename_i blank
        simp only [hasBlankAfterHeader, decide_eq_true_eq] at blank
        have next : header + 1 < lines.length := (List.getElem?_eq_some_iff.mp blank).1
        exact (endsRun_stepsEnd lines (header + 2)).stop_le_length next
      · exact bound
  | grammar name needsBlank stop hasSteps =>
      have listed := (grammar_of_openingAt opened).2.2.2
      obtain rfl := opened.stop_eq
      simp only [resume]
      split
      · rename_i steps
        obtain ⟨text, found, _⟩ := (Option.any_eq_true _ _).mp (listed.symm.trans steps)
        have next := (List.getElem?_eq_some_iff.mp found).1
        exact (endsRun_stepsEnd lines _).stop_le_length (Nat.le_of_lt next)
      · exact definitionEnd_le_length bound

theorem stop_le_resume {header stop : Nat} {name : Text} {needsBlank hasSteps : Bool} :
    stop ≤ resume lines ⟨header, .grammar name needsBlank stop hasSteps⟩ := by
  have lower := (endsRun_stepsEnd lines (stop + 1)).start_le
  simp only [resume]
  split <;> omega

/-- Of the lines that the search jumps over, only those inside a definition may open a block. -/
theorem Opened.openingAt_skipped (opened : block.Opened lines inGrammar)
    (below : block.header < line) (above : line < block.resume lines) :
    openingAt lines inGrammar line = none ∨
      ∃ name needsBlank stop hasSteps,
        block.opening = .grammar name needsBlank stop hasSteps ∧ line < stop := by
  have in_run : ∀ start, start ≤ line → line < stepsEnd lines start →
      openingAt lines inGrammar line = none := by
    intro start lower upper
    obtain ⟨text, found, item⟩ := (endsRun_stepsEnd lines start).inside line lower upper
    exact openingAt_eq_none_of_isItem found item
  obtain ⟨header, opening⟩ := block
  cases opening with
  | algorithm name blankGap =>
      simp only [resume] at above below
      refine Or.inl ?_
      split at above
      · rename_i blank
        simp only [hasBlankAfterHeader, decide_eq_true_eq] at blank
        rcases Nat.eq_or_lt_of_le below with same | further
        · subst same
          refine openingAt_eq_none fun text found => ?_
          obtain rfl : text = [] := Option.some.inj (found.symm.trans blank)
          exact unnamed_of_isBlankLine rfl
        · exact in_run (header + 2) further above
      · omega
  | grammar name needsBlank stop hasSteps =>
      by_cases inside : line < stop
      · exact Or.inr ⟨name, needsBlank, stop, hasSteps, rfl, inside⟩
      · refine Or.inl ?_
        simp only [resume] at above
        split at above
        · rcases Nat.eq_or_lt_of_le (Nat.le_of_not_lt inside) with same | further
          · obtain rfl := opened.stop_eq
            refine openingAt_eq_none fun text found => ?_
            exact unnamed_of_isBlankLine (isBlankLine_definitionEnd (same ▸ found))
          · exact in_run (stop + 1) further above
        · contradiction

theorem Opened.visibleBlock?_skipped (opened : block.Opened lines inGrammar)
    (below : block.header < line) (above : line < block.resume lines) :
    visibleBlock? lines inGrammar line = none := by
  rcases opened.openingAt_skipped below above with
    closed | ⟨name, needsBlank, stop, hasSteps, same, inside⟩
  · simp [visibleBlock?, closed]
  · have hidden : isHidden lines inGrammar line = true :=
      isHidden_iff.mpr
        ⟨block.header, name, needsBlank, stop, hasSteps, below, same ▸ opened, inside⟩
    simp [visibleBlock?, hidden]

theorem Opened.isHidden_resume (opened : block.Opened lines inGrammar)
    (visible : isHidden lines inGrammar block.header = false) :
    isHidden lines inGrammar (block.resume lines) = false := by
  refine Bool.eq_false_iff.mpr fun hidden => ?_
  obtain ⟨header, name, needsBlank, stop, hasSteps, above, opens, inside⟩ := isHidden_iff.mp hidden
  have advanced := opened.lt_resume
  rcases Nat.lt_trichotomy header block.header with earlier | same | later
  · have covered : isHidden lines inGrammar block.header = true :=
      isHidden_iff.mpr ⟨header, name, needsBlank, stop, hasSteps, earlier, opens, by omega⟩
    rw [visible] at covered
    contradiction
  · obtain ⟨own, opening⟩ := block
    obtain rfl : opening = .grammar name needsBlank stop hasSteps :=
      Option.some.inj (opened.symm.trans (same ▸ opens))
    have lower := @stop_le_resume lines own stop name needsBlank hasSteps
    omega
  · rcases opened.openingAt_skipped later above with
      closed | ⟨outer, unblanked, outerStop, listed, same, within⟩
    · rw [opens] at closed
      contradiction
    · -- a production inside the block's own definition ends with it
      obtain ⟨own, opening⟩ := block
      obtain rfl : opening = .grammar outer unblanked outerStop listed := same
      have lower := @stop_le_resume lines own outerStop outer unblanked listed
      have ended := (grammar_of_openingAt opens).2.2.1
      obtain rfl := opened.stop_eq
      have same : definitionEnd lines header = definitionEnd lines own :=
        definitionEnd_eq_of_inside later within
      omega

end Block

theorem isHidden_succ (visible : isHidden lines inGrammar line = false)
    (closed : openingAt lines inGrammar line = none) :
    isHidden lines inGrammar (line + 1) = false := by
  refine Bool.eq_false_iff.mpr fun hidden => ?_
  obtain ⟨header, name, needsBlank, stop, hasSteps, above, opens, inside⟩ := isHidden_iff.mp hidden
  rcases Nat.eq_or_lt_of_le (Nat.le_of_lt_succ above) with same | earlier
  · rw [← same, opens] at closed
    contradiction
  · have covered : isHidden lines inGrammar line = true :=
      isHidden_iff.mpr ⟨header, name, needsBlank, stop, hasSteps, earlier, opens, by omega⟩
    rw [visible] at covered
    contradiction

/-- From a line in plain sight on, the search finds exactly the blocks opened in plain sight. -/
theorem blocksFrom_eq_filterMap (visible : isHidden lines inGrammar cursor = false) :
    blocksFrom lines inGrammar cursor =
      (List.range' cursor (lines.length - cursor)).filterMap (visibleBlock? lines inGrammar) := by
  fun_induction blocksFrom lines inGrammar cursor with
  | case1 cursor bound closed cursorIH =>
      rw [cursorIH (isHidden_succ visible closed)]
      have split_range : lines.length - cursor = (lines.length - (cursor + 1)) + 1 := by omega
      rw [split_range, List.range'_succ, List.filterMap_cons]
      simp [visibleBlock?, closed]
  | case2 cursor bound opening opens block cursorIH =>
      have opened : block.Opened lines inGrammar := opens
      have advanced : cursor < block.resume lines := opened.lt_resume
      have limited := opened.resume_le_length
      have next : max (block.resume lines) (cursor + 1) = block.resume lines := by omega
      rw [next] at cursorIH ⊢
      rw [cursorIH (opened.isHidden_resume visible)]
      have skipped : (List.range' (cursor + 1) (block.resume lines - (cursor + 1))).filterMap
          (visibleBlock? lines inGrammar) = [] := by
        refine List.filterMap_eq_nil_iff.mpr fun line member => ?_
        obtain ⟨below, above⟩ := List.mem_range'_1.mp member
        exact opened.visibleBlock?_skipped below (by omega)
      have parts : List.range' cursor (lines.length - cursor) =
          cursor :: (List.range' (cursor + 1) (block.resume lines - (cursor + 1)) ++
            List.range' (block.resume lines) (lines.length - block.resume lines)) := by
        have whole : lines.length - cursor = block.resume lines - (cursor + 1) +
            (lines.length - block.resume lines) + 1 := by omega
        have middle : cursor + 1 + (block.resume lines - (cursor + 1)) = block.resume lines := by
          omega
        rw [whole, List.range'_succ, ← List.range'_append_1, middle]
      have first : visibleBlock? lines inGrammar cursor = some block := by
        simp [visibleBlock?, visible, opens, block]
      rw [parts, List.filterMap_cons_some first, List.filterMap_append, skipped, List.nil_append]
  | case3 cursor bound =>
      have none_left : lines.length - cursor = 0 := by omega
      simp [none_left]

theorem blocks_eq_filterMap (lines : List Text) (inGrammar : Bool) :
    blocks lines inGrammar =
      (List.range lines.length).filterMap (visibleBlock? lines inGrammar) := by
  have visible : isHidden lines inGrammar 0 = false := rfl
  rw [blocks, blocksFrom_eq_filterMap visible, Nat.sub_zero, List.range_eq_range']

theorem visibleBlock?_eq_some_iff :
    visibleBlock? lines inGrammar line = some block ↔
      isHidden lines inGrammar line = false ∧ block.Opened lines inGrammar ∧
        block.header = line := by
  simp only [visibleBlock?, Block.Opened]
  split
  · rename_i hidden
    simp [hidden]
  · rename_i visible
    simp only [Bool.not_eq_true] at visible
    simp only [Option.map_eq_some_iff, visible, true_and]
    constructor
    · intro shown
      obtain ⟨opening, opens, rfl⟩ := shown
      exact ⟨opens, rfl⟩
    · intro shown
      obtain ⟨opened, rfl⟩ := shown
      exact ⟨block.opening, opened, rfl⟩

theorem mem_blocks_iff :
    block ∈ blocks lines inGrammar ↔
      block.Opened lines inGrammar ∧ isHidden lines inGrammar block.header = false := by
  simp only [blocks_eq_filterMap, List.mem_filterMap, List.mem_range, visibleBlock?_eq_some_iff]
  constructor
  · intro found
    obtain ⟨line, _, visible, opened, rfl⟩ := found
    exact ⟨opened, visible⟩
  · intro found
    obtain ⟨opened, visible⟩ := found
    exact ⟨block.header, opened.header_lt, visible, opened, rfl⟩

theorem blocks_pairwise (lines : List Text) (inGrammar : Bool) :
    (blocks lines inGrammar).Pairwise fun upper lower => upper.header < lower.header := by
  rw [blocks_eq_filterMap, List.pairwise_filterMap]
  refine List.pairwise_lt_range.imp fun below upper upperOpens lower lowerOpens => ?_
  rw [(visibleBlock?_eq_some_iff.mp upperOpens).2.2, (visibleBlock?_eq_some_iff.mp lowerOpens).2.2]
  exact below

theorem resume_le_header {upper lower : Block} (found : upper ∈ blocks lines inGrammar)
    (foundToo : lower ∈ blocks lines inGrammar) (below : upper.header < lower.header) :
    upper.resume lines ≤ lower.header := by
  obtain ⟨opened, _⟩ := mem_blocks_iff.mp found
  obtain ⟨openedToo, visible⟩ := mem_blocks_iff.mp foundToo
  refine Nat.le_of_not_lt fun above => ?_
  have shown := visibleBlock?_eq_some_iff.mpr ⟨visible, openedToo, rfl⟩
  rw [opened.visibleBlock?_skipped below above] at shown
  contradiction

end

/-- The steps from `start` to `stop` are checked one by one, and the line at `stop` is malformed
unless it is empty or missing. -/
def listReport (lines : List Text) (kind : BlockKind) (name : Text) (start stop : Nat) :
    List Finding :=
  (List.range' start (stop - start)).flatMap (fun line =>
    (stepViolations kind name (lines.getD line [])).map (⟨line, ·, [lines.getD line []]⟩)) ++
  if stop < lines.length ∧ lines[stop]? ≠ some [] then
    [⟨stop, .malformedStepShape kind name, [lines.getD stop []]⟩]
  else []

/-- What the opening at a line is reported for, whatever stands around its block. -/
def openingReport (lines : List Text) (header : Nat) : Opening → List Finding
  | .algorithm name blankGap =>
      (if blankGap then [⟨header, .headerWhitespace name, [lines.getD header []]⟩] else []) ++
      (if lines[header + 1]? = some [] then []
        else [⟨header, .missingBlankAfterHeader .algorithm name, [lines.getD header []]⟩]) ++
      listReport lines .algorithm name (header + 2) (Block.stepsEnd lines (header + 2))
  | .grammar name _ stop hasSteps =>
      if hasSteps then
        listReport lines .grammar name (stop + 1) (Block.stepsEnd lines (stop + 1))
      else []

theorem flatMap_zipIdx {lines run : List Text} {start : Nat}
    (placed : ∀ offset < run.length, lines[start + offset]? = run[offset]?)
    (report : Text → Nat → List Finding) :
    (run.zipIdx start).flatMap (fun (text, line) => report text line) =
      (List.range' start run.length).flatMap fun line => report (lines.getD line []) line := by
  induction run generalizing start with
  | nil => rfl
  | cons first rest restIH =>
      have here : lines.getD start [] = first := by
        have found : lines[start]? = some first := placed 0 (by simp)
        rw [List.getD_eq_getElem?_getD, found, Option.getD_some]
      have later : ∀ offset < rest.length, lines[start + 1 + offset]? = rest[offset]? := by
        intro offset bound
        have found := placed (offset + 1) (Nat.succ_lt_succ bound)
        rw [List.getElem?_cons_succ] at found
        rw [← found, Nat.add_right_comm, Nat.add_assoc]
      rw [List.zipIdx_cons, List.length_cons, List.range'_succ, List.flatMap_cons,
        List.flatMap_cons, restIH later, here]

theorem Block.getElem?_stepRun {lines : List Text} {start offset : Nat}
    (bound : offset < (stepRun lines start).length) :
    lines[start + offset]? = (stepRun lines start)[offset]? := by
  have lead : stepRun lines start <+: lines.drop start := List.takeWhile_prefix isItem
  rw [← List.getElem?_drop, List.prefix_iff_getElem?.mp lead offset bound,
    List.getElem?_eq_getElem bound]

theorem Block.bodyFindings_eq (lines : List Text) (block : Block) (start : Nat) :
    block.bodyFindings lines start =
      listReport lines block.kind block.name start (stepsEnd lines start) := by
  have placed : ∀ offset < (stepRun lines start).length,
      lines[start + offset]? = (stepRun lines start)[offset]? :=
    fun offset bound => getElem?_stepRun bound
  have length : stepsEnd lines start - start = (stepRun lines start).length := by
    simp [stepsEnd]
  have ended : ∀ stop, block.endFindings lines stop =
      if stop < lines.length ∧ lines[stop]? ≠ some [] then
        [⟨stop, .malformedStepShape block.kind block.name, [lines.getD stop []]⟩]
      else [] := by
    intro stop
    simp only [endFindings]
    split
    · rename_i missing
      simp [List.getElem?_eq_none_iff.mp missing]
    · rename_i empty
      simp [empty]
    · rename_i text nonempty found
      have bound := (List.getElem?_eq_some_iff.mp found).1
      have filled : some text ≠ some [] := fun same => nonempty (by simpa using same)
      rw [List.getD_eq_getElem?_getD, found, if_pos ⟨bound, filled⟩, Option.getD_some]
  simp only [bodyFindings, listReport, length, ended]
  rw [flatMap_zipIdx placed block.stepFindings]
  rfl

theorem Block.Opened.findings_eq {lines : List Text} {inGrammar : Bool} {block : Block}
    (opened : block.Opened lines inGrammar) :
    block.findings lines = openingReport lines block.header block.opening := by
  have snippet : lines[block.header]?.toList = [lines.getD block.header []] := by
    simp [List.getElem?_eq_getElem opened.header_lt, List.getD_eq_getElem?_getD]
  obtain ⟨header, opening⟩ := block
  cases opening with
  | algorithm name blankGap =>
      simp only [Block.findings, stepsStart?, Option.toList_some, List.flatMap_singleton,
        Block.bodyFindings_eq, headerFindings_algorithm, snippet, openingReport,
        hasBlankAfterHeader, decide_eq_true_eq]
      rfl
  | grammar name needsBlank stop hasSteps =>
      obtain rfl := (grammar_of_openingAt opened).2.1
      cases hasSteps with
      | false => rfl
      | true =>
          simp only [Block.findings, stepsStart?, if_true, Option.toList_some,
            List.flatMap_singleton, Block.bodyFindings_eq, headerFindings, openingReport]
          rfl

theorem flatMap_findings_blocks (lines : List Text) (inGrammar : Bool) :
    (blocks lines inGrammar).flatMap (Block.findings lines) =
      (List.range lines.length).flatMap fun line =>
        if isHidden lines inGrammar line then []
        else (openingAt lines inGrammar line).toList.flatMap (openingReport lines line) := by
  rw [blocks_eq_filterMap, List.filterMap_eq_flatMap_toList, List.flatMap_assoc]
  refine List.flatMap_congr fun line _ => ?_
  cases shown : visibleBlock? lines inGrammar line with
  | some block =>
      obtain ⟨visible, opened, rfl⟩ := visibleBlock?_eq_some_iff.mp shown
      have opens : openingAt lines inGrammar block.header = some block.opening := opened
      simp [visible, opens, opened.findings_eq]
  | none =>
      simp only [visibleBlock?] at shown
      split at shown
      · rename_i hidden
        simp [hidden]
      · simp [Option.map_eq_none_iff.mp shown]

/-- The diagnostics of the blocks alone, in the order in which they arise. -/
def Document.blockDiagnostics (policy : Policy) (document : Document) : List Diagnostic :=
  ((blocks document.lines (document.isGrammar policy)).flatMap
    (Block.findings document.lines)).map (Finding.toDiagnostic policy document.name)

/-- The search for blocks loses and repeats nothing: its diagnostics are those that every line in
plain sight reports for its own opening, from the first line to the last.  Each list of steps ends
where its maximal run of items does, and no line is hidden outside the grammar document. -/
theorem blockDiagnostics_eq_flatMap_range (policy : Policy) (document : Document) :
    document.blockDiagnostics policy =
      (List.range document.lines.length).flatMap (fun line =>
        if isHidden document.lines (document.isGrammar policy) line then []
        else ((openingAt document.lines (document.isGrammar policy) line).toList.flatMap
          (openingReport document.lines line)).map (Finding.toDiagnostic policy document.name)) ∧
      (∀ start, EndsRun isItem document.lines start (Block.stepsEnd document.lines start)) ∧
      ∀ line, isHidden document.lines false line = false := by
  refine ⟨?_, endsRun_stepsEnd document.lines, isHidden_outside_grammar document.lines⟩
  rw [Document.blockDiagnostics, flatMap_findings_blocks, List.map_flatMap]
  refine List.flatMap_congr fun line _ => ?_
  split <;> rfl

end PseudocodeLint
