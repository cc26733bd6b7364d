import PseudocodeLint.Proofs.Production
import PseudocodeLint.Proofs.Verdict

namespace PseudocodeLint

/-! The search for blocks as a loop that asks for its lines by index and fails when an index names
no line.  It never fails, its cursor only moves forward, and it finds what the block by block
account of a document says; so every diagnostic quotes the lines at which it stands. -/

/-- The line at an index, which must name one. -/
def lineAt (lines : List Text) (index : Nat) : Except CursorError Text :=
  match lines[index]? with
  | some line => .ok line
  | none => .error ⟨lines.length, index⟩

/-- A finding that quotes the line at which it stands. -/
def findingAt (lines : List Text) (line : Nat) (violation : Violation) :
    Except CursorError Finding := do
  let text ← lineAt lines line
  return ⟨line, violation, [text]⟩

/-- Checks the blank line below a header, and tells whether it is there. -/
def checkBlank (lines : List Text) (kind : BlockKind) (name : Text) (header : Nat) :
    Except CursorError (List Finding × Bool) := do
  if lines[header + 1]? = some [] then
    return ([], true)
  else
    let finding ← findingAt lines header (.missingBlankAfterHeader kind name)
    return ([finding], false)

def checkStep (lines : List Text) (kind : BlockKind) (name : Text) (line : Nat) :
    Except CursorError (List Finding) := do
  let step ← lineAt lines line
  return (stepViolations kind name step).map (⟨line, ·, [step]⟩)

/-- Checks one line after another until the list ends, and tells at which line it does. -/
def checkSteps (lines : List Text) (kind : BlockKind) (name : Text) (line : Nat) :
    Except CursorError (List Finding × Nat) :=
  if line < lines.length then do
    let text ← lineAt lines line
    if isItem text then
      let here ← checkStep lines kind name line
      let (below, stop) ← checkSteps lines kind name (line + 1)
      return (here ++ below, stop)
    else if text = [] then
      return ([], line)
    else
      let finding ← findingAt lines line (.malformedStepShape kind name)
      return ([finding], line)
  else
    return ([], line)
termination_by lines.length - line

/-- Checks an algorithm, and tells where the search goes on. -/
def checkAlgorithm (lines : List Text) (name : Text) (blankGap : Bool) (header : Nat) :
    Except CursorError (List Finding × Nat) := do
  let gap ← if blankGap then
      let finding ← findingAt lines header (.headerWhitespace name)
      pure [finding]
    else pure []
  let (missing, hasBlank) ← checkBlank lines .algorithm name header
  let (steps, stop) ← checkSteps lines .algorithm name (header + 2)
  return (gap ++ missing ++ steps, if hasBlank then stop else header + 1)

/-- Checks a production, and tells where the search goes on. -/
def checkProduction (lines : List Text) (name : Text) (needsBlank : Bool) (stop : Nat)
    (hasSteps : Bool) (header : Nat) : Except CursorError (List Finding × Nat) := do
  let missing ← if needsBlank then
      let (missing, _) ← checkBlank lines .grammar name header
      pure missing
    else pure []
  if hasSteps then
    let (steps, resume) ← checkSteps lines .grammar name (stop + 1)
    return (missing ++ steps, resume)
  else
    return (missing, stop)

def Block.check (lines : List Text) (block : Block) : Except CursorError (List Finding × Nat) :=
  match block.opening with
  | .algorithm name blankGap => checkAlgorithm lines name blankGap block.header
  | .grammar name needsBlank stop hasSteps =>
      checkProduction lines name needsBlank stop hasSteps block.header

/-- A block at which the cursor stood, what its check found, and the line that the check gave for
the search to go on. -/
structure Visit where
  cursor : Nat
  found : List Finding
  resume : Nat

/-- The visits of the search from a cursor on. -/
def visitsFrom (lines : List Text) (inGrammar : Bool) (cursor : Nat) :
    Except CursorError (List Visit) :=
  if cursor < lines.length then do
    match ← classify lines inGrammar cursor with
    | none => visitsFrom lines inGrammar (cursor + 1)
    | some opening =>
        let (found, resume) ← Block.check lines ⟨cursor, opening⟩
        let later ← visitsFrom lines inGrammar (max resume (cursor + 1))
        return ⟨cursor, found, resume⟩ :: later
  else
    return []
termination_by lines.length - cursor

/-- Checks the indents below the given lines. -/
def checkIndents (lines : List Text) : List Nat → Except CursorError (List Finding)
  | [] => return []
  | line :: others => do
      let current ← lineAt lines line
      let here := lines[line + 1]?.bind (indentFinding? line current)
      let later ← checkIndents lines others
      return here.toList ++ later

/-- Lints a document with every access to a line checked. -/
def checkDocument (policy : Policy) (document : Document) :
    Except CursorError (List Visit × List Diagnostic) := do
  let lines := document.lines
  let visits ← visitsFrom lines (document.isGrammar policy) 0
  let indents ← checkIndents lines (List.range lines.length)
  let found := sortByLine (visits.flatMap Visit.found ++ indents)
  return (visits, found.map (Finding.toDiagnostic policy document.name))

section

variable {lines : List Text} {inGrammar hasSteps : Bool} {line header stop : Nat}
  {text name : Text} {block : Block}

theorem lineAt_eq_ok (found : lines[line]? = some text) : lineAt lines line = .ok text := by
  simp only [lineAt, found]

theorem findingAt_eq_ok (found : lines[line]? = some text) (violation : Violation) :
    findingAt lines line violation = .ok ⟨line, violation, [text]⟩ := by
  rw [findingAt, lineAt_eq_ok found]
  rfl

theorem checkStep_eq_ok (found : lines[line]? = some text) :
    checkStep lines block.kind block.name line = .ok (block.stepFindings text line) := by
  rw [checkStep, lineAt_eq_ok found]
  rfl

theorem Block.stepRun_of_isItem (found : lines[line]? = some text) (item : isItem text = true) :
    stepRun lines line = text :: stepRun lines (line + 1) := by
  obtain ⟨inside, rfl⟩ := List.getElem?_eq_some_iff.mp found
  rw [stepRun, List.drop_eq_getElem_cons inside, List.takeWhile_cons, if_pos item, stepRun]

theorem Block.stepsEnd_of_isItem (found : lines[line]? = some text) (item : isItem text = true) :
    stepsEnd lines line = stepsEnd lines (line + 1) := by
  simp only [stepsEnd, stepRun_of_isItem found item, List.length_cons]
  omega

theorem Block.bodyFindings_of_isItem (found : lines[line]? = some text)
    (item : isItem text = true) :
    block.bodyFindings lines line =
      block.stepFindings text line ++ block.bodyFindings lines (line + 1) := by
  rw [bodyFindings, bodyFindings, stepsEnd_of_isItem found item, stepRun_of_isItem found item,
    List.zipIdx_cons, List.flatMap_cons, List.append_assoc]

theorem Block.stepRun_eq_nil (unlisted : ∀ text, lines[line]? = some text → isItem text = false) :
    stepRun lines line = [] := by
  rw [stepRun]
  cases rest : lines.drop line with
  | nil => rfl
  | cons text others =>
      have found : lines[line]? = some text := by
        rw [← List.head?_drop, rest, List.head?_cons]
      simp [unlisted text found]

theorem Block.bodyFindings_of_ended (block : Block)
    (unlisted : ∀ text, lines[line]? = some text → isItem text = false) :
    stepsEnd lines line = line ∧ block.bodyFindings lines line = block.endFindings lines line := by
  have empty := stepRun_eq_nil unlisted
  have ended : stepsEnd lines line = line := by simp [stepsEnd, empty]
  simp [bodyFindings, empty, ended]

/-- The induction follows the loop over the lines of the list. -/
theorem checkSteps_eq_ok (lines : List Text) (block : Block) (line : Nat) :
    checkSteps lines block.kind block.name line =
      .ok (block.bodyFindings lines line, Block.stepsEnd lines line) := by
  induction remaining : lines.length - line generalizing line with
  | zero =>
      have outside : lines.length ≤ line := by omega
      have missing : lines[line]? = none := List.getElem?_eq_none outside
      have unlisted : ∀ text, lines[line]? = some text → isItem text = false := by
        simp [missing]
      obtain ⟨ended, body⟩ := block.bodyFindings_of_ended unlisted
      rw [checkSteps, if_neg (Nat.not_lt.mpr outside), ended, body, Block.endFindings, missing]
      rfl
  | succ remaining remainingIH =>
      have inside : line < lines.length := by omega
      have found : lines[line]? = some lines[line] := List.getElem?_eq_getElem inside
      rw [checkSteps, if_pos inside, lineAt_eq_ok found]
      cases item : isItem lines[line] with
      | true =>
          have below := remainingIH (line + 1) (by omega)
          rw [Block.bodyFindings_of_isItem found item, Block.stepsEnd_of_isItem found item]
          simp only [bind, Except.bind, checkStep_eq_ok found, below, if_true, item]
          rfl
      | false =>
          have unlisted : ∀ text, lines[line]? = some text → isItem text = false := by
            intro text same
            rwa [Option.some.inj (same.symm.trans found)]
          obtain ⟨ended, body⟩ := block.bodyFindings_of_ended unlisted
          rw [ended, body, Block.endFindings, found]
          simp only [bind, Except.bind, pure, Except.pure, item, Bool.false_eq_true, if_false,
            findingAt_eq_ok found]
          cases lines[line] <;> rfl

theorem checkBlank_eq_ok (found : lines[header]? = some text) (kind : BlockKind) (name : Text) :
    checkBlank lines kind name header =
      .ok (if Block.hasBlankAfterHeader lines header then []
        else [⟨header, .missingBlankAfterHeader kind name, [text]⟩],
        Block.hasBlankAfterHeader lines header) := by
  rw [checkBlank, findingAt_eq_ok found]
  by_cases blank : lines[header + 1]? = some [] <;>
    simp [blank, Block.hasBlankAfterHeader, bind, Except.bind, pure, Except.pure]

theorem Block.Opened.check_eq_ok (opened : block.Opened lines inGrammar) :
    block.check lines = .ok (block.findings lines, block.resume lines) := by
  have inside := opened.header_lt
  obtain ⟨header, opening⟩ := block
  have found : lines[header]? = some lines[header] := List.getElem?_eq_getElem inside
  cases opening with
  | algorithm name blankGap =>
      have steps := checkSteps_eq_ok lines ⟨header, .algorithm name blankGap⟩ (header + 2)
      simp only [Block.kind, Block.name] at steps
      simp only [check, checkAlgorithm, checkBlank_eq_ok found, findingAt_eq_ok found, steps,
        findings, headerFindings_algorithm, stepsStart?, resume, found]
      cases blankGap <;> simp [bind, Except.bind, pure, Except.pure]
  | grammar name needsBlank stop hasSteps =>
      have steps :=
        checkSteps_eq_ok lines ⟨header, .grammar name needsBlank stop hasSteps⟩ (stop + 1)
      simp only [Block.kind, Block.name] at steps
      simp only [check, checkProduction, checkBlank_eq_ok found, steps, findings, headerFindings,
        missingBlankFindings, headerFinding, stepsStart?, resume, found]
      cases needsBlank <;> cases hasSteps <;>
        simp [bind, Except.bind, pure, Except.pure, Block.kind, Block.name]

/-- The visit that the block by block account expects. -/
def Block.visit (lines : List Text) (block : Block) : Visit :=
  ⟨block.header, block.findings lines, block.resume lines⟩

theorem visitsFrom_eq_ok (lines : List Text) (inGrammar : Bool) (cursor : Nat) :
    visitsFrom lines inGrammar cursor =
      .ok ((blocksFrom lines inGrammar cursor).map (Block.visit lines)) := by
  fun_induction blocksFrom lines inGrammar cursor with
  | case1 cursor inside closed cursorIH =>
      rw [visitsFrom, if_pos inside, classify_eq_ok inside, closed]
      exact cursorIH
  | case2 cursor inside opening opens block cursorIH =>
      have opened : block.Opened lines inGrammar := opens
      rw [visitsFrom, if_pos inside, classify_eq_ok inside, opens]
      simp only [bind, Except.bind]
      rw [show Block.check lines ⟨cursor, opening⟩ = _ from opened.check_eq_ok]
      simp only [cursorIH]
      rfl
  | case3 cursor outside =>
      rw [visitsFrom, if_neg outside]
      rfl

theorem checkIndents_eq_ok {indices : List Nat} (inside : ∀ line ∈ indices, line < lines.length) :
    checkIndents lines indices = .ok (indices.flatMap (indentReport lines)) := by
  induction indices with
  | nil => rfl
  | cons line others othersIH =>
      have bound := inside line (List.mem_cons_self ..)
      have found : lines[line]? = some lines[line] := List.getElem?_eq_getElem bound
      have later := othersIH fun other member => inside other (List.mem_cons_of_mem _ member)
      rw [checkIndents, lineAt_eq_ok found, later, List.flatMap_cons, indentReport, found]
      cases lines[line + 1]? <;> rfl

theorem checkDocument_eq_ok (policy : Policy) (document : Document) :
    checkDocument policy document =
      .ok ((blocks document.lines (document.isGrammar policy)).map (Block.visit document.lines),
        lintDocument policy document) := by
  have inside : ∀ line ∈ List.range document.lines.length, line < document.lines.length :=
    fun line member => List.mem_range.mp member
  have found : ((blocks document.lines (document.isGrammar policy)).map
      (Block.visit document.lines)).flatMap Visit.found =
        (blocks document.lines (document.isGrammar policy)).flatMap
          (Block.findings document.lines) := List.flatMap_map ..
  simp only [checkDocument, visitsFrom_eq_ok, checkIndents_eq_ok inside, bind, Except.bind]
  rw [← blocks, found, ← indentFindings_eq_flatMap]
  rfl

theorem snippets_of_mem_headerFindings {finding : Finding}
    (member : finding ∈ block.headerFindings lines) :
    finding.snippets = lines[block.header]?.toList := by
  obtain ⟨violation, rfl, _⟩ := exists_of_mem_headerFindings member
  rfl

theorem snippets_of_mem_lineReport {finding : Finding}
    (member : finding ∈ block.lineReport lines line) :
    ∃ text, lines[line]? = some text ∧ finding.snippets = [text] := by
  simp only [Block.lineReport] at member
  split at member
  · contradiction
  · rename_i text found
    split at member
    · obtain ⟨violation, _, rfl⟩ := List.mem_map.mp member
      exact ⟨text, found, rfl⟩
    · simp only [Block.endFindings, found] at member
      split at member
      · contradiction
      · contradiction
      · rename_i shown same
        obtain rfl := Option.some.inj same
        rw [List.mem_singleton.mp member]
        exact ⟨text, found, rfl⟩

/-- A finding of a block quotes the one line at which it stands. -/
theorem Block.Opened.quotes_of_mem_findings (opened : block.Opened lines inGrammar)
    {finding : Finding} (member : finding ∈ block.findings lines) :
    finding.violation.rule.site ≠ .indent ∧
      ∃ text, lines[finding.line]? = some text ∧ finding.snippets = [text] := by
  rcases List.mem_append.mp member with atHeader | inList
  · have inside := opened.header_lt
    obtain ⟨line, site⟩ := of_mem_headerFindings atHeader
    have snippets := snippets_of_mem_headerFindings atHeader
    rw [List.getElem?_eq_getElem inside, Option.toList_some] at snippets
    rw [line, site]
    exact ⟨by decide, _, List.getElem?_eq_getElem inside, snippets⟩
  · obtain ⟨start, _, body⟩ := List.mem_flatMap.mp inList
    rw [Block.bodyFindings_eq_flatMap] at body
    obtain ⟨line, _, report⟩ := List.mem_flatMap.mp body
    rw [line_of_mem_lineReport report, site_of_mem_lineReport report]
    exact ⟨by decide, snippets_of_mem_lineReport report⟩

theorem quotes_of_mem_indentFindings {finding : Finding}
    (member : finding ∈ indentFindings lines) :
    finding.violation.rule = .missingIndentAfterColon ∧
      ∃ current next, lines[finding.line]? = some current ∧
        lines[finding.line + 1]? = some next ∧ finding.snippets = [current, next] := by
  rw [indentFindings_eq_flatMap] at member
  obtain ⟨line, _, report⟩ := List.mem_flatMap.mp member
  simp only [indentReport] at report
  split at report
  · rename_i current next found followed
    rw [Option.mem_toList, indentFinding?] at report
    split at report
    · split at report
      · contradiction
      · cases report
        exact ⟨rfl, current, next, found, followed, rfl⟩
    · contradiction
  · contradiction

end

/-- A diagnostic quotes the line at which it stands; one about an indent quotes the next line
too. -/
def Diagnostic.QuotesLines (lines : List Text) (diagnostic : Diagnostic) : Prop :=
  if diagnostic.rule = .missingIndentAfterColon then
    ∃ _ : diagnostic.line + 1 < lines.length,
      diagnostic.snippets = [lines[diagnostic.line], lines[diagnostic.line + 1]]
  else
    ∃ _ : diagnostic.line < lines.length, diagnostic.snippets = [lines[diagnostic.line]]

theorem quotesLines_of_mem_lintDocument {policy : Policy} {document : Document}
    {diagnostic : Diagnostic} (member : diagnostic ∈ lintDocument policy document) :
    diagnostic.QuotesLines document.lines := by
  obtain ⟨finding, arisen, rfl⟩ := mem_lintDocument_iff.mp member
  rcases List.mem_append.mp arisen with inBlock | inIndent
  · obtain ⟨block, found, reported⟩ := List.mem_flatMap.mp inBlock
    obtain ⟨opened, _⟩ := mem_blocks_iff.mp found
    obtain ⟨site, text, shown, snippets⟩ := opened.quotes_of_mem_findings reported
    obtain ⟨inside, rfl⟩ := List.getElem?_eq_some_iff.mp shown
    have other : (finding.toDiagnostic policy document.name).rule ≠ .missingIndentAfterColon := by
      intro same
      exact site (congrArg Rule.site same)
    rw [Diagnostic.QuotesLines, if_neg other]
    exact ⟨inside, snippets⟩
  · obtain ⟨rule, current, next, shown, followed, snippets⟩ :=
      quotes_of_mem_indentFindings inIndent
    obtain ⟨_, rfl⟩ := List.getElem?_eq_some_iff.mp shown
    obtain ⟨below, rfl⟩ := List.getElem?_eq_some_iff.mp followed
    have same : (finding.toDiagnostic policy document.name).rule = .missingIndentAfterColon := rule
    rw [Diagnostic.QuotesLines, if_pos same]
    exact ⟨below, snippets⟩

/-- Linting with every access to a line checked never fails and returns the diagnostics.  Each check
of a block sends the search to a line behind the block's header and at most to the end of the lines,
so the search never has to be pushed forward, and the next block is not above that line.  Every
diagnostic quotes the lines at which it stands. -/
theorem lintDocument_in_range (policy : Policy) (document : Document) :
    let lines := document.lines
    let visits := (blocks lines (document.isGrammar policy)).map (Block.visit lines)
    checkDocument policy document = .ok (visits, lintDocument policy document) ∧
      (∀ visit ∈ visits, visit.cursor < visit.resume ∧ visit.resume ≤ lines.length ∧
        max visit.resume (visit.cursor + 1) = visit.resume) ∧
      (visits.Pairwise fun upper lower => upper.resume ≤ lower.cursor) ∧
      ∀ diagnostic ∈ lintDocument policy document, diagnostic.QuotesLines lines := by
  intro lines visits
  have bounded : ∀ visit ∈ visits, visit.cursor < visit.resume ∧ visit.resume ≤ lines.length ∧
      max visit.resume (visit.cursor + 1) = visit.resume := by
    intro visit member
    obtain ⟨block, found, rfl⟩ := List.mem_map.mp member
    obtain ⟨opened, _⟩ := mem_blocks_iff.mp found
    have advanced : block.header < block.resume lines := opened.lt_resume
    exact ⟨advanced, opened.resume_le_length, Nat.max_eq_left advanced⟩
  have ordered : visits.Pairwise fun upper lower => upper.resume ≤ lower.cursor := by
    apply List.pairwise_map.mpr
    apply List.Pairwise.imp_of_mem _ (blocks_pairwise lines (document.isGrammar policy))
    intro upper lower found foundToo above
    exact resume_le_header found foundToo above
  exact ⟨checkDocument_eq_ok policy document, bounded, ordered,
    fun _ member => quotesLines_of_mem_lintDocument member⟩

/-- A header on the last line: the steps below it would start two lines behind the end. -/
theorem header_at_end_in_range :
    let document : Document := ⟨"a.md".toList, "Run(a):\n- If b:\nBar (c):".toList⟩
    let lines := document.lines
    let block : Block := ⟨2, .algorithm "Bar".toList true⟩
    let visits := (blocks lines false).map (Block.visit lines)
    let gap := Finding.toDiagnostic {} "a.md".toList
      ⟨2, .headerWhitespace "Bar".toList, ["Bar (c):".toList]⟩
    let indent := Finding.toDiagnostic {} "a.md".toList
      ⟨1, .missingIndentAfterColon, ["- If b:".toList, "Bar (c):".toList]⟩
    lines.length = 3 ∧ checkDocument {} document = .ok (visits, lintDocument {} document) ∧
      block.visit lines ∈ visits ∧ block.stepsStart? = some 4 ∧
      2 < block.resume lines ∧ block.resume lines ≤ lines.length ∧
      gap ∈ lintDocument {} document ∧ gap.QuotesLines lines ∧
      indent ∈ lintDocument {} document ∧ indent.QuotesLines lines := by
  intro document lines block visits gap indent
  have found : block ∈ blocks lines false := by
    rw [blocks_eq_filterMap]
    decide
  have visited : block.visit lines ∈ visits := List.mem_map.mpr ⟨block, found, rfl⟩
  have gapFound : gap ∈ lintDocument {} document := by decide +kernel
  have indentFound : indent ∈ lintDocument {} document := by decide +kernel
  obtain ⟨checked, bounded, _, quoted⟩ := lintDocument_in_range {} document
  obtain ⟨advanced, limited, _⟩ := bounded _ visited
  exact ⟨by decide, checked, visited, rfl, advanced, limited, gapFound, quoted gap gapFound,
    indentFound, quoted indent indentFound⟩

end PseudocodeLint
