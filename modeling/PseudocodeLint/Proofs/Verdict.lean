import PseudocodeLint.Proofs.Sorting

namespace PseudocodeLint

section

variable {policy : Policy} {document : Document} {documents : List Document}

theorem mem_lintDocument_iff {diagnostic : Diagnostic} :
    diagnostic ∈ lintDocument policy document ↔
      ∃ finding ∈ findings document.lines (document.isGrammar policy),
        finding.toDiagnostic policy document.name = diagnostic := by
  simp only [lintDocument, sortByLine_eq_insertionSort, List.mem_map, List.mem_insertionSort]

theorem mem_diagnostics_iff {diagnostic : Diagnostic} :
    diagnostic ∈ (lintDocuments policy documents).diagnostics ↔
      ∃ document ∈ documents, diagnostic ∈ lintDocument policy document := by
  simp only [Outcome.diagnostics, lintDocuments, List.flatMap_map, List.mem_flatMap]

theorem Policy.severity_eq (policy : Policy) (rule : Rule) :
    policy.severity rule =
      if policy.strict = false ∧
          (rule = .unwrappedLiteralKeyword ∨ rule = .missingIndentAfterColon) then .advisory
      else .enforced := by
  cases strict : policy.strict <;> cases rule <;> simp [severity, strict, Rule.defaultSeverity]

theorem Policy.severity_of_default {rule : Rule} (default : rule.defaultSeverity = .enforced) :
    policy.severity rule = .enforced := by
  rw [severity, default, ite_self]

theorem passed_iff :
    (lintDocuments policy documents).passed = true ↔
      ∀ document ∈ documents, ∀ finding ∈ findings document.lines (document.isGrammar policy),
        policy.severity finding.violation.rule = .advisory := by
  have advisory_iff : ∀ severity : Severity, ¬ severity = .enforced ↔ severity = .advisory := by
    intro severity
    cases severity <;> simp
  simp only [Outcome.passed, Bool.not_eq_true', List.any_eq_false, mem_diagnostics_iff,
    mem_lintDocument_iff, Diagnostic.isEnforced, decide_eq_true_eq]
  constructor
  · intro none document member finding found
    exact (advisory_iff _).mp (none _ ⟨document, member, finding, found, rfl⟩)
  · rintro advisory diagnostic ⟨document, member, finding, found, rfl⟩
    exact (advisory_iff _).mpr (advisory document member finding found)

theorem severity_of_mem_lintDocument {diagnostic : Diagnostic}
    (member : diagnostic ∈ lintDocument policy document) :
    diagnostic.severity = policy.severity diagnostic.rule := by
  obtain ⟨finding, _, rfl⟩ := mem_lintDocument_iff.mp member
  rfl

/-- A view of the diagnostics that shows nothing of policy and name is one of the findings. -/
theorem map_lintDocument {view : Diagnostic → α} (shown : Finding → α)
    (hides : ∀ finding, view (finding.toDiagnostic policy document.name) = shown finding) :
    (lintDocument policy document).map view =
      (sortByLine (findings document.lines (document.isGrammar policy))).map shown := by
  rw [lintDocument, List.map_map]
  exact List.map_congr_left fun finding _ => hides finding

theorem passed_iff_of_strict (strict : policy.strict = true) :
    (lintDocuments policy documents).passed = true ↔
      (lintDocuments policy documents).diagnostics = [] := by
  simp only [passed_iff, List.eq_nil_iff_forall_not_mem, mem_diagnostics_iff, mem_lintDocument_iff,
    Policy.severity_eq, strict]
  constructor
  · rintro advisory diagnostic ⟨document, member, finding, found, rfl⟩
    exact absurd (advisory document member finding found) (by simp)
  · intro none document member finding found
    exact absurd ⟨document, member, finding, found, rfl⟩ (none _)

theorem diagnostics_eq_nil_iff {other : Policy} (documents : List Document)
    (same : policy.grammarDocument = other.grammarDocument) :
    (lintDocuments policy documents).diagnostics = [] ↔
      (lintDocuments other documents).diagnostics = [] := by
  have isGrammar : ∀ document : Document, document.isGrammar policy = document.isGrammar other := by
    intro document
    simp only [Document.isGrammar, same]
  have nothing : ∀ (policy : Policy) (document : Document), lintDocument policy document = [] ↔
      findings document.lines (document.isGrammar policy) = [] := by
    intro policy document
    rw [lintDocument, List.map_eq_nil_iff, ← List.length_eq_zero_iff, sortByLine_eq_insertionSort,
      List.length_insertionSort, List.length_eq_zero_iff]
  simp only [Outcome.diagnostics, lintDocuments, List.flatMap_map, List.flatMap_eq_nil_iff, nothing,
    isGrammar]

end

/-- Of two runs over one text, the rules, the quoted lines and their places agree as soon as both
or neither take the document for the grammar, and the messages too when the names agree.  Strictness
alone decides the severities: a strict run passes when a lenient one finds nothing at all. -/
theorem diagnostics_depend_on_text_and_grammar :
    (∀ (policy other : Policy) (document renamed : Document), document.text = renamed.text →
      document.isGrammar policy = renamed.isGrammar other →
        (lintDocument policy document).map (fun entry => (entry.rule, entry.snippets, entry.line)) =
          (lintDocument other renamed).map
            (fun entry => (entry.rule, entry.snippets, entry.line)) ∧
        (document.name = renamed.name →
          (lintDocument policy document).map
              (fun entry => (entry.rule, entry.message, entry.snippets, entry.line)) =
            (lintDocument other renamed).map
              (fun entry => (entry.rule, entry.message, entry.snippets, entry.line)))) ∧
    (∀ (policy : Policy) (document : Document), ∀ entry ∈ lintDocument policy document,
      entry.severity =
        if policy.strict = false ∧
            (entry.rule = .unwrappedLiteralKeyword ∨ entry.rule = .missingIndentAfterColon) then
          .advisory
        else .enforced) ∧
    ∀ (strict lenient : Policy) (documents : List Document), strict.strict = true →
      lenient.strict = false → strict.grammarDocument = lenient.grammarDocument →
        ((lintDocuments strict documents).passed = true ↔
          (lintDocuments lenient documents).diagnostics = []) ∧
        ((lintDocuments strict documents).passed = true →
          (lintDocuments lenient documents).passed = true) := by
  refine ⟨?_, ?_, ?_⟩
  · intro policy other document renamed sameText sameGrammar
    have lines : document.lines = renamed.lines := congrArg logicalLines sameText
    constructor
    · let shown (finding : Finding) := (finding.violation.rule, finding.snippets, finding.line)
      rw [map_lintDocument shown fun _ => rfl, map_lintDocument shown fun _ => rfl, lines,
        sameGrammar]
    · intro sameName
      let shown (finding : Finding) := (finding.violation.rule,
        finding.violation.message document.name, finding.snippets, finding.line)
      have hides : ∀ finding : Finding, shown finding = (finding.violation.rule,
          finding.violation.message renamed.name, finding.snippets, finding.line) := by
        intro finding
        rw [← sameName]
      rw [map_lintDocument shown fun _ => rfl, map_lintDocument shown fun _ => (hides _).symm,
        lines, sameGrammar]
  · intro policy document entry member
    rw [severity_of_mem_lintDocument member, Policy.severity_eq]
  · intro strict lenient documents isStrict isLenient same
    have decided := (passed_iff_of_strict isStrict).trans (diagnostics_eq_nil_iff documents same)
    refine ⟨decided, fun passes => ?_⟩
    rw [Outcome.passed, decided.mp passes]
    rfl

/-- A bare keyword under two names, and a run that even strictness lets pass. -/
theorem bare_keyword_under_two_names :
    let text := "Foo(a):\n\n- Return true.".toList
    let here : Document := ⟨"a.md".toList, text⟩
    let there : Document := ⟨"b.md".toList, text⟩
    let clean : Document := ⟨"c.md".toList, "Foo(a):\n\n- Return.".toList⟩
    let lenient : Policy := {}
    let strict : Policy := { strict := true }
    (lintDocument lenient here).map (fun entry => (entry.rule, entry.snippets, entry.line)) =
        (lintDocument strict there).map (fun entry => (entry.rule, entry.snippets, entry.line)) ∧
      (lintDocument lenient here).map
          (fun entry => (entry.rule, entry.message, entry.snippets, entry.line)) =
        (lintDocument strict here).map
          (fun entry => (entry.rule, entry.message, entry.snippets, entry.line)) ∧
      (∀ entry ∈ lintDocument strict here, entry.severity = .enforced) ∧
      (lintDocument strict here).map Diagnostic.rule = [.unwrappedLiteralKeyword] ∧
      ((lintDocuments strict [here]).passed = true ↔
        (lintDocuments lenient [here]).diagnostics = []) ∧
      (lintDocuments strict [clean]).passed = true ∧
      (lintDocuments lenient [clean]).passed = true := by
  intro text here there clean lenient strict
  obtain ⟨alike, severities, verdicts⟩ := diagnostics_depend_on_text_and_grammar
  have passes : (lintDocuments strict [clean]).passed = true := by decide +kernel
  refine ⟨(alike lenient strict here there rfl (by decide)).1,
    (alike lenient strict here here rfl (by decide)).2 rfl, ?_, by decide +kernel,
    (verdicts strict lenient [here] rfl rfl rfl).1, passes,
    (verdicts strict lenient [clean] rfl rfl rfl).2 passes⟩
  intro entry member
  rw [severities strict here entry member]
  rfl

end PseudocodeLint
