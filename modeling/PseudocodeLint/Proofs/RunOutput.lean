import PseudocodeLint.Proofs.Segmentation
import PseudocodeLint.Proofs.SelectedFiles
import PseudocodeLint.Proofs.Verdict
import PseudocodeLint.Run

namespace PseudocodeLint

/-- The document in a file, under the name of the file, when its content is a text. -/
def documentOf? (tree : FileTree) (path : Text) : Option Document := do
  let content ← (tree.read path).toOption
  let text ← decodeText? content
  let name ← fileName? path
  return ⟨name, text⟩

/-- Why nothing can be checked: a path that cannot be used, or a selected file that cannot be read or
is no text. -/
inductive Obstacle (tree : FileTree) (invocation : Invocation) : Prop where
  | unusable {pattern : Text} (given : pattern ∈ invocation.patterns)
      (unusable : Unusable tree pattern) : Obstacle tree invocation
  | unreadable {pattern path : Text} {error : SystemError} (given : pattern ∈ invocation.patterns)
      (standsFor : StandsFor tree invocation.suffix pattern path)
      (refused : tree.read path = .error error) : Obstacle tree invocation
  | undecodable {pattern path : Text} {content : ByteArray} (given : pattern ∈ invocation.patterns)
      (standsFor : StandsFor tree invocation.suffix pattern path)
      (read : tree.read path = .ok content) (noText : decodeText? content = none) :
      Obstacle tree invocation

/-- The last of the lines of an output in which every line is ended. -/
def lastLine? (output : Text) : Option Text :=
  (physicalLines output).dropLast.getLast?

/-- The lines of a diagnostic, the last of them empty. -/
def Diagnostic.reportLines (diagnostic : Diagnostic) : List Text :=
  diagnostic.message :: diagnostic.snippets.map quote ++ [[]]

section

variable {tree other : FileTree} {path left right : Text} {paths others : List Text}
variable {document : Document} {documents : List Document} {invocation : Invocation}

theorem documentOf?_eq_none_iff (file : tree.isFile path = true) :
    documentOf? tree path = none ↔ (∃ error, tree.read path = .error error) ∨
      ∃ content, tree.read path = .ok content ∧ decodeText? content = none := by
  obtain ⟨name, named⟩ := FileTree.exists_fileName_of_isFile file
  cases read : tree.read path with
  | error error => simp [documentOf?, read, Except.toOption]
  | ok content =>
      cases decoded : decodeText? content <;>
        simp [documentOf?, read, Except.toOption, named, decoded]

theorem readDocument_cases (file : tree.isFile path = true) :
    (documentOf? tree path = none ∧ ∃ failure, readDocument tree path = .error failure) ∨
      ∃ document, documentOf? tree path = some document ∧
        readDocument tree path = .ok document := by
  obtain ⟨name, named⟩ := FileTree.exists_fileName_of_isFile file
  cases read : tree.read path with
  | error error => simp [documentOf?, readDocument, read, Except.toOption]
  | ok content =>
      cases decoded : decodeText? content <;>
        simp [documentOf?, readDocument, read, Except.toOption, named, decoded]

theorem documentOf?_congr (same : components left = components right)
    (leftFile : tree.isFile left = true) (rightFile : tree.isFile right = true) :
    documentOf? tree left = documentOf? tree right := by
  simp only [documentOf?, FileTree.read_congr same leftFile rightFile, fileName?, same]

/-- The first file that yields no document is the end of it. -/
theorem readDocuments_cases (files : ∀ path ∈ paths, tree.isFile path = true) :
    ((∃ path ∈ paths, documentOf? tree path = none) ∧
        ∃ failure, readDocuments tree paths = .error failure) ∨
      ∃ documents, paths.map (documentOf? tree) = documents.map some ∧
        readDocuments tree paths = .ok documents := by
  induction paths with
  | nil => exact .inr ⟨[], rfl, rfl⟩
  | cons path paths pathsIH =>
      obtain ⟨file, filesToo⟩ := List.forall_mem_cons.mp files
      rcases readDocument_cases file with ⟨missing, failure, failed⟩ | ⟨document, present, read⟩
      · refine .inl ⟨⟨path, List.mem_cons_self, missing⟩, failure, ?_⟩
        simp only [readDocuments, List.mapM_cons, failed]
        rfl
      · rcases pathsIH filesToo with
          ⟨⟨other, member, missing⟩, failure, failed⟩ | ⟨documents, presentToo, readToo⟩
        · refine .inl ⟨⟨other, List.mem_cons_of_mem _ member, missing⟩, failure, ?_⟩
          simp only [readDocuments, List.mapM_cons, read] at failed ⊢
          rw [failed]
          rfl
        · refine .inr ⟨document :: documents, by simp [present, presentToo], ?_⟩
          simp only [readDocuments, List.mapM_cons, read] at readToo ⊢
          rw [readToo]
          rfl

theorem map_documentOf?_congr (same : paths.map components = others.map components)
    (files : ∀ path ∈ paths, tree.isFile path = true)
    (filesToo : ∀ path ∈ others, tree.isFile path = true) :
    paths.map (documentOf? tree) = others.map (documentOf? tree) := by
  induction paths generalizing others with
  | nil => rw [List.map_eq_nil_iff.mp same.symm]
  | cons path paths pathsIH =>
      cases others with
      | nil => contradiction
      | cons next others =>
          obtain ⟨heads, tails⟩ := List.cons.inj same
          obtain ⟨file, files⟩ := List.forall_mem_cons.mp files
          obtain ⟨fileToo, filesToo⟩ := List.forall_mem_cons.mp filesToo
          rw [List.map_cons, List.map_cons, documentOf?_congr heads file fileToo,
            pathsIH tails files filesToo]

theorem documentOf?_of_sameFiles (same : tree.SameFiles other) :
    documentOf? other = documentOf? tree := by
  funext path
  rw [documentOf?, same.read, documentOf?]

theorem Obstacle.of_sameFiles {further : Invocation} (same : tree.SameFiles other)
    (suffixes : invocation.suffix = further.suffix)
    (given : ∀ pattern ∈ invocation.patterns, pattern ∈ further.patterns)
    (obstacle : Obstacle tree invocation) : Obstacle other further := by
  cases obstacle with
  | unusable givenHere unusable =>
      exact .unusable (given _ givenHere) (unusable.of_sameFiles same)
  | unreadable givenHere standsFor refused =>
      rw [suffixes] at standsFor
      exact .unreadable (given _ givenHere) (standsFor.of_sameFiles same)
        ((same.read _).trans refused)
  | undecodable givenHere standsFor read noText =>
      rw [suffixes] at standsFor
      exact .undecodable (given _ givenHere) (standsFor.of_sameFiles same)
        ((same.read _).trans read) noText

/-- When all paths can be used, a selected file that yields no document is the only obstacle. -/
theorem Selects.obstacle_iff
    (selects : Selects tree invocation.suffix invocation.patterns paths)
    (usable : ∀ pattern ∈ invocation.patterns, ¬ Unusable tree pattern) :
    Obstacle tree invocation ↔ ∃ path ∈ paths, documentOf? tree path = none := by
  have missing : ∀ {pattern path}, pattern ∈ invocation.patterns →
      StandsFor tree invocation.suffix pattern path → documentOf? tree path = none →
      ∃ kept ∈ paths, documentOf? tree kept = none := by
    intro pattern path given standsFor missing
    obtain ⟨kept, member, same⟩ := selects.complete pattern given path standsFor
    exact ⟨kept, member,
      (documentOf?_congr same (selects.isFile member) standsFor.isFile).trans missing⟩
  apply Iff.intro
  · intro obstacle
    cases obstacle with
    | unusable given unusable => exact absurd unusable (usable _ given)
    | unreadable given standsFor refused =>
        exact missing given standsFor
          ((documentOf?_eq_none_iff standsFor.isFile).mpr (.inl ⟨_, refused⟩))
    | undecodable given standsFor read noText =>
        exact missing given standsFor
          ((documentOf?_eq_none_iff standsFor.isFile).mpr (.inr ⟨_, read, noText⟩))
  · intro ⟨path, member, missing⟩
    obtain ⟨pattern, given, standsFor⟩ := selects.standsFor path member
    rcases (documentOf?_eq_none_iff standsFor.isFile).mp missing with
      ⟨error, refused⟩ | ⟨content, read, noText⟩
    · exact .unreadable given standsFor refused
    · exact .undecodable given standsFor read noText

/-- Where the system refuses nothing, only malformed patterns and files that are no text are in the
way. -/
theorem obstacle_iff_of_readable (readable : tree.Readable) :
    Obstacle tree invocation ↔
      (∃ pattern ∈ invocation.patterns, Malformed tree pattern) ∨
      ∃ pattern ∈ invocation.patterns, ∃ path content,
        StandsFor tree invocation.suffix pattern path ∧ tree.read path = .ok content ∧
        decodeText? content = none := by
  apply Iff.intro
  · intro obstacle
    cases obstacle with
    | unusable given unusable =>
        exact .inl ⟨_, given, (unusable_iff_of_readable readable).mp unusable⟩
    | unreadable given standsFor refused =>
        obtain ⟨content, read⟩ := readable.exists_read standsFor.isFile
        rw [read] at refused
        contradiction
    | undecodable given standsFor read noText =>
        exact .inr ⟨_, given, _, _, standsFor, read, noText⟩
  · intro obstacle
    rcases obstacle with
      ⟨pattern, given, malformed⟩ | ⟨pattern, given, path, content, standsFor, read, noText⟩
    · exact .unusable given ((unusable_iff_of_readable readable).mpr malformed)
    · exact .undecodable given standsFor read noText

/-- Either there is an obstacle, or all selected documents are read. -/
theorem selectDocuments_cases (tree : FileTree) (invocation : Invocation) :
    (Obstacle tree invocation ∧ ∃ failure, (selectDocuments tree invocation).2 = .error failure) ∨
      ¬ Obstacle tree invocation ∧ ∃ paths documents,
        Selects tree invocation.suffix invocation.patterns paths ∧
        paths.map (documentOf? tree) = documents.map some ∧
        (selectDocuments tree invocation).2 = .ok documents := by
  rcases selectFiles_cases tree invocation.suffix invocation.patterns with
    ⟨⟨pattern, given, unusable⟩, failure, failed⟩ | ⟨usable, paths, selected, selects⟩
  · refine .inl ⟨.unusable given unusable, failure, ?_⟩
    simp only [selectDocuments, failed]
    rfl
  · have all : (selectDocuments tree invocation).2 = readDocuments tree paths := by
      simp only [selectDocuments, selected]
      rfl
    rcases readDocuments_cases fun _ => selects.isFile with
      ⟨missing, failure, failed⟩ | ⟨documents, present, read⟩
    · exact .inl ⟨(selects.obstacle_iff usable).mpr missing, failure, all.trans failed⟩
    · refine .inr ⟨fun obstacle => ?_, paths, documents, selects, present, all.trans read⟩
      obtain ⟨path, member, missing⟩ := (selects.obstacle_iff usable).mp obstacle
      have listed : none ∈ documents.map some := by
        rw [← present, ← missing]
        exact List.mem_map_of_mem member
      simp at listed

theorem obstacle_iff_toOption_eq_none :
    Obstacle tree invocation ↔ (selectDocuments tree invocation).2.toOption = none := by
  rcases selectDocuments_cases tree invocation with
    ⟨obstacle, failure, failed⟩ | ⟨clear, paths, documents, -, -, read⟩
  · simp [obstacle, failed, Except.toOption]
  · simp [clear, read, Except.toOption]

/-- What is read depends on the files and on the set of patterns. -/
theorem selectDocuments_congr {further : Invocation} (sameFiles : tree.SameFiles other)
    (suffixes : invocation.suffix = further.suffix)
    (sameSet : ∀ pattern, pattern ∈ invocation.patterns ↔ pattern ∈ further.patterns) :
    (selectDocuments tree invocation).2.toOption = (selectDocuments other further).2.toOption := by
  have alike : Obstacle tree invocation ↔ Obstacle other further :=
    ⟨.of_sameFiles sameFiles suffixes fun pattern => (sameSet pattern).mp,
      .of_sameFiles sameFiles.symm suffixes.symm fun pattern => (sameSet pattern).mpr⟩
  rcases selectDocuments_cases tree invocation with
    ⟨obstacle, failure, failed⟩ | ⟨clear, paths, documents, selects, present, read⟩
  · rcases selectDocuments_cases other further with ⟨-, failureToo, failedToo⟩ | ⟨clear, -⟩
    · rw [failed, failedToo]
      rfl
    · exact absurd (alike.mp obstacle) clear
  · rcases selectDocuments_cases other further with
      ⟨obstacle, -⟩ | ⟨-, files, documentsToo, selectsToo, presentToo, readToo⟩
    · exact absurd (alike.mpr obstacle) clear
    · rw [← suffixes] at selectsToo
      -- The spellings may differ, but two spellings of a file yield one document.
      have keys := selects.map_components_eq selectsToo sameFiles sameSet
      have isFile : ∀ path ∈ files, tree.isFile path = true :=
        fun path member => (sameFiles.isFile path).symm.trans (selectsToo.isFile member)
      have same : documents.map some = documentsToo.map some := by
        rw [← present, ← presentToo, documentOf?_of_sameFiles sameFiles]
        exact map_documentOf?_congr keys (fun _ => selects.isFile) isFile
      rw [read, readToo, List.map_injective_iff.mpr (Option.some_injective _) same]

theorem check_output (tree : FileTree) (filter : LogFilter) (invocation : Invocation) :
    (check tree filter invocation).output = ((selectDocuments tree invocation).2.toOption.map
      fun documents => (lintDocuments invocation.policy documents).render).getD [] := by
  rw [check]
  rcases selectDocuments tree invocation with ⟨events, failure | documents⟩ <;> rfl

theorem check_exitCode (tree : FileTree) (filter : LogFilter) (invocation : Invocation) :
    (check tree filter invocation).exitCode = ((selectDocuments tree invocation).2.toOption.map
      fun documents => (lintDocuments invocation.policy documents).exitCode).getD 1 := by
  rw [check]
  rcases selectDocuments tree invocation with ⟨events, failure | documents⟩ <;> rfl

theorem diagnostics_lintDocuments (policy : Policy) (documents : List Document) :
    (lintDocuments policy documents).diagnostics = documents.flatMap (lintDocument policy) := by
  simp only [Outcome.diagnostics, lintDocuments, List.flatMap_map]

theorem Outcome.passed_iff (outcome : Outcome) :
    outcome.passed = true ↔
      ∀ diagnostic ∈ outcome.diagnostics, diagnostic.severity ≠ .enforced := by
  simp [passed, Diagnostic.isEnforced]

theorem Outcome.summary_cases (outcome : Outcome) :
    outcome.summary = "Everything looks okay!".toList ∨
      outcome.summary = "Please resolve the errors detailed above.".toList := by
  cases passes : outcome.passed <;> simp [summary, passes]

theorem Outcome.summary_eq_iff (outcome : Outcome) :
    outcome.summary = "Everything looks okay!".toList ↔ outcome.passed = true := by
  cases passes : outcome.passed <;> simp [summary, passes]

theorem Outcome.exitCode_cases (outcome : Outcome) :
    outcome.exitCode = 0 ∨ outcome.exitCode = 1 := by
  cases passes : outcome.passed <;> simp [exitCode, passes]

theorem Outcome.exitCode_eq_zero_iff (outcome : Outcome) :
    outcome.exitCode = 0 ↔ outcome.passed = true := by
  cases passes : outcome.passed <;> simp [exitCode, passes]

theorem Diagnostic.render_eq_flatMap_endLine (diagnostic : Diagnostic) :
    diagnostic.render = diagnostic.reportLines.flatMap endLine := by
  simp [render, reportLines, List.flatMap_map, Function.comp_def]

theorem Outcome.render_eq_flatMap_endLine (outcome : Outcome) :
    outcome.render = (outcome.diagnostics.flatMap Diagnostic.reportLines ++
      [outcome.summary]).flatMap endLine := by
  have lines : Diagnostic.render = fun diagnostic => diagnostic.reportLines.flatMap endLine :=
    funext Diagnostic.render_eq_flatMap_endLine
  rw [render, lines, List.flatMap_append, List.flatMap_assoc, List.flatMap_singleton]

theorem physicalLines_flatMap_endLine (lines : List Text) :
    physicalLines (lines.flatMap endLine) = lines.flatMap physicalLines ++ [[]] := by
  induction lines with
  | nil => rfl
  | cons line lines linesIH =>
      rw [physicalLines] at linesIH ⊢
      rw [List.flatMap_cons, endLine, List.append_assoc, List.singleton_append,
        splitAtEach_append_cons, linesIH, List.flatMap_cons, List.append_assoc]

theorem Outcome.physicalLines_summary (outcome : Outcome) :
    physicalLines outcome.summary = [outcome.summary] := by
  rw [summary]
  split <;> rfl

/-- The summary stands on a line of its own, the last one. -/
theorem Outcome.lastLine?_render (outcome : Outcome) :
    lastLine? outcome.render = some outcome.summary := by
  rw [lastLine?, render_eq_flatMap_endLine, physicalLines_flatMap_endLine, List.flatMap_append,
    List.flatMap_singleton, outcome.physicalLines_summary, List.dropLast_concat,
    List.getLast?_concat]

end

/-- A run with an obstacle prints nothing and fails; where the system refuses nothing, the obstacles
are the malformed patterns and the selected files that are no text.  Any other run prints the
diagnostics of all selected documents in the order of their paths and one line of summary; it
succeeds exactly when the summary says so, and exactly when no diagnostic is enforced. -/
theorem run_reports_all_or_nothing {arguments : List Text} {invocation : Invocation}
    (tree : FileTree) (setting? : Option Text)
    (accepted : readArguments arguments = .ok (.check invocation)) :
    let result := run tree setting? arguments
    (Obstacle tree invocation → result.output = [] ∧ result.exitCode = 1) ∧
    (tree.Readable → (Obstacle tree invocation ↔
      (∃ pattern ∈ invocation.patterns, Malformed tree pattern) ∨
      ∃ pattern ∈ invocation.patterns, ∃ path content,
        StandsFor tree invocation.suffix pattern path ∧ tree.read path = .ok content ∧
        decodeText? content = none)) ∧
    (¬ Obstacle tree invocation →
      ∃ (paths : List Text) (documents : List Document) (summary : Text),
        let diagnostics := documents.flatMap (lintDocument invocation.policy)
        Selects tree invocation.suffix invocation.patterns paths ∧
        paths.map (documentOf? tree) = documents.map some ∧
        result.output =
          (diagnostics.flatMap Diagnostic.reportLines ++ [summary]).flatMap endLine ∧
        lastLine? result.output = some summary ∧
        (summary = "Everything looks okay!".toList ∨
          summary = "Please resolve the errors detailed above.".toList) ∧
        (result.exitCode = 0 ∨ result.exitCode = 1) ∧
        (result.exitCode = 0 ↔ summary = "Everything looks okay!".toList) ∧
        (result.exitCode = 0 ↔ ∀ diagnostic ∈ diagnostics, diagnostic.severity ≠ .enforced)) := by
  intro result
  have checked : result = check tree (LogFilter.ofSetting setting?) invocation := by
    simp only [result, run, accepted]
  rw [checked, check_output, check_exitCode]
  rcases selectDocuments_cases tree invocation with
    ⟨obstacle, failure, failed⟩ | ⟨clear, paths, documents, selects, present, read⟩
  · rw [failed]
    exact ⟨fun _ => ⟨rfl, rfl⟩, obstacle_iff_of_readable, fun clear => absurd obstacle clear⟩
  · refine ⟨fun obstacle => absurd obstacle clear, obstacle_iff_of_readable, fun _ => ?_⟩
    let outcome := lintDocuments invocation.policy documents
    have diagnostics : outcome.diagnostics =
        documents.flatMap (lintDocument invocation.policy) := diagnostics_lintDocuments _ _
    rw [read]
    refine ⟨paths, documents, outcome.summary, selects, present, ?_, outcome.lastLine?_render,
      outcome.summary_cases, outcome.exitCode_cases, ?_, ?_⟩
    · rw [← diagnostics]
      exact outcome.render_eq_flatMap_endLine
    · rw [outcome.summary_eq_iff]
      exact outcome.exitCode_eq_zero_iff
    · rw [← diagnostics, ← outcome.passed_iff]
      exact outcome.exitCode_eq_zero_iff

/-- Of two files the second is no text, so that the diagnostic of the first is not printed; with a
text in its place it is. -/
theorem undecodable_file_silences_run :
    let arguments := ["spec".toList]
    let invocation : Invocation := { paths := arguments }
    let tree (second : ByteArray) := FileTree.ofEntries []
      [(["spec".toList, "a.md".toList], .file "Foo(a):\n\n- Do it".toUTF8),
        (["spec".toList, "b.md".toList], .file second)]
    let silent := run (tree ⟨#[255]⟩) none arguments
    let spoken := run (tree "Nothing.".toUTF8) none arguments
    readArguments arguments = .ok (.check invocation) ∧
      (tree ⟨#[255]⟩).Readable ∧
      (∃ pattern ∈ invocation.patterns, ∃ path content,
        StandsFor (tree ⟨#[255]⟩) invocation.suffix pattern path ∧
        (tree ⟨#[255]⟩).read path = .ok content ∧ decodeText? content = none) ∧
      silent.output = [] ∧ silent.exitCode = 1 ∧
      (spoken.exitCode = 0 ↔ lastLine? spoken.output = some "Everything looks okay!".toList) ∧
      spoken.exitCode = 1 := by
  intro arguments invocation tree silent spoken
  have accepted : readArguments arguments = .ok (.check invocation) := by decide +kernel
  have obstacle : Obstacle (tree ⟨#[255]⟩) invocation :=
    obstacle_iff_toOption_eq_none.mpr (by decide +kernel)
  have clear : ¬ Obstacle (tree "Nothing.".toUTF8) invocation := by
    rw [obstacle_iff_toOption_eq_none]
    decide +kernel
  have readable : (tree ⟨#[255]⟩).Readable := by
    unfold FileTree.Readable
    decide +kernel
  obtain ⟨silenced, refusesNothing, _⟩ :=
    run_reports_all_or_nothing (tree ⟨#[255]⟩) none accepted
  obtain ⟨prints, fails⟩ := silenced obstacle
  have directory : (tree ⟨#[255]⟩).isDirectory "spec".toList = true := by decide +kernel
  have noText := ((refusesNothing readable).mp obstacle).resolve_left
    fun ⟨pattern, given, malformed⟩ => by
      obtain rfl := List.mem_singleton.mp given
      exact Bool.false_ne_true (malformed.noDirectory.symm.trans directory)
  obtain ⟨paths, documents, summary, -, -, -, last, -, -, agree, -⟩ :=
    (run_reports_all_or_nothing (tree "Nothing.".toUTF8) none accepted).2.2 clear
  refine ⟨accepted, readable, noText, prints, fails, ?_, by decide +kernel⟩
  rw [agree, last, Option.some.injEq]

/-- A directory that cannot be listed ends the run too. -/
example :
    let tree := FileTree.ofEntries []
      [(["spec".toList], .unreadableDirectory ⟨13, "Permission denied".toList⟩),
        (["a.md".toList], .file "Foo(a):\n\n- Do it".toUTF8)]
    run tree none ["a.md".toList, "spec".toList] =
      { exitCode := 1
        failure := ("Error: failed to read directory: spec\n\n" ++
          "Caused by:\n    Permission denied (os error 13)").toList } := by
  decide +kernel

/-- What a run prints and how it ends depends on the files and on the set of its patterns: neither
their order nor repetitions nor the order in which directories are listed shows.  Files are selected
unless a pattern is malformed or the system refuses to list a directory; they ascend, and each is
spelled as it is first given. -/
theorem run_depends_on_set_of_patterns :
    (∀ (tree : FileTree) (suffix : Text) (patterns : List Text),
      ((∃ paths, (selectFiles tree suffix patterns).2 = .ok paths) ↔
        ∀ pattern ∈ patterns, ¬ Unusable tree pattern) ∧
      ∀ paths, (selectFiles tree suffix patterns).2 = .ok paths →
        Selects tree suffix patterns paths) ∧
    ∀ (tree other : FileTree) (setting? otherSetting? : Option Text) (arguments others : List Text)
      (invocation further : Invocation), tree.SameFiles other →
      readArguments arguments = .ok (.check invocation) →
      readArguments others = .ok (.check further) →
      invocation.suffix = further.suffix → invocation.policy = further.policy →
      (∀ pattern, pattern ∈ invocation.patterns ↔ pattern ∈ further.patterns) →
        (run tree setting? arguments).output = (run other otherSetting? others).output ∧
        (run tree setting? arguments).exitCode = (run other otherSetting? others).exitCode := by
  apply And.intro
  · intro tree suffix patterns
    rcases selectFiles_cases tree suffix patterns with
      ⟨⟨pattern, given, unusable⟩, failure, failed⟩ | ⟨usable, found, selected, selects⟩
    · rw [failed]
      exact ⟨⟨nofun, fun usable => absurd unusable (usable pattern given)⟩, nofun⟩
    · rw [selected]
      refine ⟨⟨fun _ => usable, fun _ => ⟨found, rfl⟩⟩, fun paths same => ?_⟩
      cases same
      exact selects
  · intro tree other setting? otherSetting? arguments others invocation further sameFiles accepted
      acceptedToo suffixes policies sameSet
    simp only [run, accepted, acceptedToo, check_output, check_exitCode, policies,
      selectDocuments_congr sameFiles suffixes sameSet, and_self]

/-- A file that is given twice, in two spellings, and a directory that is listed in two orders. -/
theorem respelled_file_read_once :
    let tree := FileTree.ofEntries []
      [(["spec".toList, "a.md".toList], .file "Foo(a):\n\n- Do it".toUTF8),
        (["spec".toList, "b.md".toList], .file "Bar(b):\n\n- Do it".toUTF8)]
    let other : FileTree := { tree with
      listed := fun _ => List.reverse
      listed_perm := fun _ names => names.reverse_perm }
    let patterns := ["spec//b.md".toList, "spec".toList]
    let further := ["spec".toList, "spec//b.md".toList, "spec".toList]
    let first := ["spec/a.md".toList, "spec//b.md".toList]
    let second := ["spec/a.md".toList, "spec/b.md".toList]
    (selectFiles tree ".md".toList patterns).2 = .ok first ∧
      Selects tree ".md".toList patterns first ∧
      (selectFiles other ".md".toList further).2 = .ok second ∧
      Selects other ".md".toList further second ∧
      (run tree none patterns).output = (run other none further).output ∧
      (run tree none patterns).exitCode = (run other none further).exitCode := by
  intro tree other patterns further first second
  obtain ⟨selects, agree⟩ := run_depends_on_set_of_patterns
  have selected : (selectFiles tree ".md".toList patterns).2 = .ok first := by decide +kernel
  have selectedToo : (selectFiles other ".md".toList further).2 = .ok second := by
    decide +kernel
  have accepted : readArguments patterns = .ok (.check { paths := patterns }) := by decide +kernel
  have acceptedToo : readArguments further = .ok (.check { paths := further }) := by decide +kernel
  have sameSet : ∀ pattern, pattern ∈ Invocation.patterns { paths := patterns } ↔
      pattern ∈ Invocation.patterns { paths := further } := by
    intro pattern
    change pattern ∈ patterns ↔ pattern ∈ further
    simp only [patterns, further, List.mem_cons, List.not_mem_nil, or_false]
    grind
  exact ⟨selected, (selects _ _ _).2 _ selected, selectedToo, (selects _ _ _).2 _ selectedToo,
    agree tree other none none patterns further _ _ ⟨rfl, rfl⟩ accepted acceptedToo rfl rfl sameSet⟩

end PseudocodeLint
