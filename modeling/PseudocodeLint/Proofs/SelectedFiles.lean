import PseudocodeLint.Proofs.PathLookup
import PseudocodeLint.Proofs.PathOrder

namespace PseudocodeLint

/-- A file stands for itself, a directory for the files directly inside it whose names end in the
suffix, and what is neither for the files that it matches as a pattern. -/
inductive StandsFor (tree : FileTree) (suffix pattern : Text) : Text → Prop where
  | file (file : tree.isFile pattern = true) : StandsFor tree suffix pattern pattern
  | inside {name : Text} (directory : tree.isDirectory pattern = true)
      (inside : name ∈ tree.children pattern) (ends : suffix <:+ name)
      (file : tree.isFile (joinPath pattern name) = true) :
      StandsFor tree suffix pattern (joinPath pattern name)
  | matched {parsed : PathPattern} {path : Text} (noFile : tree.isFile pattern = false)
      (noDirectory : tree.isDirectory pattern = false)
      (wellFormed : PathPattern.read pattern = .ok parsed) (found : path ∈ parsed.files tree) :
      StandsFor tree suffix pattern path

/-- Neither a file nor a directory, and no pattern. -/
structure Malformed (tree : FileTree) (pattern : Text) : Prop where
  noFile : tree.isFile pattern = false
  noDirectory : tree.isDirectory pattern = false
  invalid : ∃ error, PathPattern.read pattern = .error error

/-- A directory whose names the system refuses to list. -/
structure Unlistable (tree : FileTree) (pattern : Text) : Prop where
  directory : tree.isDirectory pattern = true
  refused : ∃ error, tree.list pattern = .error error

/-- A path of the command line for which there are no files. -/
def Unusable (tree : FileTree) (pattern : Text) : Prop :=
  Malformed tree pattern ∨ Unlistable tree pattern

/-- The files of all patterns as they are given, with repetitions. -/
def givenFiles (tree : FileTree) (suffix : Text) (patterns : List Text) : List Text :=
  patterns.flatMap fun pattern => (filesOf tree suffix pattern).toOption.getD []

/-- The selected files in ascending order, each in the spelling that is given first. -/
structure Selects (tree : FileTree) (suffix : Text) (patterns paths : List Text) : Prop where
  ascending : paths.Pairwise pathBefore
  distinct : (paths.map components).Nodup
  standsFor : ∀ path ∈ paths, ∃ pattern ∈ patterns, StandsFor tree suffix pattern path
  complete : ∀ pattern ∈ patterns, ∀ path, StandsFor tree suffix pattern path →
    ∃ kept ∈ paths, components kept = components path
  firstSpelling : ∀ path ∈ paths,
    (givenFiles tree suffix patterns).find? (samePath path) = some path

section

variable {tree other : FileTree} {suffix pattern path directory : Text}
variable {patterns others paths files names : List Text}

theorem StandsFor.isFile (standsFor : StandsFor tree suffix pattern path) :
    tree.isFile path = true := by
  cases standsFor with
  | file file => exact file
  | inside _ _ _ file => exact file
  | matched _ _ _ found =>
      simp only [PathPattern.files] at found
      split at found
      · contradiction
      · exact (List.mem_filter.mp found).2

theorem StandsFor.of_sameFiles (same : tree.SameFiles other)
    (standsFor : StandsFor tree suffix pattern path) : StandsFor other suffix pattern path := by
  cases standsFor with
  | file file => exact .file ((same.isFile _).trans file)
  | inside directory inside ends file =>
      rw [← same.children] at inside
      exact .inside ((same.isDirectory _).trans directory) inside ends ((same.isFile _).trans file)
  | matched noFile noDirectory wellFormed found =>
      rw [← same.files] at found
      exact .matched ((same.isFile _).trans noFile) ((same.isDirectory _).trans noDirectory)
        wellFormed found

theorem standsFor_iff_of_sameFiles (same : tree.SameFiles other) :
    StandsFor tree suffix pattern path ↔ StandsFor other suffix pattern path :=
  ⟨.of_sameFiles same, .of_sameFiles same.symm⟩

theorem Malformed.of_sameFiles (same : tree.SameFiles other) (malformed : Malformed tree pattern) :
    Malformed other pattern where
  noFile := (same.isFile _).trans malformed.noFile
  noDirectory := (same.isDirectory _).trans malformed.noDirectory
  invalid := malformed.invalid

theorem Unlistable.of_sameFiles (same : tree.SameFiles other)
    (unlistable : Unlistable tree pattern) : Unlistable other pattern where
  directory := (same.isDirectory _).trans unlistable.directory
  refused := unlistable.refused.imp fun _ => same.list_eq_error

theorem Unusable.of_sameFiles (same : tree.SameFiles other) (unusable : Unusable tree pattern) :
    Unusable other pattern :=
  unusable.imp (.of_sameFiles same) (.of_sameFiles same)

theorem mem_filesAmong_iff :
    path ∈ filesAmong tree suffix directory names ↔
      ∃ name ∈ names, suffix <:+ name ∧ joinPath directory name = path ∧
        tree.isFile path = true := by
  simp only [filesAmong, List.mem_filter, List.mem_map, List.isSuffixOf_iff_suffix]
  exact ⟨fun ⟨⟨name, ⟨member, ends⟩, spelled⟩, file⟩ => ⟨name, member, ends, spelled, file⟩,
    fun ⟨name, member, ends, spelled, file⟩ => ⟨⟨name, ⟨member, ends⟩, spelled⟩, file⟩⟩

theorem standsFor_file_iff (file : tree.isFile pattern = true) :
    StandsFor tree suffix pattern path ↔ path = pattern := by
  apply Iff.intro
  · intro standsFor
    cases standsFor with
    | file => rfl
    | inside directory =>
        rw [FileTree.isDirectory_eq_false_of_isFile file] at directory
        contradiction
    | matched noFile =>
        rw [file] at noFile
        contradiction
  · intro same
    rw [same]
    exact .file file

theorem standsFor_directory_iff (directory : tree.isDirectory pattern = true)
    (listed : tree.list pattern = .ok names) :
    StandsFor tree suffix pattern path ↔ path ∈ filesAmong tree suffix pattern names := by
  rw [mem_filesAmong_iff]
  apply Iff.intro
  · intro standsFor
    cases standsFor with
    | file file =>
        rw [FileTree.isDirectory_eq_false_of_isFile file] at directory
        contradiction
    | inside _ inside ends file =>
        exact ⟨_, (FileTree.mem_iff_of_list_eq_ok listed).mpr inside, ends, rfl, file⟩
    | matched _ noDirectory =>
        rw [directory] at noDirectory
        contradiction
  · intro ⟨name, member, ends, spelled, file⟩
    subst spelled
    exact .inside directory ((FileTree.mem_iff_of_list_eq_ok listed).mp member) ends file

theorem standsFor_pattern_iff (noFile : tree.isFile pattern = false)
    (noDirectory : tree.isDirectory pattern = false) :
    StandsFor tree suffix pattern path ↔
      ∃ parsed, PathPattern.read pattern = .ok parsed ∧ path ∈ parsed.files tree := by
  apply Iff.intro
  · intro standsFor
    cases standsFor with
    | file file =>
        rw [file] at noFile
        contradiction
    | inside directory =>
        rw [directory] at noDirectory
        contradiction
    | matched _ _ wellFormed found => exact ⟨_, wellFormed, found⟩
  · intro ⟨parsed, wellFormed, found⟩
    exact .matched noFile noDirectory wellFormed found

theorem not_unusable_of_isFile (file : tree.isFile pattern = true) : ¬ Unusable tree pattern := by
  intro unusable
  rcases unusable with malformed | unlistable
  · rw [malformed.noFile] at file
    contradiction
  · have directory := unlistable.directory
    rw [FileTree.isDirectory_eq_false_of_isFile file] at directory
    contradiction

theorem unusable_directory_iff (directory : tree.isDirectory pattern = true) :
    Unusable tree pattern ↔ ∃ error, tree.list pattern = .error error := by
  refine ⟨fun unusable => ?_, fun refused => .inr ⟨directory, refused⟩⟩
  rcases unusable with malformed | unlistable
  · rw [malformed.noDirectory] at directory
    contradiction
  · exact unlistable.refused

theorem unusable_pattern_iff (noFile : tree.isFile pattern = false)
    (noDirectory : tree.isDirectory pattern = false) :
    Unusable tree pattern ↔ ∃ error, PathPattern.read pattern = .error error := by
  refine ⟨fun unusable => ?_, fun invalid => .inl ⟨noFile, noDirectory, invalid⟩⟩
  rcases unusable with malformed | unlistable
  · exact malformed.invalid
  · have directory := unlistable.directory
    rw [noDirectory] at directory
    contradiction

theorem unusable_iff_of_readable (readable : tree.Readable) :
    Unusable tree pattern ↔ Malformed tree pattern := by
  refine ⟨fun unusable => unusable.resolve_right fun unlistable => ?_, .inl⟩
  obtain ⟨names, listed⟩ := readable.exists_list unlistable.directory
  obtain ⟨error, refused⟩ := unlistable.refused
  rw [listed] at refused
  contradiction

/-- A path of the command line cannot be used, or its files are what it stands for. -/
theorem filesOf_cases (tree : FileTree) (suffix pattern : Text) :
    (Unusable tree pattern ∧ ∃ failure, filesOf tree suffix pattern = .error failure) ∨
      ¬ Unusable tree pattern ∧ ∃ files, filesOf tree suffix pattern = .ok files ∧
        ∀ path, path ∈ files ↔ StandsFor tree suffix pattern path := by
  by_cases file : tree.isFile pattern = true
  · refine .inr ⟨not_unusable_of_isFile file, [pattern], if_pos file, fun path => ?_⟩
    rw [standsFor_file_iff file, List.mem_singleton]
  · rw [filesOf, if_neg file]
    by_cases directory : tree.isDirectory pattern = true
    · rw [if_pos directory, unusable_directory_iff directory]
      cases listed : tree.list pattern with
      | error error => exact .inl ⟨⟨error, rfl⟩, _, rfl⟩
      | ok names =>
          refine .inr ⟨nofun, _, rfl, fun path => ?_⟩
          rw [standsFor_directory_iff directory listed]
    · rw [Bool.not_eq_true] at file directory
      rw [if_neg (by simp [directory]), unusable_pattern_iff file directory]
      cases read : PathPattern.read pattern with
      | error error => exact .inl ⟨⟨error, rfl⟩, _, rfl⟩
      | ok parsed =>
          refine .inr ⟨nofun, _, rfl, fun path => ?_⟩
          rw [standsFor_pattern_iff file directory, read]
          simp

theorem mem_givenFiles_iff (usable : ∀ pattern ∈ patterns, ¬ Unusable tree pattern) :
    path ∈ givenFiles tree suffix patterns ↔
      ∃ pattern ∈ patterns, StandsFor tree suffix pattern path := by
  rw [givenFiles, List.mem_flatMap]
  refine exists_congr fun pattern => and_congr_right fun given => ?_
  rcases filesOf_cases tree suffix pattern with ⟨unusable, -⟩ | ⟨-, files, found, same⟩
  · exact absurd unusable (usable pattern given)
  · rw [found, ← same]
    rfl

/-- One path that cannot be used is enough for there to be no files at all. -/
theorem collectFiles_cases (tree : FileTree) (suffix : Text) (patterns : List Text) :
    ((∃ pattern ∈ patterns, Unusable tree pattern) ∧
        ∃ failure, (collectFiles tree suffix patterns).2 = .error failure) ∨
      (∀ pattern ∈ patterns, ¬ Unusable tree pattern) ∧
        (collectFiles tree suffix patterns).2 = .ok (givenFiles tree suffix patterns) := by
  induction patterns with
  | nil => exact .inr ⟨List.forall_mem_nil _, rfl⟩
  | cons pattern rest restIH =>
      rcases filesOf_cases tree suffix pattern with
        ⟨unusable, failure, failed⟩ | ⟨usable, files, found, -⟩
      · refine .inl ⟨⟨pattern, List.mem_cons_self, unusable⟩, failure, ?_⟩
        simp only [collectFiles, failed]
      · rcases restIH with ⟨⟨other, member, unusable⟩, failure, failed⟩ | ⟨others, collected⟩
        · refine .inl ⟨⟨other, List.mem_cons_of_mem _ member, unusable⟩, failure, ?_⟩
          simp only [collectFiles, found, failed]
          rfl
        · refine .inr ⟨List.forall_mem_cons.mpr ⟨usable, others⟩, ?_⟩
          simp only [collectFiles, found, collected, givenFiles, List.flatMap_cons]
          rfl

theorem selects_distinctPaths (usable : ∀ pattern ∈ patterns, ¬ Unusable tree pattern) :
    Selects tree suffix patterns (distinctPaths (givenFiles tree suffix patterns)) where
  ascending := distinctPaths_pairwise _
  distinct := nodup_map_components (distinctPaths_pairwise _)
  standsFor _ member := (mem_givenFiles_iff usable).mp (mem_of_mem_distinctPaths member)
  complete pattern given _ standsFor :=
    exists_kept ((mem_givenFiles_iff usable).mpr ⟨pattern, given, standsFor⟩)
  firstSpelling _ member := find?_of_mem_distinctPaths member

theorem selectFiles_cases (tree : FileTree) (suffix : Text) (patterns : List Text) :
    ((∃ pattern ∈ patterns, Unusable tree pattern) ∧
        ∃ failure, (selectFiles tree suffix patterns).2 = .error failure) ∨
      (∀ pattern ∈ patterns, ¬ Unusable tree pattern) ∧
        ∃ paths, (selectFiles tree suffix patterns).2 = .ok paths ∧
          Selects tree suffix patterns paths := by
  rcases collectFiles_cases tree suffix patterns with
    ⟨unusable, failure, failed⟩ | ⟨usable, collected⟩
  · refine .inl ⟨unusable, failure, ?_⟩
    simp only [selectFiles, failed]
    rfl
  · refine .inr ⟨usable, _, ?_, selects_distinctPaths usable⟩
    simp only [selectFiles, collected]
    rfl

theorem Selects.isFile (selects : Selects tree suffix patterns paths) (member : path ∈ paths) :
    tree.isFile path = true := by
  obtain ⟨pattern, -, standsFor⟩ := selects.standsFor path member
  exact standsFor.isFile

theorem Selects.mem_map_components_iff {key : List Component}
    (selects : Selects tree suffix patterns paths) :
    key ∈ paths.map components ↔
      ∃ pattern ∈ patterns, ∃ path, StandsFor tree suffix pattern path ∧ components path = key := by
  rw [List.mem_map]
  apply Iff.intro
  · intro ⟨path, member, spelled⟩
    obtain ⟨pattern, given, standsFor⟩ := selects.standsFor path member
    exact ⟨pattern, given, path, standsFor, spelled⟩
  · intro ⟨pattern, given, path, standsFor, spelled⟩
    obtain ⟨kept, member, same⟩ := selects.complete pattern given path standsFor
    exact ⟨kept, member, same.trans spelled⟩

/-- What the same patterns select differs in spelling at most, however directories are listed. -/
theorem Selects.map_components_eq (selects : Selects tree suffix patterns paths)
    (selectsToo : Selects other suffix others files) (sameFiles : tree.SameFiles other)
    (sameSet : ∀ pattern, pattern ∈ patterns ↔ pattern ∈ others) :
    paths.map components = files.map components := by
  apply map_components_eq_of_mem_iff selects.ascending selectsToo.ascending
  intro key
  simp only [selects.mem_map_components_iff, selectsToo.mem_map_components_iff, sameSet,
    standsFor_iff_of_sameFiles sameFiles]

end

end PseudocodeLint
