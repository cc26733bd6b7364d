import PseudocodeLint.Selection

namespace PseudocodeLint

theorem components_absolute (rest : Text) :
    components ('/' :: rest) = .root :: (splitAtEach '/' rest).filterMap component? := by
  have nonempty := splitAtEach_ne_nil '/' rest
  simp only [components, splitAtEach, if_true]

/-- A relative path may begin with a `.`, which leads nowhere else. -/
theorem components_relative {c : Char} (relative : c ≠ '/') (rest : Text) :
    ∃ lead, (lead = [] ∨ lead = [.current]) ∧
      components (c :: rest) = lead ++ (splitAtEach '/' (c :: rest)).filterMap component? := by
  obtain ⟨first, later, parts⟩ : ∃ first later,
      splitAtEach '/' (c :: rest) = (c :: first) :: later := by
    simp only [splitAtEach, if_neg relative]
    cases splitAtEach '/' rest with
    | nil => exact ⟨[], [], rfl⟩
    | cons first later => exact ⟨first, later, rfl⟩
  simp only [components, parts]
  by_cases current : c :: first = ".".toList
  · have skipped : component? (c :: first) = none := by rw [current]; rfl
    rw [if_pos current, List.filterMap_cons_none skipped]
    exact ⟨_, .inr rfl, rfl⟩
  · rw [if_neg current, List.filterMap_cons]
    refine ⟨[], .inl rfl, ?_⟩
    cases component? (c :: first) <;> rfl

def Entry.isReadable : Entry → Bool
  | .file _ | .directory => true
  | .unreadableFile _ | .unreadableDirectory _ => false

namespace FileTree

variable {tree other : FileTree} {place next : Place} {part path left right : Text}
variable {parts : List Text}

/-- Where one part leads, and that only a name can lead to a file. -/
theorem follow_cases (followed : tree.follow place part = some next) :
    next = (component? part).toList.foldl placeFrom place ∧
      (tree.directoryAt next = true ∨ component? part = some (.name part)) := by
  simp only [follow] at followed
  split at followed
  · contradiction
  rename_i inside
  split at followed
  · rename_i stays
    cases followed
    rw [component?, if_pos stays]
    exact ⟨rfl, .inl (by simpa using inside)⟩
  rename_i moves
  split at followed
  · rename_i parent
    obtain ⟨same, found⟩ := Option.filter_eq_some_iff.mp followed
    cases same
    rw [component?, if_neg moves, if_pos parent]
    exact ⟨rfl, .inl found⟩
  · rename_i proper
    rw [component?, if_neg moves, if_neg proper]
    split at followed
    · cases followed
      exact ⟨rfl, .inr rfl⟩
    · contradiction

theorem foldlM_follow (followed : parts.foldlM tree.follow place = some next) :
    next = (parts.filterMap component?).foldl placeFrom place := by
  induction parts generalizing place with
  | nil =>
      cases followed
      rfl
  | cons part parts partsIH =>
      obtain ⟨middle, first, later⟩ := Option.bind_eq_some_iff.mp followed
      rw [partsIH later, (follow_cases first).1, List.filterMap_cons]
      cases component? part <;> rfl

/-- The last part decides whether a file can be reached. -/
theorem foldlM_follow_last (nonempty : parts ≠ [])
    (followed : parts.foldlM tree.follow place = some next) :
    tree.directoryAt next = true ∨
      ∃ name, (parts.filterMap component?).getLast? = some (.name name) := by
  obtain ⟨front, last, rfl⟩ := (List.eq_nil_or_concat parts).resolve_left nonempty
  rw [List.concat_eq_append, List.foldlM_append] at followed
  obtain ⟨middle, -, later⟩ := Option.bind_eq_some_iff.mp followed
  have step : tree.follow middle last = some next := by simpa using later
  obtain ⟨-, directory | name⟩ := follow_cases step
  · exact .inl directory
  · exact .inr ⟨last, by simp [name]⟩

/-- What it takes for a path to lead somewhere. -/
theorem resolve_cases (found : tree.resolve path = some place) :
    ∃ lead parts, parts ≠ [] ∧ components path = lead ++ parts.filterMap component? ∧
      parts.foldlM tree.follow (lead.foldl placeFrom tree.workingDirectory) = some place := by
  simp only [resolve] at found
  split at found
  · contradiction
  split at found
  · contradiction
  · rename_i rest _
    exact ⟨[.root], _, splitAtEach_ne_nil '/' rest, components_absolute rest, found⟩
  -- A relative path, which may begin with a neutral `.`.
  · rename_i nonempty relative
    cases path with
    | nil => contradiction
    | cons c rest =>
        have different : c ≠ '/' := by
          rintro rfl
          exact relative rest rfl
        obtain ⟨lead, neutral, spelled⟩ := components_relative different rest
        refine ⟨lead, _, splitAtEach_ne_nil '/' (c :: rest), spelled, ?_⟩
        rcases neutral with rfl | rfl <;> exact found

theorem resolve_eq_spelledPlace (found : tree.resolve path = some place) :
    place = spelledPlace tree.workingDirectory path := by
  obtain ⟨lead, parts, -, spelled, followed⟩ := resolve_cases found
  rw [foldlM_follow followed, spelledPlace, spelled, List.foldl_append]

theorem exists_entry_of_isFile (file : tree.isFile path = true) :
    ∃ place entry, tree.resolve path = some place ∧ tree.entries[place]? = some entry ∧
      entry.isFile = true := by
  obtain ⟨entry, reached, isFile⟩ := (Option.any_eq_true _ _).mp file
  obtain ⟨place, found, stored⟩ := Option.bind_eq_some_iff.mp reached
  exact ⟨place, entry, found, stored, isFile⟩

theorem directoryAt_eq_false_of_isFile {entry : Entry} (stored : tree.entries[place]? = some entry)
    (isFile : entry.isFile = true) : tree.directoryAt place = false := by
  rw [directoryAt, stored, Option.any_some, Entry.isDirectory, isFile, Bool.not_true]

theorem isDirectory_eq_false_of_isFile (file : tree.isFile path = true) :
    tree.isDirectory path = false := by
  obtain ⟨place, entry, found, stored, isFile⟩ := exists_entry_of_isFile file
  rw [isDirectory, find?, found, Option.bind_some]
  exact directoryAt_eq_false_of_isFile stored isFile

/-- Two spellings of a file read alike. -/
theorem read_congr (same : components left = components right)
    (leftFile : tree.isFile left = true) (rightFile : tree.isFile right = true) :
    tree.read left = tree.read right := by
  obtain ⟨leftPlace, -, leftFound, -⟩ := exists_entry_of_isFile leftFile
  obtain ⟨rightPlace, -, rightFound, -⟩ := exists_entry_of_isFile rightFile
  have places : leftPlace = rightPlace := by
    rw [resolve_eq_spelledPlace leftFound, resolve_eq_spelledPlace rightFound, spelledPlace,
      spelledPlace, same]
  rw [read, read, find?, find?, leftFound, rightFound, places]

theorem exists_fileName_of_isFile (file : tree.isFile path = true) :
    ∃ name, fileName? path = some name := by
  obtain ⟨place, entry, found, stored, isFile⟩ := exists_entry_of_isFile file
  obtain ⟨lead, parts, nonempty, spelled, followed⟩ := resolve_cases found
  rcases foldlM_follow_last nonempty followed with directory | ⟨name, last⟩
  · rw [directoryAt_eq_false_of_isFile stored isFile] at directory
    contradiction
  · exact ⟨name, by simp [fileName?, spelled, List.getLast?_append, last]⟩

/-- What a listing names is what stands in the directory. -/
theorem mem_iff_of_list_eq_ok {directory name : Text} {names : List Text}
    (listed : tree.list directory = .ok names) :
    name ∈ names ↔ name ∈ tree.children directory := by
  simp only [list] at listed
  split at listed
  · split at listed
    · contradiction
    · cases listed
      exact (tree.listed_perm directory _).mem_iff
  · contradiction

/-- The system refuses to read none of the entries. -/
def Readable (tree : FileTree) : Prop :=
  ∀ item ∈ tree.entries.toList, item.2.isReadable = true

namespace Readable

theorem of_find? (readable : tree.Readable) {entry : Entry} (found : tree.find? path = some entry) :
    entry.isReadable = true := by
  obtain ⟨place, -, stored⟩ := Option.bind_eq_some_iff.mp found
  exact readable (place, entry) (Std.TreeMap.mem_toList_iff_getElem?_eq_some.mpr stored)

theorem exists_list (readable : tree.Readable) (directory : tree.isDirectory path = true) :
    ∃ names, tree.list path = .ok names := by
  obtain ⟨entry, found, isDirectory⟩ := (Option.any_eq_true _ _).mp directory
  have granted := readable.of_find? found
  cases entry with
  | directory => exact ⟨_, by rw [list, found]; rfl⟩
  | file _ | unreadableFile _ | unreadableDirectory _ => contradiction

theorem exists_read (readable : tree.Readable) (file : tree.isFile path = true) :
    ∃ content, tree.read path = .ok content := by
  obtain ⟨entry, found, isFile⟩ := (Option.any_eq_true _ _).mp file
  have granted := readable.of_find? found
  cases entry with
  | file content => exact ⟨content, by rw [read, found]; rfl⟩
  | directory | unreadableFile _ | unreadableDirectory _ => contradiction

end Readable

/-- Trees that hold the same entries and are seen from the same directory; they may list the names in
a directory in different orders. -/
structure SameFiles (tree other : FileTree) : Prop where
  workingDirectory : tree.workingDirectory = other.workingDirectory
  entries : tree.entries = other.entries

namespace SameFiles

theorem symm (same : tree.SameFiles other) : other.SameFiles tree :=
  ⟨same.workingDirectory.symm, same.entries.symm⟩

theorem exists_relisted (same : tree.SameFiles other) :
    ∃ listed perm, other = { tree with listed := listed, listed_perm := perm } := by
  obtain ⟨workingDirectory, entries⟩ := same
  cases tree
  cases other
  cases workingDirectory
  cases entries
  exact ⟨_, _, rfl⟩

theorem find? (same : tree.SameFiles other) (path : Text) :
    other.find? path = tree.find? path := by
  obtain ⟨listed, perm, rfl⟩ := same.exists_relisted
  rfl

theorem read (same : tree.SameFiles other) (path : Text) : other.read path = tree.read path := by
  rw [FileTree.read, same.find?, FileTree.read]

theorem isFile (same : tree.SameFiles other) (path : Text) :
    other.isFile path = tree.isFile path := by
  rw [FileTree.isFile, same.find?, FileTree.isFile]

theorem isDirectory (same : tree.SameFiles other) (path : Text) :
    other.isDirectory path = tree.isDirectory path := by
  rw [FileTree.isDirectory, same.find?, FileTree.isDirectory]

theorem isListable (same : tree.SameFiles other) (path : Text) :
    other.isListable path = tree.isListable path := by
  rw [FileTree.isListable, same.find?, FileTree.isListable]

theorem children (same : tree.SameFiles other) (directory : Text) :
    other.children directory = tree.children directory := by
  obtain ⟨listed, perm, rfl⟩ := same.exists_relisted
  rfl

theorem contains (same : tree.SameFiles other) (path : Text) :
    other.contains path = tree.contains path := by
  obtain ⟨listed, perm, rfl⟩ := same.exists_relisted
  rfl

theorem listedBelow (same : tree.SameFiles other) (directory : Text) :
    other.listedBelow directory = tree.listedBelow directory := by
  obtain ⟨listed, perm, rfl⟩ := same.exists_relisted
  rfl

/-- A directory that cannot be listed in one order cannot be listed in another. -/
theorem list_eq_error (same : tree.SameFiles other) {directory : Text} {error : SystemError}
    (refused : tree.list directory = .error error) : other.list directory = .error error := by
  simp only [list, same.find?] at refused ⊢
  split at refused
  · split at refused
    · exact refused
    · contradiction
  · exact refused

theorem expandFrom (same : tree.SameFiles other) (path : Text) (segments : List Segment) :
    PathPattern.expandFrom other path segments = PathPattern.expandFrom tree path segments := by
  fun_induction PathPattern.expandFrom tree path segments with
  | case1 => rw [PathPattern.expandFrom]
  | case2 path name rest next found leads nextIH =>
      rw [PathPattern.expandFrom, same.isDirectory, same.contains, ← nextIH]
      exact if_pos leads
  | case3 path name rest next found stops =>
      rw [PathPattern.expandFrom, same.isDirectory, same.contains]
      exact if_neg stops
  | case4 path tokens rest stops =>
      rw [PathPattern.expandFrom, same.isListable]
      exact if_pos stops
  | case5 path tokens rest leads dotIH entryIH =>
      simp only [PathPattern.expandFrom, same.isListable, if_neg leads, same.children, dotIH,
        entryIH]
  | case6 path =>
      rw [PathPattern.expandFrom, same.listedBelow, funext same.isDirectory]
  | case7 path rest restIH => rw [PathPattern.expandFrom, restIH]
  | case8 path segment rest proper belowIH =>
      simp only [PathPattern.expandFrom, same.listedBelow, belowIH]

/-- What a pattern matches does not depend on the order of a listing. -/
theorem files (same : tree.SameFiles other) (pattern : PathPattern) :
    pattern.files other = pattern.files tree := by
  simp only [PathPattern.files, same.expandFrom, funext same.isFile]

end SameFiles

end FileTree

end PseudocodeLint
