import PseudocodeLint.Path
import PseudocodeLint.Text.ByteSlice
import Std.Data.TreeMap

namespace PseudocodeLint

/-- An error of the operating system, which has a number and a text. -/
structure SystemError where
  code : Nat
  text : Text
deriving DecidableEq, Repr

namespace SystemError

def message (error : SystemError) : Text :=
  error.text ++ s!" (os error {error.code})".toList

def notFound : SystemError :=
  ⟨2, "No such file or directory".toList⟩

def notADirectory : SystemError :=
  ⟨20, "Not a directory".toList⟩

def isADirectory : SystemError :=
  ⟨21, "Is a directory".toList⟩

end SystemError

/-- The system may refuse to read an entry that is there; what is in an unreadable directory can
still be reached by its name. -/
inductive Entry where
  | file (content : ByteArray)
  | directory
  | unreadableFile (error : SystemError)
  | unreadableDirectory (error : SystemError)

namespace Entry

def isFile : Entry → Bool
  | .file _ | .unreadableFile _ => true
  | .directory | .unreadableDirectory _ => false

def isDirectory (entry : Entry) : Bool :=
  !entry.isFile

/-- What is read from an entry. -/
def content : Entry → Except SystemError ByteArray
  | .file content => .ok content
  | .directory => .error .isADirectory
  | .unreadableFile error | .unreadableDirectory error => .error error

/-- Why the names in an entry cannot be listed, if they cannot. -/
def refusal? : Entry → Option SystemError
  | .directory => none
  | .file _ | .unreadableFile _ => some .notADirectory
  | .unreadableDirectory error => some error

end Entry

/-- A place in the tree: the names that lead to it from the root. -/
abbrev Place := List Text

/-- Where a component leads from a place, by its spelling alone. -/
def placeFrom (place : Place) : Component → Place
  | .root => []
  | .current => place
  | .parent => place.dropLast
  | .name name => place ++ [name]

/-- The place that a path names, by its spelling alone. -/
def spelledPlace (workingDirectory : Place) (path : Text) : Place :=
  (components path).foldl placeFrom workingDirectory

/-- The places on the way to a place, from the root on. -/
def placesAbove (place : Place) : List Place :=
  (List.range place.length).map place.take

/-- The entries in the order of their places, so that a directory comes before its entries and
these are sorted by name.  The places above an entry have entries too. -/
structure FileTree where
  workingDirectory : Place
  entries : Std.TreeMap Place Entry
  /-- The order in which the names in a directory are listed, which may be any. -/
  listed : Text → List Text → List Text := fun _ names => names
  listed_perm : ∀ directory names, (listed directory names).Perm names := by
    exact fun _ names => .refl names

namespace FileTree

/-- Makes a directory, and those above it, where there is nothing yet. -/
def makeDirectory (tree : FileTree) (place : Place) : FileTree :=
  let made := (placesAbove place ++ [place]).foldl
    (fun entries above => entries.insertIfNew above .directory) tree.entries
  { tree with entries := made }

/-- Puts an entry in place of what there was. -/
def put (tree : FileTree) (place : Place) (entry : Entry) : FileTree :=
  let tree := tree.makeDirectory place.dropLast
  { tree with entries := tree.entries.insert place entry }

def add (tree : FileTree) : Place × Entry → FileTree
  | (place, .directory) => tree.makeDirectory place
  | (place, entry) => tree.put place entry

/-- The tree after all entries have been added in turn. -/
def ofEntries (workingDirectory : Place) (entries : List (Place × Entry)) : FileTree :=
  entries.foldl add (makeDirectory { workingDirectory, entries := ∅ } workingDirectory)

def directoryAt (tree : FileTree) (place : Place) : Bool :=
  tree.entries[place]?.any Entry.isDirectory

/-- Whether the names in the directory at a place can be listed. -/
def listableAt (tree : FileTree) (place : Place) : Bool :=
  tree.entries[place]?.any (·.refusal?.isNone)

/-- All places below a directory, parents before their entries and siblings by name. -/
def placesBelow (tree : FileTree) (place : Place) : List Place :=
  tree.entries.keys.filter fun other =>
    place.isPrefixOf other && place.length < other.length

/-- Follows one part of a path.  Only a directory can be followed, and `.` and `..` lead to
directories; the root is its own parent. -/
def follow (tree : FileTree) (place : Place) (part : Text) : Option Place :=
  if !tree.directoryAt place then none
  else if part = [] ∨ part = ".".toList then some place
  else if part = "..".toList then (some place.dropLast).filter tree.directoryAt
  else
    let next := place ++ [part]
    if tree.entries.contains next then some next else none

/-- How many bytes a path may have. -/
def longestPath : Nat := 4095

/-- Where a path leads, if it leads anywhere. -/
def resolve (tree : FileTree) (path : Text) : Option Place :=
  if longestPath < utf8Length path then none
  else
    match path with
    | [] => none
    | '/' :: rest => (splitAtEach '/' rest).foldlM tree.follow []
    | path => (splitAtEach '/' path).foldlM tree.follow tree.workingDirectory

def contains (tree : FileTree) (path : Text) : Bool :=
  (tree.resolve path).isSome

/-- The entry that a path leads to. -/
def find? (tree : FileTree) (path : Text) : Option Entry :=
  (tree.resolve path).bind (tree.entries[·]?)

def isFile (tree : FileTree) (path : Text) : Bool :=
  (tree.find? path).any Entry.isFile

def isDirectory (tree : FileTree) (path : Text) : Bool :=
  (tree.find? path).any Entry.isDirectory

def isListable (tree : FileTree) (path : Text) : Bool :=
  (tree.find? path).any (·.refusal?.isNone)

/-- Reads a file whole. -/
def read (tree : FileTree) (path : Text) : Except SystemError ByteArray :=
  match tree.find? path with
  | some entry => entry.content
  | none => .error .notFound

/-- The places below a directory, relative to it. -/
def below (tree : FileTree) (directory : Text) : List Place :=
  match tree.resolve directory with
  | some place => (tree.placesBelow place).map (·.drop place.length)
  | none => []

def children (tree : FileTree) (directory : Text) : List Text :=
  (tree.below directory).filterMap fun
    | [name] => some name
    | _ => none

/-- The places below a directory that are found by listing one directory after another. -/
def listedBelow (tree : FileTree) (directory : Text) : List Place :=
  match tree.resolve directory with
  | some place => (tree.below directory).filter fun names =>
      (placesAbove names).all fun way => tree.listableAt (place ++ way)
  | none => []

/-- The names in a directory, in the order in which they are listed. -/
def list (tree : FileTree) (directory : Text) : Except SystemError (List Text) :=
  match tree.find? directory with
  | some entry =>
      match entry.refusal? with
      | some error => .error error
      | none => .ok (tree.listed directory (tree.children directory))
  | none => .error .notFound

end FileTree

end PseudocodeLint
