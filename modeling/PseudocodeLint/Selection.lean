import PseudocodeLint.Event
import PseudocodeLint.Lint
import PseudocodeLint.PathPattern

namespace PseudocodeLint

inductive Failure where
  | invalidPattern (pattern : Text) (error : PatternError)
  | unreadableDirectory (path : Text) (error : SystemError)
  | unreadableFile (path : Text) (error : SystemError)
  | undecodable (path : Text)
deriving DecidableEq, Repr

def Failure.context : Failure → Text
  | .invalidPattern pattern _ => "invalid glob pattern: ".toList ++ pattern
  | .unreadableDirectory path _ => "failed to read directory: ".toList ++ path
  | .unreadableFile path _ | .undecodable path => "failed to read ".toList ++ path

def Failure.cause : Failure → Text
  | .invalidPattern _ error => error.message
  | .unreadableDirectory _ error | .unreadableFile _ error => error.message
  | .undecodable _ => "stream did not contain valid UTF-8".toList

def Failure.message (failure : Failure) : Text :=
  "Error: ".toList ++ failure.context ++ "\n\nCaused by:\n    ".toList ++ failure.cause

/-- The files among the entries of a directory whose names end in the suffix. -/
def filesAmong (tree : FileTree) (suffix directory : Text) (names : List Text) : List Text :=
  ((names.filter (suffix.isSuffixOf ·)).map (joinPath directory)).filter tree.isFile

/-- The files that one path of the command line stands for: a file stands for itself, a directory
for the documents inside it, and anything else is a pattern. -/
def filesOf (tree : FileTree) (suffix pattern : Text) : Except Failure (List Text) :=
  if tree.isFile pattern then .ok [pattern]
  else if tree.isDirectory pattern then
    match tree.list pattern with
    | .error error => .error (.unreadableDirectory pattern error)
    | .ok names => .ok (filesAmong tree suffix pattern names)
  else
    match PathPattern.read pattern with
    | .error error => .error (.invalidPattern pattern error)
    | .ok parsed => .ok (parsed.files tree)

/-- A directory may be empty, but a pattern should match something. -/
def matchEvents (tree : FileTree) (pattern : Text) (files : List Text) : List Event :=
  if files = [] ∧ !tree.isDirectory pattern then [.noFilesMatched pattern] else []

/-- Collects the files of all patterns up to the first that fails, with the events that arise on the
way. -/
def collectFiles (tree : FileTree) (suffix : Text) :
    List Text → List Event × Except Failure (List Text)
  | [] => ([], .ok [])
  | pattern :: rest =>
      match filesOf tree suffix pattern with
      | .error failure => ([], .error failure)
      | .ok files =>
          let (events, others) := collectFiles tree suffix rest
          (matchEvents tree pattern files ++ events, others.map (files ++ ·))

/-- Each path once and in order; of equal paths the spelling given first is kept. -/
def distinctPaths (paths : List Text) : List Text :=
  dropRepeats samePath (sortPaths paths)

def selectFiles (tree : FileTree) (suffix : Text) (patterns : List Text) :
    List Event × Except Failure (List Text) :=
  let (events, files) := collectFiles tree suffix patterns
  (events, files.map distinctPaths)

def decodeText? (content : ByteArray) : Option Text :=
  (String.fromUTF8? content).map String.toList

def readDocument (tree : FileTree) (path : Text) : Except Failure Document :=
  match tree.read path with
  | .error error => .error (.unreadableFile path error)
  | .ok content =>
      match decodeText? content with
      | some text => .ok ⟨(fileName? path).getD path, text⟩
      | none => .error (.undecodable path)

/-- Documents are read in order, and the first that fails ends the run. -/
def readDocuments (tree : FileTree) (paths : List Text) : Except Failure (List Document) :=
  paths.mapM (readDocument tree)

end PseudocodeLint
