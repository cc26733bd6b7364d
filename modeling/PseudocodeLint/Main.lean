import PseudocodeLint.Run

/-! The command line program.  It looks up the part of the file system that its arguments speak
of and prints what the run yields. -/

namespace PseudocodeLint

/-- The leading parts of a path without wildcards, and how many directories deep the rest of it
may look; `none` when there is no bound. -/
def lookupRange (path : Text) : Text × Option Nat :=
  let parts := splitAtEach '/' path
  let lead := parts.takeWhile fun part => !part.any fun c => c = '*' || c = '?' || c = '['
  let rest := parts.drop lead.length
  let start := if lead = [] then ".".toList else joinWith '/' lead
  (if start = [] then "/".toList else start,
    if rest.contains "**".toList then none else some (rest.length + 1))

/-- The error that the system reported. -/
def systemError : IO.Error → SystemError
  | .otherError code text | .resourceBusy code text | .resourceVanished code text
  | .unsupportedOperation code text | .hardwareFault code text | .unsatisfiedConstraints code text
  | .illegalOperation code text | .protocolError code text | .timeExpired code text
  | .alreadyExists _ code text | .interrupted _ code text | .noFileOrDirectory _ code text
  | .invalidArgument _ code text | .permissionDenied _ code text | .resourceExhausted _ code text
  | .inappropriateType _ code text | .noSuchThing _ code text => ⟨code.toNat, text.toList⟩
  | .unexpectedEof | .userError _ => ⟨5, "Input/output error".toList⟩

/-- A directory and the entries inside it, without their contents.  Links to directories are not
followed. -/
partial def listDirectory (place : Place) (depth? : Option Nat)
    (listing : IO (Array IO.FS.DirEntry)) : IO (List (Place × Entry)) := do
  let entries ←
    try pure (Except.ok (← listing))
    catch error => pure (.error (systemError error))
  match entries with
  | .error error => return [(place, .unreadableDirectory error)]
  | .ok entries =>
      let mut found : List (Place × Entry) := [(place, .directory)]
      for entry in entries do
        let inner := place ++ [entry.fileName.toList]
        if !(← entry.path.isDir) then
          found := (inner, .file .empty) :: found
        else
          let isLink := (← entry.path.symlinkMetadata).type == .symlink
          if depth? ≠ some 1 && !isLink then
            found := (← listDirectory inner (depth?.map (· - 1)) entry.path.readDir) ++ found
          else
            found := (inner, .directory) :: found
      return found

def lookUp (workingDirectory : Place) (path : Text) : IO (List (Place × Entry)) := do
  let (start, depth?) := lookupRange path
  let place := spelledPlace workingDirectory start
  let location := (← IO.currentDir) / String.ofList start
  if ← location.isDir then
    listDirectory place depth? location.readDir
  else if ← location.pathExists then
    return [(place, .file .empty)]
  else
    return []

def loadFile (workingDirectory : Place) (path : Text) : IO (Place × Entry) := do
  let place := spelledPlace workingDirectory path
  try
    return (place, .file (← IO.FS.readBinFile ((← IO.currentDir) / String.ofList path)))
  catch error =>
    return (place, .unreadableFile (systemError error))

/-- The part of the file system that a command line speaks of, with the contents of the files
that it selects. -/
def loadTree (invocation : Invocation) : IO FileTree := do
  let workingDirectory := (components (← IO.currentDir).toString.toList).filterMap fun
    | .name name => some name
    | _ => none
  let entries ← invocation.patterns.mapM (lookUp workingDirectory)
  let outline := FileTree.ofEntries workingDirectory entries.flatten
  match (selectFiles outline invocation.suffix invocation.patterns).2 with
  | .error _ => return outline
  | .ok files =>
      let loaded ← files.mapM (loadFile workingDirectory)
      return loaded.foldl FileTree.add outline

def loadFor (arguments : List Text) : IO FileTree :=
  match readArguments arguments with
  | .ok (.check invocation) => loadTree invocation
  | _ => return .ofEntries [] []

end PseudocodeLint

open PseudocodeLint in
def main (arguments : List String) : IO UInt32 := do
  let arguments := arguments.map String.toList
  let tree ← loadFor arguments
  let setting? := (← IO.getEnv "RUST_LOG").map String.toList
  let result := run tree setting? arguments
  for event in result.log do
    IO.eprintln (String.ofList event.render)
  IO.print (String.ofList result.output)
  if result.failure ≠ [] then
    IO.eprintln (String.ofList result.failure)
  return result.exitCode.toUInt32
