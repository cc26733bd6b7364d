import PseudocodeLint.FileTree
import PseudocodeLint.Wildcard

namespace PseudocodeLint

inductive Segment where
  | literal (name : Text)
  | wildcard (tokens : List Token)
  | anyDepth
deriving DecidableEq, Repr

namespace Segment

/-- A segment without wildcards is the name that it spells. -/
def ofTokens (tokens : List Token) : Segment :=
  let literal? := tokens.mapM fun
    | .char c => some c
    | _ => none
  match literal? with
  | some name => .literal name
  | none => if tokens = [.anyDepth] then .anyDepth else .wildcard tokens

def matchesName : Segment → Text → Bool
  | .literal expected, name => name = expected
  | .wildcard tokens, name => PseudocodeLint.matchesName tokens name
  | .anyDepth, _ => true

end Segment

structure PathPattern where
  absolute : Bool
  segments : List Segment
  /-- A pattern that ends in a slash matches directories only. -/
  directoriesOnly : Bool
deriving DecidableEq, Repr

/-- The parts of a path, without the empty one after a trailing slash. -/
def pathParts (path : Text) : List Text :=
  let parts := splitAtEach '/' path
  if path.getLast? = some '/' then parts.dropLast else parts

namespace PathPattern

/-- The whole pattern is checked before its parts, which count their positions anew. -/
def read (pattern : Text) : Except PatternError PathPattern := do
  let _ ← readTokens 0 true pattern
  let absolute := pattern.head? = some '/'
  let parts := pathParts (if absolute then pattern.drop 1 else pattern)
  let segments ← parts.mapM fun part => Segment.ofTokens <$> readTokens 0 true part
  return { absolute, segments, directoriesOnly := pattern.getLast? = some '/' }

/-- The entries `.` and `..`, which only a wildcard with a leading dot can match. -/
def dotEntries (tokens : List Token) : List Text :=
  if tokens.head? = some (.char '.') then
    ["..".toList, ".".toList].filter (PseudocodeLint.matchesName tokens)
  else []

def isDotEntry (name : Text) : Bool :=
  name = ".".toList || name = "..".toList

def pathBelow (directory : Text) (names : List Text) : Text :=
  names.foldl entryPath directory

/-- The paths that the segments match from `path` on. -/
def expandFrom (tree : FileTree) (path : Text) : List Segment → List Text
  | [] => [path]
  | .literal name :: rest =>
      let next := entryPath path name
      let found := if isDotEntry name then tree.isDirectory path else tree.contains next
      if found then expandFrom tree next rest else []
  | .wildcard tokens :: rest =>
      if !tree.isListable path then []
      else
        (dotEntries tokens).flatMap (fun name => expandFrom tree (joinPath path name) rest) ++
        ((tree.children path).filter (PseudocodeLint.matchesName tokens)).flatMap fun name =>
          expandFrom tree (entryPath path name) rest
  | [.anyDepth] => ((tree.listedBelow path).map (pathBelow path)).filter tree.isDirectory
  | .anyDepth :: .anyDepth :: rest => expandFrom tree path (.anyDepth :: rest)
  | .anyDepth :: segment :: rest =>
      ((tree.listedBelow path).filter (·.getLast?.any segment.matchesName)).flatMap fun names =>
        expandFrom tree (pathBelow path names) rest

def files (tree : FileTree) (pattern : PathPattern) : List Text :=
  let start := if pattern.absolute then "/".toList else ".".toList
  let found := expandFrom tree start pattern.segments
  if pattern.directoriesOnly then [] else found.filter tree.isFile

end PathPattern

end PseudocodeLint
