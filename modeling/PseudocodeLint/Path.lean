import PseudocodeLint.Sorting
import PseudocodeLint.Text.Basic

namespace PseudocodeLint

/-! Paths are written with slashes.  Two spellings are the same path when they have the same
components, and paths are ordered component by component. -/

inductive Component where
  | root
  | current
  | parent
  | name (text : Text)
deriving DecidableEq, Repr

/-- A number sequence that tells where a component sorts: the root first, then `.`, then `..`,
then names by their code points.  The final zero lets a name sort before its extensions. -/
def Component.key : Component → List Nat
  | .root => [1]
  | .current => [2]
  | .parent => [3]
  | .name text => 4 :: text.map (·.toNat + 1) ++ [0]

/-- The component a part of a path stands for, if it is not the part that begins the path. -/
def component? (part : Text) : Option Component :=
  if part = [] ∨ part = ".".toList then none
  else if part = "..".toList then some .parent
  else some (.name part)

/-- A leading `.` is a component; inner ones, repeated slashes and a trailing slash are not. -/
def components (path : Text) : List Component :=
  match splitAtEach '/' path with
  | [] | [[]] => []
  | [] :: later => .root :: later.filterMap component?
  | first :: later =>
      (if first = ".".toList then [.current] else (component? first).toList) ++
        later.filterMap component?

def sortKey (components : List Component) : List Nat :=
  components.flatMap Component.key

def fileName? (path : Text) : Option Text :=
  match (components path).getLast? with
  | some (.name name) => some name
  | _ => none

/-- Appends a part to a path, with a slash between them where the path has none. -/
def joinPath (path part : Text) : Text :=
  if path.getLast? = some '/' then path ++ part else path ++ '/' :: part

/-- The spelling of an entry of a directory; entries of the working directory are bare names. -/
def entryPath (directory name : Text) : Text :=
  if components directory = [.current] then name else joinPath directory name

def pathKey (path : Text) : List Nat :=
  sortKey (components path)

/-- Equal paths keep the order in which they are given. -/
def sortPaths (paths : List Text) : List Text :=
  stableSort (fun left right => (pathKey left).lex (pathKey right)) paths

def samePath (left right : Text) : Bool :=
  components left = components right

end PseudocodeLint
