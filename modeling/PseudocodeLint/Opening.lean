import PseudocodeLint.Header

namespace PseudocodeLint

inductive Opening where
  | algorithm (name : Text) (blankGap : Bool)
  /-- The definition of a production ends at line `definitionEnd`, the first blank line after the
  header or the number of lines; `hasSteps` tells whether a bullet list follows that line. -/
  | grammar (name : Text) (needsBlank : Bool) (definitionEnd : Nat) (hasSteps : Bool)
deriving DecidableEq, Repr

/-- A cursor that names no line. -/
structure CursorError where
  length : Nat
  cursor : Nat
deriving DecidableEq, Repr

def CursorError.message (error : CursorError) : Text :=
  s!"index out of bounds: the len is {error.length} but the index is {error.cursor}".toList

def isBlankLine (line : Text) : Bool :=
  line.all isBlank

/-- The first blank line after `header`, or the number of lines when there is none. -/
def definitionEnd (lines : List Text) (header : Nat) : Nat :=
  header + 1 + ((lines.drop (header + 1)).takeWhile (!isBlankLine ·)).length

def startsWithBullet (line : Text) : Bool :=
  "- ".toList.isPrefixOf line

def grammarOpening? (lines : List Text) (header : Nat) (line : Text) : Option Opening := do
  let production ← Production.read? line
  if production.isTable then none
  else
    let stop := definitionEnd lines header
    let hasSteps := lines[stop + 1]?.any startsWithBullet
    some (.grammar production.name production.needsBlank stop hasSteps)

/-- What the line at `cursor` opens.  Productions count in the grammar document only. -/
def openingAt (lines : List Text) (inGrammar : Bool) (cursor : Nat) : Option Opening := do
  let line ← lines[cursor]?
  match AlgorithmHeader.read? line with
  | some header => some (.algorithm header.name header.hasBlankGap)
  | none => if inGrammar then grammarOpening? lines cursor line else none

/-- As `openingAt`, for a cursor that must name a line. -/
def classify (lines : List Text) (inGrammar : Bool) (cursor : Nat) :
    Except CursorError (Option Opening) :=
  if cursor < lines.length then .ok (openingAt lines inGrammar cursor)
  else .error ⟨lines.length, cursor⟩

end PseudocodeLint
