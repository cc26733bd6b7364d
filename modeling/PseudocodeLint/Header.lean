import PseudocodeLint.Text.Blank

namespace PseudocodeLint

/-- The parts of an algorithm header `Name(arguments):`, with the blanks found at its gaps. -/
structure AlgorithmHeader where
  name : Text
  beforeArguments : Text
  arguments : Text
  beforeColon : Text
  afterColon : Text
deriving DecidableEq, Repr

namespace AlgorithmHeader

def toText (header : AlgorithmHeader) : Text :=
  header.name ++ header.beforeArguments ++ '(' :: header.arguments ++ ')' ::
    header.beforeColon ++ ':' :: header.afterColon

/-- The name holds ASCII letters and digits only, and the arguments end at the first `)`. -/
def read? (line : Text) : Option AlgorithmHeader :=
  let name := line.takeWhile Char.isAlphanum
  let afterName := line.dropWhile Char.isAlphanum
  match trimStart afterName with
  | '(' :: inside =>
      match inside.dropWhile (· ≠ ')') with
      | ')' :: afterArguments =>
          match trimStart afterArguments with
          | ':' :: afterColon =>
              if name ≠ [] ∧ afterColon.all isBlank then
                some {
                  name
                  beforeArguments := afterName.takeWhile isBlank
                  arguments := inside.takeWhile (· ≠ ')')
                  beforeColon := afterArguments.takeWhile isBlank
                  afterColon }
              else none
          | _ => none
      | _ => none
  | _ => none

/-- Only blanks at the three gaps are misplaced; those among the arguments are not. -/
def hasBlankGap (header : AlgorithmHeader) : Bool :=
  !header.beforeArguments.isEmpty || !header.beforeColon.isEmpty || !header.afterColon.isEmpty

end AlgorithmHeader

/-- The parts of a grammar production `Name : definition` or `Name :: definition`. -/
structure Production where
  name : Text
  colons : Text
  gap : Text
  definition : Text
deriving DecidableEq, Repr

namespace Production

def toText (production : Production) : Text :=
  production.name ++ ' ' :: production.colons ++ production.gap ++ production.definition

/-- Reads one or two colons and returns what follows them. -/
def readColons? : Text → Option (Text × Text)
  | ':' :: ':' :: rest => some ([':', ':'], rest)
  | ':' :: rest => some ([':'], rest)
  | _ => none

/-- The definition stands on the header's own line. -/
def read? (line : Text) : Option Production :=
  let name := line.takeWhile Char.isAlphanum
  match line.dropWhile Char.isAlphanum with
  | ' ' :: rest =>
      match readColons? rest with
      | some (colons, afterColons) =>
          let gap := afterColons.takeWhile isBlank
          let definition := trimStart afterColons
          if name ≠ [] ∧ gap ≠ [] ∧ definition ≠ [] ∧ '\n' ∉ definition then
            some { name, colons, gap, definition }
          else none
      | none => none
  | _ => none

/-- A production `Name :: one of` introduces a table of terminals, not a block. -/
def isTable (production : Production) : Bool :=
  trimEnd production.definition = "one of".toList

/-- Whether nothing but blanks follows the colons, so that a blank line must follow the header.  No
line reads as such a production. -/
def needsBlank (production : Production) : Bool :=
  trimEnd production.definition = []

end Production

theorem AlgorithmHeader.toText_of_read? {line : Text} {header : AlgorithmHeader}
    (found : AlgorithmHeader.read? line = some header) :
    header.toText = line := by
  simp only [AlgorithmHeader.read?] at found
  split at found
  · rename_i inside opened
    split at found
    · rename_i afterArguments closed
      split at found
      · rename_i afterColon colon
        split at found
        · cases found
          have third : afterArguments.takeWhile isBlank ++ ':' :: afterColon = afterArguments :=
            colon ▸ List.takeWhile_append_dropWhile
          have second : inside.takeWhile (· ≠ ')') ++ ')' :: afterArguments = inside :=
            closed ▸ List.takeWhile_append_dropWhile
          have first : (line.dropWhile Char.isAlphanum).takeWhile isBlank ++ '(' :: inside =
              line.dropWhile Char.isAlphanum :=
            opened ▸ List.takeWhile_append_dropWhile
          simp only [AlgorithmHeader.toText, List.append_assoc, List.cons_append]
          rw [third, second, first]
          exact List.takeWhile_append_dropWhile
        · contradiction
      · contradiction
    · contradiction
  · contradiction

theorem Production.colons_append_of_readColons? {text colons rest : Text}
    (found : Production.readColons? text = some (colons, rest)) :
    colons ++ rest = text := by
  unfold Production.readColons? at found
  split at found
  · cases found
    rfl
  · cases found
    rfl
  · contradiction

theorem Production.toText_of_read? {line : Text} {production : Production}
    (found : Production.read? line = some production) :
    production.toText = line := by
  simp only [Production.read?] at found
  split at found
  · rename_i rest space
    split at found
    · rename_i colons afterColons read
      split at found
      · cases found
        have second : afterColons.takeWhile isBlank ++ trimStart afterColons = afterColons :=
          List.takeWhile_append_dropWhile
        simp only [Production.toText, List.append_assoc, List.cons_append]
        rw [second, Production.colons_append_of_readColons? read, ← space]
        exact List.takeWhile_append_dropWhile
      · contradiction
    · contradiction
  · contradiction

end PseudocodeLint
