import PseudocodeLint.Block

namespace PseudocodeLint

/-- The indent of a bullet that ends in a colon on its own first line. -/
def colonIndent? (line : Text) : Option Text :=
  match trimStart line with
  | '-' :: ' ' :: body =>
      match body.reverse.dropWhile isBlank with
      | ':' :: before => if '\n' ∈ before then none else some (line.takeWhile isBlank)
      | _ => none
  | _ => none

/-- The line after such a bullet belongs under it, two spaces deeper. -/
def indentFinding? (line : Nat) (current next : Text) : Option Finding :=
  match colonIndent? current with
  | some indent =>
      if (indent ++ "  ".toList).isPrefixOf next then none
      else some ⟨line, .missingIndentAfterColon, [current, next]⟩
  | none => none

def indentFindings (lines : List Text) : List Finding :=
  (lines.zip (lines.drop 1)).zipIdx.filterMap fun ((current, next), line) =>
    indentFinding? line current next

end PseudocodeLint
