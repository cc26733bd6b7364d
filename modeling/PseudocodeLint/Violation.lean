import PseudocodeLint.Rule

namespace PseudocodeLint

inductive BlockKind where
  | algorithm
  | grammar
deriving DecidableEq, Repr

def BlockKind.label : BlockKind → Text
  | .algorithm => "algorithm".toList
  | .grammar => "grammar".toList

/-- Every `name` is that of the block which holds the offending line. -/
inductive Violation where
  | headerWhitespace (name : Text)
  | missingBlankAfterHeader (kind : BlockKind) (name : Text)
  | malformedStepShape (kind : BlockKind) (name : Text)
  | stepPunctuation (name : Text)
  | stepCapitalization (name : Text)
  | assertFormatting (name : Text) (found : Char)
  | unwrappedAlgorithmCall (name : Text)
  | nestedValueLiteral (name : Text) (literal : Text)
  | unwrappedLiteralKeyword (name : Text)
  | missingIndentAfterColon
deriving DecidableEq, Repr

namespace Violation

def rule : Violation → Rule
  | .headerWhitespace _ => .headerWhitespace
  | .missingBlankAfterHeader _ _ => .missingBlankAfterHeader
  | .malformedStepShape _ _ => .malformedStepShape
  | .stepPunctuation _ => .stepPunctuation
  | .stepCapitalization _ => .stepCapitalization
  | .assertFormatting _ _ => .assertFormatting
  | .unwrappedAlgorithmCall _ => .unwrappedAlgorithmCall
  | .nestedValueLiteral _ _ => .nestedValueLiteral
  | .unwrappedLiteralKeyword _ => .unwrappedLiteralKeyword
  | .missingIndentAfterColon => .missingIndentAfterColon

/-- The message without the document it is about. -/
def explanation : Violation → Text
  | .headerWhitespace name => "Bad whitespace in definition of ".toList ++ name
  | .missingBlankAfterHeader kind name =>
      "No empty space after ".toList ++ kind.label ++ ' ' :: name ++ " header".toList
  | .malformedStepShape kind name =>
      "Bad ".toList ++ kind.label ++ ' ' :: name ++ " step".toList
  | .stepPunctuation name =>
      "Bad formatting for '".toList ++ name ++
        "' step (does not end in '.' or ':')".toList
  | .stepCapitalization name =>
      "Bad formatting of '".toList ++ name ++
        "' step (should start with a capital)".toList
  | .assertFormatting name found =>
      "Bad formatting of '".toList ++ name ++
        "' step (Assert should be immediately followed by ':'; found '".toList ++
        found :: "')".toList
  | .unwrappedAlgorithmCall name =>
      "Bad formatting of '".toList ++ name ++
        "' step (algorithm call should be wrapped in braces: `\x7bMyAlgorithm(a, b, c)\x7d`)".toList
  | .nestedValueLiteral name literal =>
      "Bad formatting of '".toList ++ name ++
        "' step (algorithm call should not contain braces: `".toList ++ literal ++ "`)".toList
  | .unwrappedLiteralKeyword name =>
      "Potential bad formatting of '".toList ++ name ++
        "' step (true/false/null should be wrapped in curly braces, e.g. '\x7btrue\x7d')".toList
  | .missingIndentAfterColon => "Lacking indent".toList

def message (document : Text) (violation : Violation) : Text :=
  violation.explanation ++ " in '".toList ++ document ++
    match violation with
    | .missingBlankAfterHeader _ _ => "'".toList
    | .missingIndentAfterColon => "' following ':' character:".toList
    | _ => "':".toList

end Violation

end PseudocodeLint
