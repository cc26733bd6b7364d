import PseudocodeLint.Text.Basic

namespace PseudocodeLint

inductive Severity where
  | enforced
  | advisory
deriving DecidableEq, Repr

inductive Rule where
  | headerWhitespace
  | missingBlankAfterHeader
  | malformedStepShape
  | stepPunctuation
  | stepCapitalization
  | assertFormatting
  | unwrappedAlgorithmCall
  | nestedValueLiteral
  | unwrappedLiteralKeyword
  | missingIndentAfterColon
deriving DecidableEq, Repr

/-- The severity outside strict mode. -/
def Rule.defaultSeverity : Rule → Severity
  | .unwrappedLiteralKeyword | .missingIndentAfterColon => .advisory
  | _ => .enforced

structure Policy where
  /-- The name of the document whose grammar productions are checked too. -/
  grammarDocument : Text := "Section 2 -- Language.md".toList
  /-- Enforces the advisory rules. -/
  strict : Bool := false
deriving DecidableEq, Repr

def Policy.severity (policy : Policy) (rule : Rule) : Severity :=
  if policy.strict then .enforced else rule.defaultSeverity

end PseudocodeLint
