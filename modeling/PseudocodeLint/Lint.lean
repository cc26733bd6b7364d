import PseudocodeLint.Indent
import PseudocodeLint.LogicalLine
import PseudocodeLint.Sorting

namespace PseudocodeLint

structure Document where
  name : Text
  text : Text
deriving DecidableEq, Repr

structure Diagnostic where
  rule : Rule
  severity : Severity
  message : Text
  /-- The offending logical lines. -/
  snippets : List Text
  line : Nat
deriving DecidableEq, Repr

def Diagnostic.isEnforced (diagnostic : Diagnostic) : Bool :=
  diagnostic.severity = .enforced

structure DocumentReport where
  document : Text
  diagnostics : List Diagnostic
deriving DecidableEq, Repr

structure Outcome where
  reports : List DocumentReport := []
deriving DecidableEq, Repr

namespace Outcome

def diagnostics (outcome : Outcome) : List Diagnostic :=
  outcome.reports.flatMap DocumentReport.diagnostics

/-- A run passes unless an enforced rule is broken. -/
def passed (outcome : Outcome) : Bool :=
  !outcome.diagnostics.any Diagnostic.isEnforced

end Outcome

/-- All findings in the order in which they arise: block after block, then the indents. -/
def findings (lines : List Text) (inGrammar : Bool) : List Finding :=
  (blocks lines inGrammar).flatMap (Block.findings lines) ++ indentFindings lines

/-- Findings at one line stay in the order in which they arose. -/
def sortByLine (found : List Finding) : List Finding :=
  stableSort (fun left right => left.line < right.line) found

def Finding.toDiagnostic (policy : Policy) (document : Text) (finding : Finding) : Diagnostic where
  rule := finding.violation.rule
  severity := policy.severity finding.violation.rule
  message := finding.violation.message document
  snippets := finding.snippets
  line := finding.line

def Document.isGrammar (document : Document) (policy : Policy) : Bool :=
  document.name = policy.grammarDocument

def Document.lines (document : Document) : List Text :=
  logicalLines document.text

/-- The diagnostics of a document, in the order of its lines. -/
def lintDocument (policy : Policy) (document : Document) : List Diagnostic :=
  (sortByLine (findings document.lines (document.isGrammar policy))).map
    (Finding.toDiagnostic policy document.name)

def lintDocuments (policy : Policy) (documents : List Document) : Outcome where
  reports := documents.map fun document => ⟨document.name, lintDocument policy document⟩

end PseudocodeLint
