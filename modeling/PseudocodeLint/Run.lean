import PseudocodeLint.CommandLine
import PseudocodeLint.ControlSequence
import PseudocodeLint.Report
import PseudocodeLint.Selection

namespace PseudocodeLint

structure RunResult where
  exitCode : Nat
  output : Text := []
  log : List Event := []
  failure : Text := []
deriving DecidableEq, Repr

def Document.lintedEvent (policy : Policy) (document : Document) : Event :=
  .linted document.name document.lines.length (lintDocument policy document).length

def Outcome.exitCode (outcome : Outcome) : Nat :=
  if outcome.passed then 0 else 1

def selectDocuments (tree : FileTree) (invocation : Invocation) :
    List Event × Except Failure (List Document) :=
  let (events, files) := selectFiles tree invocation.suffix invocation.patterns
  (events, files.bind (readDocuments tree))

/-- Nothing is printed before every document has been read. -/
def check (tree : FileTree) (filter : LogFilter) (invocation : Invocation) : RunResult :=
  let (events, selected) := selectDocuments tree invocation
  match selected with
  | .error failure => {
      exitCode := 1
      log := events.filter filter.keeps
      failure := failure.message }
  | .ok documents =>
      let outcome := lintDocuments invocation.policy documents
      let linted := documents.map (Document.lintedEvent invocation.policy)
      { exitCode := outcome.exitCode
        output := outcome.render
        log := (events ++ linted).filter filter.keeps }

/-- Of a usage error the first line is shown, without control sequences. -/
def usageFailure (error : UsageError) : RunResult where
  exitCode := 2
  failure := (withoutControls error.message).takeWhile (· ≠ '\n')

def run (tree : FileTree) (logSetting? : Option Text) (arguments : List Text) : RunResult :=
  match readArguments arguments with
  | .error error => usageFailure error
  | .ok .help => { exitCode := 0, output := helpText }
  | .ok (.check invocation) => check tree (LogFilter.ofSetting logSetting?) invocation

end PseudocodeLint
