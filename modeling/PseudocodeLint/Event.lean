import PseudocodeLint.LogFilter

namespace PseudocodeLint

inductive Event where
  | noFilesMatched (pattern : Text)
  | linted (document : Text) (lines diagnostics : Nat)
deriving DecidableEq, Repr

namespace Event

def level : Event → Level
  | .noFilesMatched _ => .warn
  | .linted _ _ _ => .debug

def target : Event → Text
  | .noFilesMatched _ => "algocheck".toList
  | .linted _ _ _ => "algocheck::lint".toList

def fields : Event → List Text
  | .noFilesMatched _ => ["message".toList, "pattern".toList]
  | .linted _ _ _ => ["message", "document", "lines", "diagnostics"].map String.toList

def kind (event : Event) : EventKind where
  target := event.target
  level := event.level
  fields := event.fields

def description : Event → Text
  | .noFilesMatched pattern => "no files matched pattern=".toList ++ pattern
  | .linted document lines diagnostics =>
      "linted document document=".toList ++ document ++
        s!" lines={lines} diagnostics={diagnostics}".toList

def render (event : Event) : Text :=
  let label :=
    match event.level with
    | .error => "ERROR "
    | .warn => "WARN "
    | .info => "INFO "
    | .debug => "DEBUG "
    | .trace => "TRACE "
  label.toList ++ event.target ++ ": ".toList ++ event.description

end Event

def LogFilter.keeps (filter : LogFilter) (event : Event) : Bool :=
  filter.admits event.kind

end PseudocodeLint
