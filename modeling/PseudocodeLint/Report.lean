import PseudocodeLint.Lint
import PseudocodeLint.Quoted

namespace PseudocodeLint

def endLine (line : Text) : Text :=
  line ++ ['\n']

def Diagnostic.render (diagnostic : Diagnostic) : Text :=
  endLine diagnostic.message ++ diagnostic.snippets.flatMap (endLine ∘ quote) ++ endLine []

def Outcome.summary (outcome : Outcome) : Text :=
  if outcome.passed then "Everything looks okay!".toList
  else "Please resolve the errors detailed above.".toList

def Outcome.render (outcome : Outcome) : Text :=
  outcome.diagnostics.flatMap Diagnostic.render ++ endLine outcome.summary

end PseudocodeLint
