import PseudocodeLint.Rule

namespace PseudocodeLint

inductive ValueOption where
  | suffix
  | grammarDocument
deriving DecidableEq, Repr

inductive Flag where
  | strict
  | help
deriving DecidableEq, Repr

def ValueOption.name : ValueOption → Text
  | .suffix => "suffix".toList
  | .grammarDocument => "grammar-document".toList

def ValueOption.usage : ValueOption → Text
  | .suffix => "--suffix <SUFFIX>".toList
  | .grammarDocument => "--grammar-document <GRAMMAR_DOCUMENT>".toList

def Flag.name : Flag → Text
  | .strict => "strict".toList
  | .help => "help".toList

def Flag.usage (flag : Flag) : Text :=
  "--".toList ++ flag.name

inductive UsageError where
  | unexpectedArgument (argument : Text)
  | unexpectedValue (flag : Flag) (value : Text)
  | missingValue (option : ValueOption)
  | repeatedOption (option : ValueOption)
  | repeatedFlag (flag : Flag)
deriving DecidableEq, Repr

def highlight (typed : Text) : Text :=
  "\x1b[33m".toList ++ typed ++ "\x1b[0m".toList

/-- The message for a terminal, with control sequences. -/
def UsageError.message : UsageError → Text
  | .unexpectedArgument argument =>
      "error: unexpected argument '".toList ++ highlight argument ++ "' found".toList
  | .unexpectedValue flag value =>
      "error: unexpected value '".toList ++ highlight value ++ "' for '".toList ++ flag.usage ++
        "' found; no more were expected".toList
  | .missingValue option =>
      "error: a value is required for '".toList ++ option.usage ++
        "' but none was supplied".toList
  | .repeatedOption option =>
      "error: the argument '".toList ++ option.usage ++ "' cannot be used multiple times".toList
  | .repeatedFlag flag =>
      "error: the argument '".toList ++ flag.usage ++ "' cannot be used multiple times".toList

inductive Word where
  | separator
  | long (name : Text) (value? : Option Text)
  | short (letters : Text)
  | plain (text : Text)
deriving DecidableEq, Repr

def Word.ofText : Text → Word
  | ['-', '-'] => .separator
  | '-' :: '-' :: rest =>
      match rest.dropWhile (· ≠ '=') with
      | [] => .long rest none
      | _ :: value => .long (rest.takeWhile (· ≠ '=')) (some value)
  | '-' :: c :: rest => .short (c :: rest)
  | text => .plain text

structure Invocation where
  paths : List Text := []
  suffix? : Option Text := none
  grammarDocument? : Option Text := none
  strict : Bool := false
deriving DecidableEq, Repr

namespace Invocation

def value? (invocation : Invocation) : ValueOption → Option Text
  | .suffix => invocation.suffix?
  | .grammarDocument => invocation.grammarDocument?

def setValue (invocation : Invocation) (value : Text) : ValueOption → Invocation
  | .suffix => { invocation with suffix? := some value }
  | .grammarDocument => { invocation with grammarDocument? := some value }

def addPath (invocation : Invocation) (path : Text) : Invocation :=
  { invocation with paths := invocation.paths ++ [path] }

/-- Without paths, the directory `spec` is checked. -/
def patterns (invocation : Invocation) : List Text :=
  if invocation.paths = [] then ["spec".toList] else invocation.paths

def suffix (invocation : Invocation) : Text :=
  invocation.suffix?.getD ".md".toList

def policy (invocation : Invocation) : Policy :=
  let defaults : Policy := {}
  { grammarDocument := invocation.grammarDocument?.getD defaults.grammarDocument
    strict := invocation.strict }

end Invocation

inductive Request where
  | help
  | check (invocation : Invocation)
deriving DecidableEq, Repr

/-- An option that was named but has not taken effect yet, with its value once it has one. -/
structure Pending where
  option : ValueOption
  value? : Option Text := none
deriving DecidableEq, Repr

/-- The state between two arguments. -/
structure ArgumentReader where
  invocation : Invocation := {}
  pending? : Option Pending := none
  /-- Everything after a separator is a path. -/
  pathsOnly : Bool := false
deriving DecidableEq, Repr

namespace ArgumentReader

def apply (invocation : Invocation) (option : ValueOption) (value : Text) :
    Except UsageError Invocation :=
  if (invocation.value? option).isSome then .error (.repeatedOption option)
  else .ok (invocation.setValue value option)

/-- Lets the pending option take effect. -/
def settle (reader : ArgumentReader) : Except UsageError ArgumentReader :=
  match reader.pending? with
  | none => .ok reader
  | some ⟨option, none⟩ => .error (.missingValue option)
  | some ⟨option, some value⟩ => do
      let invocation ← apply reader.invocation option value
      return { reader with invocation, pending? := none }

def readPath (reader : ArgumentReader) (path : Text) : Except UsageError ArgumentReader := do
  let reader ← reader.settle
  return { reader with invocation := reader.invocation.addPath path }

/-- Takes a text that is no option: the value that an option waits for, or a path. -/
def readPlain (reader : ArgumentReader) (text : Text) : Except UsageError ArgumentReader :=
  match reader.pending? with
  | some ⟨option, none⟩ => .ok { reader with pending? := some ⟨option, some text⟩ }
  | _ => reader.readPath text

def readOption (reader : ArgumentReader) (option : ValueOption) (value? : Option Text) :
    Except UsageError ArgumentReader := do
  let reader ← reader.settle
  match value? with
  | some value => return { reader with invocation := ← apply reader.invocation option value }
  | none => return { reader with pending? := some { option } }

/-- Takes a flag; `none` asks for help. -/
def readFlag (reader : ArgumentReader) (flag : Flag) :
    Except UsageError (Option ArgumentReader) := do
  let reader ← reader.settle
  match flag with
  | .help => return none
  | .strict =>
      if reader.invocation.strict then .error (.repeatedFlag .strict)
      else return some { reader with invocation := { reader.invocation with strict := true } }

def readLong (reader : ArgumentReader) (name : Text) (value? : Option Text) :
    Except UsageError (Option ArgumentReader) :=
  match [ValueOption.suffix, .grammarDocument].find? (·.name = name),
      [Flag.strict, .help].find? (·.name = name), value? with
  | some option, _, _ => some <$> reader.readOption option value?
  | none, some flag, none => reader.readFlag flag
  | none, some flag, some value => .error (.unexpectedValue flag value)
  | none, none, _ => .error (.unexpectedArgument ("--".toList ++ name))

/-- Only `-h` is known among the short options, so the first letter decides. -/
def readShort (reader : ArgumentReader) (letters : Text) :
    Except UsageError (Option ArgumentReader) :=
  match letters with
  | 'h' :: _ => reader.readFlag .help
  | _ => .error (.unexpectedArgument ('-' :: letters.take 1))

/-- Takes one argument; `none` asks for help. -/
def read (reader : ArgumentReader) (argument : Text) :
    Except UsageError (Option ArgumentReader) :=
  if reader.pathsOnly then some <$> reader.readPath argument
  else
    match Word.ofText argument with
    | .separator => .ok (some { reader with pathsOnly := true })
    | .long name value? => reader.readLong name value?
    | .short letters => reader.readShort letters
    | .plain text => some <$> reader.readPlain text

/-- Takes all arguments; the first fault or request for help decides. -/
def readAll (reader : ArgumentReader) : List Text → Except UsageError Request
  | [] => do return .check (← reader.settle).invocation
  | argument :: rest => do
      match ← reader.read argument with
      | none => return .help
      | some next => next.readAll rest

end ArgumentReader

def readArguments (arguments : List Text) : Except UsageError Request :=
  ArgumentReader.readAll {} arguments

def helpText : Text :=
"Check formatting of pseudocode algorithms in specification documents

Usage: algocheck [OPTIONS] [PATHS]...

Arguments:
  [PATHS]...  Documents, directories, or glob patterns to check [default: spec]

Options:
      --suffix <SUFFIX>
          File suffix to pick up when scanning a directory [default: .md]
      --grammar-document <GRAMMAR_DOCUMENT>
          File name of the document whose grammar productions are also checked [default: \"Section 2 -- Language.md\"]
      --strict
          Treat advisory rules (literal styling, indent after ':') as errors
  -h, --help
          Print help
".toList

end PseudocodeLint
