import PseudocodeLint.FieldPattern
import PseudocodeLint.Text.ByteSlice

namespace PseudocodeLint

/-! Log filters.  A filter is a list of directives such as `warn` or `store=debug`, separated by
commas; a directive for a target also covers every target whose name it begins, and one for a
field, as in `store[{key}]`, only the events with that field. -/

inductive Level where
  | error
  | warn
  | info
  | debug
  | trace
deriving DecidableEq, Repr

def Level.verbosity : Level → Nat
  | .error => 1
  | .warn => 2
  | .info => 3
  | .debug => 4
  | .trace => 5

structure EventKind where
  target : Text
  level : Level
  fields : List Text
deriving DecidableEq, Repr

/-- A field that a directive asks for, by its name and maybe by a pattern of its value. -/
structure FieldCondition where
  name : Text
  pattern? : Option Text := none
deriving DecidableEq, Repr

structure Directive where
  target? : Option Text := none
  span? : Option Text := none
  field? : Option FieldCondition := none
  /-- The least severe level that is logged; none is logged at zero. -/
  verbosity : Nat := Level.trace.verbosity
deriving DecidableEq, Repr

structure LogFilter where
  directives : List Directive
deriving DecidableEq, Repr

def levelNames : List (Text × Nat) :=
  [("off".toList, 0), ("error".toList, 1), ("warn".toList, 2), ("info".toList, 3),
    ("debug".toList, 4), ("trace".toList, 5)]

/-- A number from zero to five, with a plus sign or leading zeros if wanted. -/
def levelNumber? (text : Text) : Option Nat :=
  let digits := if text.head? = some '+' then text.drop 1 else text
  let value := digits.foldl (fun value c => 10 * value + (c.toNat - '0'.toNat)) 0
  if digits ≠ [] ∧ digits.all Char.isDigit ∧ value ≤ 5 then some value else none

def readLevel? (text : Text) : Option Nat :=
  (levelNumber? text).or (levelNames.lookup (text.map Char.toLower))

/-- Reads a field's name and the pattern between its first two equals signs, if it has one. -/
def FieldCondition.read? (text : Text) : Option FieldCondition :=
  if text = [] then none
  else
    match splitAtEach '=' text with
    | name :: pattern :: _ =>
        if isFieldPattern pattern then some { name, pattern? := some pattern } else none
    | _ => some { name := text }

namespace Directive

/-- Reads the level after an equals sign; when it is missing everything is logged. -/
def readAssigned? (directive : Directive) (text : Text) : Option Directive :=
  if text = [] then some directive
  else (readLevel? text).map fun verbosity => { directive with verbosity }

def ofWord (text : Text) : Directive :=
  match readLevel? text with
  | some verbosity => { verbosity }
  | none => { target? := some text }

/-- Reads what follows a closing bracket.  `position` is where the search has come to. -/
def readAfterBracket? (directive : Directive) (piece : Text) (position : Nat) :
    Text → Option Directive
  | [] => some directive
  | '=' :: _ => do directive.readAssigned? (← dropBytes? (position + 1) piece)
  | _ => none

/-- Reads a span and a field from the opening bracket on. -/
def readBrackets? (target? : Option Text) (piece : Text) (position : Nat) (inside : Text) :
    Option Directive := do
  let span := inside.takeWhile fun c => c ≠ ']' ∧ c ≠ '\x7b'
  let spanEnd := position + utf8Length span
  let spanText ← byteSlice? position spanEnd piece
  match inside.drop span.length with
  | ']' :: after =>
      readAfterBracket? { target?, span? := some spanText } piece (spanEnd + 1) after
  | _ :: fields =>
      let field := fields.takeWhile (· ≠ '\x7d')
      let fieldEnd := spanEnd + 1 + utf8Length field
      match fields.drop field.length with
      | _ :: ']' :: after =>
          let condition ← FieldCondition.read? (← byteSlice? (spanEnd + 1) fieldEnd piece)
          let span? := if spanText = [] then none else some spanText
          readAfterBracket? { target?, span?, field? := some condition } piece (fieldEnd + 2) after
      | _ => none
  | [] => none

def startsDirective (c : Char) : Bool :=
  isAlphanumeric c || c = '-' || c = ':' || c = '_'

/-- Reads a piece between commas.  Blanks around it are skipped when the piece is searched, but
the parts found are cut from the piece as it stands. -/
def read? (piece : Text) : Option Directive := do
  let searched := trimEnd (trimStart piece)
  match searched with
  | [] => none
  | '[' :: inside => readBrackets? none piece 1 inside
  | c :: _ =>
      if !startsDirective c then none
      else
        let target := searched.takeWhile fun c => c ≠ '=' ∧ c ≠ '['
        let targetEnd := utf8Length target
        match searched.drop target.length with
        | [] => return ofWord piece
        | '=' :: _ =>
            readAssigned? { target? := some (← byteSlice? 0 targetEnd piece) }
              (← dropBytes? (targetEnd + 1) piece)
        | _ :: inside =>
            readBrackets? (some (← byteSlice? 0 targetEnd piece)) piece (targetEnd + 1) inside

/-- Directives for spans, or for values, only concern what happens within spans. -/
def appliesOutsideSpans (directive : Directive) : Bool :=
  directive.span?.isNone && directive.field?.all (·.pattern?.isNone)

def covers (kind : EventKind) (directive : Directive) : Bool :=
  directive.appliesOutsideSpans && directive.target?.all (·.isPrefixOf kind.target) &&
    directive.field?.all fun field => kind.fields.contains field.name

/-- Where a directive stands among those that cover an event: a longer target counts first and
any target more than none, then any field more than none, and last the field's name. -/
def specificity (directive : Directive) : List Nat :=
  let targetLength :=
    match directive.target? with
    | none => 0
    | some target => utf8Length target + 1
  let fieldKey :=
    match directive.field? with
    | none => []
    | some field => 1 :: field.name.map Char.toNat
  targetLength :: fieldKey

end Directive

namespace LogFilter

def atLevel (level : Level) : LogFilter :=
  ⟨[{ verbosity := level.verbosity }]⟩

/-- Reads a setting; one that is empty or has no directives logs errors only. -/
def read? (setting : Text) : Option LogFilter := do
  let pieces := (splitAtEach ',' setting).filter (· ≠ [])
  if pieces = [] then return atLevel .error
  else return ⟨← pieces.mapM Directive.read?⟩

/-- A setting that is missing or malformed logs warnings and errors. -/
def ofSetting (setting? : Option Text) : LogFilter :=
  (setting?.bind read?).getD (atLevel .warn)

/-- The most specific directive that covers a kind of event; of two equal ones, the later. -/
def directive? (filter : LogFilter) (kind : EventKind) : Option Directive :=
  (filter.directives.filter (Directive.covers kind)).foldl
    (fun best? next =>
      if best?.any fun best => next.specificity.lex best.specificity then best? else some next)
    none

def admits (filter : LogFilter) (kind : EventKind) : Bool :=
  (filter.directive? kind).any (kind.level.verbosity ≤ ·.verbosity)

end LogFilter

end PseudocodeLint
