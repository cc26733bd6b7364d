import PseudocodeLint.Nesting
import PseudocodeLint.Text.Alphanumeric
import PseudocodeLint.Text.Blank

namespace PseudocodeLint

/-! Patterns for the value of a field: numbers with a plus sign, and regular expressions.  Since a
brace ends a pattern it holds no closing brace, and so no counted repetition and no escape in
braces.  A scan goes over an expression once and knows what may follow what it has read. -/

structure PatternFlags where
  /-- Blanks and comments are skipped. -/
  verbose : Bool := false
  /-- Sets and boundaries range over all characters, and not over ASCII alone. -/
  unicode : Bool := true
deriving DecidableEq, Repr

namespace PatternFlags

def switch (letter : Char) (letters : Text) (current : Bool) : Bool :=
  if (letters.takeWhile (· ≠ '-')).contains letter then true
  else if letters.contains letter then false
  else current

/-- The flags after modifiers, of which those behind a minus sign are switched off. -/
def modify (flags : PatternFlags) (letters : Text) : PatternFlags where
  verbose := switch 'x' letters flags.verbose
  unicode := switch 'u' letters flags.unicode

/-- Each modifier stands once, and something follows a minus sign. -/
def areModifiers (letters : Text) : Bool :=
  letters.all "imsUuRx-".toList.contains && decide letters.Nodup && letters.getLast? ≠ some '-'

end PatternFlags

inductive Atom where
  | character (code : Nat)
  | set
  | position
deriving DecidableEq, Repr

/-- Where a scan stands in a bracketed set. -/
inductive SetPlace where
  | opened
  | leading (dashed : Bool)
  | item
  | afterAtom (atom : Atom)
  | rangeEnd (first : Atom)
deriving DecidableEq, Repr

inductive Unfinished where
  | group
  | property
  | hexadecimal (isByte : Bool) (digitsLeft value : Nat)
deriving DecidableEq, Repr

structure PatternScan where
  flags : PatternFlags := {}
  /-- What the innermost open group holds. -/
  level : NestingLevel := {}
  /-- The flags and the contents around each open group, the innermost first. -/
  outer : List (PatternFlags × NestingLevel) := []
  groupNames : List Text := []
  /-- Whether there is something that an operator can repeat. -/
  repeatable : Bool := false
  /-- What each open bracket holds, the innermost first. -/
  sets : List NestingLevel := []
  setPlace : SetPlace := .item
  unfinished? : Option Unfinished := none
deriving DecidableEq, Repr

namespace PatternScan

/-- Notes a complete element, of some depth, in the innermost set or else the innermost group. -/
def addElement (scan : PatternScan) (depth : Nat) : PatternScan :=
  match scan.sets with
  | [] => { scan with level := scan.level.push depth }
  | set :: sets => { scan with sets := set.push depth :: sets }

/-- Takes a complete element.  A set holds no positions, its ranges run between characters and
upwards, and without Unicode it holds ASCII only. -/
def accept (scan : PatternScan) (atom : Atom) : Option PatternScan :=
  let scan := { scan with unfinished? := none }
  if scan.sets = [] then some { scan.addElement 0 with repeatable := true }
  else
    match scan.setPlace, atom with
    | _, .position => none
    | .rangeEnd (.character first), .character last =>
        if first ≤ last && (scan.flags.unicode || last < 0x80) then
          some { scan with setPlace := .item }
        else none
    | .rangeEnd _, _ => none
    | _, .character code =>
        if scan.flags.unicode || code < 0x80 then
          some { scan.addElement 0 with setPlace := .afterAtom atom }
        else none
    | _, .set => some { scan.addElement 0 with setPlace := .afterAtom atom }

def hexadecimalDigit? (c : Char) : Option Nat :=
  if c.isDigit then some (c.toNat - '0'.toNat)
  else if 'a' ≤ c ∧ c ≤ 'f' then some (c.toNat - 'a'.toNat + 10)
  else if 'A' ≤ c ∧ c ≤ 'F' then some (c.toNat - 'A'.toNat + 10)
  else none

/-- Takes a digit of a code.  Without Unicode, two digits mean a byte, and only bytes of ASCII are
characters. -/
def readHexadecimal (scan : PatternScan) (isByte : Bool) (digitsLeft value : Nat) (c : Char) :
    Option PatternScan := do
  let value := 16 * value + (← hexadecimalDigit? c)
  if 1 < digitsLeft then
    return { scan with unfinished? := some (.hexadecimal isByte (digitsLeft - 1) value) }
  else if !decide value.isValidChar || isByte && !scan.flags.unicode && 0x80 ≤ value then none
  else scan.accept (.character value)

def readProperty (scan : PatternScan) (c : Char) : Option PatternScan :=
  if scan.flags.unicode && "CLMNPSZclmnpsz".toList.contains c then scan.accept .set else none

/-- Takes the character after a backslash.  Boundaries between words are only known for ASCII;
letters and digits without a meaning of their own cannot be escaped. -/
def readEscaped (scan : PatternScan) (c : Char) : Option PatternScan :=
  let await (unfinished : Unfinished) := some { scan with unfinished? := some unfinished }
  let unicode := scan.flags.unicode
  match c with
  | 'x' => await (.hexadecimal true 2 0)
  | 'u' => await (.hexadecimal false 4 0)
  | 'U' => await (.hexadecimal false 8 0)
  | 'p' | 'P' => await .property
  | 'd' | 's' | 'w' => scan.accept .set
  | 'D' | 'S' | 'W' => if unicode then scan.accept .set else none
  | 'b' | 'B' | '<' | '>' => if unicode then none else scan.accept .position
  | 'A' | 'z' => scan.accept .position
  | 'a' => scan.accept (.character 0x7)
  | 'f' => scan.accept (.character 0xC)
  | 'n' => scan.accept (.character 0xA)
  | 'r' => scan.accept (.character 0xD)
  | 't' => scan.accept (.character 0x9)
  | 'v' => scan.accept (.character 0xB)
  | _ => if c.toNat < 0x80 && !c.isAlphanum then scan.accept (.character c.toNat) else none

/-- Takes a character that is no operator.  The number tells how many characters of the rest
belong to it. -/
def readAtom (scan : PatternScan) (c : Char) (rest : Text) : Option (PatternScan × Nat) :=
  if c = '\\' then rest.head?.bind fun escaped => (scan.readEscaped escaped).map (·, 1)
  else (scan.accept (.character c.toNat)).map (·, 0)

def openGroup (scan : PatternScan) (flags : PatternFlags) : PatternScan :=
  { scan with
    flags
    level := {}
    outer := (scan.flags, scan.level) :: scan.outer
    repeatable := false
    unfinished? := none }

def isGroupName : Text → Bool
  | [] => false
  | first :: rest =>
      (first = '_' || isAlphabetic first) &&
        rest.all fun c => isAlphanumeric c || "_.[]".toList.contains c

def readGroupName (scan : PatternScan) (rest : Text) : Option (PatternScan × Nat) :=
  let name := rest.takeWhile (· ≠ '>')
  if name.length < rest.length && isGroupName name && !scan.groupNames.contains name then
    some ({ scan.openGroup scan.flags with groupNames := name :: scan.groupNames },
      name.length + 1)
  else none

/-- Reads what follows the question mark of a group: a name, or modifiers, which hold for the
group or else for all that follows in the group around them. -/
def readGroupKind (scan : PatternScan) (rest : Text) : Option (PatternScan × Nat) :=
  match rest with
  | '<' :: after => (scan.readGroupName after).map fun (scan, count) => (scan, count + 1)
  | 'P' :: '<' :: after => (scan.readGroupName after).map fun (scan, count) => (scan, count + 2)
  | _ =>
      let letters := rest.takeWhile fun c => c ≠ ':' ∧ c ≠ ')'
      let flags := scan.flags.modify letters
      if !PatternFlags.areModifiers letters then none
      else
        match rest.drop letters.length with
        | ':' :: _ => some (scan.openGroup flags, letters.length + 1)
        | ')' :: _ =>
            if letters = [] then none
            else some ({ scan.addElement 0 with flags, repeatable := false, unfinished? := none },
              letters.length + 1)
        | _ => none

def closeGroup (scan : PatternScan) : Option PatternScan :=
  match scan.outer with
  | [] => none
  | (flags, around) :: outer =>
      some { scan with
        flags
        level := around.push (scan.level.depth + 1)
        outer
        repeatable := true }

/-- Takes an operator that repeats the element before it, which may be repeated already. -/
def repeat? (scan : PatternScan) : Option PatternScan :=
  if scan.repeatable then some { scan with level := scan.level.wrapLast } else none

def openSet (scan : PatternScan) : PatternScan :=
  { scan with sets := {} :: scan.sets, setPlace := .opened }

def closeSet (scan : PatternScan) : PatternScan :=
  match scan.sets with
  | [] => scan
  | set :: sets =>
      let around := { scan with sets, setPlace := .item, repeatable := true }
      around.addElement (set.depth + 1)

/-- Takes an operator on sets; what the set holds so far is its left operand. -/
def splitSet (scan : PatternScan) : PatternScan :=
  match scan.sets with
  | [] => scan
  | set :: sets => { scan with sets := set.nextOperand :: sets }

/-- Takes a character outside sets.  A question mark right after an operator belongs to it. -/
def readOutside (scan : PatternScan) (c : Char) (rest : Text) : Option (PatternScan × Nat) :=
  match c with
  | '(' => some ({ scan with unfinished? := some .group }, 0)
  | ')' => scan.closeGroup.map (·, 0)
  | '|' => some ({ scan with level := scan.level.nextAlternative, repeatable := false }, 0)
  | '[' => some (scan.openSet, 0)
  | '?' | '*' | '+' => scan.repeat?.map (·, if rest.head? = some '?' then 1 else 0)
  | '{' => none
  | '.' => if scan.flags.unicode then (scan.accept .set).map (·, 0) else none
  | '^' | '$' => (scan.accept .position).map (·, 0)
  | _ => scan.readAtom c rest

def namedSets : List Text :=
  ["alnum", "alpha", "ascii", "blank", "cntrl", "digit", "graph", "lower", "print", "punct",
    "space", "upper", "word", "xdigit"].map String.toList

/-- Reads a named set such as `[:alpha:]` behind its bracket: whether it is a complement, and its
length. -/
def namedSet? (rest : Text) : Option (Bool × Nat) :=
  let isComplement := (rest.drop 1).head? = some '^'
  let lead := if isComplement then 2 else 1
  let name := (rest.drop lead).takeWhile (· ≠ ':')
  let count := lead + name.length
  if rest.head? = some ':' && namedSets.contains name && ":]".toList.isPrefixOf (rest.drop count)
  then some (isComplement, count + 2)
  else none

/-- Reads an item of a set, an operator on sets or a closing bracket.  A complement needs Unicode,
since it is not within ASCII. -/
def readItem (scan : PatternScan) (c : Char) (rest : Text) : Option (PatternScan × Nat) :=
  let scan := { scan with setPlace := .item }
  if c = '[' then
    match namedSet? rest with
    | some (isComplement, count) =>
        if isComplement && !scan.flags.unicode then none
        else some (scan.addElement 0, count)
    | none => some (scan.openSet, 0)
  else if c = ']' then some (scan.closeSet, 0)
  else if "&-~".toList.contains c && rest.head? = some c then some (scan.splitSet, 1)
  else scan.readAtom c rest

/-- The next character that counts.  Of a comment, only its mark is passed over. -/
def nextVisible? (verbose : Bool) (rest : Text) : Option Char :=
  if !verbose then rest.head?
  else
    let visible :=
      match rest.dropWhile isBlank with
      | '#' :: comment => comment.dropWhile isBlank
      | visible => visible
    visible.head?.or rest.head?

/-- Leading dashes, and a bracket before everything else, are members of the set. -/
def readLeading (scan : PatternScan) (dashed : Bool) (c : Char) (rest : Text) :
    Option (PatternScan × Nat) :=
  if c = '-' then some ({ scan.addElement 0 with setPlace := .leading true }, 0)
  else if c = ']' && !dashed then some ({ scan.addElement 0 with setPlace := .item }, 0)
  else scan.readItem c rest

def readInSet (scan : PatternScan) (c : Char) (rest : Text) : Option (PatternScan × Nat) :=
  match scan.setPlace with
  | .opened =>
      if c ≠ '^' then scan.readLeading false c rest
      else if scan.flags.unicode then some ({ scan with setPlace := .leading false }, 0)
      else none
  | .leading dashed => scan.readLeading dashed c rest
  | .item => scan.readItem c rest
  | .afterAtom atom =>
      let next? := nextVisible? scan.flags.verbose rest
      if c = '-' && next? ≠ some ']' && next? ≠ some '-' then
        some ({ scan with setPlace := .rangeEnd atom }, 0)
      else scan.readItem c rest
  | .rangeEnd _ => scan.readAtom c rest

def read (scan : PatternScan) (c : Char) (rest : Text) : Option (PatternScan × Nat) :=
  if scan.flags.verbose && isBlank c then some (scan, 0)
  else if scan.flags.verbose && c = '#' then some (scan, (rest.takeWhile (· ≠ '\n')).length)
  else
    match scan.unfinished? with
    | some (.hexadecimal isByte digitsLeft value) =>
        (scan.readHexadecimal isByte digitsLeft value c).map (·, 0)
    | some .property => (scan.readProperty c).map (·, 0)
    | some .group =>
        if c = '?' then scan.readGroupKind rest
        else (scan.openGroup scan.flags).readOutside c rest
    | none => if scan.sets = [] then scan.readOutside c rest else scan.readInSet c rest

def deepestNesting : Nat := 250

def isFinished (scan : PatternScan) : Bool :=
  scan.outer = [] && scan.sets = [] && scan.unfinished? = none &&
    scan.level.depth ≤ deepestNesting

def accepts (scan : PatternScan) : Text → Bool
  | [] => scan.isFinished
  | c :: rest =>
      match scan.read c rest with
      | none => false
      | some (next, count) => next.accepts (rest.drop count)
termination_by text => text.length
decreasing_by
  simp only [List.length_drop, List.length_cons]
  omega

end PatternScan

def isRegularExpression (text : Text) : Bool :=
  PatternScan.accepts {} text

/-- Whether a text is digits with at most one point among them, and maybe an exponent. -/
def isDecimal (text : Text) : Bool :=
  let whole := text.takeWhile Char.isDigit
  let afterWhole := text.drop whole.length
  let afterPoint := if afterWhole.head? = some '.' then afterWhole.drop 1 else afterWhole
  let fraction := if afterWhole.head? = some '.' then afterPoint.takeWhile Char.isDigit else []
  (whole ≠ [] || fraction ≠ []) &&
    match afterPoint.drop fraction.length with
    | [] => true
    | mark :: exponent =>
        let digits :=
          if exponent.head? = some '+' || exponent.head? = some '-' then exponent.drop 1
          else exponent
        (mark = 'e' || mark = 'E') && digits ≠ [] && digits.all Char.isDigit

/-- Numbers may also be infinite or undefined, by their names in either case. -/
def isNumber (text : Text) : Bool :=
  isDecimal text ||
    ["inf".toList, "infinity".toList, "nan".toList].contains (text.map Char.toLower)

/-- A number is also a regular expression, unless a plus sign leads it. -/
def isFieldPattern (text : Text) : Bool :=
  text.head? = some '+' && isNumber (text.drop 1) || isRegularExpression text

end PseudocodeLint
