import PseudocodeLint.Opening
import PseudocodeLint.Step
import PseudocodeLint.Violation

namespace PseudocodeLint

/-- A violation at a logical line, with the lines that show it. -/
structure Finding where
  line : Nat
  violation : Violation
  snippets : List Text
deriving DecidableEq, Repr

/-- What is wrong with one step, in the order of the rules. -/
def stepViolations (kind : BlockKind) (name step : Text) : List Violation :=
  let item? := Item.read? step
  (if endsSentence step then [] else [.stepPunctuation name]) ++
  (if item?.any Item.startsLowercase then [.stepCapitalization name] else []) ++
  ((item?.bind Item.assertFollower?).map (.assertFormatting name)).toList ++
  (match kind with
    | .algorithm =>
        (if hasBareCall step then [.unwrappedAlgorithmCall name] else []) ++
        (nestedLiterals step).map (.nestedValueLiteral name)
    | .grammar => []) ++
  (if hasBareKeyword step then [.unwrappedLiteralKeyword name] else [])

/-- A header and what it opens. -/
structure Block where
  header : Nat
  opening : Opening
deriving DecidableEq, Repr

namespace Block

def kind (block : Block) : BlockKind :=
  match block.opening with
  | .algorithm _ _ => .algorithm
  | .grammar _ _ _ _ => .grammar

def name (block : Block) : Text :=
  match block.opening with
  | .algorithm name _ => name
  | .grammar name _ _ _ => name

/-- An algorithm's steps start two lines below its header, those of a production on the line
after the blank that ends its definition. -/
def stepsStart? (block : Block) : Option Nat :=
  match block.opening with
  | .algorithm _ _ => some (block.header + 2)
  | .grammar _ _ stop hasSteps => if hasSteps then some (stop + 1) else none

/-- The unbroken run of items from a line on. -/
def stepRun (lines : List Text) (start : Nat) : List Text :=
  (lines.drop start).takeWhile isItem

/-- The line that ends the run of items. -/
def stepsEnd (lines : List Text) (start : Nat) : Nat :=
  start + (stepRun lines start).length

def hasBlankAfterHeader (lines : List Text) (header : Nat) : Bool :=
  lines[header + 1]? = some []

/-- The line at which the search for the next block goes on.  A line that stands where the blank
after a header is missing may open a block itself. -/
def resume (lines : List Text) (block : Block) : Nat :=
  match block.opening with
  | .algorithm _ _ =>
      if hasBlankAfterHeader lines block.header then stepsEnd lines (block.header + 2)
      else block.header + 1
  | .grammar _ _ stop hasSteps => if hasSteps then stepsEnd lines (stop + 1) else stop

/-- A finding that quotes the header. -/
def headerFinding (lines : List Text) (block : Block) (violation : Violation) : Finding :=
  ⟨block.header, violation, lines[block.header]?.toList⟩

def missingBlankFindings (lines : List Text) (block : Block) : List Finding :=
  if hasBlankAfterHeader lines block.header then []
  else [block.headerFinding lines (.missingBlankAfterHeader block.kind block.name)]

/-- Every algorithm needs a blank line below its header. -/
def headerFindings (lines : List Text) (block : Block) : List Finding :=
  match block.opening with
  | .algorithm name blankGap =>
      (if blankGap then [block.headerFinding lines (.headerWhitespace name)] else []) ++
        block.missingBlankFindings lines
  | .grammar _ needsBlank _ _ => if needsBlank then block.missingBlankFindings lines else []

theorem headerFindings_algorithm (lines : List Text) (header : Nat) (name : Text)
    (blankGap : Bool) :
    headerFindings lines ⟨header, .algorithm name blankGap⟩ =
      (if blankGap then [⟨header, .headerWhitespace name, lines[header]?.toList⟩] else []) ++
        if hasBlankAfterHeader lines header then []
        else [⟨header, .missingBlankAfterHeader .algorithm name, lines[header]?.toList⟩] :=
  rfl

def stepFindings (block : Block) (step : Text) (line : Nat) : List Finding :=
  (stepViolations block.kind block.name step).map (⟨line, ·, [step]⟩)

/-- The line that ends the run of items is malformed unless it is empty. -/
def endFindings (lines : List Text) (block : Block) (line : Nat) : List Finding :=
  match lines[line]? with
  | none | some [] => []
  | some text => [⟨line, .malformedStepShape block.kind block.name, [text]⟩]

def bodyFindings (lines : List Text) (block : Block) (start : Nat) : List Finding :=
  ((stepRun lines start).zipIdx start).flatMap (fun (step, line) => block.stepFindings step line) ++
    block.endFindings lines (stepsEnd lines start)

def findings (lines : List Text) (block : Block) : List Finding :=
  block.headerFindings lines ++ block.stepsStart?.toList.flatMap (block.bodyFindings lines)

end Block

/-- The blocks found from `cursor` on, each search resuming where the last block says. -/
def blocksFrom (lines : List Text) (inGrammar : Bool) (cursor : Nat) : List Block :=
  if cursor < lines.length then
    match openingAt lines inGrammar cursor with
    | none => blocksFrom lines inGrammar (cursor + 1)
    | some opening =>
        let block : Block := ⟨cursor, opening⟩
        block :: blocksFrom lines inGrammar (max (block.resume lines) (cursor + 1))
  else []
termination_by lines.length - cursor

def blocks (lines : List Text) (inGrammar : Bool) : List Block :=
  blocksFrom lines inGrammar 0

end PseudocodeLint
