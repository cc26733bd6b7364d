namespace PseudocodeLint

/-! How deeply an expression is nested, kept up while it is read from left to right.  A single
element is as deep as it is alone; several elements, or the operands of an operator, lie one level
below what they form. -/

structure ElementRun where
  count : Nat := 0
  /-- The depth of the deepest element before the last. -/
  earlier : Nat := 0
  last : Nat := 0
deriving DecidableEq, Repr

namespace ElementRun

def push (run : ElementRun) (depth : Nat) : ElementRun where
  count := run.count + 1
  earlier := max run.earlier run.last
  last := depth

def wrapLast (run : ElementRun) : ElementRun :=
  { run with last := run.last + 1 }

def depth (run : ElementRun) : Nat :=
  if run.count ≤ 1 then run.last else max run.earlier run.last + 1

end ElementRun

/-- The operands read so far, if an operator follows them, and the elements after it. -/
structure NestingLevel where
  operands? : Option Nat := none
  elements : ElementRun := {}
deriving DecidableEq, Repr

namespace NestingLevel

def push (level : NestingLevel) (depth : Nat) : NestingLevel :=
  { level with elements := level.elements.push depth }

def wrapLast (level : NestingLevel) : NestingLevel :=
  { level with elements := level.elements.wrapLast }

def depth (level : NestingLevel) : Nat :=
  match level.operands? with
  | none => level.elements.depth
  | some operands => max operands level.elements.depth + 1

/-- Starts another alternative; all of them lie side by side. -/
def nextAlternative (level : NestingLevel) : NestingLevel where
  operands? := some (max (level.operands?.getD 0) level.elements.depth)

/-- Starts the right operand of an operator; what came before is the left one as a whole. -/
def nextOperand (level : NestingLevel) : NestingLevel where
  operands? := some level.depth

end NestingLevel

end PseudocodeLint
