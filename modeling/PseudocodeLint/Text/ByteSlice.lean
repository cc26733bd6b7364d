import PseudocodeLint.Text.Basic

namespace PseudocodeLint

def utf8Length : Text → Nat
  | [] => 0
  | c :: rest => c.utf8Size + utf8Length rest

/-- Splits a text at a byte position, which must lie between two characters. -/
def splitAtByte? : Nat → Text → Option (Text × Text)
  | 0, text => some ([], text)
  | _ + 1, [] => none
  | position + 1, c :: rest =>
      if c.utf8Size ≤ position + 1 then
        (splitAtByte? (position + 1 - c.utf8Size) rest).map fun (before, after) =>
          (c :: before, after)
      else none

def dropBytes? (start : Nat) (text : Text) : Option Text :=
  (splitAtByte? start text).map (·.2)

/-- The part of a text between two byte positions. -/
def byteSlice? (start stop : Nat) (text : Text) : Option Text := do
  let (before, _) ← splitAtByte? stop text
  dropBytes? start before

end PseudocodeLint
