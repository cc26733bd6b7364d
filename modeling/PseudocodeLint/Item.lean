import PseudocodeLint.Text.Blank

namespace PseudocodeLint

inductive Marker where
  | bullet
  | ordinal (digits : Text)
deriving DecidableEq, Repr

/-- A line made of a blank indent, a marker, one space and a body; every algorithm step is one. -/
structure Item where
  indent : Text
  marker : Marker
  body : Text
deriving DecidableEq, Repr

namespace Marker

def toText : Marker → Text
  | .bullet => ['-']
  | .ordinal digits => digits ++ ['.']

/-- Reads a marker from the front of a text and returns what follows it. -/
def read? : Text → Option (Marker × Text)
  | '-' :: rest => some (.bullet, rest)
  | text =>
      match text.takeWhile Char.isDigit, text.dropWhile Char.isDigit with
      | digit :: digits, '.' :: rest => some (.ordinal (digit :: digits), rest)
      | _, _ => none

end Marker

namespace Item

def toText (item : Item) : Text :=
  item.indent ++ item.marker.toText ++ ' ' :: item.body

/-- Reads a whole line as an item.  The indent may run over several lines. -/
def read? (line : Text) : Option Item :=
  match Marker.read? (trimStart line) with
  | some (marker, ' ' :: body) => some ⟨line.takeWhile isBlank, marker, body⟩
  | _ => none

end Item

def isItem (line : Text) : Bool :=
  (Item.read? line).isSome

theorem Marker.toText_of_read? {text rest : Text} {marker : Marker}
    (found : Marker.read? text = some (marker, rest)) :
    marker.toText ++ rest = text := by
  unfold Marker.read? at found
  split at found
  · cases found
    rfl
  · split at found
    · rename_i digits after
      cases found
      simp only [Marker.toText, ← digits, List.append_assoc, List.singleton_append, ← after]
      exact List.takeWhile_append_dropWhile
    · contradiction

theorem Item.toText_of_read? {line : Text} {item : Item}
    (found : Item.read? line = some item) :
    item.toText = line := by
  unfold Item.read? at found
  split at found
  · rename_i marker body read
    cases found
    have rest := Marker.toText_of_read? read
    simp only [Item.toText, List.append_assoc, rest]
    exact List.takeWhile_append_dropWhile
  · contradiction

end PseudocodeLint
