import PseudocodeLint.Text.Basic

namespace PseudocodeLint

/-! Control sequences tell a terminal what to do and are no part of what it shows.  Text that is
not shown by a terminal is written without them, and without single control characters. -/

/-- How far a control sequence has been read. -/
inductive SequenceState where
  | outside
  | escape
  | intermediate
  | parameters
  | device
  | deviceParameters
  | deviceIntermediate
  /-- A string that only its terminator ends. -/
  | controlString
  /-- A string that a bell ends. -/
  | systemCommand
deriving DecidableEq, Repr

namespace SequenceState

def isIntermediate (c : Char) : Bool :=
  0x20 ≤ c.toNat && c.toNat ≤ 0x2F

def isParameter (c : Char) : Bool :=
  0x30 ≤ c.toNat && c.toNat ≤ 0x3F

def isFinal (c : Char) : Bool :=
  0x40 ≤ c.toNat && c.toNat ≤ 0x7E

/-- The string terminator is a single byte, also as a part of a longer character. -/
def endsString (c : Char) : Bool :=
  (String.utf8EncodeChar c).contains 0x9C

/-- The state after a character that may be a part of a sequence.  An escape starts a sequence
anew wherever it stands, and a cancel or substitute character gives it up. -/
def next (state : SequenceState) (c : Char) : SequenceState :=
  if c = '\x1b' then .escape
  else if c = '\x18' ∨ c = '\x1a' then .outside
  else
    match state with
    | .outside => .outside
    | .escape =>
        if isIntermediate c then .intermediate
        else if c = '[' then .parameters
        else if c = ']' then .systemCommand
        else if c = 'P' then .device
        else if c = 'X' ∨ c = '^' ∨ c = '_' then .controlString
        else if isParameter c || isFinal c then .outside
        else .escape
    | .intermediate => if isParameter c || isFinal c then .outside else .intermediate
    | .parameters => if isFinal c then .outside else .parameters
    | .device =>
        if isIntermediate c then .deviceIntermediate
        else if isParameter c then .deviceParameters
        else if isFinal c then .controlString
        else .device
    | .deviceParameters =>
        if isIntermediate c then .deviceIntermediate
        else if c.isDigit || c = ':' || c = ';' then .deviceParameters
        else if isParameter c || isFinal c then .controlString
        else .deviceParameters
    | .deviceIntermediate =>
        if isParameter c || isFinal c then .controlString else .deviceIntermediate
    | .controlString => if endsString c then .outside else .controlString
    | .systemCommand => if c = '\x07' then .outside else .systemCommand

/-- Whether a control character is a blank. -/
def isControlBlank (c : Char) : Bool :=
  c = '\t' || c = '\n' || c = '\x0c' || c = '\r'

/-- Whether a character shows in a state.  Blank controls show even inside a sequence, as long as
it is not a string. -/
def shows (state : SequenceState) (c : Char) : Bool :=
  match state with
  | .outside => isControlBlank c || 0x20 ≤ c.toNat && c ≠ '\x7f'
  | .escape | .intermediate | .parameters => isControlBlank c
  | _ => false

/-- What shows of a text.  Once a character shows, so do those after it up to the next control
character; a sequence that a blank control interrupts goes on only there. -/
def visible (showing : Bool) (state : SequenceState) : Text → Text
  | [] => []
  | c :: rest =>
      if (if showing then .outside else state).shows c then
        c :: visible true (if c.toNat < 0x80 then state else .outside) rest
      else visible false (state.next c) rest

theorem outside_shows_of_shows {state : SequenceState} {c : Char} (shown : state.shows c = true) :
    shows .outside c = true := by
  cases state <;> simp_all [shows]

theorem outside_shows_of_mem_visible {showing : Bool} {state : SequenceState} {text : Text}
    {c : Char} (member : c ∈ visible showing state text) : shows .outside c = true := by
  induction text generalizing showing state with
  | nil => simp [visible] at member
  | cons first rest restIH =>
      simp only [visible] at member
      by_cases shown : (if showing then outside else state).shows first = true
      · rw [if_pos shown] at member
        rcases List.mem_cons.mp member with same | member
        · exact same ▸ outside_shows_of_shows shown
        · exact restIH member
      · rw [if_neg shown] at member
        exact restIH member

theorem visible_eq_self {showing : Bool} {text : Text}
    (shown : ∀ c ∈ text, shows .outside c = true) : visible showing .outside text = text := by
  induction text generalizing showing with
  | nil => rfl
  | cons first rest restIH =>
      have firstShown := shown first List.mem_cons_self
      simp only [visible, ite_self, firstShown, if_true]
      rw [restIH fun c member => shown c (List.mem_cons_of_mem first member)]

end SequenceState

def withoutControls (text : Text) : Text :=
  SequenceState.visible false .outside text

/-- What is left has no controls to take out. -/
theorem withoutControls_idem (text : Text) :
    withoutControls (withoutControls text) = withoutControls text :=
  SequenceState.visible_eq_self fun _ => SequenceState.outside_shows_of_mem_visible

end PseudocodeLint
