import PseudocodeLint.Item

namespace PseudocodeLint

namespace Marker

/-- An ordinal is made of digits and has at least one. -/
def WellFormed : Marker → Prop
  | .bullet => True
  | .ordinal digits => digits ≠ [] ∧ ∀ c ∈ digits, c.isDigit = true

theorem isAlphanum_of_isDigit {c : Char} (digit : c.isDigit = true) : c.isAlphanum = true := by
  simp [Char.isAlphanum, digit]

theorem read?_toText {marker : Marker} (wellFormed : marker.WellFormed) (rest : Text) :
    read? (marker.toText ++ rest) = some (marker, rest) := by
  cases marker with
  | bullet => rfl
  | ordinal digits =>
      obtain ⟨nonempty, allDigits⟩ := wellFormed
      have stops : ∀ c, ('.' :: rest).head? = some c → c.isDigit = false := by
        intro c first
        cases first
        rfl
      cases digits with
      | nil => contradiction
      | cons first others =>
          have notBullet : first ≠ '-' := by
            intro same
            have digit := allDigits first (by simp)
            subst same
            contradiction
          have text : (Marker.ordinal (first :: others)).toText ++ rest =
              (first :: others) ++ '.' :: rest := by
            simp [toText]
          rw [text, read?]
          · rw [takeWhile_run allDigits stops, dropWhile_run allDigits stops]
            rfl
          · intro tail same
            exact notBullet (List.cons.inj same).1

theorem wellFormed_of_read? {text rest : Text} {marker : Marker}
    (found : read? text = some (marker, rest)) : marker.WellFormed := by
  unfold read? at found
  split at found
  · cases found
    trivial
  · split at found
    · rename_i digits after
      cases found
      refine ⟨by simp, fun c member => ?_⟩
      rw [← digits] at member
      exact List.all_eq_true.mp List.all_takeWhile c member
    · contradiction

theorem head?_toText {marker : Marker} (wellFormed : marker.WellFormed) (rest : Text) {c : Char}
    (first : (marker.toText ++ rest).head? = some c) : isBlank c = false := by
  cases marker with
  | bullet =>
      cases first
      rfl
  | ordinal digits =>
      obtain ⟨nonempty, allDigits⟩ := wellFormed
      cases digits with
      | nil => contradiction
      | cons digit others =>
          obtain rfl : digit = c := Option.some.inj first
          exact isBlank_eq_false_of_isAlphanum (isAlphanum_of_isDigit (allDigits digit (by simp)))

theorem newline_not_mem_toText {marker : Marker} (wellFormed : marker.WellFormed) :
    '\n' ∉ marker.toText := by
  cases marker with
  | bullet => decide
  | ordinal digits =>
      intro member
      rcases List.mem_append.mp member with digit | stop
      · have isDigit := wellFormed.2 _ digit
        contradiction
      · simp at stop

end Marker

/-- A blank indent and a marker stand in front, then the blanks `gap`, then `rest`. -/
def IsMarked (line gap rest : Text) : Prop :=
  ∃ indent marker, (∀ c ∈ indent, isBlank c = true) ∧ Marker.WellFormed marker ∧
    (∀ c ∈ gap, isBlank c = true) ∧ line = indent ++ marker.toText ++ gap ++ rest

namespace Item

/-- The indent is blank and the marker well formed; the body may be any text. -/
structure WellFormed (item : Item) : Prop where
  indent_blank : ∀ c ∈ item.indent, isBlank c = true
  marker_wellFormed : item.marker.WellFormed

/-- Behind an indent and a marker, a space makes the line an item. -/
theorem read?_indent_marker {indent : Text} {marker : Marker}
    (blank : ∀ c ∈ indent, isBlank c = true) (wellFormed : marker.WellFormed) (rest : Text) :
    read? (indent ++ marker.toText ++ rest) =
      match rest with
      | ' ' :: body => some ⟨indent, marker, body⟩
      | _ => none := by
  have stops : ∀ c, (marker.toText ++ rest).head? = some c → isBlank c = false :=
    fun _ => Marker.head?_toText wellFormed _
  have visible : trimStart (indent ++ marker.toText ++ rest) = marker.toText ++ rest := by
    rw [trimStart, List.append_assoc]
    exact dropWhile_run blank stops
  have blanks : (indent ++ marker.toText ++ rest).takeWhile isBlank = indent := by
    rw [List.append_assoc]
    exact takeWhile_run blank stops
  simp only [read?, visible, blanks, Marker.read?_toText wellFormed]
  split <;> simp_all

theorem read?_toText {item : Item} (wellFormed : item.WellFormed) :
    read? item.toText = some item :=
  read?_indent_marker wellFormed.indent_blank wellFormed.marker_wellFormed (' ' :: item.body)

theorem wellFormed_of_read? {line : Text} {item : Item} (found : read? line = some item) :
    item.WellFormed := by
  unfold read? at found
  split at found
  · rename_i marker body read
    cases found
    exact ⟨fun c member => List.all_eq_true.mp List.all_takeWhile c member,
      Marker.wellFormed_of_read? read⟩
  · contradiction

theorem read?_eq_some_iff {line : Text} {item : Item} :
    read? line = some item ↔ item.WellFormed ∧ line = item.toText := by
  constructor
  · intro found
    exact ⟨wellFormed_of_read? found, (toText_of_read? found).symm⟩
  · intro written
    obtain ⟨wellFormed, rfl⟩ := written
    exact read?_toText wellFormed

theorem toText_injective {item other : Item} (wellFormed : item.WellFormed)
    (wellFormedToo : other.WellFormed) (same : item.toText = other.toText) : item = other :=
  eq_of_read_back (read?_toText wellFormed) (read?_toText wellFormedToo) same

/-- Whatever marker is found in front of a visible character, at an item it is the item's own, with
blanks behind it. -/
theorem WellFormed.body_of_isMarked {item : Item} {gap rest : Text} {c : Char}
    (wellFormed : item.WellFormed) (marked : IsMarked item.toText gap (c :: rest))
    (visible : isBlank c = false) : gap ≠ [] ∧ trimStart item.body = c :: rest := by
  obtain ⟨indent, marker, blank, marker_wellFormed, gap_blank, text⟩ := marked
  have read := read?_toText wellFormed
  rw [text, List.append_assoc, read?_indent_marker blank marker_wellFormed] at read
  cases gap with
  | nil =>
      split at read
      · rename_i same
        obtain ⟨rfl, _⟩ := List.cons.inj same
        exact absurd visible (by decide)
      · cases read
  | cons b gap =>
      refine ⟨List.cons_ne_nil b gap, ?_⟩
      split at read
      · rename_i body same
        cases read
        obtain ⟨_, rfl⟩ := List.cons.inj same
        exact trimStart_eq_cons_iff.mpr ⟨gap, rfl, (List.forall_mem_cons.mp gap_blank).2, visible⟩
      · cases read

theorem WellFormed.isMarked {item : Item} {rest : Text} (wellFormed : item.WellFormed)
    (shown : trimStart item.body = rest) :
    IsMarked item.toText (' ' :: item.body.takeWhile isBlank) rest := by
  refine ⟨item.indent, item.marker, wellFormed.indent_blank, wellFormed.marker_wellFormed, ?_, ?_⟩
  · exact List.forall_mem_cons.mpr ⟨rfl, List.all_eq_true.mp List.all_takeWhile⟩
  · have parts : item.body.takeWhile isBlank ++ rest = item.body :=
      shown ▸ List.takeWhile_append_dropWhile
    rw [List.append_assoc, List.cons_append, parts, toText]

end Item

theorem isItem_iff {line : Text} :
    isItem line = true ↔ ∃ item : Item, item.WellFormed ∧ line = item.toText := by
  simp only [isItem, Option.isSome_iff_exists, Item.read?_eq_some_iff]

theorem isItem_append {line : Text} (found : isItem line = true) (rest : Text) :
    isItem (line ++ rest) = true := by
  obtain ⟨item, wellFormed, rfl⟩ := isItem_iff.mp found
  refine isItem_iff.mpr ⟨{ item with body := item.body ++ rest }, ?_, ?_⟩
  · exact ⟨wellFormed.indent_blank, wellFormed.marker_wellFormed⟩
  · simp [Item.toText]

theorem isItem_of_isPrefix {line text : Text} (found : isItem line = true) (lead : line <+: text) :
    isItem text = true := by
  obtain ⟨rest, rfl⟩ := lead
  exact isItem_append found rest

end PseudocodeLint
