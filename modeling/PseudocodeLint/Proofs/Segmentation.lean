import Mathlib.Data.List.Basic
import PseudocodeLint.LogicalLine
import PseudocodeLint.Proofs.ItemShape

namespace PseudocodeLint

/-- The position in the joined text that follows the given lines and their newlines. -/
def startAfter : List Text → Nat
  | [] => 0
  | first :: others => first.length + 1 + startAfter others

/-- The newline at `position` of the joined text stands between two consecutive lines. -/
def IsJoint (lines : List Text) (position : Nat) : Prop :=
  ∃ before line after, lines = before ++ line :: after ∧ after ≠ [] ∧
    position = startAfter before + line.length

/-- The character at `position` of the joined text is `c`, and it belongs to a line. -/
def StandsInLine (lines : List Text) (position : Nat) (c : Char) : Prop :=
  ∃ before owner after offset, lines = before ++ owner :: after ∧ owner[offset]? = some c ∧
    position = startAfter before + offset

/-- The text begins with a newline, with a visible character, or with the indent, the marker and
the space of an item. -/
def BeginsLine (text : Text) : Prop :=
  text ≠ [] ∧
    (text.head? = some '\n' ∨ (∃ c, text.head? = some c ∧ isBlank c = false) ∨
      ∃ (indent : Text) (marker : Marker), (∀ c ∈ indent, isBlank c = true) ∧ marker.WellFormed ∧
        indent ++ marker.toText ++ [' '] <+: text)

theorem isItem_iff_isPrefix {line : Text} :
    isItem line = true ↔
      ∃ (indent : Text) (marker : Marker), (∀ c ∈ indent, isBlank c = true) ∧ marker.WellFormed ∧
        indent ++ marker.toText ++ [' '] <+: line := by
  rw [isItem_iff]
  constructor
  · intro found
    obtain ⟨item, wellFormed, rfl⟩ := found
    exact ⟨item.indent, item.marker, wellFormed.indent_blank, wellFormed.marker_wellFormed,
      item.body, by simp [Item.toText]⟩
  · intro found
    obtain ⟨indent, marker, blank, wellFormed, body, rfl⟩ := found
    exact ⟨⟨indent, marker, body⟩, ⟨blank, wellFormed⟩, by simp [Item.toText]⟩

theorem opensLine_iff {text : Text} : opensLine text = true ↔ BeginsLine text := by
  cases text with
  | nil => simp [opensLine, BeginsLine]
  | cons c rest => simp [opensLine, BeginsLine, isItem_iff_isPrefix, or_assoc]

theorem opensLine_of_isItem {text : Text} (found : isItem text = true) :
    opensLine text = true := by
  cases text with
  | nil => contradiction
  | cons c rest => simp [opensLine, found]

theorem opensLine_append {text : Text} (opens : opensLine text = true) (rest : Text) :
    opensLine (text ++ rest) = true := by
  cases text with
  | nil => contradiction
  | cons c tail =>
      simp only [opensLine, Bool.or_eq_true, List.cons_append] at opens ⊢
      rcases opens with early | item
      · exact Or.inl early
      · exact Or.inr (isItem_append item rest)

theorem joinLines_cons {line : Text} {rest : List Text} (more : rest ≠ []) :
    joinLines (line :: rest) = line ++ '\n' :: joinLines rest :=
  joinWith_cons line more

theorem isJoint_cons {first : Text} {lines : List Text} {position : Nat} :
    IsJoint (first :: lines) position ↔
      (lines ≠ [] ∧ position = first.length) ∨
        ∃ later, IsJoint lines later ∧ position = later + (first.length + 1) := by
  constructor
  · intro joint
    obtain ⟨before, line, after, same, more, rfl⟩ := joint
    cases before with
    | nil =>
        obtain ⟨rfl, rfl⟩ := List.cons.inj same
        exact Or.inl ⟨more, by simp [startAfter]⟩
    | cons head others =>
        obtain ⟨rfl, rfl⟩ := List.cons.inj same
        refine Or.inr ⟨_, ⟨others, line, after, rfl, more, rfl⟩, ?_⟩
        rw [startAfter]
        omega
  · intro joint
    rcases joint with ⟨more, rfl⟩ | ⟨later, joint, rfl⟩
    · exact ⟨[], first, lines, rfl, more, by simp [startAfter]⟩
    · obtain ⟨before, line, after, rfl, more, rfl⟩ := joint
      refine ⟨first :: before, line, after, rfl, more, ?_⟩
      rw [startAfter]
      omega

theorem standsInLine_cons {first : Text} {lines : List Text} {position : Nat} {c : Char} :
    StandsInLine (first :: lines) position c ↔
      first[position]? = some c ∨
        ∃ later, StandsInLine lines later c ∧ position = later + (first.length + 1) := by
  constructor
  · intro stands
    obtain ⟨before, owner, after, offset, same, found, rfl⟩ := stands
    cases before with
    | nil =>
        obtain ⟨rfl, rfl⟩ := List.cons.inj same
        exact Or.inl (by simpa [startAfter] using found)
    | cons head others =>
        obtain ⟨rfl, rfl⟩ := List.cons.inj same
        refine Or.inr ⟨_, ⟨others, owner, after, offset, rfl, found, rfl⟩, ?_⟩
        rw [startAfter]
        omega
  · intro stands
    rcases stands with found | ⟨later, stands, rfl⟩
    · exact ⟨[], first, lines, position, rfl, found, by simp [startAfter]⟩
    · obtain ⟨before, owner, after, offset, rfl, found, rfl⟩ := stands
      refine ⟨first :: before, owner, after, offset, rfl, found, ?_⟩
      rw [startAfter]
      omega

theorem not_isJoint_nil {position : Nat} : ¬ IsJoint [] position := by
  intro joint
  obtain ⟨before, line, after, same, _⟩ := joint
  simp at same

theorem not_standsInLine_nil {position : Nat} {c : Char} : ¬ StandsInLine [] position c := by
  intro stands
  obtain ⟨before, owner, after, offset, same, _⟩ := stands
  simp at same

/-- A character in front of the first line moves every joint by one. -/
theorem isJoint_consHead {c : Char} {lines : List Text} {position : Nat} :
    IsJoint (consHead c lines) position ↔
      ∃ earlier, IsJoint lines earlier ∧ position = earlier + 1 := by
  cases lines with
  | nil => simp [consHead, isJoint_cons, not_isJoint_nil]
  | cons first rest =>
      simp only [consHead, isJoint_cons, List.length_cons]
      grind

theorem standsInLine_consHead {lead c : Char} {lines : List Text} {position : Nat} :
    StandsInLine (consHead lead lines) position c ↔
      (position = 0 ∧ lead = c) ∨
        ∃ earlier, StandsInLine lines earlier c ∧ position = earlier + 1 := by
  cases lines with
  | nil => cases position <;> simp [consHead, standsInLine_cons, not_standsInLine_nil]
  | cons first rest =>
      cases position with
      | zero => simp [consHead, standsInLine_cons]
      | succ position =>
          simp only [consHead, standsInLine_cons, List.getElem?_cons_succ, List.length_cons]
          grind

theorem isJoint_logicalLines_iff {text : Text} {position : Nat} :
    IsJoint (logicalLines text) position ↔
      text[position]? = some '\n' ∧ opensLine (text.drop (position + 1)) = true := by
  induction text generalizing position with
  | nil => simp [logicalLines, isJoint_cons, not_isJoint_nil]
  | cons c rest restIH =>
      simp only [logicalLines]
      split
      · rename_i cut
        have nonempty := logicalLines_ne_nil rest
        simp only [isJoint_cons, restIH, List.length_nil, Nat.zero_add]
        cases position with
        | zero => simp [nonempty, cut]
        | succ position => simp
      · rename_i kept
        simp only [isJoint_consHead, restIH]
        cases position with
        | zero => simpa using kept
        | succ position => simp

theorem standsInLine_logicalLines_iff {text : Text} {position : Nat} {c : Char} :
    StandsInLine (logicalLines text) position c ↔
      text[position]? = some c ∧ ¬ IsJoint (logicalLines text) position := by
  induction text generalizing position with
  | nil => simp [logicalLines, standsInLine_cons, not_standsInLine_nil]
  | cons first rest restIH =>
      simp only [logicalLines]
      split
      · rename_i cut
        have nonempty := logicalLines_ne_nil rest
        simp only [standsInLine_cons, isJoint_cons, restIH, List.length_nil, Nat.zero_add]
        cases position with
        | zero => simp [nonempty]
        | succ position => simp
      · simp only [standsInLine_consHead, isJoint_consHead, restIH]
        cases position with
        | zero => simp
        | succ position => simp

/-- The cut of a text into logical lines is lossless and exact: joining the lines gives the text
back, and a newline of the text is a joint if and only if a line begins after it. -/
theorem logicalLines_exact (text : Text) :
    logicalLines text ≠ [] ∧ joinLines (logicalLines text) = text ∧
      (∀ position, IsJoint (logicalLines text) position ↔
        text[position]? = some '\n' ∧ BeginsLine (text.drop (position + 1))) ∧
      ∀ position, StandsInLine (logicalLines text) position '\n' ↔
        text[position]? = some '\n' ∧ ¬ BeginsLine (text.drop (position + 1)) := by
  refine ⟨logicalLines_ne_nil text, joinLines_logicalLines text, ?_, ?_⟩
  · intro position
    rw [isJoint_logicalLines_iff, opensLine_iff]
  · intro position
    rw [standsInLine_logicalLines_iff, isJoint_logicalLines_iff, opensLine_iff]
    grind

/-- The first physical line of a logical line. -/
def firstLine (line : Text) : Text :=
  (physicalLines line).headD []

theorem physicalLines_eq_cons (line : Text) :
    physicalLines line = firstLine line :: (physicalLines line).tail := by
  have nonempty := splitAtEach_ne_nil '\n' line
  simp only [firstLine, physicalLines]
  cases parts : splitAtEach '\n' line with
  | nil => contradiction
  | cons first rest => rfl

theorem firstLine_cons {c : Char} (notNewline : c ≠ '\n') (rest : Text) :
    firstLine (c :: rest) = c :: firstLine rest := by
  have parts := physicalLines_eq_cons rest
  simp only [physicalLines] at parts
  simp only [firstLine, physicalLines, splitAtEach, if_neg notNewline]
  rw [parts]
  rfl

theorem firstLine_append {lead : Text} (newlineFree : '\n' ∉ lead) (rest : Text) :
    firstLine (lead ++ rest) = lead ++ firstLine rest := by
  induction lead with
  | nil => rfl
  | cons c lead leadIH =>
      simp only [List.mem_cons, not_or] at newlineFree
      rw [List.cons_append, firstLine_cons (Ne.symm newlineFree.1), leadIH newlineFree.2]
      rfl

theorem isPrefix_joinWith (separator : Char) (part : Text) (parts : List Text) :
    part <+: joinWith separator (part :: parts) := by
  cases parts with
  | nil => exact List.prefix_refl part
  | cons next rest => exact List.prefix_append part _

theorem firstLine_isPrefix (line : Text) : firstLine line <+: line := by
  have lead := isPrefix_joinWith '\n' (firstLine line) (physicalLines line).tail
  rw [← physicalLines_eq_cons, physicalLines, joinWith_splitAtEach] at lead
  exact lead

theorem exists_of_mem_tail_physicalLines {text line : Text}
    (member : line ∈ (physicalLines text).tail) :
    ∃ before after, text = before ++ '\n' :: after ∧ line <+: after := by
  induction text with
  | nil => simp [physicalLines, splitAtEach] at member
  | cons c rest restIH =>
      have parts := physicalLines_eq_cons rest
      simp only [physicalLines] at parts restIH
      simp only [physicalLines, splitAtEach] at member
      split at member
      · rename_i newline
        subst newline
        rw [List.tail_cons, parts] at member
        rcases List.mem_cons.mp member with rfl | later
        · exact ⟨[], rest, rfl, firstLine_isPrefix rest⟩
        · obtain ⟨before, after, rfl, lead⟩ := restIH later
          exact ⟨'\n' :: before, after, rfl, lead⟩
      · rw [parts] at member
        obtain ⟨before, after, rfl, lead⟩ := restIH member
        exact ⟨c :: before, after, rfl, lead⟩

theorem splitAtEach_append_cons (separator : Char) (first second : Text) :
    splitAtEach separator (first ++ separator :: second) =
      splitAtEach separator first ++ splitAtEach separator second := by
  induction first with
  | nil => simp [splitAtEach]
  | cons c first firstIH =>
      simp only [List.cons_append, splitAtEach, firstIH]
      split
      · rfl
      · cases parts : splitAtEach separator first with
        | nil => exact absurd parts (splitAtEach_ne_nil separator first)
        | cons head tail => rfl

theorem splitAtEach_joinWith (separator : Char) {parts : List Text} (nonempty : parts ≠ []) :
    splitAtEach separator (joinWith separator parts) = parts.flatMap (splitAtEach separator) := by
  match parts with
  | [] => contradiction
  | [part] => simp [joinWith]
  | part :: next :: rest =>
      simp only [joinWith]
      rw [splitAtEach_append_cons, splitAtEach_joinWith separator (List.cons_ne_nil next rest)]
      rfl

/-- No line begins at a newline inside a logical line. -/
theorem not_opensLine_of_mem_logicalLines {text line before after : Text}
    (member : line ∈ logicalLines text) (inside : line = before ++ '\n' :: after) :
    opensLine after = false := by
  induction text generalizing line before with
  | nil =>
      simp only [logicalLines, List.mem_singleton] at member
      simp [member] at inside
  | cons c rest restIH =>
      simp only [logicalLines] at member
      split at member
      · rcases List.mem_cons.mp member with rfl | later
        · simp at inside
        · exact restIH later inside
      · rename_i kept
        cases lines : logicalLines rest with
        | nil => exact absurd lines (logicalLines_ne_nil rest)
        | cons first others =>
            rw [lines] at member restIH
            rcases List.mem_cons.mp member with rfl | later
            · cases before with
              | nil =>
                  obtain ⟨rfl, rfl⟩ := List.cons.inj inside
                  -- the line is the front of the text at which it was not cut
                  have joined := joinLines_logicalLines rest
                  rw [lines] at joined
                  obtain ⟨tail, same⟩ := isPrefix_joinWith '\n' first others
                  rw [← joinLines, joined] at same
                  refine Bool.eq_false_iff.mpr fun opens => kept ⟨rfl, ?_⟩
                  exact same ▸ opensLine_append opens tail
              | cons head before =>
                  exact restIH (List.mem_cons_self ..) (List.cons.inj inside).2
            · exact restIH (List.mem_cons_of_mem _ later) inside

theorem newline_not_mem_indent {text line : Text} {item : Item}
    (member : line ∈ logicalLines text) (found : Item.read? line = some item) :
    '\n' ∉ item.indent := by
  intro newline
  obtain ⟨wellFormed, rfl⟩ := Item.read?_eq_some_iff.mp found
  obtain ⟨before, after, indent⟩ := List.append_of_mem newline
  have blank : ∀ c ∈ after, isBlank c = true := fun c inside =>
    wellFormed.indent_blank c (by simp [indent, inside])
  let rest : Item := { item with indent := after }
  have continued : isItem rest.toText = true :=
    isItem_iff.mpr ⟨rest, ⟨blank, wellFormed.marker_wellFormed⟩, rfl⟩
  have inside : item.toText = before ++ '\n' :: rest.toText := by
    simp [Item.toText, indent, rest]
  have opened := opensLine_of_isItem continued
  rw [not_opensLine_of_mem_logicalLines member inside] at opened
  contradiction

theorem isItem_firstLine_of_mem_logicalLines {text line : Text}
    (member : line ∈ logicalLines text) : isItem (firstLine line) = isItem line := by
  refine Bool.eq_iff_iff.mpr ⟨fun found => isItem_of_isPrefix found (firstLine_isPrefix line), ?_⟩
  intro found
  obtain ⟨item, read⟩ := Option.isSome_iff_exists.mp found
  have newlineFree := newline_not_mem_indent member read
  obtain ⟨wellFormed, rfl⟩ := Item.read?_eq_some_iff.mp read
  have marker := Marker.newline_not_mem_toText wellFormed.marker_wellFormed
  refine isItem_iff.mpr ⟨{ item with body := firstLine item.body }, ?_, ?_⟩
  · exact ⟨wellFormed.indent_blank, wellFormed.marker_wellFormed⟩
  · simp only [Item.toText, List.append_assoc]
    rw [firstLine_append newlineFree, firstLine_append marker, firstLine_cons (by decide)]

theorem isItem_eq_false_of_mem_tail {text line continuation : Text}
    (member : line ∈ logicalLines text) (behind : continuation ∈ (physicalLines line).tail) :
    isItem continuation = false := by
  obtain ⟨before, after, inside, lead⟩ := exists_of_mem_tail_physicalLines behind
  refine Bool.eq_false_iff.mpr fun found => ?_
  have opened := opensLine_of_isItem (isItem_of_isPrefix found lead)
  rw [not_opensLine_of_mem_logicalLines member inside] at opened
  contradiction

theorem physicalLines_eq_flatMap_logicalLines (text : Text) :
    physicalLines text = (logicalLines text).flatMap physicalLines := by
  have joined := splitAtEach_joinWith '\n' (logicalLines_ne_nil text)
  have same : joinWith '\n' (logicalLines text) = text := joinLines_logicalLines text
  rw [same] at joined
  exact joined

theorem filter_isItem_physicalLines (text : Text) :
    (physicalLines text).filter isItem = ((logicalLines text).map firstLine).filter isItem := by
  have single : ∀ line ∈ logicalLines text,
      (physicalLines line).filter isItem = [firstLine line].filter isItem := by
    intro line member
    have none : (physicalLines line).tail.filter isItem = [] := by
      refine List.filter_eq_nil_iff.mpr fun continuation behind => ?_
      simp [isItem_eq_false_of_mem_tail member behind]
    rw [physicalLines_eq_cons line, ← List.singleton_append, List.filter_append, none,
      List.append_nil]
  calc (physicalLines text).filter isItem
      = (logicalLines text).flatMap fun line => (physicalLines line).filter isItem := by
        rw [physicalLines_eq_flatMap_logicalLines, List.filter_flatMap]
    _ = (logicalLines text).flatMap fun line => [firstLine line].filter isItem :=
        List.flatMap_congr single
    _ = ((logicalLines text).flatMap fun line => [firstLine line]).filter isItem :=
        List.filter_flatMap.symm
    _ = ((logicalLines text).map firstLine).filter isItem := by
        rw [List.map_eq_flatMap]

/-- The items of a text are the items among the first lines of its logical lines, which are those
of the lines that read as items.  No continuation line is an item, and the indent of an item stays
on its line. -/
theorem items_preserved_by_logicalLines (text : Text) :
    (physicalLines text).filter isItem = ((logicalLines text).map firstLine).filter isItem ∧
      (physicalLines text).filter isItem = ((logicalLines text).filter isItem).map firstLine ∧
      ∀ line ∈ logicalLines text,
        (∀ continuation ∈ (physicalLines line).tail, isItem continuation = false) ∧
        ∀ item, Item.read? line = some item → '\n' ∉ item.indent := by
  have kept := filter_isItem_physicalLines text
  have swapped : ((logicalLines text).map firstLine).filter isItem =
      ((logicalLines text).filter isItem).map firstLine := by
    rw [List.filter_map]
    congr 1
    exact List.filter_congr fun line member => isItem_firstLine_of_mem_logicalLines member
  refine ⟨kept, kept.trans swapped, fun line member => ⟨?_, ?_⟩⟩
  · exact fun continuation behind => isItem_eq_false_of_mem_tail member behind
  · exact fun item found => newline_not_mem_indent member found

/-- A wrapped item after a blank line of two spaces. -/
theorem wrapped_item_preserved :
    let text := "A\n  \n - B\n  c".toList
    let line := " - B\n  c".toList
    line ∈ logicalLines text ∧ "  c".toList ∈ (physicalLines line).tail ∧
      Item.read? line = some ⟨" ".toList, .bullet, "B\n  c".toList⟩ ∧
      (physicalLines text).filter isItem = [" - B".toList] ∧
      isItem "  c".toList = false ∧ '\n' ∉ " ".toList := by
  intro text line
  have member : line ∈ logicalLines text := by decide
  have behind : "  c".toList ∈ (physicalLines line).tail := by decide
  have read : Item.read? line = some ⟨" ".toList, .bullet, "B\n  c".toList⟩ := by decide
  obtain ⟨_, kept, inside⟩ := items_preserved_by_logicalLines text
  obtain ⟨continued, indents⟩ := inside line member
  refine ⟨member, behind, read, ?_, continued _ behind, indents _ read⟩
  rw [kept]
  decide

end PseudocodeLint
