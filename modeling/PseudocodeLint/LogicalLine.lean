import PseudocodeLint.Item

namespace PseudocodeLint

/-! Logical lines.  An item may wrap onto indented lines, so a newline ends a logical line only
where the text after it opens a new one. -/

/-- A text opens a logical line when it begins with a newline, with a visible character, or with
an item at any indent. -/
def opensLine : Text → Bool
  | [] => false
  | c :: rest => c = '\n' || !isBlank c || isItem (c :: rest)

/-- Cuts a text at the newlines that end a logical line; all other newlines stay inside one. -/
def logicalLines : Text → List Text
  | [] => [[]]
  | c :: rest =>
      if c = '\n' ∧ opensLine rest then [] :: logicalLines rest
      else consHead c (logicalLines rest)

theorem logicalLines_ne_nil (text : Text) : logicalLines text ≠ [] := by
  cases text with
  | nil => simp [logicalLines]
  | cons c rest =>
      simp only [logicalLines]
      split
      · simp
      · exact consHead_ne_nil _ _

/-- Cutting loses nothing but the newlines at the cuts. -/
theorem joinLines_logicalLines (text : Text) : joinLines (logicalLines text) = text := by
  induction text with
  | nil => rfl
  | cons c rest restIH =>
      have nonempty := logicalLines_ne_nil rest
      simp only [joinLines] at restIH ⊢
      simp only [logicalLines]
      split
      · rename_i cut
        rw [joinWith_nil_cons nonempty, restIH, cut.1]
      · rw [joinWith_consHead c nonempty, restIH]

end PseudocodeLint
