namespace PseudocodeLint

abbrev Text := List Char

/-- Puts a character in front of the first line. -/
def consHead (c : Char) : List Text → List Text
  | [] => [[c]]
  | line :: lines => (c :: line) :: lines

/-- The parts between the occurrences of a separator, one more than there are separators. -/
def splitAtEach (separator : Char) : Text → List Text
  | [] => [[]]
  | c :: rest =>
      if c = separator then [] :: splitAtEach separator rest
      else consHead c (splitAtEach separator rest)

/-- Writes parts one after another with the separator between them. -/
def joinWith (separator : Char) : List Text → Text
  | [] => []
  | [part] => part
  | part :: next :: rest => part ++ separator :: joinWith separator (next :: rest)

/-- The lines of a text file. -/
def physicalLines : Text → List Text :=
  splitAtEach '\n'

def joinLines : List Text → Text :=
  joinWith '\n'

/-- Whether `found` holds of the text from some position on. -/
def anySuffix (found : Text → Bool) : Text → Bool
  | [] => found []
  | c :: rest => found (c :: rest) || anySuffix found rest

def containsText (needle text : Text) : Bool :=
  anySuffix (needle.isPrefixOf ·) text

theorem consHead_ne_nil (c : Char) (lines : List Text) : consHead c lines ≠ [] := by
  cases lines <;> simp [consHead]

theorem splitAtEach_ne_nil (separator : Char) (text : Text) :
    splitAtEach separator text ≠ [] := by
  cases text with
  | nil => simp [splitAtEach]
  | cons c rest =>
      simp only [splitAtEach]
      split
      · simp
      · exact consHead_ne_nil _ _

theorem joinWith_cons {separator : Char} {parts : List Text} (part : Text)
    (nonempty : parts ≠ []) :
    joinWith separator (part :: parts) = part ++ separator :: joinWith separator parts := by
  cases parts with
  | nil => contradiction
  | cons next rest => rfl

theorem joinWith_nil_cons {separator : Char} {parts : List Text} (nonempty : parts ≠ []) :
    joinWith separator ([] :: parts) = separator :: joinWith separator parts :=
  joinWith_cons [] nonempty

theorem joinWith_consHead {separator : Char} {parts : List Text} (c : Char)
    (nonempty : parts ≠ []) :
    joinWith separator (consHead c parts) = c :: joinWith separator parts := by
  match parts with
  | [] => contradiction
  | [part] => rfl
  | part :: next :: rest => rfl

/-- Joining undoes splitting. -/
theorem joinWith_splitAtEach (separator : Char) (text : Text) :
    joinWith separator (splitAtEach separator text) = text := by
  induction text with
  | nil => rfl
  | cons c rest restIH =>
      have nonempty := splitAtEach_ne_nil separator rest
      simp only [splitAtEach]
      split
      · rename_i same
        rw [joinWith_nil_cons nonempty, restIH, same]
      · rw [joinWith_consHead c nonempty, restIH]

theorem anySuffix_iff {found : Text → Bool} {text : Text} :
    anySuffix found text = true ↔ ∃ before rest, text = before ++ rest ∧ found rest = true := by
  induction text with
  | nil => simp [anySuffix, and_assoc]
  | cons c text textIH =>
      rw [anySuffix, Bool.or_eq_true, textIH]
      constructor
      · rintro (here | ⟨before, rest, rfl, later⟩)
        · exact ⟨[], c :: text, rfl, here⟩
        · exact ⟨c :: before, rest, rfl, later⟩
      · rintro ⟨before, rest, split, here⟩
        cases before with
        | nil => exact Or.inl (split ▸ here)
        | cons first before => exact Or.inr ⟨before, rest, (List.cons.inj split).2, here⟩

theorem containsText_iff {needle text : Text} :
    containsText needle text = true ↔
      ∃ before rest, text = before ++ rest ∧ needle <+: rest := by
  simp only [containsText, anySuffix_iff, List.isPrefixOf_iff_prefix]

/-- A run of characters ends where the text after it begins with one outside the class. -/
theorem takeWhile_run {inClass : Char → Bool} {run after : Text}
    (inside : ∀ c ∈ run, inClass c = true)
    (stops : ∀ c, after.head? = some c → inClass c = false) :
    (run ++ after).takeWhile inClass = run := by
  rw [List.takeWhile_append_of_pos inside]
  cases after with
  | nil => simp
  | cons c rest => simp [stops c rfl]

theorem dropWhile_run {inClass : Char → Bool} {run after : Text}
    (inside : ∀ c ∈ run, inClass c = true)
    (stops : ∀ c, after.head? = some c → inClass c = false) :
    (run ++ after).dropWhile inClass = after := by
  rw [List.dropWhile_append_of_pos inside]
  cases after with
  | nil => rfl
  | cons c rest => simp [stops c rfl]

/-- Behind an element outside the class, a list may go on in any way. -/
theorem takeWhile_append_stop {inClass : α → Bool} {run after : List α} {stop : α}
    (outside : inClass stop = false) :
    (run ++ stop :: after).takeWhile inClass = run.takeWhile inClass := by
  induction run with
  | nil => simp [outside]
  | cons first run runIH => simp only [List.cons_append, List.takeWhile_cons, runIH]

/-- What is read back from its written form shares this form with nothing else that is. -/
theorem eq_of_read_back {write : α → Text} {read? : Text → Option α} {first second : α}
    (firstRead : read? (write first) = some first) (secondRead : read? (write second) = some second)
    (same : write first = write second) : first = second := by
  rw [same, secondRead] at firstRead
  exact (Option.some.inj firstRead).symm

end PseudocodeLint
