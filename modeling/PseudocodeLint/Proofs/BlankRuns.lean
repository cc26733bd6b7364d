import Mathlib.Data.List.DropRight
import Mathlib.Data.List.TakeWhile
import PseudocodeLint.Text.Blank

namespace PseudocodeLint

/-! Texts up to the length of their runs of blanks.  Writing each run as one space changes no
visible character, so what is said of the visible characters of a text, of their neighbours and of
the words they form is said of the collapsed text as well. -/

/-- A blank stands for a space, a visible character for itself. -/
def spaced (c : Char) : Char :=
  if isBlank c then ' ' else c

/-- The first character of the text is visible. -/
def BeginsVisible (text : Text) : Prop :=
  ∃ c, text.head? = some c ∧ isBlank c = false

section

variable {text rest lead word : Text} {c : Char}

theorem ne_of_isBlank {blank : Char} (visible : isBlank c = false)
    (isBlank_blank : isBlank blank = true) : c ≠ blank := by
  intro same
  rw [same, isBlank_blank] at visible
  contradiction

theorem spaced_eq_iff {found : Char} (visible : isBlank c = false) :
    spaced found = c ↔ found = c := by
  rw [spaced]
  split
  · rename_i blank
    have space : ' ' ≠ c := (ne_of_isBlank visible rfl).symm
    have other : found ≠ c := (ne_of_isBlank visible blank).symm
    simp [space, other]
  · exact Iff.rfl

theorem isBlank_spaced (c : Char) : isBlank (spaced c) = isBlank c := by
  rw [spaced]
  split
  · rename_i blank
    rw [blank]
    rfl
  · rfl

theorem collapseBlanks_cons_visible (visible : isBlank c = false) (rest : Text) :
    collapseBlanks (c :: rest) = c :: collapseBlanks rest := by
  simp [collapseBlanks, visible]

theorem collapseBlanks_cons_joined (blank : isBlank c = true)
    (more : rest.head?.any isBlank = true) :
    collapseBlanks (c :: rest) = collapseBlanks rest := by
  simp [collapseBlanks, blank, more]

theorem collapseBlanks_cons_last (blank : isBlank c = true)
    (stops : rest.head?.any isBlank = false) :
    collapseBlanks (c :: rest) = ' ' :: collapseBlanks rest := by
  simp [collapseBlanks, blank, stops]

theorem trimStart_cons_visible (visible : isBlank c = false) (rest : Text) :
    trimStart (c :: rest) = c :: rest := by
  simp [trimStart, visible]

theorem trimStart_cons_blank (blank : isBlank c = true) (rest : Text) :
    trimStart (c :: rest) = trimStart rest := by
  simp [trimStart, blank]

/-- A run of blanks becomes one space. -/
theorem collapseBlanks_cons_blank (blank : isBlank c = true) (rest : Text) :
    collapseBlanks (c :: rest) = ' ' :: collapseBlanks (trimStart rest) := by
  induction rest generalizing c with
  | nil => simp [collapseBlanks, blank, trimStart]
  | cons next rest restIH =>
      cases kind : isBlank next with
      | true =>
          have more : (next :: rest).head?.any isBlank = true := kind
          rw [collapseBlanks_cons_joined blank more, restIH kind, trimStart_cons_blank kind]
      | false =>
          have stops : (next :: rest).head?.any isBlank = false := kind
          rw [collapseBlanks_cons_last blank stops, trimStart_cons_visible kind]

theorem head?_collapseBlanks (text : Text) :
    (collapseBlanks text).head? = text.head?.map spaced := by
  cases text with
  | nil => rfl
  | cons c rest =>
      cases kind : isBlank c with
      | true => simp [collapseBlanks_cons_blank kind, spaced, kind]
      | false => simp [collapseBlanks_cons_visible kind, spaced, kind]

theorem beginsVisible_collapseBlanks_iff : BeginsVisible (collapseBlanks text) ↔ BeginsVisible text := by
  rw [BeginsVisible, head?_collapseBlanks, BeginsVisible]
  cases text.head? with
  | none => simp
  | some c =>
      cases kind : isBlank c <;> simp [isBlank_spaced, kind]

theorem collapseBlanks_eq_nil_iff : collapseBlanks text = [] ↔ text = [] := by
  rw [← List.head?_eq_none_iff, head?_collapseBlanks, Option.map_eq_none_iff, List.head?_eq_none_iff]

/-- The text behind the blanks at the front is empty or begins with a visible character. -/
theorem trimStart_cases (text : Text) :
    trimStart text = [] ∨ ∃ c rest, isBlank c = false ∧ trimStart text = c :: rest := by
  have visible := List.head?_dropWhile_not isBlank text
  rw [trimStart]
  cases trimmed : text.dropWhile isBlank with
  | nil => exact Or.inl rfl
  | cons c rest =>
      rw [trimmed] at visible
      exact Or.inr ⟨c, rest, visible, rfl⟩

theorem trimStart_idem (text : Text) : trimStart (trimStart text) = trimStart text :=
  List.dropWhile_idempotent isBlank text

theorem trimStart_collapseBlanks (text : Text) :
    trimStart (collapseBlanks text) = collapseBlanks (trimStart text) := by
  have settled (text : Text) :
      trimStart (collapseBlanks (trimStart text)) = collapseBlanks (trimStart text) := by
    rcases trimStart_cases text with empty | ⟨c, rest, visible, shown⟩
    · rw [empty]
      rfl
    · rw [shown, collapseBlanks_cons_visible visible, trimStart_cons_visible visible]
  cases text with
  | nil => rfl
  | cons c rest =>
      cases kind : isBlank c with
      | true =>
          rw [collapseBlanks_cons_blank kind, trimStart_cons_blank rfl, trimStart_cons_blank kind,
            settled]
      | false => rw [collapseBlanks_cons_visible kind, trimStart_cons_visible kind,
          trimStart_cons_visible kind, collapseBlanks_cons_visible kind]

theorem collapseBlanks_idem (text : Text) :
    collapseBlanks (collapseBlanks text) = collapseBlanks text := by
  fun_induction collapseBlanks text with
  | case1 => rfl
  | case2 c rest shown restIH =>
      simp only [Bool.not_eq_true'] at shown
      rw [collapseBlanks_cons_visible shown, restIH]
  | case3 c rest blank more restIH => exact restIH
  | case4 c rest blank stops restIH =>
      have stopsToo : (collapseBlanks rest).head?.any isBlank = false := by
        cases first : rest.head? <;> simp_all [head?_collapseBlanks, isBlank_spaced]
      rw [collapseBlanks_cons_last rfl stopsToo, restIH]

/-- A run of blanks ends with the text in the same way. -/
theorem getLast?_collapseBlanks (text : Text) :
    (collapseBlanks text).getLast? = text.getLast?.map spaced := by
  fun_induction collapseBlanks text with
  | case1 => rfl
  | case2 c rest shown restIH =>
      simp only [Bool.not_eq_true'] at shown
      rw [List.getLast?_cons, restIH, List.getLast?_cons]
      cases rest.getLast? <;> simp [spaced, shown]
  | case3 c rest blank more restIH =>
      cases rest with
      | nil => contradiction
      | cons next rest => rw [restIH, List.getLast?_cons_cons]
  | case4 c rest blank stops restIH =>
      simp only [Bool.not_eq_true', Bool.not_eq_false] at blank
      rw [List.getLast?_cons, restIH, List.getLast?_cons]
      cases rest.getLast? <;> simp [spaced, blank]

theorem startsBlank_append_visible (visible : isBlank c = false) (lead rest : Text) :
    (lead ++ c :: rest).head?.any isBlank = lead.head?.any isBlank := by
  cases lead with
  | nil => exact visible
  | cons first lead => rfl

theorem collapseBlanks_append_visible (visible : isBlank c = false) (lead rest : Text) :
    collapseBlanks (lead ++ c :: rest) = collapseBlanks lead ++ c :: collapseBlanks rest := by
  induction lead with
  | nil => exact collapseBlanks_cons_visible visible rest
  | cons first lead leadIH =>
      have same := startsBlank_append_visible visible lead rest
      rw [List.cons_append]
      cases kind : isBlank first with
      | false =>
          rw [collapseBlanks_cons_visible kind, collapseBlanks_cons_visible kind, leadIH]
          rfl
      | true =>
          cases more : lead.head?.any isBlank with
          | true =>
              rw [collapseBlanks_cons_joined kind (same.trans more),
                collapseBlanks_cons_joined kind more, leadIH]
          | false =>
              rw [collapseBlanks_cons_last kind (same.trans more),
                collapseBlanks_cons_last kind more, leadIH]
              rfl

/-- A visible character of the collapsed text is one of the text, and what stands on its two sides
is collapsed from what stands there in the text. -/
theorem exists_split_of_collapseBlanks_eq {before : Text} (visible : isBlank c = false)
    (cut : collapseBlanks text = before ++ c :: rest) :
    ∃ lead tail, text = lead ++ c :: tail ∧ collapseBlanks lead = before ∧
      collapseBlanks tail = rest := by
  induction text generalizing before with
  | nil => simp [collapseBlanks] at cut
  | cons first text textIH =>
      cases kind : isBlank first with
      | false =>
          rw [collapseBlanks_cons_visible kind] at cut
          cases before with
          | nil =>
              obtain ⟨rfl, rfl⟩ := List.cons.inj cut
              exact ⟨[], text, rfl, rfl, rfl⟩
          | cons own before =>
              rw [List.cons_append, List.cons.injEq] at cut
              obtain ⟨rfl, behind⟩ := cut
              obtain ⟨lead, tail, rfl, rfl, rfl⟩ := textIH behind
              exact ⟨first :: lead, tail, rfl, collapseBlanks_cons_visible kind lead, rfl⟩
      | true =>
          cases more : text.head?.any isBlank with
          | true =>
              rw [collapseBlanks_cons_joined kind more] at cut
              obtain ⟨lead, tail, rfl, rfl, rfl⟩ := textIH cut
              rw [startsBlank_append_visible visible] at more
              exact ⟨first :: lead, tail, rfl, collapseBlanks_cons_joined kind more, rfl⟩
          | false =>
              rw [collapseBlanks_cons_last kind more] at cut
              cases before with
              | nil =>
                  obtain ⟨rfl, _⟩ := List.cons.inj cut
                  contradiction
              | cons space before =>
                  rw [List.cons_append, List.cons.injEq] at cut
                  obtain ⟨rfl, behind⟩ := cut
                  obtain ⟨lead, tail, rfl, rfl, rfl⟩ := textIH behind
                  rw [startsBlank_append_visible visible] at more
                  exact ⟨first :: lead, tail, rfl, collapseBlanks_cons_last kind more, rfl⟩

/-- A text is cut in front of a visible character as the collapsed text is, if what is asked of the
part in front does not depend on the length of its runs. -/
theorem split_collapseBlanks_iff {front behind : Text → Prop}
    (same : ∀ before, front (collapseBlanks before) ↔ front before)
    (shown : ∀ rest, behind rest → BeginsVisible rest) :
    (∃ before rest, collapseBlanks text = before ++ rest ∧ front before ∧ behind rest) ↔
      ∃ before rest, text = before ++ rest ∧ front before ∧ behind (collapseBlanks rest) := by
  constructor
  · intro found
    obtain ⟨before, rest, cut, holds, here⟩ := found
    obtain ⟨c, begins, visible⟩ := shown rest here
    obtain ⟨tail, rfl⟩ := List.head?_eq_some_iff.mp begins
    obtain ⟨lead, after, rfl, rfl, rfl⟩ := exists_split_of_collapseBlanks_eq visible cut
    rw [← collapseBlanks_cons_visible visible] at here
    exact ⟨lead, c :: after, rfl, (same lead).mp holds, here⟩
  · intro found
    obtain ⟨before, rest, rfl, holds, here⟩ := found
    obtain ⟨c, begins, visible⟩ := beginsVisible_collapseBlanks_iff.mp (shown _ here)
    obtain ⟨tail, rfl⟩ := List.head?_eq_some_iff.mp begins
    rw [collapseBlanks_cons_visible visible] at here
    exact ⟨_, _, collapseBlanks_append_visible visible before tail, (same before).mpr holds, here⟩

theorem collapseBlanks_append_word (visible : ∀ c ∈ word, isBlank c = false) (rest : Text) :
    collapseBlanks (word ++ rest) = word ++ collapseBlanks rest := by
  induction word with
  | nil => rfl
  | cons first word wordIH =>
      obtain ⟨firstVisible, wordVisible⟩ := List.forall_mem_cons.mp visible
      rw [List.cons_append, collapseBlanks_cons_visible firstVisible, wordIH wordVisible]
      rfl

theorem isBlank_of_mem_collapseBlanks (blank : ∀ c ∈ text, isBlank c = true) :
    ∀ c ∈ collapseBlanks text, isBlank c = true := by
  cases text with
  | nil => exact blank
  | cons first rest =>
      obtain ⟨firstBlank, restBlank⟩ := List.forall_mem_cons.mp blank
      have nothing : trimStart rest = [] := List.dropWhile_eq_nil_iff.mpr restBlank
      rw [collapseBlanks_cons_blank firstBlank, nothing]
      exact List.forall_mem_singleton.mpr rfl

/-- A word without blanks stands at the front of a text and of the collapsed text alike. -/
theorem isPrefix_collapseBlanks_iff (visible : ∀ c ∈ word, isBlank c = false) :
    word <+: collapseBlanks text ↔ word <+: text := by
  induction word generalizing text with
  | nil => simp
  | cons first word wordIH =>
      obtain ⟨firstVisible, wordVisible⟩ := List.forall_mem_cons.mp visible
      cases text with
      | nil => simp [collapseBlanks]
      | cons c rest =>
          cases kind : isBlank c with
          | false =>
              rw [collapseBlanks_cons_visible kind, List.cons_prefix_cons, List.cons_prefix_cons,
                wordIH wordVisible]
          | true =>
              have space : first ≠ ' ' := ne_of_isBlank firstVisible rfl
              rw [collapseBlanks_cons_blank kind, List.cons_prefix_cons, List.cons_prefix_cons]
              simp [space, ne_of_isBlank firstVisible kind]

theorem collapseBlanks_eq_append_word_iff (visible : ∀ c ∈ word, isBlank c = false) :
    collapseBlanks text = word ++ rest ↔
      ∃ after, text = word ++ after ∧ collapseBlanks after = rest := by
  constructor
  · intro same
    obtain ⟨after, rfl⟩ := (isPrefix_collapseBlanks_iff visible).mp ⟨rest, same.symm⟩
    rw [collapseBlanks_append_word visible] at same
    exact ⟨after, rfl, List.append_cancel_left same⟩
  · intro found
    obtain ⟨after, rfl, rfl⟩ := found
    exact collapseBlanks_append_word visible after

/-- In front of a visible character, a space of the collapsed text stands for a run of blanks. -/
theorem collapseBlanks_eq_space_cons_iff (shown : BeginsVisible rest) :
    collapseBlanks text = ' ' :: rest ↔
      ∃ gap after, gap ≠ [] ∧ (∀ b ∈ gap, isBlank b = true) ∧ text = gap ++ after ∧
        collapseBlanks after = rest := by
  constructor
  · intro same
    cases text with
    | nil => contradiction
    | cons first text =>
        cases kind : isBlank first with
        | false =>
            rw [collapseBlanks_cons_visible kind] at same
            obtain ⟨rfl, _⟩ := List.cons.inj same
            contradiction
        | true =>
            rw [collapseBlanks_cons_blank kind] at same
            refine ⟨first :: text.takeWhile isBlank, trimStart text, List.cons_ne_nil _ _, ?_, ?_,
              (List.cons.inj same).2⟩
            · exact List.forall_mem_cons.mpr ⟨kind, List.all_eq_true.mp List.all_takeWhile⟩
            · rw [List.cons_append, trimStart, List.takeWhile_append_dropWhile]
  · intro found
    obtain ⟨gap, after, filled, blank, rfl, rfl⟩ := found
    obtain ⟨c, begins, visible⟩ := beginsVisible_collapseBlanks_iff.mp shown
    obtain ⟨tail, rfl⟩ := List.head?_eq_some_iff.mp begins
    obtain ⟨b, gap, rfl⟩ := List.exists_cons_of_ne_nil filled
    obtain ⟨isBlank_b, blank⟩ := List.forall_mem_cons.mp blank
    have behind : trimStart (gap ++ c :: tail) = c :: tail :=
      trimStart_eq_cons_iff.mpr ⟨gap, rfl, blank, visible⟩
    rw [List.cons_append, collapseBlanks_cons_blank isBlank_b, behind]

theorem mem_collapseBlanks_iff (visible : isBlank c = false) :
    c ∈ collapseBlanks text ↔ c ∈ text := by
  have space : c ≠ ' ' := ne_of_isBlank visible rfl
  fun_induction collapseBlanks text with
  | case1 => simp
  | case2 first rest shown restIH => simp [restIH]
  | case3 first rest blank more restIH =>
      simp only [Bool.not_eq_true', Bool.not_eq_false] at blank
      simp [restIH, ne_of_isBlank visible blank]
  | case4 first rest blank stops restIH =>
      simp only [Bool.not_eq_true', Bool.not_eq_false] at blank
      simp [restIH, space, ne_of_isBlank visible blank]

theorem lastVisible?_cons (c : Char) (rest : Text) :
    lastVisible? (c :: rest) = (lastVisible? rest).or (if isBlank c then none else some c) := by
  simp only [lastVisible?, List.reverse_cons, List.find?_append, List.find?_singleton]
  cases isBlank c <;> rfl

theorem lastVisible?_collapseBlanks (text : Text) :
    lastVisible? (collapseBlanks text) = lastVisible? text := by
  fun_induction collapseBlanks text with
  | case1 => rfl
  | case2 c rest shown restIH => rw [lastVisible?_cons, lastVisible?_cons, restIH]
  | case3 c rest blank more restIH =>
      simp only [Bool.not_eq_true', Bool.not_eq_false] at blank
      rw [lastVisible?_cons, restIH, if_pos blank, Option.or_none]
  | case4 c rest blank stops restIH =>
      simp only [Bool.not_eq_true', Bool.not_eq_false] at blank
      have space : isBlank ' ' = true := rfl
      rw [lastVisible?_cons, lastVisible?_cons, restIH, if_pos blank, if_pos space]

/-- Two texts with the same runs still have them behind another blank. -/
theorem collapseBlanks_cons_congr {other : Text} {blank blankToo : Char}
    (isBlank_blank : isBlank blank = true) (isBlank_blankToo : isBlank blankToo = true)
    (same : collapseBlanks text = collapseBlanks other) :
    collapseBlanks (blank :: text) = collapseBlanks (blankToo :: other) := by
  rw [collapseBlanks_cons_blank isBlank_blank, collapseBlanks_cons_blank isBlank_blankToo,
    ← trimStart_collapseBlanks, same, trimStart_collapseBlanks]

end

end PseudocodeLint
