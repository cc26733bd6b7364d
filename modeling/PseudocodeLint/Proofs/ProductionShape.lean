import Mathlib.Data.List.TakeWhile
import PseudocodeLint.Header

namespace PseudocodeLint

namespace Production

/-- The name is alphanumeric and not empty, one or two colons and some blanks follow it, and the
definition begins with a visible character and stays on its line. -/
structure WellFormed (production : Production) : Prop where
  named : production.name ≠ []
  name_alphanumeric : ∀ c ∈ production.name, c.isAlphanum = true
  one_or_two_colons : production.colons = [':'] ∨ production.colons = [':', ':']
  spaced : production.gap ≠ []
  gap_blank : ∀ c ∈ production.gap, isBlank c = true
  definition_visible : ∃ c, production.definition.head? = some c ∧ isBlank c = false
  definition_on_line : '\n' ∉ production.definition

theorem readColons?_append {colons rest : Text} (written : colons = [':'] ∨ colons = [':', ':'])
    (stops : ∀ c, rest.head? = some c → c ≠ ':') :
    readColons? (colons ++ rest) = some (colons, rest) := by
  rcases written with rfl | rfl
  · cases rest with
    | nil => rfl
    | cons c rest =>
        have other : c ≠ ':' := stops c rfl
        simp [readColons?, other]
  · rfl

theorem read?_toText {production : Production} (wellFormed : production.WellFormed) :
    read? production.toText = some production := by
  obtain ⟨name, colons, gap, definition⟩ := production
  obtain ⟨named, alphanumeric, written, spaced, blank, ⟨c, first, visible⟩, onLine⟩ := wellFormed
  simp only at named alphanumeric written spaced blank first onLine
  have afterName : ∀ c, (' ' :: (colons ++ (gap ++ definition))).head? = some c →
      c.isAlphanum = false := by
    intro c same
    cases same
    rfl
  have afterColons : ∀ c, (gap ++ definition).head? = some c → c ≠ ':' := by
    cases gap with
    | nil => contradiction
    | cons lead others =>
        intro c same colon
        obtain rfl := Option.some.inj same
        have colonBlank := blank lead (List.mem_cons_self ..)
        rw [colon] at colonBlank
        contradiction
  have afterGap : ∀ c, definition.head? = some c → isBlank c = false := by
    intro other same
    obtain rfl := Option.some.inj (first.symm.trans same)
    exact visible
  have defined : definition ≠ [] := by
    intro empty
    rw [empty] at first
    contradiction
  simp only [read?, toText, trimStart, List.append_assoc, List.cons_append,
    takeWhile_run alphanumeric afterName, dropWhile_run alphanumeric afterName,
    readColons?_append written afterColons, takeWhile_run blank afterGap,
    dropWhile_run blank afterGap]
  exact if_pos ⟨named, spaced, defined, onLine⟩

theorem colons_of_readColons? {text colons rest : Text}
    (found : readColons? text = some (colons, rest)) :
    colons = [':'] ∨ colons = [':', ':'] := by
  unfold readColons? at found
  split at found
  · cases found
    exact Or.inr rfl
  · cases found
    exact Or.inl rfl
  · contradiction

theorem head?_trimStart {text : Text} (filled : trimStart text ≠ []) :
    ∃ c, (trimStart text).head? = some c ∧ isBlank c = false := by
  have stops := List.head?_dropWhile_not isBlank text
  simp only [trimStart] at filled ⊢
  cases rest : text.dropWhile isBlank with
  | nil => contradiction
  | cons c others =>
      rw [rest] at stops
      exact ⟨c, rfl, stops⟩

theorem wellFormed_of_read? {line : Text} {production : Production}
    (found : read? line = some production) : production.WellFormed := by
  have inside {inClass : Char → Bool} {text : Text} : ∀ c ∈ text.takeWhile inClass,
      inClass c = true := fun c member => List.all_eq_true.mp List.all_takeWhile c member
  simp only [read?] at found
  split at found
  · split at found
    · rename_i colons afterColons read
      split at found
      · rename_i complete
        obtain ⟨named, spaced, defined, onLine⟩ := complete
        cases found
        exact ⟨named, inside, colons_of_readColons? read, spaced, inside,
          head?_trimStart defined, onLine⟩
      · contradiction
    · contradiction
  · contradiction

theorem read?_eq_some_iff {line : Text} {production : Production} :
    read? line = some production ↔ production.WellFormed ∧ line = production.toText := by
  constructor
  · intro found
    exact ⟨wellFormed_of_read? found, (toText_of_read? found).symm⟩
  · intro written
    obtain ⟨wellFormed, rfl⟩ := written
    exact read?_toText wellFormed

theorem toText_injective {production other : Production} (wellFormed : production.WellFormed)
    (wellFormedToo : other.WellFormed) (same : production.toText = other.toText) :
    production = other :=
  eq_of_read_back (read?_toText wellFormed) (read?_toText wellFormedToo) same

/-- A definition that begins on its line has something to show there. -/
theorem WellFormed.needsBlank_eq_false {production : Production}
    (wellFormed : production.WellFormed) : production.needsBlank = false := by
  obtain ⟨c, first, visible⟩ := wellFormed.definition_visible
  apply decide_eq_false
  intro empty
  rw [trimEnd, List.reverse_eq_nil_iff, List.dropWhile_eq_nil_iff] at empty
  have blank := empty c (List.mem_reverse.mpr (List.mem_of_mem_head? first))
  rw [visible] at blank
  contradiction

theorem WellFormed.trimStart_definition {production : Production}
    (wellFormed : production.WellFormed) :
    trimStart production.definition = production.definition := by
  obtain ⟨c, first, visible⟩ := wellFormed.definition_visible
  obtain ⟨rest, same⟩ := List.head?_eq_some_iff.mp first
  simp [same, trimStart, visible]

theorem WellFormed.isTable_iff {production : Production} (wellFormed : production.WellFormed) :
    production.isTable = true ↔
      trimEnd (trimStart production.definition) = "one of".toList := by
  rw [wellFormed.trimStart_definition, isTable, decide_eq_true_eq]

end Production

end PseudocodeLint
