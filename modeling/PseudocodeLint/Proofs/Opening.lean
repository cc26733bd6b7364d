import Mathlib.Data.List.TakeWhile
import PseudocodeLint.Opening
import PseudocodeLint.Proofs.ItemShape
import PseudocodeLint.Proofs.LineRun
import PseudocodeLint.Proofs.ProductionShape

namespace PseudocodeLint

/-- The front of the line is no name: there is none, or a full stop follows it. -/
def Unnamed (line : Text) : Prop :=
  line.takeWhile Char.isAlphanum = [] ∨ (line.dropWhile Char.isAlphanum).head? = some '.'

theorem isAlphanum_eq_false_of_isBlank {c : Char} (blank : isBlank c = true) :
    c.isAlphanum = false := by
  refine Bool.eq_false_iff.mpr fun alphanumeric => ?_
  rw [isBlank_eq_false_of_isAlphanum alphanumeric] at blank
  contradiction

theorem unnamed_of_isItem {line : Text} (found : isItem line = true) : Unnamed line := by
  obtain ⟨⟨indent, marker, body⟩, wellFormed, rfl⟩ := isItem_iff.mp found
  cases indent with
  | cons c indent =>
      have blank := wellFormed.indent_blank c (List.mem_cons_self ..)
      have outside := isAlphanum_eq_false_of_isBlank blank
      exact Or.inl (by simp [Item.toText, outside])
  | nil =>
      cases marker with
      | bullet => exact Or.inl rfl
      | ordinal digits =>
          have named : ∀ c ∈ digits, c.isAlphanum = true := fun c member =>
            Marker.isAlphanum_of_isDigit (wellFormed.marker_wellFormed.2 c member)
          refine Or.inr ?_
          simp only [Item.toText, Marker.toText, List.nil_append, List.append_assoc]
          rw [List.dropWhile_append_of_pos named]
          rfl

theorem isBlankLine_eq_false_iff {text : Text} :
    isBlankLine text = false ↔ ∃ c ∈ text, isBlank c = false := by
  simp only [isBlankLine, List.all_eq_false, Bool.not_eq_true]

theorem unnamed_of_isBlankLine {line : Text} (blank : isBlankLine line = true) : Unnamed line := by
  cases line with
  | nil => exact Or.inl rfl
  | cons c rest =>
      simp only [isBlankLine, List.all_cons, Bool.and_eq_true] at blank
      have outside := isAlphanum_eq_false_of_isBlank blank.1
      exact Or.inl (by simp [outside])

theorem isItem_eq_false_of_isBlankLine {line : Text} (blank : isBlankLine line = true) :
    isItem line = false := by
  have invisible : trimStart line = [] :=
    List.dropWhile_eq_nil_iff.mpr (List.all_eq_true.mp blank)
  simp [isItem, Item.read?, invisible, Marker.read?]

theorem AlgorithmHeader.read?_eq_none {line : Text} (unnamed : Unnamed line) :
    read? line = none := by
  rcases unnamed with nameless | stop
  · simp only [read?, nameless, ne_eq, not_true_eq_false, false_and, if_false]
    split <;> try rfl
    split <;> try rfl
    split <;> rfl
  · obtain ⟨rest, afterName⟩ := List.head?_eq_some_iff.mp stop
    have visible : isBlank '.' = false := by decide
    simp [read?, afterName, trimStart, visible]

theorem Production.read?_eq_none {line : Text} (unnamed : Unnamed line) :
    read? line = none := by
  rcases unnamed with nameless | stop
  · simp only [read?, nameless, ne_eq, not_true_eq_false, false_and, if_false]
    split <;> try rfl
    split <;> rfl
  · obtain ⟨rest, afterName⟩ := List.head?_eq_some_iff.mp stop
    simp [read?, afterName]

section

variable {lines : List Text} {inGrammar : Bool} {line header : Nat} {text : Text}

theorem openingAt_eq_none (unnamed : ∀ text, lines[line]? = some text → Unnamed text) :
    openingAt lines inGrammar line = none := by
  cases found : lines[line]? with
  | none => simp [openingAt, found]
  | some text =>
      have nameless := unnamed text found
      simp [openingAt, found, AlgorithmHeader.read?_eq_none nameless, grammarOpening?,
        Production.read?_eq_none nameless]

theorem openingAt_eq_none_of_isItem (found : lines[line]? = some text)
    (item : isItem text = true) : openingAt lines inGrammar line = none := by
  refine openingAt_eq_none fun other same => ?_
  obtain rfl : text = other := Option.some.inj (found.symm.trans same)
  exact unnamed_of_isItem item

theorem lt_length_of_openingAt {opening : Opening}
    (opens : openingAt lines inGrammar line = some opening) : line < lines.length := by
  refine Nat.lt_of_not_le fun outside => ?_
  simp [openingAt, List.getElem?_eq_none outside] at opens

/-- A production needs no blank line below its header.  Its definition ends at the first blank line
there, and its steps are those of a bullet list right after that line. -/
theorem grammar_of_openingAt {name : Text} {stop : Nat} {needsBlank hasSteps : Bool}
    (opens : openingAt lines inGrammar header = some (.grammar name needsBlank stop hasSteps)) :
    inGrammar = true ∧ needsBlank = false ∧ stop = definitionEnd lines header ∧
      hasSteps = lines[stop + 1]?.any startsWithBullet := by
  have bound := lt_length_of_openingAt opens
  simp only [openingAt, List.getElem?_eq_getElem bound] at opens
  cases algorithm : AlgorithmHeader.read? lines[header] with
  | some found => simp [algorithm] at opens
  | none =>
      cases inGrammar with
      | false => simp [algorithm] at opens
      | true =>
          cases production : Production.read? lines[header] with
          | none => simp [algorithm, grammarOpening?, production] at opens
          | some found =>
              simp only [algorithm, grammarOpening?, production, Option.bind_eq_bind,
                Option.bind_some, if_true] at opens
              split at opens
              · contradiction
              · cases opens
                exact ⟨rfl, (Production.wellFormed_of_read? production).needsBlank_eq_false, rfl, rfl⟩

theorem lt_definitionEnd (lines : List Text) (header : Nat) :
    header < definitionEnd lines header :=
  (endsRun_definitionEnd lines header).start_le

theorem definitionEnd_le_length (bound : header < lines.length) :
    definitionEnd lines header ≤ lines.length :=
  (endsRun_definitionEnd lines header).stop_le_length bound

theorem isBlankLine_definitionEnd (found : lines[definitionEnd lines header]? = some text) :
    isBlankLine text = true := by
  simpa using (endsRun_definitionEnd lines header).outside text found

theorem definitionEnd_eq_of_inside (below : header < line)
    (inside : line < definitionEnd lines header) :
    definitionEnd lines line = definitionEnd lines header :=
  (endsRun_definitionEnd lines line).unique
    ((endsRun_definitionEnd lines header).of_middle (Nat.succ_le_succ (Nat.le_of_lt below)) inside)

end

end PseudocodeLint
