import PseudocodeLint.Opening
import PseudocodeLint.Proofs.HeaderShape

namespace PseudocodeLint

section

variable {lines : List Text} {inGrammar : Bool} {cursor : Nat} {name : Text} {blankGap : Bool}

theorem classify_eq_ok (inside : cursor < lines.length) :
    classify lines inGrammar cursor = .ok (openingAt lines inGrammar cursor) :=
  if_pos inside

theorem AlgorithmHeader.hasBlankGap_iff {header : AlgorithmHeader} :
    header.hasBlankGap = true ↔
      ¬ (header.beforeArguments = [] ∧ header.beforeColon = [] ∧ header.afterColon = []) := by
  simp only [hasBlankGap, Bool.or_eq_true, Bool.not_eq_true', List.isEmpty_eq_false_iff]
  grind

theorem AlgorithmHeader.toText_injective {header other : AlgorithmHeader}
    (wellFormed : header.WellFormed) (wellFormedToo : other.WellFormed)
    (same : header.toText = other.toText) : header = other :=
  eq_of_read_back (read?_toText wellFormed) (read?_toText wellFormedToo) same

/-- What stands between the brackets may be exchanged. -/
theorem AlgorithmHeader.WellFormed.withArguments {header : AlgorithmHeader} {arguments : Text}
    (wellFormed : header.WellFormed) (opened : ∀ c ∈ arguments, c ≠ ')') :
    WellFormed { header with arguments } :=
  { wellFormed with arguments_open := opened }

theorem grammarOpening?_ne_algorithm {line : Text} :
    grammarOpening? lines cursor line ≠ some (.algorithm name blankGap) := by
  intro opens
  obtain ⟨production, _, found⟩ := Option.bind_eq_some_iff.mp opens
  split at found
  · contradiction
  · cases found

theorem openingAt_of_read? {header : AlgorithmHeader} {line : Text}
    (found : lines[cursor]? = some line) (read : AlgorithmHeader.read? line = some header) :
    openingAt lines inGrammar cursor = some (.algorithm header.name header.hasBlankGap) := by
  simp [openingAt, found, read]

theorem openingAt_eq_algorithm_iff (inside : cursor < lines.length) :
    openingAt lines inGrammar cursor = some (.algorithm name blankGap) ↔
      ∃ header, AlgorithmHeader.read? lines[cursor] = some header ∧ header.name = name ∧
        header.hasBlankGap = blankGap := by
  have found : lines[cursor]? = some lines[cursor] := List.getElem?_eq_getElem inside
  cases read : AlgorithmHeader.read? lines[cursor] with
  | some header => simp [openingAt_of_read? found read]
  | none =>
      have unread : openingAt lines inGrammar cursor ≠ some (.algorithm name blankGap) := by
        simp only [openingAt, found, Option.bind_eq_bind, Option.bind_some, read]
        split
        · exact grammarOpening?_ne_algorithm
        · exact Option.some_ne_none _ ∘ Eq.symm
      simp [unread]

end

/-- A line is recognised as an algorithm exactly when it is the text of a header: an alphanumeric
name, arguments in brackets and a colon, with blanks at the gaps between them.  No line is the text
of two headers, and the blanks among the arguments play no part. -/
theorem classify_eq_algorithm_iff {lines : List Text} {cursor : Nat}
    (inside : cursor < lines.length) (inGrammar : Bool) :
    (∀ name blankGap,
      classify lines inGrammar cursor = .ok (some (.algorithm name blankGap)) ↔
        ∃ header : AlgorithmHeader, header.WellFormed ∧ lines[cursor] = header.toText ∧
          header.name = name ∧
          (blankGap = true ↔ ¬ (header.beforeArguments = [] ∧ header.beforeColon = [] ∧
            header.afterColon = []))) ∧
    (∀ header other : AlgorithmHeader, header.WellFormed → other.WellFormed →
      lines[cursor] = header.toText → lines[cursor] = other.toText → header = other) ∧
    ∀ (header : AlgorithmHeader) (arguments : Text), header.WellFormed →
      (∀ c ∈ arguments, c ≠ ')') →
        classify (lines.set cursor { header with arguments }.toText) inGrammar cursor =
          .ok (some (.algorithm header.name header.hasBlankGap)) := by
  refine ⟨?_, ?_, ?_⟩
  · intro name blankGap
    rw [classify_eq_ok inside, Except.ok.injEq, openingAt_eq_algorithm_iff inside]
    apply exists_congr
    intro header
    rw [AlgorithmHeader.read?_eq_some_iff, ← AlgorithmHeader.hasBlankGap_iff, and_assoc,
      ← Bool.eq_iff_iff, eq_comm (a := blankGap)]
  · intro header other wellFormed wellFormedToo read readToo
    apply AlgorithmHeader.toText_injective wellFormed wellFormedToo
    exact read.symm.trans readToo
  · intro header arguments wellFormed opened
    have exchanged := AlgorithmHeader.read?_toText (wellFormed.withArguments opened)
    have inside : cursor < (lines.set cursor { header with arguments }.toText).length := by
      rwa [List.length_set]
    rw [classify_eq_ok inside, openingAt_of_read? (List.getElem?_set_self (by simpa using inside))
      exchanged]
    rfl

/-- A header that runs over three lines, with a bracket and a colon among its arguments. -/
theorem wrapped_header_recognised :
    let header : AlgorithmHeader := ⟨"Foo".toList, [], "a,\n  (b : c".toList, [], "\n".toList⟩
    let lines := [[], header.toText]
    1 < lines.length ∧ header.WellFormed ∧ lines[1] = "Foo(a,\n  (b : c):\n".toList ∧
      classify lines false 1 = .ok (some (.algorithm "Foo".toList true)) ∧
      (∀ other : AlgorithmHeader, other.WellFormed → lines[1] = other.toText → header = other) ∧
      (∀ c ∈ " ".toList, c ≠ ')') ∧
      classify (lines.set 1 "Foo( ):\n".toList) false 1 =
        .ok (some (.algorithm "Foo".toList true)) := by
  intro header lines
  have absent {text : Text} (closing : ')' ∉ text) : ∀ c ∈ text, c ≠ ')' :=
    fun _ member same => closing (same ▸ member)
  have wellFormed : header.WellFormed := {
    named := by decide
    name_alphanumeric := List.all_eq_true.mp rfl
    beforeArguments_blank := List.all_eq_true.mp rfl
    arguments_open := absent (by decide)
    beforeColon_blank := List.all_eq_true.mp rfl
    afterColon_blank := List.all_eq_true.mp rfl }
  have blank : ∀ c ∈ " ".toList, c ≠ ')' := absent (by decide)
  have inside : 1 < lines.length := by decide
  obtain ⟨recognised, unique, exchanged⟩ := classify_eq_algorithm_iff inside false
  refine ⟨inside, wellFormed, rfl, ?_, ?_, blank, exchanged header _ wellFormed blank⟩
  · exact (recognised _ _).mpr ⟨header, wellFormed, rfl, rfl, by decide⟩
  · intro other wellFormedToo same
    exact unique header other wellFormed wellFormedToo rfl same

end PseudocodeLint
