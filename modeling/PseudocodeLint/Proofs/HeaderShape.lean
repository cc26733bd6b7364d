import PseudocodeLint.Proofs.ItemShape
import PseudocodeLint.Header

namespace PseudocodeLint

namespace AlgorithmHeader

/-- The name is alphanumeric and not empty, the arguments hold no closing bracket, and the gaps
are blank. -/
structure WellFormed (header : AlgorithmHeader) : Prop where
  named : header.name ≠ []
  name_alphanumeric : ∀ c ∈ header.name, c.isAlphanum = true
  beforeArguments_blank : ∀ c ∈ header.beforeArguments, isBlank c = true
  arguments_open : ∀ c ∈ header.arguments, c ≠ ')'
  beforeColon_blank : ∀ c ∈ header.beforeColon, isBlank c = true
  afterColon_blank : ∀ c ∈ header.afterColon, isBlank c = true

theorem read?_toText {header : AlgorithmHeader} (wellFormed : header.WellFormed) :
    read? header.toText = some header := by
  obtain ⟨name, beforeArguments, arguments, beforeColon, afterColon⟩ := header
  obtain ⟨named, alphanumeric, blankFirst, opened, blankSecond, blankThird⟩ := wellFormed
  simp only at named alphanumeric blankFirst opened blankSecond blankThird
  have afterName : ∀ c, (beforeArguments ++ '(' :: (arguments ++ ')' :: (beforeColon ++
      ':' :: afterColon))).head? = some c → c.isAlphanum = false := by
    intro c first
    cases beforeArguments with
    | nil =>
        cases first
        rfl
    | cons blank others =>
        cases first
        refine Bool.eq_false_iff.mpr fun letter => ?_
        have visible := isBlank_eq_false_of_isAlphanum letter
        rw [blankFirst _ (List.mem_cons_self ..)] at visible
        contradiction
  have inArguments : ∀ c ∈ arguments, decide (c ≠ ')') = true := fun c member =>
    decide_eq_true (opened c member)
  have atBracket : ∀ c, ('(' :: (arguments ++ ')' :: (beforeColon ++ ':' :: afterColon))).head? =
      some c → isBlank c = false := by
    rintro c ⟨⟩
    rfl
  have atClosing : ∀ c, (')' :: (beforeColon ++ ':' :: afterColon)).head? = some c →
      decide (c ≠ ')') = false := by
    rintro c ⟨⟩
    rfl
  have atColon : ∀ c, (':' :: afterColon).head? = some c → isBlank c = false := by
    rintro c ⟨⟩
    rfl
  simp only [read?, toText, trimStart, List.append_assoc, List.cons_append,
    takeWhile_run alphanumeric afterName, dropWhile_run alphanumeric afterName,
    takeWhile_run blankFirst atBracket, dropWhile_run blankFirst atBracket,
    takeWhile_run inArguments atClosing, dropWhile_run inArguments atClosing,
    takeWhile_run blankSecond atColon, dropWhile_run blankSecond atColon]
  rw [if_pos ⟨named, List.all_eq_true.mpr blankThird⟩]

theorem wellFormed_of_read? {line : Text} {header : AlgorithmHeader}
    (found : read? line = some header) : header.WellFormed := by
  have inside {inClass : Char → Bool} {text : Text} : ∀ c ∈ text.takeWhile inClass,
      inClass c = true := fun c member => List.all_eq_true.mp List.all_takeWhile c member
  simp only [read?] at found
  split at found
  · split at found
    · split at found
      · split at found
        · rename_i complete
          cases found
          exact ⟨complete.1, inside, inside, fun c member => of_decide_eq_true (inside c member),
            inside, List.all_eq_true.mp complete.2⟩
        · contradiction
      · contradiction
    · contradiction
  · contradiction

theorem read?_eq_some_iff {line : Text} {header : AlgorithmHeader} :
    read? line = some header ↔ header.WellFormed ∧ line = header.toText := by
  constructor
  · intro found
    exact ⟨wellFormed_of_read? found, (toText_of_read? found).symm⟩
  · intro written
    obtain ⟨wellFormed, rfl⟩ := written
    exact read?_toText wellFormed

end AlgorithmHeader

end PseudocodeLint
