import PseudocodeLint.Proofs.BareCall
import PseudocodeLint.Proofs.BlankRuns
import PseudocodeLint.Proofs.LineFindings

namespace PseudocodeLint

section

variable {text rest content after step : Text} {c : Char} {nested : Bool}

theorem isWordChar_eq_false_of_isBlank (blank : isBlank c = true) : isWordChar c = false := by
  have apart : ∀ code ∈ codesIn blankRanges, inRanges code wordRanges = false := by decide +kernel
  exact apart c.toNat (mem_codesIn_of_inRanges blank)

theorem isWordChar_spaced (c : Char) : isWordChar (spaced c) = isWordChar c := by
  rw [spaced]
  split
  · rename_i blank
    rw [isWordChar_eq_false_of_isBlank blank, isWordChar_eq_false_of_isBlank rfl]
  · rfl

theorem endsInWord_collapseBlanks (text : Text) :
    endsInWord (collapseBlanks text) = endsInWord text := by
  rw [endsInWord, endsInWord, getLast?_collapseBlanks]
  cases text.getLast? with
  | none => rfl
  | some c => exact isWordChar_spaced c

/-- What is found at the start of a word of the collapsed text is found there in the text, once the
text is collapsed from there on. -/
theorem anyWordStart_collapseBlanks_iff {starts : Text → Bool}
    (shown : ∀ text, starts text = true → BeginsVisible text) :
    anyWordStart starts false (collapseBlanks text) = true ↔
      ∃ before rest, text = before ++ rest ∧ endsInWord before = false ∧
        starts (collapseBlanks rest) = true := by
  have front : ∀ before, endsInWord (collapseBlanks before) = false ↔ endsInWord before = false :=
    fun before => by rw [endsInWord_collapseBlanks]
  rw [anyWordStart_iff, split_collapseBlanks_iff front shown]

theorem readContent?_startsBlank (closed : readContent? nested text = some (content, after)) :
    content.head?.any isBlank = text.head?.any isBlank := by
  rw [← readContent?_eq_some closed]
  cases content <;> rfl

theorem readContent?_cons_unbraced (unbraced : isBrace c = false) (rest : Text) :
    readContent? nested (c :: rest) = (readContent? nested rest).map (Prod.map (c :: ·) id) :=
  readContent?_unbraced nested (List.forall_mem_singleton.mpr unbraced) rest

theorem isBrace_eq_false_of_isBlank (blank : isBlank c = true) : isBrace c = false := by
  have opened : '{' ≠ c := ne_of_isBlank (by decide) blank
  have closed : '}' ≠ c := ne_of_isBlank (by decide) blank
  exact isBrace_eq_false_iff.mpr ⟨opened.symm, closed.symm⟩

/-- What is read up to the closing brace is collapsed with the text.  A run of blanks does not cross
a brace, so it lies in the content as a whole. -/
theorem readContent?_collapseBlanks (nested : Bool) (text : Text) :
    readContent? nested (collapseBlanks text) =
      (readContent? nested text).map (Prod.map collapseBlanks collapseBlanks) := by
  induction text generalizing nested with
  | nil => rfl
  | cons c rest restIH =>
      cases kind : isBlank c with
      | false =>
          have added : ∀ read : Option (Text × Text),
              (read.map (Prod.map collapseBlanks collapseBlanks)).map (Prod.map (c :: ·) id) =
                (read.map (Prod.map (c :: ·) id)).map (Prod.map collapseBlanks collapseBlanks) := by
            intro read
            cases read <;> simp [Prod.map, collapseBlanks_cons_visible kind]
          rw [collapseBlanks_cons_visible kind]
          simp only [readContent?, restIH, added]
          split
          · split
            · rfl
            · rfl
          · split
            · split
              · rfl
              · rfl
            · rfl
      | true =>
          rw [readContent?_cons_unbraced (isBrace_eq_false_of_isBlank kind)]
          cases more : rest.head?.any isBlank with
          | true =>
              rw [collapseBlanks_cons_joined kind more, restIH]
              cases read : readContent? nested rest with
              | none => rfl
              | some found =>
                  have joined := (readContent?_startsBlank read).trans more
                  simp [Prod.map, collapseBlanks_cons_joined kind joined]
          | false =>
              rw [collapseBlanks_cons_last kind more,
                readContent?_cons_unbraced (isBrace_eq_false_of_isBlank rfl), restIH]
              cases read : readContent? nested rest with
              | none => rfl
              | some found =>
                  have stops := (readContent?_startsBlank read).trans more
                  simp [Prod.map, collapseBlanks_cons_last kind stops]

theorem readLiteral?_cons_collapseBlanks (c : Char) (rest : Text) :
    readLiteral? (c :: collapseBlanks rest) =
      (readLiteral? (c :: rest)).map (Prod.map collapseBlanks collapseBlanks) := by
  simp only [readLiteral?, readContent?_collapseBlanks]
  split
  · have filled : ∀ content, (collapseBlanks content).isEmpty = content.isEmpty := by
      intro content
      rw [Bool.eq_iff_iff, List.isEmpty_iff, List.isEmpty_iff, collapseBlanks_eq_nil_iff]
    cases readContent? false rest with
    | none => rfl
    | some found =>
        simp only [Option.map_some, Option.filter_some, Prod.map, filled]
        split <;> rfl
  · rfl

theorem readLiteral?_cons_blank (blank : isBlank c = true) (rest : Text) :
    readLiteral? (c :: rest) = none := by
  have other : '{' ≠ c := ne_of_isBlank (by decide) blank
  rw [readLiteral?, if_neg other.symm]

theorem isBlank_eq_false_of_readLiteral? (found : readLiteral? (c :: rest) = some (content, after)) :
    isBlank c = false := by
  rw [Bool.eq_false_iff, ne_eq]
  intro blank
  rw [readLiteral?_cons_blank blank] at found
  contradiction

/-- The literals of a collapsed text are the collapsed literals, and what stands outside them is the
same up to the length of its runs. -/
theorem literals_collapseBlanks (text : Text) :
    literalContents (collapseBlanks text) = (literalContents text).map collapseBlanks ∧
      collapseBlanks (outsideLiterals (collapseBlanks text)) =
        collapseBlanks (outsideLiterals text) := by
  fun_induction pieces text with
  | case1 => simp [literalContents, outsideLiterals, pieces, collapseBlanks]
  | case2 c rest content after found _ afterIH =>
      have visible := isBlank_eq_false_of_readLiteral? found
      have read := readLiteral?_cons_collapseBlanks c rest
      rw [found, Option.map_some] at read
      rw [collapseBlanks_cons_visible visible, literalContents_cons_literal read,
        literalContents_cons_literal found, outsideLiterals_cons_literal read,
        outsideLiterals_cons_literal found, List.map_cons, afterIH.1]
      exact ⟨rfl, afterIH.2⟩
  | case3 c rest missing restIH =>
      obtain ⟨contents, outside⟩ := restIH
      rw [literalContents_cons_plain missing, outsideLiterals_cons_plain missing]
      cases kind : isBlank c with
      | false =>
          have read := readLiteral?_cons_collapseBlanks c rest
          rw [missing, Option.map_none] at read
          rw [collapseBlanks_cons_visible kind, literalContents_cons_plain read,
            outsideLiterals_cons_plain read, collapseBlanks_cons_visible kind,
            collapseBlanks_cons_visible kind, outside]
          exact ⟨contents, rfl⟩
      | true =>
          cases more : rest.head?.any isBlank with
          | true =>
              have joined : (outsideLiterals rest).head?.any isBlank = true := by
                cases rest with
                | nil => contradiction
                | cons next rest =>
                    rw [outsideLiterals_cons_plain (readLiteral?_cons_blank more rest)]
                    exact more
              rw [collapseBlanks_cons_joined kind more, collapseBlanks_cons_joined kind joined]
              exact ⟨contents, outside⟩
          | false =>
              have space : isBlank ' ' = true := rfl
              have read := readLiteral?_cons_blank space (collapseBlanks rest)
              rw [collapseBlanks_cons_last kind more, literalContents_cons_plain read,
                outsideLiterals_cons_plain read]
              exact ⟨contents, collapseBlanks_cons_congr space kind outside⟩

theorem toText_literal_collapseBlanks (content : Text) :
    (Piece.literal (collapseBlanks content)).toText =
      collapseBlanks (Piece.literal content).toText := by
  have opened : isBlank '{' = false := by decide
  have closed : isBlank '}' = false := by decide
  simp only [Piece.toText, List.cons_append, collapseBlanks_cons_visible opened,
    collapseBlanks_append_visible closed]
  rfl

theorem nestedLiterals_collapseBlanks (text : Text) :
    nestedLiterals (collapseBlanks text) = (nestedLiterals text).map collapseBlanks := by
  have kept : ∀ content : Text, (collapseBlanks content).contains '{' = content.contains '{' := by
    intro content
    rw [Bool.eq_iff_iff, List.contains_iff_mem, List.contains_iff_mem,
      mem_collapseBlanks_iff (by decide)]
  rw [nestedLiterals, (literals_collapseBlanks text).1, List.filter_map, List.map_map, nestedLiterals,
    List.map_map]
  simp only [Function.comp_def, kept, toText_literal_collapseBlanks]

theorem startsCall_collapseBlanks (text : Text) : startsCall (collapseBlanks text) = startsCall text := by
  rw [Bool.eq_iff_iff, startsCall_iff, startsCall_iff]
  apply exists_congr
  intro call
  apply and_congr_right
  intro isCall
  apply isPrefix_collapseBlanks_iff
  obtain ⟨first, name, rfl, upper, _, alphanumeric⟩ := isCall
  have bracket : isBlank '(' = false := by decide
  simp only [List.mem_cons, List.mem_append, List.not_mem_nil, or_false]
  rintro c (rfl | named | rfl)
  · exact isBlank_eq_false_of_isAlphanum (isAlphanum_of_isUpper upper)
  · exact isBlank_eq_false_of_isAlphanum (alphanumeric c named)
  · exact bracket

theorem beginsVisible_of_startsCall (starts : startsCall text = true) : BeginsVisible text := by
  obtain ⟨call, ⟨c, name, rfl, upper, _⟩, after, rfl⟩ := startsCall_iff.mp starts
  exact ⟨c, rfl, isBlank_eq_false_of_isAlphanum (isAlphanum_of_isUpper upper)⟩

theorem hasBareCall_collapseBlanks (step : Text) :
    hasBareCall (collapseBlanks step) = hasBareCall step := by
  have runs : ∀ text, anyWordStart startsCall false (collapseBlanks text) =
      anyWordStart startsCall false text := by
    intro text
    rw [Bool.eq_iff_iff, anyWordStart_collapseBlanks_iff fun _ => beginsVisible_of_startsCall,
      anyWordStart_iff]
    simp only [startsCall_collapseBlanks]
  rw [hasBareCall, ← runs, (literals_collapseBlanks step).2, runs, hasBareCall]

theorem endsSentence_collapseBlanks (step : Text) :
    endsSentence (collapseBlanks step) = endsSentence step := by
  rw [endsSentence, lastVisible?_collapseBlanks, endsSentence]

theorem hasBareKeyword_collapseBlanks (step : Text) :
    hasBareKeyword (collapseBlanks step) = hasBareKeyword step := by
  rw [hasBareKeyword, collapseBlanks_idem, hasBareKeyword]

theorem Marker.visible_toText {marker : Marker} (wellFormed : marker.WellFormed) :
    ∀ c ∈ marker.toText, isBlank c = false := by
  cases marker with
  | bullet => exact List.forall_mem_singleton.mpr (by decide)
  | ordinal digits =>
      obtain ⟨_, allDigits⟩ := wellFormed
      intro c member
      rcases List.mem_append.mp member with digit | stop
      · exact isBlank_eq_false_of_isAlphanum (isAlphanum_of_isDigit (allDigits c digit))
      · rw [List.mem_singleton.mp stop]
        decide

/-- The item that is left of an item when its runs of blanks are collapsed. -/
def Item.collapsed (item : Item) : Item :=
  ⟨collapseBlanks item.indent, item.marker, collapseBlanks (trimStart item.body)⟩

theorem Item.WellFormed.collapsed {item : Item} (wellFormed : item.WellFormed) :
    item.collapsed.WellFormed :=
  ⟨isBlank_of_mem_collapseBlanks wellFormed.indent_blank, wellFormed.marker_wellFormed⟩

theorem Item.toText_collapsed {item : Item} (wellFormed : item.WellFormed) :
    item.collapsed.toText = collapseBlanks item.toText := by
  obtain ⟨indent, marker, body⟩ := item
  have visible := Marker.visible_toText wellFormed.marker_wellFormed
  have space : isBlank ' ' = true := rfl
  have behind : marker.toText ++ ' ' :: collapseBlanks (trimStart body) =
      collapseBlanks (marker.toText ++ ' ' :: body) := by
    rw [collapseBlanks_append_word visible, collapseBlanks_cons_blank space]
  have marked : marker.toText ≠ [] := by
    cases marker <;> simp [Marker.toText]
  obtain ⟨first, rest, split⟩ := List.exists_cons_of_ne_nil marked
  have firstVisible := visible first (by simp [split])
  simp only [toText, collapsed, List.append_assoc, behind]
  rw [split, List.cons_append, collapseBlanks_append_visible firstVisible,
    collapseBlanks_cons_visible firstVisible]

theorem Item.read?_collapseBlanks {item : Item} (found : read? step = some item) :
    read? (collapseBlanks step) = some item.collapsed := by
  obtain ⟨wellFormed, rfl⟩ := read?_eq_some_iff.mp found
  rw [← toText_collapsed wellFormed, read?_toText wellFormed.collapsed]

theorem Item.trimStart_body_collapsed (item : Item) :
    trimStart item.collapsed.body = collapseBlanks (trimStart item.body) := by
  rw [collapsed, trimStart_collapseBlanks, trimStart_idem]

theorem Item.startsLowercase_collapsed (item : Item) :
    item.collapsed.startsLowercase = item.startsLowercase := by
  rw [startsLowercase, trimStart_body_collapsed, head?_collapseBlanks, startsLowercase]
  rcases trimStart_cases item.body with empty | ⟨c, rest, visible, shown⟩
  · rw [empty]
    rfl
  · simp [shown, spaced, visible]

/-- The character behind a leading `Assert` is a space wherever it is blank. -/
theorem Item.assertFollower?_collapsed (item : Item) :
    item.collapsed.assertFollower? = item.assertFollower?.map spaced := by
  have letters : ∀ c ∈ "Assert".toList, c.isAlphanum = true := List.all_eq_true.mp rfl
  have word : ∀ c ∈ "Assert".toList, isBlank c = false :=
    fun c member => isBlank_eq_false_of_isAlphanum (letters c member)
  have colon : isBlank ':' = false := by decide
  simp only [assertFollower?, trimStart_body_collapsed]
  generalize trimStart item.body = lead
  have same : "Assert".toList.isPrefixOf (collapseBlanks lead) = "Assert".toList.isPrefixOf lead := by
    rw [Bool.eq_iff_iff, List.isPrefixOf_iff_prefix, List.isPrefixOf_iff_prefix,
      isPrefix_collapseBlanks_iff word]
  rw [same]
  split
  · rename_i begins
    obtain ⟨rest, rfl⟩ := List.isPrefixOf_iff_prefix.mp begins
    have behind : ∀ text : Text, ("Assert".toList ++ text).drop "Assert".length = text :=
      fun _ => rfl
    rw [collapseBlanks_append_word word, behind, behind, head?_collapseBlanks]
    cases rest with
    | nil => rfl
    | cons c rest =>
        simp only [List.head?_cons, Option.map_some, Option.filter_some, ne_eq,
          spaced_eq_iff colon]
        split <;> rfl
  · rfl

end

/-- A violation with the runs of blanks collapsed in what it quotes from the step. -/
def Violation.collapsed : Violation → Violation
  | .assertFormatting name found => .assertFormatting name (spaced found)
  | .nestedValueLiteral name literal => .nestedValueLiteral name (collapseBlanks literal)
  | other => other

theorem Violation.rule_collapsed (violation : Violation) :
    violation.collapsed.rule = violation.rule := by
  cases violation <;> rfl

section

variable {kind : BlockKind} {name step other : Text}

theorem ruleViolations_collapseBlanks (item : isItem step = true) (rule : Rule) :
    ruleViolations kind name (collapseBlanks step) rule =
      (ruleViolations kind name step rule).map Violation.collapsed := by
  obtain ⟨parts, found⟩ := Option.isSome_iff_exists.mp item
  have collapsed := Item.read?_collapseBlanks found
  cases rule with
  | headerWhitespace | missingBlankAfterHeader | malformedStepShape | missingIndentAfterColon => rfl
  | stepPunctuation =>
      simp only [ruleViolations, endsSentence_collapseBlanks]
      split <;> rfl
  | stepCapitalization =>
      simp only [ruleViolations, found, collapsed, Option.any_some, Item.startsLowercase_collapsed]
      split <;> rfl
  | assertFormatting =>
      simp only [ruleViolations, found, collapsed, Option.bind_some, Item.assertFollower?_collapsed]
      cases parts.assertFollower? <;> rfl
  | unwrappedAlgorithmCall =>
      simp only [ruleViolations, hasBareCall_collapseBlanks]
      split <;> rfl
  | nestedValueLiteral =>
      simp only [ruleViolations, nestedLiterals_collapseBlanks]
      split
      · rw [List.map_map, List.map_map]
        rfl
      · rfl
  | unwrappedLiteralKeyword =>
      simp only [ruleViolations, hasBareKeyword_collapseBlanks]
      split <;> rfl

/-- A step is wrong in the same way once its runs of blanks are collapsed. -/
theorem stepViolations_collapseBlanks (item : isItem step = true) :
    stepViolations kind name (collapseBlanks step) =
      (stepViolations kind name step).map Violation.collapsed := by
  rw [stepViolations_eq_flatMap, stepViolations_eq_flatMap, List.map_flatMap]
  apply List.flatMap_congr
  intro rule _
  exact ruleViolations_collapseBlanks item rule

theorem map_rule_stepFindings (policy : Policy) (document : Text) (block : Block) (step : Text)
    (line : Nat) :
    ((block.stepFindings step line).map (Finding.toDiagnostic policy document)).map Diagnostic.rule =
      ((stepViolations block.kind block.name step).map Violation.collapsed).map Violation.rule := by
  simp only [Block.stepFindings, List.map_map]
  apply List.map_congr_left
  intro violation _
  exact violation.rule_collapsed.symm

end

/-- Two steps that differ in the runs of their blanks only break the same rules in the same order,
whatever block and document they belong to.  What the reports quote of them agrees up to those runs
as well, nested literals above all. -/
theorem rewrapped_step_breaks_same_rules {step other : Text} (item : isItem step = true)
    (itemToo : isItem other = true) (same : collapseBlanks step = collapseBlanks other)
    (policy : Policy) (document : Text) (block : Block) (line lineToo : Nat) :
    ((block.stepFindings step line).map (Finding.toDiagnostic policy document)).map
        Diagnostic.rule =
      ((block.stepFindings other lineToo).map (Finding.toDiagnostic policy document)).map
        Diagnostic.rule ∧
    (stepViolations block.kind block.name step).map Violation.collapsed =
      (stepViolations block.kind block.name other).map Violation.collapsed ∧
    (nestedLiterals step).map collapseBlanks = (nestedLiterals other).map collapseBlanks := by
  have violations : (stepViolations block.kind block.name step).map Violation.collapsed =
      (stepViolations block.kind block.name other).map Violation.collapsed := by
    rw [← stepViolations_collapseBlanks item, same, stepViolations_collapseBlanks itemToo]
  have literals : (nestedLiterals step).map collapseBlanks =
      (nestedLiterals other).map collapseBlanks := by
    rw [← nestedLiterals_collapseBlanks, same, nestedLiterals_collapseBlanks]
  rw [map_rule_stepFindings, violations, map_rule_stepFindings]
  exact ⟨rfl, rfl, literals⟩

/-- A step on one line and the same step on three, with a nested literal, a call and a keyword that
are each cut by a line break in the second. -/
theorem wrapped_step_breaks_same_rules :
    let step := "- let \x7bx \x7by\x7d  z\x7d be Foo(a) if \x7bb\x7d is true".toList
    let wrapped := "- let \x7bx\n  \x7by\x7d z\x7d be Foo(a) if \x7bb\x7d is\n  true".toList
    isItem step = true ∧ isItem wrapped = true ∧ collapseBlanks step = collapseBlanks wrapped ∧
      (stepViolations .algorithm "Bar".toList step).map Violation.rule =
        [.stepPunctuation, .stepCapitalization, .unwrappedAlgorithmCall, .nestedValueLiteral,
          .unwrappedLiteralKeyword] ∧
      (stepViolations .algorithm "Bar".toList step).map Violation.collapsed =
        (stepViolations .algorithm "Bar".toList wrapped).map Violation.collapsed := by
  intro step wrapped
  have item : isItem step = true := by decide
  have itemToo : isItem wrapped = true := by decide
  have same : collapseBlanks step = collapseBlanks wrapped := by decide
  obtain ⟨_, violations, _⟩ := rewrapped_step_breaks_same_rules item itemToo same {} "a.md".toList
    ⟨0, .algorithm "Bar".toList false⟩ 2 2
  exact ⟨item, itemToo, same, by decide +kernel, violations⟩

end PseudocodeLint
