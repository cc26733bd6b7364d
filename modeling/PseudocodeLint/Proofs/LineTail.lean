import PseudocodeLint.Proofs.Adds
import PseudocodeLint.Proofs.Continuation
import PseudocodeLint.Proofs.HeaderShape
import PseudocodeLint.Proofs.LineFindings

namespace PseudocodeLint

section

variable {line text lead : Text} {c : Char} {item : Item}

theorem isPrefixOf_append_singleton (other : lead.getLast? ≠ some c) :
    lead.isPrefixOf (text ++ [c]) = lead.isPrefixOf text := by
  apply Bool.eq_iff_iff.mpr
  rw [List.isPrefixOf_iff_prefix, List.isPrefixOf_iff_prefix]
  constructor
  · intro leads
    rcases List.prefix_concat_iff.mp leads with rfl | within
    · simp at other
    · exact within
  · exact fun leads => leads.trans (List.prefix_append ..)

theorem isBlankLine_append_newline : isBlankLine (line ++ ['\n']) = isBlankLine line := by
  have blank : isBlank '\n' = true := rfl
  simp [isBlankLine, blank]

theorem startsWithBullet_append_newline :
    startsWithBullet (line ++ ['\n']) = startsWithBullet line :=
  isPrefixOf_append_singleton (by decide)

theorem trimStart_append_newline (text : Text) :
    trimStart (text ++ ['\n']) = if trimStart text = [] then [] else trimStart text ++ ['\n'] := by
  simp only [trimStart, List.dropWhile_append, List.isEmpty_iff]
  rfl

theorem isItem_append_newline : isItem (line ++ ['\n']) = isItem line := by
  refine Bool.eq_iff_iff.mpr (isItem_append_newline_iff.trans ⟨fun found => ?_, Or.inl⟩)
  rcases found with found | ⟨_, nothing⟩
  · exact found
  · contradiction

theorem Item.read?_append_newline :
    read? (line ++ ['\n']) =
      (read? line).map fun item => { item with body := item.body ++ ['\n'] } := by
  cases found : read? line with
  | none =>
      have closed : isItem (line ++ ['\n']) = false := by
        rw [isItem_append_newline, isItem, found]
        rfl
      simpa [isItem] using closed
  | some item =>
      obtain ⟨wellFormed, rfl⟩ := read?_eq_some_iff.mp found
      refine read?_eq_some_iff.mpr ⟨⟨wellFormed.indent_blank, wellFormed.marker_wellFormed⟩, ?_⟩
      simp [toText]

theorem AlgorithmHeader.read?_append_newline :
    read? (line ++ ['\n']) =
      (read? line).map fun header => { header with afterColon := header.afterColon ++ ['\n'] } := by
  cases found : read? line with
  | some header =>
      obtain ⟨wellFormed, rfl⟩ := read?_eq_some_iff.mp found
      refine read?_eq_some_iff.mpr ⟨{ wellFormed with afterColon_blank := ?_ }, ?_⟩
      · intro c member
        rcases List.mem_append.mp member with inside | last
        · exact wellFormed.afterColon_blank c inside
        · obtain rfl := List.mem_singleton.mp last
          rfl
      · simp [toText]
  | none =>
      refine Option.eq_none_iff_forall_ne_some.mpr fun header longer => ?_
      obtain ⟨wellFormed, same⟩ := read?_eq_some_iff.mp longer
      rcases List.eq_nil_or_concat header.afterColon with empty | ⟨blanks, c, whole⟩
      · have text : header.toText = (header.name ++ header.beforeArguments ++
            '(' :: header.arguments ++ ')' :: header.beforeColon) ++ [':'] := by
          simp [toText, empty]
        have last := (List.append_inj' (same.trans text) rfl).2
        contradiction
      · have text : header.toText = toText { header with afterColon := blanks } ++ [c] := by
          simp [toText, whole]
        have shorter : read? line = some { header with afterColon := blanks } := by
          refine read?_eq_some_iff.mpr ⟨{ wellFormed with afterColon_blank := ?_ },
            (List.append_inj' (same.trans text) rfl).1⟩
          intro c member
          exact wellFormed.afterColon_blank c (by simp [whole, member])
        rw [found] at shorter
        contradiction

theorem Production.read?_append_newline : read? (line ++ ['\n']) = none := by
  refine Option.eq_none_iff_forall_ne_some.mpr fun production found => ?_
  have same := toText_of_read? found
  have definition : production.definition ≠ [] ∧ '\n' ∉ production.definition := by
    simp only [read?] at found
    split at found
    · split at found
      · split at found
        · rename_i complete
          cases found
          exact complete.2.2
        · contradiction
      · contradiction
    · contradiction
  obtain ⟨visible, c, whole⟩ := (List.eq_nil_or_concat production.definition).resolve_left
    definition.1
  have last := congrArg List.getLast? same
  simp only [toText, whole, List.concat_eq_append, ← List.append_assoc,
    List.getLast?_concat, Option.some.injEq] at last
  exact definition.2 (by simp [whole, last])

/-- The item ends right after the word `Assert`. -/
def Item.endsInAssert (item : Item) : Bool :=
  trimStart item.body = "Assert".toList

theorem endsSentence_append_newline : endsSentence (line ++ ['\n']) = endsSentence line := by
  have blank : isBlank '\n' = true := rfl
  simp [endsSentence, lastVisible?, blank]

theorem Item.startsLowercase_append_newline :
    startsLowercase { item with body := item.body ++ ['\n'] } = item.startsLowercase := by
  simp only [startsLowercase, trimStart_append_newline]
  cases trimStart item.body <;> rfl

theorem Item.assertFollower?_append_newline :
    assertFollower? { item with body := item.body ++ ['\n'] } =
      if item.endsInAssert then some '\n' else item.assertFollower? := by
  simp only [assertFollower?, endsInAssert, trimStart_append_newline, decide_eq_true_eq]
  generalize trimStart item.body = lead
  by_cases begins : "Assert".toList <+: lead
  · obtain ⟨rest, rfl⟩ := begins
    cases rest with
    | nil => rfl
    | cons c rest => rfl
  · have closed : "Assert".toList.isPrefixOf lead = false := by
      rw [Bool.eq_false_iff, ne_eq, List.isPrefixOf_iff_prefix]
      exact begins
    have longer : "Assert".toList.isPrefixOf (lead ++ ['\n']) = false :=
      (isPrefixOf_append_singleton (by decide)).trans closed
    have other : lead ≠ "Assert".toList := by
      rintro rfl
      exact begins (List.prefix_refl _)
    rw [if_neg other, closed]
    split
    · rfl
    · rw [longer]
      rfl

theorem Item.assertFollower?_eq_none (ends : item.endsInAssert = true) :
    item.assertFollower? = none := by
  have whole : trimStart item.body = "Assert".toList := of_decide_eq_true ends
  rw [assertFollower?, whole]
  rfl

theorem readContent?_append_newline (nested : Bool) (text : Text) :
    readContent? nested (text ++ ['\n']) =
      (readContent? nested text).map (Prod.map id (· ++ ['\n'])) := by
  induction text generalizing nested with
  | nil => rfl
  | cons c rest restIH =>
      simp only [List.cons_append, readContent?, restIH]
      split
      · split
        · simp only [Option.map_map]
          rfl
        · rfl
      · split
        · split
          · rfl
          · simp only [Option.map_map]
            rfl
        · simp only [Option.map_map]
          rfl

theorem readLiteral?_append_newline (c : Char) (rest : Text) :
    readLiteral? (c :: rest ++ ['\n']) =
      (readLiteral? (c :: rest)).map (Prod.map id (· ++ ['\n'])) := by
  simp only [List.cons_append, readLiteral?, readContent?_append_newline]
  split
  · cases readContent? false rest with
    | none => rfl
    | some found =>
        simp only [Option.map_some, Option.filter_some, Prod.map, id]
        split
        · rfl
        · rfl
  · rfl

theorem pieces_append_newline (text : Text) :
    pieces (text ++ ['\n']) = pieces text ++ [.plain '\n'] := by
  fun_induction pieces text with
  | case1 => simp [pieces, readLiteral?]
  | case2 c rest content after found _ afterIH =>
      have longer := readLiteral?_append_newline c rest
      rw [found, List.cons_append] at longer
      rw [List.cons_append, pieces_cons_literal longer, afterIH]
      rfl
  | case3 c rest missing restIH =>
      have longer := readLiteral?_append_newline c rest
      rw [missing, List.cons_append] at longer
      rw [List.cons_append, pieces_cons_plain longer, restIH]
      rfl

theorem outsideLiterals_append_newline (text : Text) :
    outsideLiterals (text ++ ['\n']) = outsideLiterals text ++ ['\n'] := by
  simp [outsideLiterals, pieces_append_newline]

theorem nestedLiterals_append_newline (text : Text) :
    nestedLiterals (text ++ ['\n']) = nestedLiterals text := by
  simp [nestedLiterals, literalContents, pieces_append_newline]

theorem anyWordStart_append {found : Text → Bool} {inWord : Bool}
    (same : ∀ text, found (text ++ [c]) = found text) (never : found [] = false) :
    anyWordStart found inWord (text ++ [c]) = anyWordStart found inWord text := by
  induction text generalizing inWord with
  | nil =>
      have single := same []
      rw [List.nil_append] at single
      simp [anyWordStart, single, never]
  | cons first rest restIH =>
      have whole := same (first :: rest)
      rw [List.cons_append] at whole ⊢
      simp only [anyWordStart, whole, restIH]

theorem startsCall_append_newline (text : Text) : startsCall (text ++ ['\n']) = startsCall text := by
  cases text with
  | nil => rfl
  | cons c rest =>
      have letter : '\n'.isAlphanum = false := rfl
      simp only [List.cons_append, startsCall, takeWhile_append_stop letter, List.dropWhile_append]
      cases rest.dropWhile Char.isAlphanum <;> rfl

theorem hasBareCall_append_newline : hasBareCall (line ++ ['\n']) = hasBareCall line := by
  rw [hasBareCall, outsideLiterals_append_newline]
  exact anyWordStart_append startsCall_append_newline rfl

theorem startsWithThen_append {next : Text → Bool}
    (same : ∀ text, next (text ++ [c]) = next text)
    (apart : next [] = true → lead.getLast? ≠ some c) :
    startsWithThen lead next (text ++ [c]) = startsWithThen lead next text := by
  by_cases begins : lead <+: text
  · obtain ⟨rest, rfl⟩ := begins
    have leads : ∀ after, lead.isPrefixOf (lead ++ after) = true := fun after =>
      List.isPrefixOf_iff_prefix.mpr (List.prefix_append lead after)
    simp [startsWithThen, leads, same]
  · have closed : lead.isPrefixOf text = false := by
      rw [Bool.eq_false_iff, ne_eq, List.isPrefixOf_iff_prefix]
      exact begins
    rw [startsWithThen, startsWithThen, closed, Bool.false_and, Bool.and_eq_false_imp]
    intro longer
    rcases List.prefix_concat_iff.mp (List.isPrefixOf_iff_prefix.mp longer) with rfl | within
    · refine Bool.eq_false_iff.mpr fun empty => ?_
      rw [List.drop_length] at empty
      exact apart empty (by simp)
    · exact absurd within begins

theorem startsKeyword_append_space (text : Text) :
    startsKeyword (text ++ [' ']) = startsKeyword text := by
  have ends : ∀ text : Text, (!(text ++ [' ']).head?.any isWordChar) =
      !text.head?.any isWordChar := by
    intro text
    cases text <;> rfl
  simp only [startsKeyword, List.any_cons, List.any_nil]
  rw [startsWithThen_append ends fun _ => by decide, startsWithThen_append ends fun _ => by decide,
    startsWithThen_append ends fun _ => by decide]

theorem startsKeywordPhrase_append_space (text : Text) :
    startsKeywordPhrase (text ++ [' ']) = startsKeywordPhrase text := by
  have bare : startsKeyword [] = true → False := by decide
  simp only [startsKeywordPhrase, List.any_cons, List.any_nil]
  rw [startsWithThen_append startsKeyword_append_space fun empty => (bare empty).elim,
    startsWithThen_append startsKeyword_append_space fun empty => (bare empty).elim,
    startsWithThen_append startsKeyword_append_space fun empty => (bare empty).elim,
    startsWithThen_append startsKeyword_append_space fun empty => (bare empty).elim]

theorem anySuffix_append {found : Text → Bool} (same : ∀ text, found (text ++ [c]) = found text) :
    anySuffix found (text ++ [c]) = anySuffix found text := by
  induction text with
  | nil =>
      have single := same []
      rw [List.nil_append] at single
      simp [anySuffix, single]
  | cons first rest restIH =>
      have whole := same (first :: rest)
      rw [List.cons_append] at whole ⊢
      simp only [anySuffix, whole, restIH]

/-- A newline lengthens a run of blanks or is one. -/
theorem collapseBlanks_append_newline (text : Text) :
    collapseBlanks (text ++ ['\n']) = collapseBlanks text ∨
      collapseBlanks (text ++ ['\n']) = collapseBlanks text ++ [' '] := by
  induction text with
  | nil => exact Or.inr rfl
  | cons c rest restIH =>
      simp only [List.cons_append, collapseBlanks]
      split
      · rcases restIH with same | more
        · exact Or.inl (congrArg _ same)
        · exact Or.inr (congrArg _ more)
      · cases rest with
        | nil => exact Or.inl rfl
        | cons next rest =>
            rw [List.cons_append] at restIH ⊢
            by_cases blank : isBlank next = true
            · have joins : ∀ tail : Text, (next :: tail).head?.any isBlank = true := fun _ => blank
              rw [if_pos (joins _), if_pos (joins _)]
              exact restIH
            · have ends : ∀ tail : Text, ¬ (next :: tail).head?.any isBlank = true := fun _ => blank
              rw [if_neg (ends _), if_neg (ends _)]
              rcases restIH with same | more
              · exact Or.inl (congrArg _ same)
              · exact Or.inr (congrArg _ more)

theorem hasBareKeyword_append_newline : hasBareKeyword (line ++ ['\n']) = hasBareKeyword line := by
  simp only [hasBareKeyword]
  rcases collapseBlanks_append_newline line with same | more
  · rw [same]
  · have excused : containsText "null or empty".toList (collapseBlanks line ++ [' ']) =
        containsText "null or empty".toList (collapseBlanks line) :=
      anySuffix_append fun _ => isPrefixOf_append_singleton (by decide)
    rw [more, excused, anyWordStart_append startsKeywordPhrase_append_space rfl]

end

/-- The line is an item that breaks off after the word `Assert`. -/
def bareAssert (line : Text) : Bool :=
  (Item.read? line).any Item.endsInAssert

theorem isItem_of_bareAssert {line : Text} (bare : bareAssert line = true) :
    isItem line = true := by
  obtain ⟨item, found, _⟩ := (Option.any_eq_true _ _).mp bare
  rw [isItem, found]
  rfl

/-- The line consists of blanks, a marker, blanks and the word `Assert`. -/
def IsBareAssert (line : Text) : Prop :=
  ∃ indent marker gap, (∀ c ∈ indent, isBlank c = true) ∧ Marker.WellFormed marker ∧
    (∀ c ∈ gap, isBlank c = true) ∧ line = indent ++ marker.toText ++ gap ++ "Assert".toList

theorem bareAssert_iff {line : Text} :
    bareAssert line = true ↔ isItem line = true ∧ IsBareAssert line := by
  constructor
  · intro bare
    refine ⟨isItem_of_bareAssert bare, ?_⟩
    obtain ⟨item, found, ends⟩ := (Option.any_eq_true _ _).mp bare
    obtain ⟨wellFormed, rfl⟩ := Item.read?_eq_some_iff.mp found
    obtain ⟨indent, marker, marked⟩ := wellFormed.isMarked (of_decide_eq_true ends)
    exact ⟨indent, marker, _, marked⟩
  · intro bare
    obtain ⟨listed, indent, marker, gap, marked⟩ := bare
    obtain ⟨item, wellFormed, rfl⟩ := isItem_iff.mp listed
    have visible : isBlank 'A' = false := by decide
    have word := (wellFormed.body_of_isMarked ⟨indent, marker, marked⟩ visible).2
    rw [bareAssert, Item.read?_toText wellFormed]
    exact decide_eq_true word

theorem endsSentence_of_bareAssert {line : Text} (bare : bareAssert line = true) :
    endsSentence line = false := by
  obtain ⟨_, indent, marker, gap, _, _, _, rfl⟩ := bareAssert_iff.mp bare
  have letter : isBlank 't' = false := by decide
  simp [endsSentence, lastVisible?, letter]

theorem ruleViolations_append_newline {kind : BlockKind} {name step : Text} {rule : Rule}
    (other : rule ≠ .assertFormatting) :
    ruleViolations kind name (step ++ ['\n']) rule = ruleViolations kind name step rule := by
  cases rule with
  | assertFormatting => contradiction
  | stepCapitalization =>
      simp only [ruleViolations, Item.read?_append_newline, Option.any_map]
      cases Item.read? step with
      | none => rfl
      | some item =>
          simp only [Option.any_some, Item.startsLowercase_append_newline]
  | headerWhitespace | missingBlankAfterHeader | malformedStepShape | missingIndentAfterColon => rfl
  | stepPunctuation => simp only [ruleViolations, endsSentence_append_newline]
  | unwrappedAlgorithmCall => simp only [ruleViolations, hasBareCall_append_newline]
  | nestedValueLiteral => simp only [ruleViolations, nestedLiterals_append_newline]
  | unwrappedLiteralKeyword => simp only [ruleViolations, hasBareKeyword_append_newline]

theorem assertFollower?_read?_append_newline (step : Text) :
    (Item.read? (step ++ ['\n'])).bind Item.assertFollower? =
      if bareAssert step then some '\n' else (Item.read? step).bind Item.assertFollower? := by
  rw [Item.read?_append_newline, bareAssert]
  cases Item.read? step with
  | none => rfl
  | some item => exact Item.assertFollower?_append_newline

theorem assertViolations_append_newline (kind : BlockKind) (name step : Text) :
    Adds (if bareAssert step then [.assertFormatting name '\n'] else [])
      (ruleViolations kind name step .assertFormatting)
      (ruleViolations kind name (step ++ ['\n']) .assertFormatting) := by
  simp only [ruleViolations, assertFollower?_read?_append_newline]
  split
  · rename_i bare
    have missing : (Item.read? step).bind Item.assertFollower? = none := by
      obtain ⟨item, found, ends⟩ := (Option.any_eq_true _ _).mp bare
      rw [found]
      exact Item.assertFollower?_eq_none ends
    rw [missing]
    exact Adds.singleton _
  · exact Adds.refl _

theorem stepViolations_append_newline (kind : BlockKind) (name step : Text) :
    Adds (if bareAssert step then [.assertFormatting name '\n'] else [])
      (stepViolations kind name step) (stepViolations kind name (step ++ ['\n'])) := by
  have distinct : stepRules.Nodup := by decide
  have listed : Rule.assertFormatting ∈ stepRules := by decide
  have total := flatMap_at_key distinct .assertFormatting
    (if bareAssert step then [Violation.assertFormatting name '\n'] else [])
  rw [if_pos listed] at total
  rw [stepViolations_eq_flatMap, stepViolations_eq_flatMap, ← total]
  refine Adds.flatMap fun rule _ => ?_
  by_cases asserts : rule = .assertFormatting
  · subst asserts
    rw [if_pos rfl]
    exact assertViolations_append_newline kind name step
  · rw [if_neg asserts, ruleViolations_append_newline asserts]
    exact Adds.refl _

end PseudocodeLint
