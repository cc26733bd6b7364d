import PseudocodeLint.Proofs.LineFindings
import PseudocodeLint.Proofs.Recognition

namespace PseudocodeLint

/-! The patterns that steps are matched against.  All of them begin with a blank indent and a marker,
but they differ in what they allow behind the marker: a single space, one blank or more, or any
blanks.  At an item they still find the same marker, since a marker has neither blanks in it nor
visible characters right behind it, and so each of them speaks of the body of the item. -/

/-- A marker with one blank or more behind it, and then a small letter. -/
def MatchesLowercase (line : Text) : Prop :=
  ∃ gap c rest, IsMarked line gap (c :: rest) ∧ gap ≠ [] ∧ 'a' ≤ c ∧ c ≤ 'z'

/-- A marker with any blanks behind it, and then the word `Assert` with `found`, which is no colon,
right behind it. -/
def MatchesAssert (line : Text) (found : Char) : Prop :=
  ∃ gap rest, IsMarked line gap ("Assert".toList ++ found :: rest) ∧ found ≠ ':'

def FirstVisible (text : Text) (c : Char) : Prop :=
  ∃ blanks rest, text = blanks ++ c :: rest ∧ (∀ b ∈ blanks, isBlank b = true) ∧ isBlank c = false

def LastVisible (text : Text) (c : Char) : Prop :=
  ∃ rest blanks, text = rest ++ c :: blanks ∧ (∀ b ∈ blanks, isBlank b = true) ∧ isBlank c = false

section

variable {text line gap rest : Text} {c found : Char} {item : Item}

theorem firstVisible_iff : FirstVisible text c ↔ (trimStart text).head? = some c := by
  simp only [List.head?_eq_some_iff, trimStart_eq_cons_iff, FirstVisible]
  exact exists_comm

theorem lastVisible_iff : LastVisible text c ↔ lastVisible? text = some c := by
  rw [lastVisible?, List.find?_eq_some_iff_append, LastVisible]
  constructor
  · intro last
    obtain ⟨rest, blanks, rfl, blank, visible⟩ := last
    exact ⟨by simp [visible], blanks.reverse, rest.reverse, by simp, by simpa using blank⟩
  · intro found
    obtain ⟨visible, blanks, rest, reversed, blank⟩ := found
    refine ⟨rest.reverse, blanks.reverse, ?_, by simpa using blank, by simpa using visible⟩
    rw [← List.reverse_reverse text, reversed]
    simp

theorem isLower_iff : c.isLower = true ↔ 'a' ≤ c ∧ c ≤ 'z' := by
  unfold Char.isLower
  rw [Bool.and_eq_true, decide_eq_true_eq, decide_eq_true_eq]
  exact Iff.rfl

theorem isAlphanum_of_isLower (lower : c.isLower = true) : c.isAlphanum = true := by
  change (c.isUpper || c.isLower || c.isDigit) = true
  rw [lower, Bool.or_true, Bool.true_or]

namespace Item

theorem startsLowercase_iff :
    item.startsLowercase = true ↔ ∃ c, FirstVisible item.body c ∧ 'a' ≤ c ∧ c ≤ 'z' := by
  simp only [startsLowercase, Option.any_eq_true, firstVisible_iff, isLower_iff]

theorem assertFollower?_eq_some_iff :
    item.assertFollower? = some found ↔
      "Assert".toList ++ [found] <+: trimStart item.body ∧ found ≠ ':' := by
  simp only [assertFollower?, List.isPrefixOf_iff_prefix]
  generalize trimStart item.body = lead
  split
  · rename_i begins
    obtain ⟨rest, rfl⟩ := begins
    have behind : ("Assert".toList ++ rest).drop "Assert".length = rest := rfl
    rw [behind, List.prefix_append_right_inj, Option.filter_eq_some_iff, decide_eq_true_eq]
    apply and_congr_left
    intro _
    cases rest with
    | nil => simp
    | cons c rest => simp [List.cons_prefix_cons, eq_comm (a := c)]
  · rename_i other
    simp only [reduceCtorEq, false_iff, not_and]
    intro begins
    exact absurd ((List.prefix_append _ _).trans begins) other

/-- The body of an item begins with a small letter or with `Assert`, or with neither. -/
theorem assertFollower?_eq_none_of_startsLowercase (lower : item.startsLowercase = true) :
    item.assertFollower? = none := by
  refine Option.eq_none_iff_forall_ne_some.mpr fun found follows => ?_
  obtain ⟨⟨rest, lead⟩, _⟩ := assertFollower?_eq_some_iff.mp follows
  rw [startsLowercase, ← lead] at lower
  contradiction

theorem WellFormed.matchesLowercase_iff (wellFormed : item.WellFormed) :
    MatchesLowercase item.toText ↔ item.startsLowercase = true := by
  rw [startsLowercase_iff]
  constructor
  · intro matched
    obtain ⟨gap, c, rest, marked, _, small⟩ := matched
    have visible := isBlank_eq_false_of_isAlphanum (isAlphanum_of_isLower (isLower_iff.mpr small))
    have shown := (wellFormed.body_of_isMarked marked visible).2
    exact ⟨c, firstVisible_iff.mpr (by rw [shown, List.head?_cons]), small⟩
  · intro begins
    obtain ⟨c, first, small⟩ := begins
    obtain ⟨rest, shown⟩ := List.head?_eq_some_iff.mp (firstVisible_iff.mp first)
    exact ⟨_, c, rest, wellFormed.isMarked shown, List.cons_ne_nil _ _, small⟩

theorem WellFormed.matchesAssert_iff (wellFormed : item.WellFormed) :
    MatchesAssert item.toText found ↔ item.assertFollower? = some found := by
  rw [assertFollower?_eq_some_iff]
  constructor
  · intro matched
    obtain ⟨gap, rest, marked, other⟩ := matched
    have visible : isBlank 'A' = false := by decide
    have shown := (wellFormed.body_of_isMarked marked visible).2
    exact ⟨⟨rest, by rw [shown]; rfl⟩, other⟩
  · intro begins
    obtain ⟨⟨rest, lead⟩, other⟩ := begins
    refine ⟨_, rest, wellFormed.isMarked ?_, other⟩
    rw [← lead, List.append_assoc, List.singleton_append]

end Item

theorem endsSentence_iff :
    endsSentence text = true ↔ ∃ c, LastVisible text c ∧ (c = '.' ∨ c = ':') := by
  simp only [endsSentence, Option.any_eq_true, lastVisible_iff, Bool.or_eq_true, decide_eq_true_eq]

end

section

variable {lines : List Text} {block : Block} {finding other : Finding}

/-- What a block finds at a step is found in the text of that step, whatever the block. -/
theorem Block.mem_ruleViolations_of_mem_findings (member : finding ∈ block.findings lines)
    (listed : finding.violation.rule ∈ stepRules) :
    ∃ step, lines[finding.line]? = some step ∧
      finding.violation ∈ ruleViolations block.kind block.name step finding.violation.rule := by
  rcases List.mem_append.mp member with atHeader | inList
  · have apart : ∀ rule ∈ stepRules, rule.site ≠ .header := by decide
    exact absurd (of_mem_headerFindings atHeader).2 (apart _ listed)
  · obtain ⟨start, _, body⟩ := List.mem_flatMap.mp inList
    rw [bodyFindings_eq_flatMap] at body
    obtain ⟨line, _, report⟩ := List.mem_flatMap.mp body
    rw [line_of_mem_lineReport report]
    simp only [lineReport] at report
    split at report
    · contradiction
    · rename_i step found
      split at report
      · have kept : finding ∈ (block.stepFindings step line).filter
            (·.violation.rule = finding.violation.rule) :=
          List.mem_filter.mpr ⟨report, decide_eq_true rfl⟩
        rw [filter_rule_stepFindings, if_pos listed] at kept
        obtain ⟨violation, broken, rfl⟩ := List.mem_map.mp kept
        exact ⟨step, found, broken⟩
      · rw [(of_mem_endFindings report).2] at listed
        contradiction

theorem Block.not_both_reported (member : finding ∈ block.findings lines)
    (memberToo : other ∈ block.findings lines) (sameLine : other.line = finding.line)
    (capital : finding.violation.rule = .stepCapitalization) :
    other.violation.rule ≠ .assertFormatting := by
  intro assert
  obtain ⟨step, found, broken⟩ :=
    mem_ruleViolations_of_mem_findings member (by rw [capital]; decide)
  obtain ⟨stepToo, foundToo, brokenToo⟩ :=
    mem_ruleViolations_of_mem_findings memberToo (by rw [assert]; decide)
  rw [sameLine, found] at foundToo
  obtain rfl := Option.some.inj foundToo
  rw [capital, ruleViolations] at broken
  rw [assert, ruleViolations] at brokenToo
  split at broken
  · rename_i lower
    obtain ⟨item, read, lower⟩ := (Option.any_eq_true _ _).mp lower
    rw [read, Option.bind_some, Item.assertFollower?_eq_none_of_startsLowercase lower] at brokenToo
    contradiction
  · contradiction

end

/-- How the checks of a step read the text of an item. -/
structure Item.ReadAlike (item : Item) : Prop where
  /-- No other indent, marker and body make up the same text. -/
  unique : ∀ other : Item, other.WellFormed → item.toText = other.toText → other = item
  lowercase : (read? item.toText).any startsLowercase = true ↔
    ∃ c, FirstVisible item.body c ∧ 'a' ≤ c ∧ c ≤ 'z'
  lowercase_pattern : (read? item.toText).any startsLowercase = true ↔ MatchesLowercase item.toText
  follower : ∀ found, (read? item.toText).bind assertFollower? = some found ↔
    "Assert".toList ++ [found] <+: trimStart item.body ∧ found ≠ ':'
  follower_pattern : ∀ found, (read? item.toText).bind assertFollower? = some found ↔
    MatchesAssert item.toText found
  sentence : endsSentence item.toText = true ↔
    ∃ c, LastVisible item.toText c ∧ (c = '.' ∨ c = ':')

/-- The patterns of a step read every item in the same way, as one indent, marker and body.  So no
block reports both a small letter and an `Assert` at one line, and no item is taken for a header. -/
theorem step_patterns_read_alike :
    (∀ line, isItem line = true ↔ ∃ item : Item, item.WellFormed ∧ line = item.toText) ∧
    (∀ item : Item, item.WellFormed → item.ReadAlike) ∧
    (∀ (lines : List Text) (block : Block), ∀ finding ∈ block.findings lines,
      ∀ other ∈ block.findings lines, other.line = finding.line →
        finding.violation.rule = .stepCapitalization →
          other.violation.rule ≠ .assertFormatting) ∧
    ∀ (lines : List Text) (inGrammar : Bool) (cursor : Nat) (inside : cursor < lines.length),
      isItem lines[cursor] = true → classify lines inGrammar cursor = .ok none := by
  refine ⟨fun line => isItem_iff, ?_, ?_, ?_⟩
  · intro item wellFormed
    have read := Item.read?_toText wellFormed
    constructor
    case unique =>
      intro other wellFormedToo same
      exact (Item.toText_injective wellFormed wellFormedToo same).symm
    case lowercase => rw [read, Option.any_some, Item.startsLowercase_iff]
    case lowercase_pattern => rw [read, Option.any_some, wellFormed.matchesLowercase_iff]
    case follower =>
      intro found
      rw [read, Option.bind_some, Item.assertFollower?_eq_some_iff]
    case follower_pattern =>
      intro found
      rw [read, Option.bind_some, wellFormed.matchesAssert_iff]
    case sentence => exact endsSentence_iff
  · intro lines block finding member other memberToo sameLine capital
    exact Block.not_both_reported member memberToo sameLine capital
  · intro lines inGrammar cursor inside item
    rw [classify_eq_ok inside,
      openingAt_eq_none_of_isItem (List.getElem?_eq_getElem inside) item]

/-- An item that is wrapped right behind its marker, and a step with a small letter. -/
theorem wrapped_assert_read_alike :
    let item : Item := ⟨"\n\t".toList, .ordinal "12".toList, "\n  Assert \x7ba\x7d\n".toList⟩
    let lines := ["Foo(a):".toList, [], "- assert \x7ba\x7d".toList]
    let block : Block := ⟨0, .algorithm "Foo".toList false⟩
    let finding : Finding := ⟨2, .stepCapitalization "Foo".toList, ["- assert \x7ba\x7d".toList]⟩
    item.WellFormed ∧ item.toText = "\n\t12. \n  Assert \x7ba\x7d\n".toList ∧
      (Item.read? item.toText).bind Item.assertFollower? = some ' ' ∧
      MatchesAssert item.toText ' ' ∧ ¬ MatchesLowercase item.toText ∧
      finding ∈ block.findings lines ∧
      (∀ other ∈ block.findings lines, other.line = 2 → other.violation.rule ≠ .assertFormatting) ∧
      2 < lines.length ∧ isItem lines[2] = true ∧ classify lines true 2 = .ok none := by
  intro item lines block finding
  have digits : ∀ c ∈ "12".toList, c.isDigit = true := List.all_eq_true.mp rfl
  have wellFormed : item.WellFormed := ⟨List.all_eq_true.mp rfl, by decide, digits⟩
  have follows : (Item.read? item.toText).bind Item.assertFollower? = some ' ' := by decide
  have capital : ¬ (Item.read? item.toText).any Item.startsLowercase = true := by decide
  have reported : finding ∈ block.findings lines := by decide +kernel
  have listed : isItem lines[2] = true := by decide
  obtain ⟨_, alike, apart, unopened⟩ := step_patterns_read_alike
  have read := alike item wellFormed
  refine ⟨wellFormed, rfl, follows, (read.follower_pattern ' ').mp follows,
    mt read.lowercase_pattern.mpr capital, reported, ?_, by decide, listed,
    unopened lines true 2 (by decide) listed⟩
  intro other member sameLine
  exact apart lines block finding reported other member sameLine rfl

end PseudocodeLint
