import PseudocodeLint.Proofs.Rewrapping

namespace PseudocodeLint

/-! Literal keywords without braces.  They are looked for in the collapsed text, where a phrase has
single spaces between its words.  In the text itself the words of the phrase stand at the place that
belongs to it, with any blanks between them, and what surrounds them is no more part of a word than
before. -/

/-- The words one behind another, with blanks between each and the next. -/
inductive Spelled : List Text → Text → Prop where
  | last (word : Text) : Spelled [word] word
  | more {word gap behind : Text} {words : List Text} (filled : gap ≠ [])
      (blank : ∀ c ∈ gap, isBlank c = true) (spelled : Spelled words behind) :
      Spelled (word :: words) (word ++ (gap ++ behind))

def literalKeywords : List Text :=
  ["true".toList, "false".toList, "null".toList]

/-- What a literal keyword may follow. -/
def keywordLeads : List (List Text) :=
  [["return".toList], ["Return".toList], ["is".toList], ["is".toList, "not".toList]]

/-- Whether a literal keyword stands in a text behind one of its leads, the whole of it neither
preceded nor followed by a word character. -/
def HasDirectKeyword (text : Text) : Prop :=
  ∃ before phrase after, text = before ++ (phrase ++ after) ∧ endsInWord before = false ∧
    (∃ lead ∈ keywordLeads, ∃ keyword ∈ literalKeywords, Spelled (lead ++ [keyword]) phrase) ∧
    after.head?.any isWordChar = false

def SaysNullOrEmpty (text : Text) : Prop :=
  ∃ before phrase after, text = before ++ (phrase ++ after) ∧
    Spelled ["null".toList, "or".toList, "empty".toList] phrase

/-- A word has a character, and none of its characters is blank. -/
def IsWord (word : Text) : Prop :=
  word ≠ [] ∧ ∀ c ∈ word, isBlank c = false

section

variable {text rest lead : Text} {words : List Text} {next : Text → Bool}

theorem isWord_of_isAlphanum
    (letters : ∀ word ∈ words, word ≠ [] ∧ word.all Char.isAlphanum = true) :
    ∀ word ∈ words, IsWord word := by
  intro word listed
  obtain ⟨filled, alphanumeric⟩ := letters word listed
  exact ⟨filled, fun c inside =>
    isBlank_eq_false_of_isAlphanum (List.all_eq_true.mp alphanumeric c inside)⟩

theorem IsWord.beginsVisible {word : Text} (isWord : IsWord word) (rest : Text) :
    BeginsVisible (word ++ rest) := by
  obtain ⟨filled, visible⟩ := isWord
  obtain ⟨c, others, rfl⟩ := List.exists_cons_of_ne_nil filled
  exact ⟨c, rfl, visible c (List.mem_cons_self ..)⟩

theorem beginsVisible_joinWith (nonempty : words ≠ []) (areWords : ∀ word ∈ words, IsWord word)
    (rest : Text) : BeginsVisible (joinWith ' ' words ++ rest) := by
  match words with
  | [] => contradiction
  | [word] => exact (areWords word (List.mem_cons_self ..)).beginsVisible rest
  | word :: second :: others =>
      rw [joinWith_cons word (List.cons_ne_nil second others), List.append_assoc]
      exact (areWords word (List.mem_cons_self ..)).beginsVisible _

/-- Words with single spaces between them stand in front of the collapsed text where they are spelled
in front of the text. -/
theorem collapseBlanks_eq_append_words_iff (nonempty : words ≠ [])
    (areWords : ∀ word ∈ words, IsWord word) :
    collapseBlanks text = joinWith ' ' words ++ rest ↔
      ∃ phrase after, Spelled words phrase ∧ text = phrase ++ after ∧
        collapseBlanks after = rest := by
  induction words generalizing text with
  | nil => contradiction
  | cons word words wordsIH =>
      obtain ⟨isWord, areWords⟩ := List.forall_mem_cons.mp areWords
      cases words with
      | nil =>
          rw [joinWith, collapseBlanks_eq_append_word_iff isWord.2]
          constructor
          · intro found
            obtain ⟨after, same, collapsed⟩ := found
            exact ⟨word, after, .last word, same, collapsed⟩
          · intro found
            obtain ⟨phrase, after, spelled, same, collapsed⟩ := found
            cases spelled with
            | last => exact ⟨after, same, collapsed⟩
            | more _ _ spelled => contradiction
      | cons second others =>
          have more := List.cons_ne_nil second others
          have shown := beginsVisible_joinWith more areWords rest
          have others {text : Text} := @wordsIH text more areWords
          rw [joinWith_cons word more, List.append_assoc, List.cons_append,
            collapseBlanks_eq_append_word_iff isWord.2]
          simp only [collapseBlanks_eq_space_cons_iff shown, others]
          constructor
          · intro found
            obtain ⟨_, rfl, gap, _, filled, blank, rfl, phrase, after, spelled, rfl, same⟩ := found
            exact ⟨word ++ (gap ++ phrase), after, .more filled blank spelled, by simp, same⟩
          · intro found
            obtain ⟨_, after, spelled, rfl, same⟩ := found
            cases spelled with
            | @more _ gap phrase _ filled blank spelled =>
                exact ⟨gap ++ (phrase ++ after), by simp, gap, phrase ++ after, filled, blank, rfl,
                  phrase, after, spelled, rfl, same⟩

theorem startsInWord_collapseBlanks (text : Text) :
    (collapseBlanks text).head?.any isWordChar = text.head?.any isWordChar := by
  rw [head?_collapseBlanks]
  cases text.head? with
  | none => rfl
  | some c => exact isWordChar_spaced c

theorem startsWithThen_iff :
    startsWithThen lead next text = true ↔ ∃ after, text = lead ++ after ∧ next after = true := by
  rw [startsWithThen, Bool.and_eq_true, List.isPrefixOf_iff_prefix]
  constructor
  · intro starts
    obtain ⟨⟨after, rfl⟩, holds⟩ := starts
    exact ⟨after, rfl, by rwa [List.drop_left] at holds⟩
  · intro starts
    obtain ⟨after, rfl, holds⟩ := starts
    exact ⟨List.prefix_append lead after, by rwa [List.drop_left]⟩

theorem joinWith_concat (separator : Char) (parts : List Text) (last : Text) :
    joinWith separator (parts ++ [last]) = parts.flatMap (· ++ [separator]) ++ last := by
  induction parts with
  | nil => rfl
  | cons part parts partsIH =>
      rw [List.cons_append, joinWith_cons part (by simp), partsIH]
      simp

theorem startsKeyword_iff :
    startsKeyword text = true ↔
      ∃ keyword ∈ literalKeywords, ∃ after, text = keyword ++ after ∧
        after.head?.any isWordChar = false := by
  rw [startsKeyword, ← literalKeywords, List.any_eq_true]
  simp only [startsWithThen_iff, Bool.not_eq_true']

theorem startsKeywordPhrase_iff :
    startsKeywordPhrase text = true ↔
      ∃ lead ∈ keywordLeads, ∃ keyword ∈ literalKeywords, ∃ after,
        text = joinWith ' ' (lead ++ [keyword]) ++ after ∧ after.head?.any isWordChar = false := by
  have phrases : ["return ".toList, "Return ".toList, "is ".toList, "is not ".toList] =
      keywordLeads.map fun lead => lead.flatMap (· ++ [' ']) := rfl
  rw [startsKeywordPhrase, phrases, List.any_map, List.any_eq_true]
  simp only [Function.comp_apply, startsWithThen_iff, startsKeyword_iff, joinWith_concat,
    List.append_assoc]
  constructor
  · intro starts
    obtain ⟨lead, isLead, _, rfl, keyword, isKeyword, after, rfl, apart⟩ := starts
    exact ⟨lead, isLead, keyword, isKeyword, after, rfl, apart⟩
  · intro starts
    obtain ⟨lead, isLead, keyword, isKeyword, after, rfl, apart⟩ := starts
    exact ⟨lead, isLead, _, rfl, keyword, isKeyword, after, rfl, apart⟩

theorem isWord_of_mem_phrase {lead : List Text} {keyword : Text} (isLead : lead ∈ keywordLeads)
    (isKeyword : keyword ∈ literalKeywords) : ∀ word ∈ lead ++ [keyword], IsWord word := by
  intro word member
  have listed : word ∈ keywordLeads.flatten ++ literalKeywords := by
    rcases List.mem_append.mp member with inLead | last
    · exact List.mem_append_left _ (List.mem_flatten_of_mem isLead inLead)
    · exact List.mem_append_right _ (List.mem_singleton.mp last ▸ isKeyword)
  exact isWord_of_isAlphanum (by decide) word listed

theorem beginsVisible_of_startsKeywordPhrase (starts : startsKeywordPhrase text = true) :
    BeginsVisible text := by
  obtain ⟨lead, isLead, keyword, isKeyword, after, rfl, _⟩ := startsKeywordPhrase_iff.mp starts
  exact beginsVisible_joinWith (by simp) (isWord_of_mem_phrase isLead isKeyword) after

/-- A keyword phrase stands in front of the collapsed text where it is spelled in front of the
text. -/
theorem startsKeywordPhrase_collapseBlanks_iff :
    startsKeywordPhrase (collapseBlanks text) = true ↔
      ∃ phrase after, text = phrase ++ after ∧
        (∃ lead ∈ keywordLeads, ∃ keyword ∈ literalKeywords, Spelled (lead ++ [keyword]) phrase) ∧
        after.head?.any isWordChar = false := by
  rw [startsKeywordPhrase_iff]
  constructor
  · intro starts
    obtain ⟨lead, isLead, keyword, isKeyword, rest, same, apart⟩ := starts
    obtain ⟨phrase, after, spelled, rfl, rfl⟩ :=
      (collapseBlanks_eq_append_words_iff (by simp) (isWord_of_mem_phrase isLead isKeyword)).mp same
    rw [startsInWord_collapseBlanks] at apart
    exact ⟨phrase, after, rfl, ⟨lead, isLead, keyword, isKeyword, spelled⟩, apart⟩
  · intro starts
    obtain ⟨phrase, after, rfl, ⟨lead, isLead, keyword, isKeyword, spelled⟩, apart⟩ := starts
    have same := (collapseBlanks_eq_append_words_iff (by simp)
      (isWord_of_mem_phrase isLead isKeyword)).mpr ⟨phrase, after, spelled, rfl, rfl⟩
    rw [← startsInWord_collapseBlanks] at apart
    exact ⟨lead, isLead, keyword, isKeyword, _, same, apart⟩

theorem anyWordStart_startsKeywordPhrase_iff :
    anyWordStart startsKeywordPhrase false (collapseBlanks text) = true ↔
      HasDirectKeyword text := by
  rw [anyWordStart_collapseBlanks_iff fun _ => beginsVisible_of_startsKeywordPhrase]
  simp only [startsKeywordPhrase_collapseBlanks_iff]
  constructor
  · intro found
    obtain ⟨before, _, rfl, detached, phrase, after, rfl, spelled, apart⟩ := found
    exact ⟨before, phrase, after, rfl, detached, spelled, apart⟩
  · intro found
    obtain ⟨before, phrase, after, rfl, detached, spelled, apart⟩ := found
    exact ⟨before, _, rfl, detached, phrase, after, rfl, spelled, apart⟩

/-- Words stand somewhere in the collapsed text, with single spaces between them, where they are
spelled somewhere in the text. -/
theorem containsText_collapseBlanks_iff (nonempty : words ≠ [])
    (areWords : ∀ word ∈ words, IsWord word) :
    containsText (joinWith ' ' words) (collapseBlanks text) = true ↔
      ∃ before phrase after, text = before ++ (phrase ++ after) ∧ Spelled words phrase := by
  have shown : ∀ rest, joinWith ' ' words <+: rest → BeginsVisible rest := by
    intro rest begins
    obtain ⟨after, rfl⟩ := begins
    exact beginsVisible_joinWith nonempty areWords after
  have cut : (∃ before rest, collapseBlanks text = before ++ rest ∧ True ∧
      joinWith ' ' words <+: rest) ↔ ∃ before rest, text = before ++ rest ∧ True ∧
        joinWith ' ' words <+: collapseBlanks rest :=
    split_collapseBlanks_iff (fun _ => Iff.rfl) shown
  simp only [true_and] at cut
  rw [containsText_iff, cut]
  constructor
  · intro found
    obtain ⟨before, rest, rfl, behind, same⟩ := found
    obtain ⟨phrase, after, spelled, rfl, _⟩ :=
      (collapseBlanks_eq_append_words_iff nonempty areWords).mp same.symm
    exact ⟨before, phrase, after, rfl, spelled⟩
  · intro found
    obtain ⟨before, phrase, after, rfl, spelled⟩ := found
    have same := (collapseBlanks_eq_append_words_iff nonempty areWords).mpr
      ⟨phrase, after, spelled, rfl, rfl⟩
    exact ⟨before, phrase ++ after, rfl, collapseBlanks after, same.symm⟩

end

/-- A step has a bare literal keyword exactly when the text as it stands has one, behind `return`,
`Return`, `is` or `is not` and any blanks, and nowhere says that something is null or empty. -/
theorem hasBareKeyword_iff (step : Text) :
    hasBareKeyword step = true ↔ HasDirectKeyword step ∧ ¬ SaysNullOrEmpty step := by
  have areWords : ∀ word ∈ ["null".toList, "or".toList, "empty".toList], IsWord word :=
    isWord_of_isAlphanum (by decide)
  have excused : containsText "null or empty".toList (collapseBlanks step) = true ↔
      SaysNullOrEmpty step := containsText_collapseBlanks_iff (List.cons_ne_nil _ _) areWords
  rw [hasBareKeyword, Bool.and_eq_true, anyWordStart_startsKeywordPhrase_iff, Bool.not_eq_true',
    ← excused, Bool.not_eq_true]

/-- Blanks of any kind may stand inside a phrase, and an excuse at one place holds for all. -/
example :
    hasBareKeyword "- If {a} is\n  not\tnull:".toList = true ∧
      hasBareKeyword "- If this true {a}:".toList = false ∧
      hasBareKeyword "- If {a} is null or\n  empty, return true.".toList = false := by
  decide +kernel

end PseudocodeLint
