import Mathlib.Data.List.TakeWhile
import PseudocodeLint.Proofs.LiteralSpans

namespace PseudocodeLint

/-! Calls outside value literals.  They are looked for in the text without its literals, where what
stood on both sides of a literal has come together.  As long as no literal stands right behind a word
character, this neither makes a call nor hides one. -/

/-- A capitalised name of two or more characters with an opening bracket. -/
def IsCall (call : Text) : Prop :=
  ∃ c name, call = c :: (name ++ ['(']) ∧ c.isUpper = true ∧ name ≠ [] ∧
    ∀ d ∈ name, d.isAlphanum = true

theorem IsCall.length_pos {call : Text} (isCall : IsCall call) : 0 < call.length := by
  obtain ⟨c, name, rfl, _⟩ := isCall
  exact Nat.succ_pos _

def endsInWord (text : Text) : Bool :=
  text.getLast?.any isWordChar

/-- Whether a call that no word character precedes stands in a text, no part of it in a literal. -/
def HasDirectCall (text : Text) : Prop :=
  ∃ before call after, text = before ++ (call ++ after) ∧ IsCall call ∧ endsInWord before = false ∧
    ∀ position, before.length ≤ position → position < before.length + call.length →
      ∀ span ∈ literalSpans text, span.covers position = false

/-- The plain characters before the first literal. -/
def leadingRun : List Piece → Text
  | .plain c :: rest => c :: leadingRun rest
  | _ => []

/-- Whether a call that no word character precedes stands among neighbouring plain characters. -/
def hasCallInRun (inWord : Bool) : List Piece → Bool
  | [] => false
  | .plain c :: rest =>
      !inWord && startsCall (c :: leadingRun rest) || hasCallInRun (isWordChar c) rest
  | .literal _ :: rest => hasCallInRun false rest

/-- Whether every literal has something else than a word character in front of it. -/
def literalsDetached (inWord : Bool) : List Piece → Bool
  | [] => true
  | .plain c :: rest => literalsDetached (isWordChar c) rest
  | .literal _ :: rest => !inWord && literalsDetached false rest

def plainText (found : List Piece) : Text :=
  found.filterMap fun
    | .plain c => some c
    | .literal _ => none

theorem isAlphanum_of_isUpper {c : Char} (upper : c.isUpper = true) : c.isAlphanum = true := by
  change (c.isUpper || c.isLower || c.isDigit) = true
  rw [upper]
  rfl

theorem startsCall_iff {text : Text} :
    startsCall text = true ↔ ∃ call, IsCall call ∧ call <+: text := by
  constructor
  · intro starts
    cases text with
    | nil => simp [startsCall] at starts
    | cons c rest =>
        simp only [startsCall, Bool.and_eq_true, Bool.not_eq_true', decide_eq_true_eq] at starts
        obtain ⟨⟨upper, named⟩, bracket⟩ := starts
        obtain ⟨after, split⟩ := List.head?_eq_some_iff.mp bracket
        refine ⟨c :: (rest.takeWhile Char.isAlphanum ++ ['(']),
          ⟨c, _, rfl, upper, by simpa using named, fun d => List.mem_takeWhile_imp⟩, after, ?_⟩
        simpa [split] using List.takeWhile_append_dropWhile (p := Char.isAlphanum) (l := rest)
  · rintro ⟨_, ⟨c, name, rfl, upper, named, alphanumeric⟩, after, rfl⟩
    have stops : ∀ d, ('(' :: after).head? = some d → d.isAlphanum = false := by
      intro d first
      cases first
      rfl
    simp [startsCall, takeWhile_run alphanumeric stops, dropWhile_run alphanumeric stops, upper,
      named]

section

variable {text call : Text} {inWord : Bool} {found : List Piece}

theorem endsInWord_concat (text : Text) (c : Char) : endsInWord (text ++ [c]) = isWordChar c := by
  simp [endsInWord]

theorem anyWordStart_behind_iff {starts : Text → Bool} (lead : Text) :
    anyWordStart starts (endsInWord lead) text = true ↔
      ∃ before rest, text = before ++ rest ∧ endsInWord (lead ++ before) = false ∧
        starts rest = true := by
  induction text generalizing lead with
  | nil => simp [anyWordStart, and_assoc]
  | cons c text textIH =>
      have later := textIH (lead ++ [c])
      rw [endsInWord_concat] at later
      rw [anyWordStart, Bool.or_eq_true, Bool.and_eq_true, Bool.not_eq_true', later]
      constructor
      · intro found
        rcases found with ⟨apart, here⟩ | ⟨before, rest, rfl, apart, here⟩
        · exact ⟨[], c :: text, rfl, by rwa [List.append_nil], here⟩
        · exact ⟨c :: before, rest, rfl, by rwa [List.append_cons], here⟩
      · intro found
        obtain ⟨before, rest, split, apart, here⟩ := found
        cases before with
        | nil =>
            rw [List.append_nil] at apart
            exact Or.inl ⟨apart, split ▸ here⟩
        | cons first before =>
            obtain ⟨rfl, rfl⟩ := List.cons.inj split
            exact Or.inr ⟨before, rest, rfl, by rwa [List.append_cons] at apart, here⟩

theorem anyWordStart_iff {starts : Text → Bool} :
    anyWordStart starts false text = true ↔
      ∃ before rest, text = before ++ rest ∧ endsInWord before = false ∧ starts rest = true :=
  anyWordStart_behind_iff []

/-- A name that runs on to a literal is not cut short by taking the literal out, as the name has a
word character at its end. -/
theorem alphanumerics_plainText (detached : literalsDetached true found = true) :
    (plainText found).takeWhile Char.isAlphanum = (leadingRun found).takeWhile Char.isAlphanum ∧
      ((plainText found).dropWhile Char.isAlphanum).head? =
        ((leadingRun found).dropWhile Char.isAlphanum).head? := by
  induction found with
  | nil => exact ⟨rfl, rfl⟩
  | cons piece rest restIH =>
      cases piece with
      | literal content => simp [literalsDetached] at detached
      | plain c =>
          have split : plainText (.plain c :: rest) = c :: plainText rest := rfl
          rw [split, leadingRun]
          by_cases alphanumeric : c.isAlphanum = true
          · rw [literalsDetached, isWordChar_of_isAlphanum alphanumeric] at detached
            simpa [alphanumeric] using restIH detached
          · simp [alphanumeric]

theorem startsCall_plainText {c : Char}
    (detached : literalsDetached (isWordChar c) found = true) :
    startsCall (c :: plainText found) = startsCall (c :: leadingRun found) := by
  by_cases upper : c.isUpper = true
  · rw [isWordChar_of_isAlphanum (isAlphanum_of_isUpper upper)] at detached
    obtain ⟨names, brackets⟩ := alphanumerics_plainText detached
    simp only [startsCall, names, brackets]
  · simp [startsCall, upper]

theorem anyWordStart_plainText (detached : literalsDetached inWord found = true) :
    anyWordStart startsCall inWord (plainText found) = hasCallInRun inWord found := by
  induction found generalizing inWord with
  | nil => simp [plainText, anyWordStart, startsCall, hasCallInRun]
  | cons piece rest restIH =>
      cases piece with
      | plain c =>
          have split : plainText (.plain c :: rest) = c :: plainText rest := rfl
          rw [split, anyWordStart, startsCall_plainText detached, restIH detached, hasCallInRun]
      | literal content =>
          simp only [literalsDetached, Bool.and_eq_true, Bool.not_eq_true'] at detached
          obtain ⟨rfl, detached⟩ := detached
          exact restIH detached

theorem endsInWord_append_literal (before content : Text) :
    endsInWord (before ++ (Piece.literal content).toText) = false := by
  have concat : before ++ (Piece.literal content).toText = (before ++ '{' :: content) ++ ['}'] := by
    simp [Piece.toText]
  rw [concat, endsInWord_concat]
  rfl

theorem literalsDetached_of_spans (before : Text)
    (detached : ∀ span ∈ literalSpansFrom before.length found,
      endsInWord ((before ++ found.flatMap Piece.toText).take span.first) = false) :
    literalsDetached (endsInWord before) found = true := by
  induction found generalizing before with
  | nil => rfl
  | cons piece rest restIH =>
      have later := restIH (before ++ piece.toText)
      rw [List.append_assoc, ← List.flatMap_cons] at later
      cases piece with
      | plain c =>
          have length : (before ++ (Piece.plain c).toText).length = before.length + 1 := by
            simp [Piece.toText]
          rw [length] at later
          rw [literalsDetached, ← endsInWord_concat before c]
          exact later detached
      | literal content =>
          rw [length_append_literal, endsInWord_append_literal] at later
          have here := detached _ (List.mem_cons_self ..)
          rw [List.take_left] at here
          rw [literalsDetached, here]
          exact later fun span member => detached span (List.mem_cons_of_mem _ member)

/-- A part of the leading run is a part of the text that no literal covers. -/
theorem isPrefix_leadingRun_iff (position : Nat) :
    call <+: leadingRun found ↔
      call <+: found.flatMap Piece.toText ∧
        ∀ place, position ≤ place → place < position + call.length →
          ∀ span ∈ literalSpansFrom position found, span.covers place = false := by
  induction found generalizing position call with
  | nil => simp [leadingRun, literalSpansFrom]
  | cons piece rest restIH =>
      cases call with
      | nil =>
          simp only [List.nil_prefix, List.length_nil, true_and, true_iff]
          omega
      | cons first call =>
          cases piece with
          | plain c =>
              have joined : (Piece.plain c :: rest).flatMap Piece.toText =
                  c :: rest.flatMap Piece.toText := rfl
              rw [joined, leadingRun, List.cons_prefix_cons, List.cons_prefix_cons,
                restIH (position + 1), and_assoc, List.length_cons]
              refine and_congr_right fun _ => and_congr_right fun _ => ?_
              constructor
              · intro uncovered place lower upper span member
                rcases Nat.eq_or_lt_of_le lower with rfl | below
                · exact covers_eq_false_of_lt (Nat.lt_succ_self _) member
                · exact uncovered place below (by omega) span member
              · intro uncovered place lower upper span member
                exact uncovered place (by omega) (by omega) span member
          | literal content =>
              simp only [leadingRun, List.prefix_nil, reduceCtorEq, false_iff, not_and]
              intro _ uncovered
              have here := uncovered position (Nat.le_refl _)
                (by simp only [List.length_cons]; omega) _ (List.mem_cons_self ..)
              simp only [Span.covers_eq_false_iff] at here
              omega

/-- A call stands behind `lead` in some pieces with a text before them. -/
def CallBehind (before : Text) (found : List Piece) (lead : Text) : Prop :=
  ∃ call after, found.flatMap Piece.toText = lead ++ (call ++ after) ∧ IsCall call ∧
    endsInWord (before ++ lead) = false ∧
    ∀ place, (before ++ lead).length ≤ place → place < (before ++ lead).length + call.length →
      ∀ span ∈ literalSpansFrom before.length found, span.covers place = false

theorem callBehind_nil_iff (before : Text) (found : List Piece) :
    CallBehind before found [] ↔
      endsInWord before = false ∧ startsCall (leadingRun found) = true := by
  rw [CallBehind, startsCall_iff]
  simp only [List.append_nil, List.nil_append, isPrefix_leadingRun_iff before.length]
  constructor
  · rintro ⟨call, after, split, isCall, separate, uncovered⟩
    exact ⟨separate, call, isCall, ⟨after, split.symm⟩, uncovered⟩
  · rintro ⟨separate, call, isCall, ⟨after, split⟩, uncovered⟩
    exact ⟨call, after, split.symm, isCall, separate, uncovered⟩

theorem callBehind_cons_iff (before : Text) (c first : Char) (rest : List Piece) (lead : Text) :
    CallBehind before (.plain c :: rest) (first :: lead) ↔
      first = c ∧ CallBehind (before ++ [c]) rest lead := by
  have joined : (Piece.plain c :: rest).flatMap Piece.toText = c :: rest.flatMap Piece.toText := rfl
  have length : (before ++ [c]).length = before.length + 1 := List.length_append
  simp only [CallBehind, joined, List.cons_append, List.cons.injEq, literalSpansFrom, length]
  constructor
  · rintro ⟨call, after, ⟨rfl, split⟩, isCall, separate, uncovered⟩
    refine ⟨rfl, call, after, split, isCall, ?_, ?_⟩
    · simpa using separate
    · simpa using uncovered
  · rintro ⟨rfl, call, after, split, isCall, separate, uncovered⟩
    refine ⟨call, after, ⟨rfl, split⟩, isCall, ?_, ?_⟩
    · simpa using separate
    · simpa using uncovered

/-- No call begins in a literal. -/
theorem callBehind_literal_iff (before content : Text) (rest : List Piece) (lead : Text) :
    CallBehind before (.literal content :: rest) lead ↔
      ∃ others, lead = (Piece.literal content).toText ++ others ∧
        CallBehind (before ++ (Piece.literal content).toText) rest others := by
  simp only [CallBehind, List.flatMap_cons, literalSpansFrom, length_append_literal,
    List.forall_mem_cons]
  constructor
  · rintro ⟨call, after, split, isCall, separate, uncovered⟩
    have longer : (Piece.literal content).toText.length ≤ lead.length := by
      refine Nat.le_of_not_lt fun shorter => ?_
      have here := (uncovered (before ++ lead).length (Nat.le_refl _)
        (Nat.lt_add_of_pos_right isCall.length_pos)).1
      simp only [Piece.toText, List.length_append, List.length_cons, List.length_nil] at shorter
      simp only [Span.covers_eq_false_iff, List.length_append] at here
      omega
    obtain ⟨others, rfl⟩ :=
      List.prefix_of_prefix_length_le ⟨_, split⟩ (List.prefix_append _ _) longer
    rw [List.append_assoc, List.append_cancel_left_eq] at split
    rw [← List.append_assoc] at separate uncovered
    exact ⟨others, rfl, call, after, split, isCall, separate, fun place lower upper =>
      (uncovered place lower upper).2⟩
  · rintro ⟨others, rfl, call, after, split, isCall, separate, uncovered⟩
    rw [List.append_assoc] at separate uncovered
    refine ⟨call, after, by rw [split, List.append_assoc], isCall, separate,
      fun place lower upper => ⟨?_, uncovered place lower upper⟩⟩
    have behind := length_append_literal before content
    rw [← List.append_assoc, List.length_append, behind] at lower
    simp only [Span.covers_eq_false_iff]
    omega

theorem hasCallInRun_iff (before : Text) :
    hasCallInRun (endsInWord before) found = true ↔ ∃ lead, CallBehind before found lead := by
  induction found generalizing before with
  | nil =>
      simp only [hasCallInRun, Bool.false_eq_true, false_iff]
      rintro ⟨lead, call, after, split, ⟨c, name, rfl, _⟩, _⟩
      simp at split
  | cons piece rest restIH =>
      cases piece with
      | plain c =>
          have later := restIH (before ++ [c])
          rw [endsInWord_concat] at later
          rw [hasCallInRun, Bool.or_eq_true, later, Bool.and_eq_true, Bool.not_eq_true', ← leadingRun,
            ← callBehind_nil_iff]
          constructor
          · rintro (here | ⟨lead, found⟩)
            · exact ⟨[], here⟩
            · exact ⟨c :: lead, (callBehind_cons_iff ..).mpr ⟨rfl, found⟩⟩
          · rintro ⟨lead, found⟩
            cases lead with
            | nil => exact .inl found
            | cons first lead => exact .inr ⟨lead, ((callBehind_cons_iff ..).mp found).2⟩
      | literal content =>
          have later := restIH (before ++ (Piece.literal content).toText)
          rw [endsInWord_append_literal] at later
          rw [hasCallInRun, later]
          constructor
          · rintro ⟨others, found⟩
            exact ⟨_, (callBehind_literal_iff ..).mpr ⟨others, rfl, found⟩⟩
          · rintro ⟨lead, found⟩
            obtain ⟨others, _, found⟩ := (callBehind_literal_iff ..).mp found
            exact ⟨others, found⟩

end

/-- Taking out literals that no word character touches neither makes a call nor hides one. -/
theorem hasBareCall_iff_hasDirectCall (step : Text)
    (detached : ∀ span ∈ literalSpans step, endsInWord (step.take span.first) = false) :
    hasBareCall step = true ↔ HasDirectCall step := by
  have joined := pieces_flatMap_toText step
  have apart : literalsDetached false (pieces step) = true :=
    literalsDetached_of_spans [] (by rwa [List.nil_append, joined])
  have scanned : hasBareCall step = hasCallInRun false (pieces step) := anyWordStart_plainText apart
  rw [scanned]
  refine (hasCallInRun_iff []).trans ?_
  simp only [CallBehind, HasDirectCall, joined, List.nil_append, literalSpans]
  rfl

/-- Literals side by side and one inside another, before a call and around one. -/
theorem call_between_adjacent_literals :
    let step := "- Set {a}{b {c}} to {Foo(x)}Bar(y){z}.".toList
    (∀ span ∈ literalSpans step, endsInWord (step.take span.first) = false) ∧
      hasBareCall step = true ∧ HasDirectCall step := by
  intro step
  have detached : ∀ span ∈ literalSpans step, endsInWord (step.take span.first) = false := by
    decide +kernel
  have bare : hasBareCall step = true := by decide +kernel
  exact ⟨detached, bare, (hasBareCall_iff_hasDirectCall step detached).mp bare⟩

/-- Behind a word character, a literal hides the call that follows it when it is taken out, and
joins two halves of a name into a call. -/
example :
    hasBareCall "a{x}Foo(b)".toList = false ∧ hasBareCall "Fo{x}o(b)".toList = true := by
  decide +kernel

end PseudocodeLint
