import Mathlib.Data.List.Sort
import PseudocodeLint.Proofs.LiteralShape
import PseudocodeLint.Step

namespace PseudocodeLint

/-! Where the value literals of a text stand.  A text is read from the left and a literal is taken
at the first brace that has one; among the pairs of braces these are the ones that hold something
and at most one level of pairs, and that stand in no other pair of this kind. -/

/-- Whether a pair holds something, and no pair in it holds another. -/
def isLiteral (pairs : List Span) (pair : Span) : Bool :=
  pair.first + 1 < pair.last && !pairs.any fun inner => pair.encloses inner && pairs.any inner.encloses

def isOutermostLiteral (pairs : List Span) (pair : Span) : Bool :=
  isLiteral pairs pair && !pairs.any fun outer => isLiteral pairs outer && outer.encloses pair

/-- The places of the literals among the pieces of a text that starts at a position. -/
def literalSpansFrom (position : Nat) : List Piece → List Span
  | [] => []
  | .plain _ :: rest => literalSpansFrom (position + 1) rest
  | .literal content :: rest =>
      ⟨position, position + content.length + 1⟩ ::
        literalSpansFrom (position + content.length + 2) rest

def literalSpans (text : Text) : List Span :=
  literalSpansFrom 0 (pieces text)

/-- A text that starts at a position, without the characters that some spans cover. -/
def withoutSpansFrom (position : Nat) (spans : List Span) : Text → Text
  | [] => []
  | c :: rest =>
      if spans.any (·.covers position) then withoutSpansFrom (position + 1) spans rest
      else c :: withoutSpansFrom (position + 1) spans rest

def withoutSpans (spans : List Span) (text : Text) : Text :=
  withoutSpansFrom 0 spans text

/-- A span at which a literal could be read. -/
def IsLiteralAt (text : Text) (span : Span) : Prop :=
  ∃ before content after, text = before ++ '{' :: (content ++ '}' :: after) ∧ content ≠ [] ∧
    LiteralBody content ∧ span = ⟨before.length, before.length + content.length + 1⟩

section

variable {text before content after : Text} {span other : Span}

theorem IsLiteralAt.mem_bracePairs (found : IsLiteralAt text span) : span ∈ bracePairs text := by
  obtain ⟨before, content, after, rfl, _, body, rfl⟩ := found
  exact mem_bracePairs_iff.mpr ⟨before, content, after, rfl, body.balanced, rfl⟩

theorem IsLiteralAt.first_lt_last (found : IsLiteralAt text span) : span.first < span.last := by
  obtain ⟨before, content, after, _, _, _, rfl⟩ := found
  exact Nat.lt_succ_of_le (Nat.le_add_right ..)

/-- A pair encloses another if there is an opening brace in it. -/
theorem any_encloses (balanced : Balanced content)
    (split : text = before ++ '{' :: (content ++ '}' :: after)) :
    (bracePairs text).any (Span.encloses ⟨before.length, before.length + content.length + 1⟩) =
      content.contains '{' := by
  subst split
  rw [Bool.eq_iff_iff, List.any_eq_true, List.contains_iff_mem]
  constructor
  · rintro ⟨inner, member, encloses⟩
    obtain ⟨behind, ahead⟩ := Span.encloses_iff.mp encloses
    obtain ⟨lead, group, rest, rfl, _⟩ := split_of_encloses member behind ahead
    simp
  · intro member
    obtain ⟨lead, rest, rfl⟩ := List.append_of_mem member
    obtain ⟨group, others, rfl, groupBalanced⟩ := balanced.partner
    refine ⟨_, mem_bracePairs_iff.mpr
      ⟨before ++ '{' :: lead, group, others ++ '}' :: after, by simp, groupBalanced, rfl⟩, ?_⟩
    simp only [Span.encloses_iff, List.length_append, List.length_cons]
    omega

theorem isLiteral_iff (balanced : Balanced content)
    (split : text = before ++ '{' :: (content ++ '}' :: after)) :
    isLiteral (bracePairs text) ⟨before.length, before.length + content.length + 1⟩ = true ↔
      content ≠ [] ∧ Shallow content := by
  have filled : before.length + 1 < before.length + content.length + 1 ↔ content ≠ [] := by
    rw [← List.length_pos_iff]
    omega
  simp only [isLiteral, Bool.and_eq_true, decide_eq_true_eq, filled, Bool.not_eq_true',
    List.any_eq_false, not_and]
  refine and_congr_right fun _ => ?_
  constructor
  · intro flat lead inner rest same innerBalanced
    have place : text = (before ++ '{' :: lead) ++ '{' :: (inner ++ '}' :: (rest ++ '}' :: after)) := by
      simp [split, same]
    have hollow := flat _ (mem_bracePairs_iff.mpr ⟨_, _, _, place, innerBalanced, rfl⟩) (by
      simp only [Span.encloses_iff, same, List.length_append, List.length_cons]
      omega)
    rw [any_encloses innerBalanced place] at hollow
    simpa using hollow
  · intro shallow inner member encloses
    obtain ⟨behind, ahead⟩ := Span.encloses_iff.mp encloses
    obtain ⟨lead, group, rest, rfl, groupBalanced, same⟩ :=
      split_of_encloses (split ▸ member) behind ahead
    have place : text = (before ++ '{' :: lead) ++ '{' :: (group ++ '}' :: (rest ++ '}' :: after)) := by
      simp [split]
    have first : (before ++ '{' :: lead).length = before.length + 1 + lead.length := by
      simp only [List.length_append, List.length_cons]
      omega
    have hollow := any_encloses groupBalanced place
    rw [first, ← same] at hollow
    simpa [hollow] using shallow lead group rest rfl groupBalanced

/-- The literals among the pairs are the spans that can be read as one. -/
theorem isLiteralAt_iff :
    IsLiteralAt text span ↔
      span ∈ bracePairs text ∧ isLiteral (bracePairs text) span = true := by
  constructor
  · intro found
    refine ⟨found.mem_bracePairs, ?_⟩
    obtain ⟨before, content, after, split, filled, body, rfl⟩ := found
    exact (isLiteral_iff body.balanced split).mpr ⟨filled, body.shallow⟩
  · rintro ⟨member, literal⟩
    obtain ⟨before, content, after, split, balanced, rfl⟩ := mem_bracePairs_iff.mp member
    obtain ⟨filled, shallow⟩ := (isLiteral_iff balanced split).mp literal
    exact ⟨before, content, after, split, filled, balanced.body shallow, rfl⟩

theorem IsLiteralAt.exists_readLiteral? (found : IsLiteralAt (before ++ after) span)
    (starts : span.first = before.length) :
    ∃ content rest, readLiteral? after = some (content, rest) ∧
      span.last = before.length + content.length + 1 := by
  obtain ⟨lead, content, rest, split, filled, body, rfl⟩ := found
  obtain ⟨rfl, rfl⟩ := List.append_inj split starts.symm
  exact ⟨content, rest, readLiteral?_eq_some_iff.mpr ⟨rfl, filled, body⟩, rfl⟩

/-- Only one literal can be read at one place. -/
theorem IsLiteralAt.eq_of_first_eq (found : IsLiteralAt text span)
    (foundToo : IsLiteralAt text other) (same : span.first = other.first) : span = other := by
  obtain ⟨before, content, after, rfl, filled, body, rfl⟩ := foundToo
  obtain ⟨contentToo, rest, read, last⟩ := found.exists_readLiteral? same
  rw [readLiteral?_eq_some_iff.mpr ⟨rfl, filled, body⟩, Option.some.injEq, Prod.mk.injEq] at read
  exact Span.ext same (last.trans (by rw [read.1]))

theorem IsLiteralAt.last_le (found : IsLiteralAt text span) (foundToo : IsLiteralAt text other)
    (behind : span.first ≤ other.first) (inside : other.first ≤ span.last) :
    other.last ≤ span.last := by
  rcases Nat.eq_or_lt_of_le behind with same | below
  · exact Nat.le_of_eq (congrArg Span.last (found.eq_of_first_eq foundToo same).symm)
  · exact Nat.le_of_lt
      (bracePairs_nested found.mem_bracePairs foundToo.mem_bracePairs below inside)

/-- A literal that no other one encloses, when none is read before a position. -/
def IsOutermostFrom (position : Nat) (text : Text) (span : Span) : Prop :=
  position ≤ span.first ∧ IsLiteralAt text span ∧
    ∀ other, IsLiteralAt text other → position ≤ other.first → other.encloses span = false

/-- Where a literal can be read it is taken, and the next ones begin behind it. -/
theorem IsLiteralAt.isOutermostFrom_iff (taken : IsLiteralAt text other) :
    IsOutermostFrom other.first text span ↔
      span = other ∨ IsOutermostFrom (other.last + 1) text span := by
  have forward := taken.first_lt_last
  apply Iff.intro
  · intro ⟨starts, found, outermost⟩
    rcases Nat.eq_or_lt_of_le starts with same | behind
    · exact .inl (found.eq_of_first_eq taken same.symm)
    · rcases Nat.lt_or_ge other.last span.first with apart | inside
      · exact .inr ⟨apart, found, fun outer outerAt startsToo => outermost outer outerAt (by omega)⟩
      · have ends := bracePairs_nested taken.mem_bracePairs found.mem_bracePairs behind inside
        have reaches :=
          Span.encloses_eq_false_iff.mp (outermost other taken (Nat.le_refl _)) behind
        omega
  · rintro (rfl | ⟨starts, found, outermost⟩)
    · refine ⟨Nat.le_refl _, taken, fun outer _ startsToo => ?_⟩
      exact Span.encloses_eq_false_iff.mpr fun ahead => absurd ahead (Nat.not_lt.mpr startsToo)
    · refine ⟨by omega, found, fun outer outerAt startsToo => ?_⟩
      rcases Nat.lt_or_ge other.last outer.first with behind | inside
      · exact outermost outer outerAt behind
      · have ends := taken.last_le outerAt startsToo inside
        have length := found.first_lt_last
        exact Span.encloses_eq_false_iff.mpr fun _ => by omega

/-- Where no literal can be read the next ones begin at the next position. -/
theorem isOutermostFrom_succ_iff {position : Nat}
    (unread : ∀ other, IsLiteralAt text other → other.first ≠ position) :
    IsOutermostFrom position text span ↔ IsOutermostFrom (position + 1) text span := by
  have later : ∀ other, IsLiteralAt text other →
      (position ≤ other.first ↔ position + 1 ≤ other.first) := by
    intro other found
    have apart := unread other found
    omega
  apply Iff.intro
  · intro ⟨starts, found, outermost⟩
    exact ⟨(later span found).mp starts, found, fun other otherAt startsToo =>
      outermost other otherAt ((later other otherAt).mpr startsToo)⟩
  · intro ⟨starts, found, outermost⟩
    exact ⟨(later span found).mpr starts, found, fun other otherAt startsToo =>
      outermost other otherAt ((later other otherAt).mp startsToo)⟩

theorem not_isOutermostFrom_length : ¬ IsOutermostFrom text.length text span := by
  rintro ⟨starts, ⟨before, content, after, rfl, _, _, rfl⟩, _⟩
  simp only [List.length_append, List.length_cons] at starts
  omega

theorem mem_literalSpansFrom_iff (before after : Text) :
    span ∈ literalSpansFrom before.length (pieces after) ↔
      IsOutermostFrom before.length (before ++ after) span := by
  fun_induction pieces after generalizing before with
  | case1 =>
      simp only [literalSpansFrom, List.not_mem_nil, List.append_nil, not_isOutermostFrom_length]
  | case2 c rest content after found _ afterIH =>
      obtain ⟨split, filled, body⟩ := readLiteral?_eq_some_iff.mp found
      have taken : IsLiteralAt (before ++ c :: rest)
          ⟨before.length, before.length + content.length + 1⟩ :=
        ⟨before, content, after, by rw [split], filled, body, rfl⟩
      have later := afterIH (before ++ '{' :: (content ++ ['}']))
      have regrouped : (before ++ '{' :: (content ++ ['}'])) ++ after = before ++ c :: rest := by
        simp [split]
      have length : (before ++ '{' :: (content ++ ['}'])).length =
          before.length + content.length + 2 := by
        simp only [List.length_append, List.length_cons, List.length_nil]
        omega
      rw [regrouped, length] at later
      rw [literalSpansFrom, List.mem_cons, later]
      exact taken.isOutermostFrom_iff.symm
  | case3 c rest missing restIH =>
      have later := restIH (before ++ [c])
      have length : (before ++ [c]).length = before.length + 1 := by simp
      rw [List.append_assoc, List.singleton_append, length] at later
      rw [literalSpansFrom, later]
      refine (isOutermostFrom_succ_iff fun other otherAt starts => ?_).symm
      obtain ⟨content, after, read, _⟩ := otherAt.exists_readLiteral? starts
      rw [missing] at read
      contradiction

theorem mem_literalSpans_iff :
    span ∈ literalSpans text ↔
      IsLiteralAt text span ∧ ∀ other, IsLiteralAt text other → other.encloses span = false := by
  simpa [literalSpans, IsOutermostFrom] using mem_literalSpansFrom_iff [] text

theorem literalSpansFrom_first_ge (position : Nat) (found : List Piece)
    (member : span ∈ literalSpansFrom position found) : position ≤ span.first := by
  induction found generalizing position with
  | nil => simp [literalSpansFrom] at member
  | cons piece rest restIH =>
      cases piece with
      | plain c => exact Nat.le_of_succ_le (restIH _ member)
      | literal content =>
          rcases List.mem_cons.mp member with rfl | member
          · exact Nat.le_refl _
          · have later := restIH _ member
            omega

theorem covers_eq_false_of_lt {position place : Nat} {found : List Piece} (ahead : place < position)
    (member : span ∈ literalSpansFrom position found) : span.covers place = false := by
  have first := literalSpansFrom_first_ge _ _ member
  exact Span.covers_eq_false_iff.mpr fun _ => by omega

theorem literalSpansFrom_pairwise (position : Nat) (found : List Piece) :
    (literalSpansFrom position found).Pairwise fun span other => span.last < other.first := by
  induction found generalizing position with
  | nil => exact .nil
  | cons piece rest restIH =>
      cases piece with
      | plain c => exact restIH _
      | literal content =>
          exact (restIH _).cons fun other member => literalSpansFrom_first_ge _ _ member

theorem isOutermostLiteral_iff (member : span ∈ bracePairs text) :
    isOutermostLiteral (bracePairs text) span = true ↔
      IsLiteralAt text span ∧ ∀ other, IsLiteralAt text other → other.encloses span = false := by
  simp only [isOutermostLiteral, Bool.and_eq_true, Bool.not_eq_true', List.any_eq_false, not_and,
    Bool.not_eq_true, isLiteralAt_iff, member, true_and, and_imp]

/-- The literals are the outermost among the pairs that hold something and at most one level of
pairs. -/
theorem literalSpans_eq_filter (text : Text) :
    literalSpans text = (bracePairs text).filter (isOutermostLiteral (bracePairs text)) := by
  let closesBefore (span other : Span) : Prop := span.last < other.last
  have : Std.Irrefl closesBefore := ⟨fun span => Nat.lt_irrefl span.last⟩
  have : Std.Antisymm closesBefore :=
    ⟨fun _ _ before after => absurd before (Nat.lt_asymm after)⟩
  have spansSorted : (literalSpans text).Pairwise closesBefore := by
    refine (literalSpansFrom_pairwise 0 (pieces text)).imp_of_mem fun _ memberToo apart => ?_
    exact apart.trans (mem_literalSpans_iff.mp memberToo).1.first_lt_last
  refine spansSorted.eq_of_mem_iff ((bracePairs_pairwise text).filter _) fun span => ?_
  rw [mem_literalSpans_iff, List.mem_filter]
  constructor
  · intro found
    have member := found.1.mem_bracePairs
    exact ⟨member, (isOutermostLiteral_iff member).mpr found⟩
  · rintro ⟨member, outermost⟩
    exact (isOutermostLiteral_iff member).mp outermost

theorem body_of_mem_pieces (member : .literal content ∈ pieces text) :
    LiteralBody content := by
  fun_induction pieces text with
  | case1 => simp at member
  | case2 c rest inner after found _ afterIH =>
      rcases List.mem_cons.mp member with same | member
      · obtain rfl := Piece.literal.inj same
        exact (readLiteral?_eq_some_iff.mp found).2.2
      · exact afterIH member
  | case3 c rest _ restIH =>
      rcases List.mem_cons.mp member with same | member
      · contradiction
      · exact restIH member

theorem withoutSpansFrom_append (position : Nat) (spans : List Span) (before after : Text) :
    withoutSpansFrom position spans (before ++ after) =
      withoutSpansFrom position spans before ++
        withoutSpansFrom (position + before.length) spans after := by
  induction before generalizing position with
  | nil => rfl
  | cons c before beforeIH =>
      have length : position + (c :: before).length = position + 1 + before.length := by
        simp only [List.length_cons]
        omega
      simp only [List.cons_append, withoutSpansFrom, beforeIH, length]
      split <;> rfl

theorem withoutSpansFrom_covered (position : Nat) {spans : List Span} (member : span ∈ spans)
    (first : span.first ≤ position) (last : position + text.length ≤ span.last + 1) :
    withoutSpansFrom position spans text = [] := by
  induction text generalizing position with
  | nil => rfl
  | cons c rest restIH =>
      simp only [List.length_cons] at last
      have covered : spans.any (·.covers position) = true := by
        exact List.any_eq_true.mpr ⟨span, member, Span.covers_iff.mpr ⟨first, by omega⟩⟩
      rw [withoutSpansFrom, if_pos covered]
      exact restIH (position + 1) (by omega) (by omega)

theorem withoutSpansFrom_behind {position : Nat} (spans : List Span) (behind : span.last < position)
    (text : Text) :
    withoutSpansFrom position (span :: spans) text = withoutSpansFrom position spans text := by
  induction text generalizing position with
  | nil => rfl
  | cons c rest restIH =>
      have uncovered := Span.covers_eq_false_iff.mpr fun _ => behind
      simp only [withoutSpansFrom, List.any_cons, uncovered, Bool.false_or,
        restIH (Nat.lt_succ_of_lt behind)]

/-- What is left without the spans of the literals are the plain characters. -/
theorem withoutSpansFrom_literalSpansFrom (position : Nat) (found : List Piece) :
    withoutSpansFrom position (literalSpansFrom position found) (found.flatMap Piece.toText) =
      found.filterMap fun
        | .plain c => some c
        | .literal _ => none := by
  induction found generalizing position with
  | nil => rfl
  | cons piece rest restIH =>
      cases piece with
      | plain c =>
          have uncovered : (literalSpansFrom (position + 1) rest).any (·.covers position) = false :=
            List.any_eq_false.mpr fun span member =>
              Bool.not_eq_true _ ▸ covers_eq_false_of_lt (Nat.lt_succ_self position) member
          simp [literalSpansFrom, Piece.toText, withoutSpansFrom, uncovered, restIH]
      | literal content =>
          have length : (Piece.literal content).toText.length = content.length + 2 := by
            simp [Piece.toText]
          rw [List.flatMap_cons, literalSpansFrom, withoutSpansFrom_append, length,
            withoutSpansFrom_covered position (List.mem_cons_self ..) (Nat.le_refl _)
              (Nat.le_of_eq (by rw [length]; rfl)),
            List.nil_append, withoutSpansFrom_behind _ (by simp [← Nat.add_assoc]), ← Nat.add_assoc,
            restIH]
          rfl

theorem withoutSpans_literalSpans (text : Text) :
    withoutSpans (literalSpans text) text = outsideLiterals text := by
  have kept := withoutSpansFrom_literalSpansFrom 0 (pieces text)
  rw [pieces_flatMap_toText] at kept
  exact kept

theorem slice_literal (split : text = before ++ '{' :: (content ++ '}' :: after)) :
    Span.slice ⟨before.length, before.length + content.length + 1⟩ text =
      (Piece.literal content).toText := by
  have length : before.length + content.length + 1 + 1 - before.length =
      ('{' :: (content ++ ['}'])).length := by
    simp only [List.length_cons, List.length_append, List.length_nil]
    omega
  have regrouped : text = before ++ ('{' :: (content ++ ['}']) ++ after) := by
    simp [split]
  rw [Span.slice, regrouped, List.drop_left, length, List.take_left]
  rfl

theorem length_append_literal (before content : Text) :
    (before ++ (Piece.literal content).toText).length = before.length + content.length + 2 := by
  simp only [Piece.toText, List.length_append, List.length_cons, List.length_nil]
  omega

/-- The literals with braces inside are the spans that enclose a pair. -/
theorem slices_of_nested (before : Text) (found : List Piece)
    (bodies : ∀ content, .literal content ∈ found → LiteralBody content)
    (split : text = before ++ found.flatMap Piece.toText) :
    ((literalSpansFrom before.length found).filter fun span =>
        (bracePairs text).any span.encloses).map (·.slice text) =
      ((found.filterMap fun
          | .literal content => some content
          | .plain _ => none).filter (·.contains '{')).map (Piece.toText ∘ .literal) := by
  induction found generalizing before with
  | nil => rfl
  | cons piece rest restIH =>
      have restBodies : ∀ content, .literal content ∈ rest → LiteralBody content :=
        fun content member => bodies content (List.mem_cons_of_mem _ member)
      have later := restIH (before ++ piece.toText) restBodies (by simpa using split)
      cases piece with
      | plain c => simpa [literalSpansFrom, Piece.toText] using later
      | literal content =>
          have body := bodies content (List.mem_cons_self ..)
          have place : text = before ++ '{' :: (content ++ '}' :: rest.flatMap Piece.toText) := by
            rw [split]
            simp [Piece.toText]
          rw [length_append_literal] at later
          simp only [literalSpansFrom, List.filter_cons, List.filterMap_cons,
            any_encloses body.balanced place]
          split
          · rw [List.map_cons, List.map_cons, slice_literal place, later]
            rfl
          · exact later

end

/-- The literals of a text are, in their order, the outermost pairs of braces that hold something
and at most one level of pairs.  Those with a pair inside are the nested ones, and calls are looked
for in what is left without all of them. -/
theorem literals_are_outermost_pairs (text : Text) :
    (∀ rest content after, readLiteral? rest = some (content, after) ↔
      rest = '{' :: (content ++ '}' :: after) ∧ content ≠ [] ∧ LiteralBody content) ∧
    literalSpans text = (bracePairs text).filter (isOutermostLiteral (bracePairs text)) ∧
    nestedLiterals text =
      ((literalSpans text).filter fun span => (bracePairs text).any span.encloses).map
        (·.slice text) ∧
    hasBareCall text = anyWordStart startsCall false (withoutSpans (literalSpans text) text) := by
  refine ⟨fun _ _ _ => readLiteral?_eq_some_iff, literalSpans_eq_filter text, ?_, ?_⟩
  · exact (slices_of_nested [] (pieces text) (fun _ => body_of_mem_pieces)
      (pieces_flatMap_toText text).symm).symm
  · rw [withoutSpans_literalSpans, hasBareCall]

/-- Of three levels of braces the inner two are the literal, and a brace without a partner is in
nobody's way. -/
example :
    let text := "\x7b {a{b{c}}} {} {d}".toList
    literalSpans text = [⟨4, 9⟩, ⟨15, 17⟩] ∧ nestedLiterals text = ["{b{c}}".toList] := by
  decide +kernel

end PseudocodeLint
