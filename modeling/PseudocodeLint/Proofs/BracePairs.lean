import PseudocodeLint.ValueLiteral

namespace PseudocodeLint

/-! Pairs of braces.  A closing brace belongs to the latest opening brace that is still open, so the
text between the two is balanced, and two pairs lie apart or one inside the other. -/

/-- Some neighbouring characters of a text, by the positions of the first and the last of them. -/
@[ext]
structure Span where
  first : Nat
  last : Nat
deriving DecidableEq, Repr

namespace Span

/-- Whether a span lies strictly inside another. -/
def encloses (outer inner : Span) : Bool :=
  outer.first < inner.first && inner.last < outer.last

def covers (span : Span) (position : Nat) : Bool :=
  span.first ≤ position && position ≤ span.last

def slice (span : Span) (text : Text) : Text :=
  (text.drop span.first).take (span.last + 1 - span.first)

theorem encloses_iff {outer inner : Span} :
    outer.encloses inner = true ↔ outer.first < inner.first ∧ inner.last < outer.last := by
  simp [encloses]

theorem encloses_eq_false_iff {outer inner : Span} :
    outer.encloses inner = false ↔ (outer.first < inner.first → outer.last ≤ inner.last) := by
  simp [encloses]

theorem covers_iff {span : Span} {position : Nat} :
    span.covers position = true ↔ span.first ≤ position ∧ position ≤ span.last := by
  simp [covers]

theorem covers_eq_false_iff {span : Span} {position : Nat} :
    span.covers position = false ↔ (span.first ≤ position → span.last < position) := by
  simp [covers]

end Span

/-- The pairs that are closed in a text, in the order in which they close.  The positions of the
braces that are open before the text are given, the latest first; a closing brace for which there is
none stays unpaired. -/
def bracePairsFrom (position : Nat) (opened : List Nat) : Text → List Span
  | [] => []
  | c :: rest =>
      if c = '{' then bracePairsFrom (position + 1) (position :: opened) rest
      else if c = '}' then
        match opened with
        | [] => bracePairsFrom (position + 1) [] rest
        | latest :: others => ⟨latest, position⟩ :: bracePairsFrom (position + 1) others rest
      else bracePairsFrom (position + 1) opened rest

def bracePairs (text : Text) : List Span :=
  bracePairsFrom 0 [] text

/-- How many braces are open after a text, unless it closes more than there are. -/
def depthAfter? (depth : Nat) : Text → Option Nat
  | [] => some depth
  | c :: rest =>
      if c = '{' then depthAfter? (depth + 1) rest
      else if c = '}' then
        match depth with
        | 0 => none
        | outer + 1 => depthAfter? outer rest
      else depthAfter? depth rest

/-- A balanced text opens and closes its own braces only. -/
def Balanced (text : Text) : Prop :=
  depthAfter? 0 text = some 0

section

variable {text content before after inner more : Text} {depth deeper position : Nat}
  {opened : List Nat} {pair other : Span}

theorem depthAfter?_append (depth : Nat) (before after : Text) :
    depthAfter? depth (before ++ after) =
      (depthAfter? depth before).bind (depthAfter? · after) := by
  induction before generalizing depth with
  | nil => rfl
  | cons c before beforeIH =>
      simp only [List.cons_append, depthAfter?]
      split
      · exact beforeIH _
      · split
        · cases depth with
          | zero => rfl
          | succ outer => exact beforeIH _
        · exact beforeIH _

/-- Braces that are open around a text stay open. -/
theorem depthAfter?_add (around : Nat) (found : depthAfter? depth text = some deeper) :
    depthAfter? (depth + around) text = some (deeper + around) := by
  induction text generalizing depth with
  | nil => simpa [depthAfter?] using found
  | cons c rest restIH =>
      simp only [depthAfter?] at found ⊢
      split at found
      · rename_i brace
        have shifted := restIH found
        rw [if_pos brace, ← shifted]
        congr 1
        omega
      · rename_i notOpen
        rw [if_neg notOpen]
        split at found
        · rename_i brace
          rw [if_pos brace]
          cases depth with
          | zero => contradiction
          | succ outer =>
              rw [Nat.succ_add]
              exact restIH found
        · rename_i notClose
          rw [if_neg notClose]
          exact restIH found

/-- Where every level is closed, each has a brace that closes it. -/
theorem exists_close (around : Nat) (closed : depthAfter? (depth + around + 1) text = some 0) :
    ∃ before after, text = before ++ '}' :: after ∧ depthAfter? depth before = some 0 := by
  induction text generalizing depth with
  | nil =>
      simp only [depthAfter?, Option.some.injEq] at closed
      omega
  | cons c rest restIH =>
      simp only [depthAfter?] at closed
      split at closed
      · rename_i brace
        have inner : depthAfter? (depth + 1 + around + 1) rest = some 0 := by
          rw [← closed]
          congr 1
          omega
        obtain ⟨before, after, rfl, level⟩ := restIH inner
        exact ⟨c :: before, after, rfl, by simpa [depthAfter?, brace] using level⟩
      · split at closed
        · rename_i brace
          cases depth with
          | zero => exact ⟨[], rest, by rw [brace]; rfl, rfl⟩
          | succ outer =>
              have inner : depthAfter? (outer + around + 1) rest = some 0 := by
                rw [← closed]
                congr 1
                omega
              obtain ⟨before, after, rfl, level⟩ := restIH inner
              exact ⟨c :: before, after, rfl, by simpa [depthAfter?, brace] using level⟩
        · rename_i notOpen notClose
          obtain ⟨before, after, rfl, level⟩ := restIH closed
          exact ⟨c :: before, after, rfl, by simpa [depthAfter?, notOpen, notClose] using level⟩

/-- A brace inside a balanced text has its partner there. -/
theorem Balanced.partner (balanced : Balanced (before ++ '{' :: after)) :
    ∃ inner more, after = inner ++ '}' :: more ∧ Balanced inner := by
  rw [Balanced, depthAfter?_append] at balanced
  obtain ⟨around, _, closed⟩ := Option.bind_eq_some_iff.mp balanced
  simp only [depthAfter?, if_true] at closed
  rw [← Nat.zero_add around] at closed
  exact exists_close around closed

theorem Balanced.partner_head (balanced : Balanced ('{' :: after)) :
    ∃ inner more, after = inner ++ '}' :: more ∧ Balanced inner := by
  rw [← List.nil_append ('{' :: after)] at balanced
  exact balanced.partner

/-- Of two cuts of one text, the later one lies in the part that the earlier one leaves. -/
theorem split_of_length_lt {left right : Char} {longer : Text}
    (same : before ++ left :: after = longer ++ right :: more)
    (shorter : before.length < longer.length) :
    ∃ between, longer = before ++ left :: between ∧ after = between ++ right :: more := by
  rcases List.append_eq_append_iff.mp same with ⟨between, rfl, rest⟩ | ⟨between, rfl, _⟩
  · cases between with
    | nil => simp at shorter
    | cons first between =>
        obtain ⟨rfl, rfl⟩ := List.cons.inj rest
        exact ⟨between, rfl, rfl⟩
  · simp only [List.length_append] at shorter
    omega

/-- What a balanced text opens is closed before it ends. -/
theorem Balanced.inner_length_lt (balanced : Balanced (before ++ '{' :: content))
    (inner : Balanced text) (same : content ++ after = text ++ '}' :: more) :
    text.length < content.length := by
  refine Nat.lt_of_not_le fun longer => ?_
  obtain ⟨beyond, rfl⟩ : content <+: text :=
    List.prefix_of_prefix_length_le ⟨_, same⟩ (List.prefix_append _ _) longer
  rw [Balanced, depthAfter?_append] at balanced inner
  obtain ⟨around, _, closed⟩ := Option.bind_eq_some_iff.mp balanced
  obtain ⟨level, found, _⟩ := Option.bind_eq_some_iff.mp inner
  have shifted := depthAfter?_add (around + 1) found
  simp only [depthAfter?, if_true] at closed
  rw [Nat.zero_add, closed, Option.some.injEq] at shifted
  omega

/-- The pairs of a text that starts at a position: a brace, a balanced text and a brace. -/
def IsPairFrom (position : Nat) (text : Text) (pair : Span) : Prop :=
  ∃ before content after, text = before ++ '{' :: (content ++ '}' :: after) ∧ Balanced content ∧
    pair.first = position + before.length ∧ pair.last = pair.first + content.length + 1

/-- The pairs that were opened before a text and are closed in it. -/
def IsClosedFrom (position : Nat) (opened : List Nat) (text : Text) (pair : Span) : Prop :=
  ∃ depth content after, opened[depth]? = some pair.first ∧ text = content ++ '}' :: after ∧
    depthAfter? depth content = some 0 ∧ pair.last = position + content.length

theorem IsPairFrom.cons (c : Char) (found : IsPairFrom (position + 1) text pair) :
    IsPairFrom position (c :: text) pair := by
  obtain ⟨before, content, after, rfl, balanced, first, last⟩ := found
  refine ⟨c :: before, content, after, rfl, balanced, ?_, last⟩
  rw [first, List.length_cons]
  omega

/-- A brace that opens here is closed behind, or what is closed behind was open before it. -/
theorem IsClosedFrom.of_open (found : IsClosedFrom (position + 1) (position :: opened) text pair) :
    IsClosedFrom position opened ('{' :: text) pair ∨ IsPairFrom position ('{' :: text) pair := by
  obtain ⟨depth, content, after, found, rfl, closed, last⟩ := found
  cases depth with
  | zero =>
      simp only [List.getElem?_cons_zero, Option.some.injEq] at found
      refine .inr ⟨[], content, after, rfl, closed, by simp [found], ?_⟩
      rw [last, ← found]
      omega
  | succ depth =>
      refine .inl ⟨depth, '{' :: content, after, found, rfl, by simpa [depthAfter?] using closed, ?_⟩
      rw [last, List.length_cons]
      omega

theorem IsClosedFrom.of_close (latest : Nat) (found : IsClosedFrom (position + 1) opened text pair) :
    IsClosedFrom position (latest :: opened) ('}' :: text) pair := by
  obtain ⟨depth, content, after, found, rfl, closed, last⟩ := found
  refine ⟨depth + 1, '}' :: content, after, found, rfl, by simpa [depthAfter?] using closed, ?_⟩
  rw [last, List.length_cons]
  omega

theorem IsClosedFrom.of_plain {c : Char} (notOpen : c ≠ '{') (notClose : c ≠ '}')
    (found : IsClosedFrom (position + 1) opened text pair) :
    IsClosedFrom position opened (c :: text) pair := by
  obtain ⟨depth, content, after, found, rfl, closed, last⟩ := found
  refine ⟨depth, c :: content, after, found, rfl, ?_, ?_⟩
  · simpa [depthAfter?, notOpen, notClose] using closed
  · rw [last, List.length_cons]
    omega

theorem of_mem_bracePairsFrom (member : pair ∈ bracePairsFrom position opened text) :
    IsClosedFrom position opened text pair ∨ IsPairFrom position text pair := by
  induction text generalizing position opened with
  | nil => simp [bracePairsFrom] at member
  | cons c rest restIH =>
      simp only [bracePairsFrom] at member
      split at member
      · rename_i brace
        subst brace
        exact (restIH member).elim IsClosedFrom.of_open fun found => .inr (found.cons '{')
      · rename_i notOpen
        split at member
        · rename_i brace
          subst brace
          cases opened with
          | nil =>
              rcases restIH member with ⟨depth, content, after, found, _⟩ | found
              · simp at found
              · exact .inr (found.cons '}')
          | cons latest others =>
              rcases List.mem_cons.mp member with rfl | member
              · exact .inl ⟨0, [], rest, rfl, rfl, rfl, rfl⟩
              · exact (restIH member).imp (.of_close latest) (.cons '}')
        · rename_i notClose
          exact (restIH member).imp (.of_plain notOpen notClose) (.cons c)

theorem mem_bracePairsFrom_of_closed (found : IsClosedFrom position opened text pair) :
    pair ∈ bracePairsFrom position opened text := by
  obtain ⟨depth, content, after, found, rfl, closed, last⟩ := found
  induction content generalizing position opened depth with
  | nil =>
      simp only [depthAfter?, Option.some.injEq] at closed
      subst closed
      cases opened with
      | nil => simp at found
      | cons latest others =>
          simp only [List.getElem?_cons_zero, Option.some.injEq] at found
          have same : pair = ⟨latest, position⟩ := Span.ext found.symm last
          simp [bracePairsFrom, same]
  | cons c content contentIH =>
      have later : pair.last = position + 1 + content.length := by
        rw [last, List.length_cons]
        omega
      simp only [depthAfter?] at closed
      simp only [List.cons_append, bracePairsFrom]
      split at closed
      · rename_i brace
        rw [if_pos brace]
        exact contentIH (depth + 1) found closed later
      · rename_i notOpen
        rw [if_neg notOpen]
        split at closed
        · rename_i brace
          rw [if_pos brace]
          cases opened with
          | nil => simp at found
          | cons latest others =>
              cases depth with
              | zero => contradiction
              | succ depth => exact List.mem_cons_of_mem _ (contentIH depth found closed later)
        · rename_i notClose
          rw [if_neg notClose]
          exact contentIH depth found closed later

theorem mem_bracePairsFrom_of_isPairFrom (opened : List Nat)
    (found : IsPairFrom position text pair) : pair ∈ bracePairsFrom position opened text := by
  obtain ⟨before, content, after, rfl, balanced, first, last⟩ := found
  induction before generalizing position opened with
  | nil =>
      simp only [List.nil_append, bracePairsFrom, if_true]
      refine mem_bracePairsFrom_of_closed ⟨0, content, after, by simp [first], rfl, balanced, ?_⟩
      rw [last, first, List.length_nil]
      omega
  | cons c before beforeIH =>
      have later : pair.first = position + 1 + before.length := by
        rw [first, List.length_cons]
        omega
      simp only [List.cons_append, bracePairsFrom]
      split
      · exact beforeIH _ later
      · split
        · cases opened with
          | nil => exact beforeIH _ later
          | cons latest others => exact List.mem_cons_of_mem _ (beforeIH _ later)
        · exact beforeIH _ later

theorem mem_bracePairs_iff :
    pair ∈ bracePairs text ↔
      ∃ before content after, text = before ++ '{' :: (content ++ '}' :: after) ∧
        Balanced content ∧ pair = ⟨before.length, before.length + content.length + 1⟩ := by
  constructor
  · intro member
    rcases of_mem_bracePairsFrom member with ⟨depth, _, _, found, _⟩ | found
    · simp at found
    · obtain ⟨before, content, after, rfl, balanced, first, last⟩ := found
      rw [Nat.zero_add] at first
      exact ⟨before, content, after, rfl, balanced, Span.ext first (first ▸ last)⟩
  · rintro ⟨before, content, after, rfl, balanced, rfl⟩
    exact mem_bracePairsFrom_of_isPairFrom []
      ⟨before, content, after, rfl, balanced, (Nat.zero_add _).symm, rfl⟩

/-- A pair that begins inside another ends inside it. -/
theorem bracePairs_nested (member : pair ∈ bracePairs text) (memberToo : other ∈ bracePairs text)
    (behind : pair.first < other.first) (inside : other.first ≤ pair.last) :
    other.last < pair.last := by
  obtain ⟨before, content, after, rfl, balanced, rfl⟩ := mem_bracePairs_iff.mp member
  obtain ⟨beforeToo, inner, afterToo, same, innerBalanced, rfl⟩ := mem_bracePairs_iff.mp memberToo
  obtain ⟨lead, rfl, contentSame⟩ := split_of_length_lt same behind
  simp only [List.length_append, List.length_cons] at inside ⊢
  rcases Nat.lt_or_ge lead.length content.length with shorter | longer
  · obtain ⟨rest, rfl, restSame⟩ := split_of_length_lt contentSame.symm shorter
    have fits := balanced.inner_length_lt innerBalanced restSame.symm
    simp only [List.length_append, List.length_cons]
    omega
  · have level : content.length = lead.length := by omega
    have braces := (List.append_inj contentSame level).2
    simp at braces

/-- A pair inside another stands in the text between the braces of that one. -/
theorem split_of_encloses (member : other ∈ bracePairs (before ++ '{' :: (content ++ '}' :: after)))
    (behind : before.length < other.first) (ahead : other.last < before.length + content.length + 1) :
    ∃ lead inner rest, content = lead ++ '{' :: (inner ++ '}' :: rest) ∧ Balanced inner ∧
      other = ⟨before.length + 1 + lead.length, before.length + 1 + lead.length + inner.length + 1⟩ := by
  obtain ⟨beforeToo, inner, afterToo, same, balanced, rfl⟩ := mem_bracePairs_iff.mp member
  obtain ⟨lead, rfl, contentSame⟩ := split_of_length_lt same behind
  simp only [List.length_append, List.length_cons] at ahead
  have regrouped : (lead ++ '{' :: inner) ++ '}' :: afterToo = content ++ '}' :: after := by
    simpa using contentSame.symm
  have shorter : (lead ++ '{' :: inner).length < content.length := by
    simp only [List.length_append, List.length_cons]
    omega
  obtain ⟨rest, rfl, _⟩ := split_of_length_lt regrouped shorter
  refine ⟨lead, inner, rest, by simp, balanced, ?_⟩
  simp only [List.length_append, List.length_cons, Span.mk.injEq]
  omega

theorem le_last_of_mem_bracePairsFrom (member : pair ∈ bracePairsFrom position opened text) :
    position ≤ pair.last := by
  rcases of_mem_bracePairsFrom member with
    ⟨depth, content, after, _, _, _, last⟩ | ⟨before, content, after, _, _, first, last⟩ <;> omega

theorem bracePairsFrom_pairwise (position : Nat) (opened : List Nat) (text : Text) :
    (bracePairsFrom position opened text).Pairwise fun pair other => pair.last < other.last := by
  induction text generalizing position opened with
  | nil => exact .nil
  | cons c rest restIH =>
      simp only [bracePairsFrom]
      split
      · exact restIH _ _
      · split
        · cases opened with
          | nil => exact restIH _ _
          | cons latest others =>
              exact (restIH _ _).cons fun other member => le_last_of_mem_bracePairsFrom member
        · exact restIH _ _

theorem bracePairs_pairwise (text : Text) :
    (bracePairs text).Pairwise fun pair other => pair.last < other.last :=
  bracePairsFrom_pairwise 0 [] text

end

end PseudocodeLint
