import PseudocodeLint.Proofs.Continuation

namespace PseudocodeLint

/-! Lines that are joined and cut again.  The cut gives back the lines that it made, a single one as
well as all from some line on, and it gives back lines that were put together from a head and its
continuations.  Whether a newline ends a line depends on the text behind it only, so what matters is
how much of that text is still there. -/

/-- In front of `after`, no line begins behind a newline of `line`. -/
def Unbroken (line after : Text) : Prop :=
  ∀ before rest, line = before ++ '\n' :: rest → opensLine (rest ++ after) = false

/-- The text is empty, or it begins with a newline. -/
def EndsLine (text : Text) : Prop :=
  ∀ c, text.head? = some c → c = '\n'

/-- A head on one line, and the lines that it goes on with. -/
structure WrappedLine where
  head : Text
  continuations : List Text
deriving DecidableEq, Repr

def WrappedLine.toText (line : WrappedLine) : Text :=
  joinLines (line.head :: line.continuations)

/-- A single line that is indented, shows something and is no item. -/
structure IsContinuation (text : Text) : Prop where
  newlineFree : '\n' ∉ text
  indented : ∃ c, text.head? = some c ∧ isBlank c = true
  visible : ∃ c ∈ text, isBlank c = false
  unlisted : isItem text = false

namespace WrappedLine

structure WellFormed (line : WrappedLine) : Prop where
  head_newlineFree : '\n' ∉ line.head
  continued : ∀ text ∈ line.continuations, IsContinuation text

/-- The head begins with a visible character, or it is an item at any indent. -/
def StandsOut (line : WrappedLine) : Prop :=
  (∃ c, line.head.head? = some c ∧ isBlank c = false) ∨ isItem line.head = true

end WrappedLine

/-- Wrapped lines one below another.  Behind the first of them every line stands out or is empty, and
an empty one is not the last. -/
structure WellArranged (lines : List WrappedLine) : Prop where
  nonempty : lines ≠ []
  wellFormed : ∀ line ∈ lines, line.WellFormed
  apart : ∀ (index : Nat) (line : WrappedLine), lines[index + 1]? = some line →
    (line.toText = [] ∧ index + 2 < lines.length) ∨ line.StandsOut

section

variable {text line after rest head first : Text} {lines others continuations : List Text}
  {c : Char}

theorem unbroken_cons_iff :
    Unbroken (c :: line) after ↔
      (c = '\n' → opensLine (line ++ after) = false) ∧ Unbroken line after := by
  constructor
  · intro unbroken
    constructor
    · intro newline
      exact unbroken [] line (by rw [newline, List.nil_append])
    · intro before rest inside
      exact unbroken (c :: before) rest (by rw [inside, List.cons_append])
  · intro parts before rest inside
    cases before with
    | nil =>
        obtain ⟨rfl, rfl⟩ := List.cons.inj inside
        exact parts.1 rfl
    | cons first before => exact parts.2 before rest (List.cons.inj inside).2

theorem logicalLines_append_of_unbroken (unbroken : Unbroken line after)
    (cut : logicalLines after = [] :: lines) : logicalLines (line ++ after) = line :: lines := by
  induction line with
  | nil => exact cut
  | cons c line lineIH =>
      obtain ⟨kept, tail⟩ := unbroken_cons_iff.mp unbroken
      have uncut : ¬ (c = '\n' ∧ opensLine (line ++ after) = true) := by
        intro cutHere
        rw [kept cutHere.1] at cutHere
        exact Bool.false_ne_true cutHere.2
      rw [List.cons_append, logicalLines, if_neg uncut, lineIH tail]
      rfl

theorem logicalLines_of_unbroken (unbroken : Unbroken line []) : logicalLines line = [line] := by
  have whole := logicalLines_append_of_unbroken unbroken rfl
  rwa [List.append_nil] at whole

theorem logicalLines_append_line (unbroken : Unbroken line ('\n' :: rest))
    (opens : opensLine rest = true) :
    logicalLines (line ++ '\n' :: rest) = line :: logicalLines rest := by
  have cut : logicalLines ('\n' :: rest) = [] :: logicalLines rest := by
    rw [logicalLines, if_pos ⟨rfl, opens⟩]
  exact logicalLines_append_of_unbroken unbroken cut

theorem unbroken_of_mem_logicalLines (member : line ∈ logicalLines text) : Unbroken line [] := by
  intro before rest inside
  rw [List.append_nil]
  exact not_opensLine_of_mem_logicalLines member inside

theorem logicalLines_joinLines_tail (cut : logicalLines text = first :: others)
    (more : others ≠ []) : logicalLines (joinLines others) = others := by
  induction text generalizing first with
  | nil => exact absurd (List.cons.inj cut).2.symm more
  | cons c text textIH =>
      rw [logicalLines] at cut
      split at cut
      · obtain ⟨_, rfl⟩ := List.cons.inj cut
        rw [joinLines_logicalLines]
      · cases parts : logicalLines text with
        | nil => exact absurd parts (logicalLines_ne_nil text)
        | cons head tail =>
            rw [parts, consHead] at cut
            obtain ⟨_, rfl⟩ := List.cons.inj cut
            exact textIH parts

theorem logicalLines_joinLines_drop (text : Text) {start : Nat}
    (inside : start < (logicalLines text).length) :
    logicalLines (joinLines ((logicalLines text).drop start)) = (logicalLines text).drop start := by
  induction start with
  | zero => rw [List.drop_zero, joinLines_logicalLines]
  | succ start startIH =>
      have above : start < (logicalLines text).length := Nat.lt_of_succ_lt inside
      have more : (logicalLines text).drop (start + 1) ≠ [] := by
        rw [ne_eq, List.drop_eq_nil_iff]
        exact Nat.not_le_of_lt inside
      have cut := startIH above
      rw [List.drop_eq_getElem_cons above] at cut
      exact logicalLines_joinLines_tail cut more

theorem unbroken_of_newlineFree (newlineFree : '\n' ∉ line) : Unbroken line after := by
  intro before rest inside
  exact absurd (by simp [inside]) newlineFree

theorem unbroken_append_newline (newlineFree : '\n' ∉ head)
    (kept : opensLine (rest ++ after) = false) (unbroken : Unbroken rest after) :
    Unbroken (head ++ '\n' :: rest) after := by
  induction head with
  | nil => exact unbroken_cons_iff.mpr ⟨fun _ => kept, unbroken⟩
  | cons c head headIH =>
      obtain ⟨other, newlineFree⟩ := not_or.mp (mt List.mem_cons.mpr newlineFree)
      rw [List.cons_append, unbroken_cons_iff]
      exact ⟨fun newline => absurd newline.symm other, headIH newlineFree⟩

theorem IsContinuation.not_opensLine (continuation : IsContinuation text) :
    opensLine text = false := by
  obtain ⟨newlineFree, ⟨c, begins, blank⟩, _, unlisted⟩ := continuation
  obtain ⟨rest, rfl⟩ := List.head?_eq_some_iff.mp begins
  have other : c ≠ '\n' := by
    rintro rfl
    exact newlineFree (List.mem_cons_self ..)
  simp [opensLine, other, blank, unlisted]

/-- A continuation shows something, so an item on a later line does not make it begin a line. -/
theorem IsContinuation.not_opensLine_append (continuation : IsContinuation text)
    (ends : EndsLine after) : opensLine (text ++ after) = false := by
  cases after with
  | nil => rw [List.append_nil, continuation.not_opensLine]
  | cons c rest =>
      obtain rfl := ends c rfl
      obtain ⟨d, begins, _⟩ := continuation.indented
      have nonempty : text ≠ [] := by
        rintro rfl
        contradiction
      have shown := isBlankLine_eq_false_iff.mpr continuation.visible
      rw [opensLine_append_newline nonempty fun _ => shown, continuation.not_opensLine]

theorem endsLine_nil : EndsLine [] := by
  intro c begins
  contradiction

theorem endsLine_newline (rest : Text) : EndsLine ('\n' :: rest) := by
  intro c begins
  exact (Option.some.inj begins).symm

theorem exists_joinLines_cons (first : Text) (others : List Text) :
    ∃ rest, joinLines (first :: others) = first ++ rest ∧ EndsLine rest := by
  cases others with
  | nil => exact ⟨[], (List.append_nil first).symm, endsLine_nil⟩
  | cons next others => exact ⟨'\n' :: joinLines (next :: others), rfl, endsLine_newline _⟩

theorem unbroken_joinLines (newlineFree : '\n' ∉ head)
    (continued : ∀ text ∈ continuations, IsContinuation text) (ends : EndsLine after) :
    Unbroken (joinLines (head :: continuations)) after := by
  induction continuations generalizing head with
  | nil => exact unbroken_of_newlineFree newlineFree
  | cons next others othersIH =>
      obtain ⟨continuation, continued⟩ := List.forall_mem_cons.mp continued
      rw [joinLines_cons (List.cons_ne_nil next others)]
      refine unbroken_append_newline newlineFree ?_ (othersIH continuation.newlineFree continued)
      obtain ⟨rest, joined, restEnds⟩ := exists_joinLines_cons next others
      rw [joined, List.append_assoc]
      apply continuation.not_opensLine_append
      cases rest with
      | nil => exact ends
      | cons c rest => exact restEnds

end

section

variable {line next : WrappedLine} {lines : List WrappedLine}

theorem WrappedLine.WellFormed.unbroken {after : Text} (wellFormed : line.WellFormed)
    (ends : EndsLine after) : Unbroken line.toText after :=
  unbroken_joinLines wellFormed.head_newlineFree wellFormed.continued ends

theorem WrappedLine.StandsOut.opensLine_head (standsOut : line.StandsOut) :
    opensLine line.head = true := by
  rcases standsOut with ⟨c, begins, visible⟩ | item
  · obtain ⟨rest, head⟩ := List.head?_eq_some_iff.mp begins
    simp [head, opensLine, visible]
  · exact opensLine_of_isItem item

theorem WellArranged.tail (arranged : WellArranged (line :: next :: lines)) :
    WellArranged (next :: lines) := by
  constructor
  case nonempty => exact List.cons_ne_nil next lines
  case wellFormed => exact (List.forall_mem_cons.mp arranged.wellFormed).2
  case apart =>
    intro index other found
    exact (arranged.apart (index + 1) other found).imp_left
      (And.imp_right fun more => Nat.lt_of_succ_lt_succ more)

theorem WellArranged.opensLine_tail (arranged : WellArranged (line :: next :: lines)) :
    opensLine (joinLines ((next :: lines).map WrappedLine.toText)) = true := by
  rw [List.map_cons]
  rcases arranged.apart 0 next rfl with ⟨empty, more⟩ | standsOut
  · have below : lines.map WrappedLine.toText ≠ [] := by
      intro last
      rw [List.map_eq_nil_iff.mp last] at more
      contradiction
    rw [empty, joinLines_cons below]
    rfl
  · obtain ⟨below, joined, _⟩ := exists_joinLines_cons next.toText (lines.map WrappedLine.toText)
    obtain ⟨behind, written, _⟩ := exists_joinLines_cons next.head next.continuations
    rw [joined, WrappedLine.toText, written, List.append_assoc]
    exact opensLine_append standsOut.opensLine_head _

end

/-- Well-arranged lines are what the cut makes of their joined text: no continuation is cut off, and
no line is taken for a part of the one above. -/
theorem logicalLines_joinLines_of_wellArranged {lines : List WrappedLine}
    (arranged : WellArranged lines) :
    logicalLines (joinLines (lines.map WrappedLine.toText)) = lines.map WrappedLine.toText := by
  induction lines with
  | nil => exact absurd rfl arranged.nonempty
  | cons line lines linesIH =>
      have wellFormed := arranged.wellFormed line (List.mem_cons_self ..)
      cases lines with
      | nil => exact logicalLines_of_unbroken (wellFormed.unbroken endsLine_nil)
      | cons next lines =>
          have cut := logicalLines_append_line (wellFormed.unbroken (endsLine_newline _))
            arranged.opensLine_tail
          rw [List.map_cons, joinLines_cons (by simp), cut, linesIH arranged.tail]

/-- A blank head with continuations that come close to items, two empty lines and a wrapped item. -/
theorem lookalikes_stay_continuations :
    let lines : List WrappedLine :=
      [⟨"  ".toList, ["  -x".toList, "\t1.y".toList]⟩, ⟨[], []⟩, ⟨[], []⟩,
        ⟨" 2. B".toList, ["  c".toList]⟩]
    WellArranged lines ∧
      logicalLines "  \n  -x\n\t1.y\n\n\n 2. B\n  c".toList =
        ["  \n  -x\n\t1.y".toList, [], [], " 2. B\n  c".toList] := by
  intro lines
  have continuation {text : Text} (shape : '\n' ∉ text ∧ text.head?.any isBlank = true ∧
      isBlankLine text = false ∧ isItem text = false) : IsContinuation text := by
    obtain ⟨newlineFree, indented, shown, unlisted⟩ := shape
    exact ⟨newlineFree, (Option.any_eq_true _ _).mp indented, isBlankLine_eq_false_iff.mp shown,
      unlisted⟩
  have wellFormed : ∀ line ∈ lines, line.WellFormed := by
    simp only [lines, List.forall_mem_cons]
    refine ⟨⟨by decide, ?_⟩, ⟨by decide, by simp⟩, ⟨by decide, by simp⟩, ⟨by decide, ?_⟩, by simp⟩
    · exact List.forall_mem_cons.mpr ⟨continuation (by decide),
        List.forall_mem_singleton.mpr (continuation (by decide))⟩
    · exact List.forall_mem_singleton.mpr (continuation (by decide))
  have arranged : WellArranged lines := by
    refine ⟨List.cons_ne_nil _ _, wellFormed, ?_⟩
    intro index line found
    rcases index with _ | _ | _ | index
    · cases found
      exact Or.inl ⟨rfl, by decide⟩
    · cases found
      exact Or.inl ⟨rfl, by decide⟩
    · cases found
      exact Or.inr (Or.inr (by decide))
    · simp [lines] at found
  exact ⟨arranged, logicalLines_joinLines_of_wellArranged arranged⟩

/-- Every logical line is a single line when it is cut by itself, and the lines from some line on are
those of the text that they make up. -/
theorem logicalLines_stable (text : Text) :
    (∀ line ∈ logicalLines text, logicalLines line = [line]) ∧
      ∀ start, start < (logicalLines text).length →
        logicalLines (joinLines ((logicalLines text).drop start)) =
          (logicalLines text).drop start := by
  constructor
  · intro line member
    exact logicalLines_of_unbroken (unbroken_of_mem_logicalLines member)
  · intro start inside
    exact logicalLines_joinLines_drop text inside

/-- A blank line in front of an item, and a newline that is left over at the end. -/
theorem blank_line_before_item_stable :
    let text := "A\n  \n- B\n  c\n\n".toList
    "- B\n  c".toList ∈ logicalLines text ∧ 1 < (logicalLines text).length ∧
      logicalLines "- B\n  c".toList = ["- B\n  c".toList] ∧
      logicalLines "  \n- B\n  c\n\n".toList =
        ["  ".toList, "- B\n  c".toList, "\n".toList] := by
  intro text
  have member : "- B\n  c".toList ∈ logicalLines text := by decide
  have inside : 1 < (logicalLines text).length := by decide
  obtain ⟨single, below⟩ := logicalLines_stable text
  exact ⟨member, inside, single _ member, below 1 inside⟩

/-- The lines up to some line may be cut in another way than in the text, as the blank line ends the
line above it only because of the item below. -/
example :
    let text := "A\n  \n- B".toList
    (logicalLines text).take 2 = ["A".toList, "  ".toList] ∧
      logicalLines (joinLines ((logicalLines text).take 2)) = ["A\n  ".toList] := by
  decide

end PseudocodeLint
