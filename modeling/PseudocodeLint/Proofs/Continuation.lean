import PseudocodeLint.Proofs.Opening
import PseudocodeLint.Proofs.Segmentation

namespace PseudocodeLint

/-- The last character of the text is visible. -/
def EndsVisible (text : Text) : Prop :=
  ∃ c, text.getLast? = some c ∧ isBlank c = false

section

variable {text rest before after last first : Text} {front others : List Text}

theorem isPrefix_of_isPrefix_append_cons {lead : Text} {c : Char} (absent : c ∉ lead)
    (leads : lead <+: text ++ c :: rest) : lead <+: text := by
  induction lead generalizing text with
  | nil => exact List.nil_prefix
  | cons head tail tailIH =>
      simp only [List.mem_cons, not_or] at absent
      cases text with
      | nil => exact absurd (List.cons_prefix_cons.mp leads).1 (Ne.symm absent.1)
      | cons own text =>
          obtain ⟨rfl, tailLeads⟩ := List.cons_prefix_cons.mp leads
          exact List.cons_prefix_cons.mpr ⟨rfl, tailIH absent.2 tailLeads⟩

/-- An item that the text before a newline does not hold begins behind blanks only. -/
theorem isItem_append_newline_iff :
    isItem (text ++ '\n' :: rest) = true ↔
      isItem text = true ∨ isBlankLine text = true ∧ isItem rest = true := by
  simp only [isItem_iff_isPrefix, isBlankLine, List.all_eq_true]
  constructor
  · intro found
    obtain ⟨indent, marker, blank, wellFormed, body, same⟩ := found
    simp only [List.append_assoc] at same
    rcases List.append_eq_append_iff.mp same with ⟨visible, rfl, lead⟩ | ⟨beyond, rfl, tail⟩
    · -- the marker stands before the newline
      have newlineFree : '\n' ∉ marker.toText ++ [' '] := by
        simp [Marker.newline_not_mem_toText wellFormed]
      have leads : marker.toText ++ [' '] <+: visible ++ '\n' :: rest :=
        ⟨body, by rw [← lead, List.append_assoc]⟩
      refine Or.inl ⟨indent, marker, blank, wellFormed, ?_⟩
      rw [List.append_assoc]
      exact (List.prefix_append_right_inj indent).mpr
        (isPrefix_of_isPrefix_append_cons newlineFree leads)
    · cases beyond with
      | nil =>
          -- the marker cannot begin with the newline
          have newlineFree := Marker.newline_not_mem_toText wellFormed
          cases written : marker.toText with
          | nil => simp [written] at tail
          | cons c others =>
              rw [written] at tail newlineFree
              obtain rfl : '\n' = c := (List.cons.inj tail).1
              exact absurd (List.mem_cons_self ..) newlineFree
      | cons c beyond =>
          obtain ⟨rfl, rfl⟩ := List.cons.inj tail
          refine Or.inr ⟨fun c member => blank c (List.mem_append_left _ member),
            beyond, marker, fun c member => blank c (by simp [member]), wellFormed, body, ?_⟩
          simp
  · intro found
    rcases found with ⟨indent, marker, blank, wellFormed, leads⟩ |
      ⟨blankText, indent, marker, blank, wellFormed, leads⟩
    · exact ⟨indent, marker, blank, wellFormed, leads.trans (List.prefix_append ..)⟩
    · refine ⟨text ++ '\n' :: indent, marker, ?_, wellFormed, ?_⟩
      · intro c member
        rcases List.mem_append.mp member with inText | inIndent
        · exact blankText c inText
        · rcases List.mem_cons.mp inIndent with rfl | inIndent
          · rfl
          · exact blank c inIndent
      · obtain ⟨body, rfl⟩ := leads
        exact ⟨body, by simp⟩

theorem not_isBlankLine_of_endsVisible (visible : EndsVisible text) :
    isBlankLine text = false := by
  obtain ⟨c, found, visible⟩ := visible
  exact isBlankLine_eq_false_iff.mpr ⟨c, List.mem_of_getLast? found, visible⟩

theorem opensLine_append_newline (nonempty : text ≠ [])
    (settled : isItem rest = true → isBlankLine text = false) :
    opensLine (text ++ '\n' :: rest) = opensLine text := by
  have same : isItem (text ++ '\n' :: rest) = isItem text := by
    refine Bool.eq_iff_iff.mpr (isItem_append_newline_iff.trans ⟨fun found => ?_, Or.inl⟩)
    rcases found with found | ⟨blank, item⟩
    · exact found
    · rw [settled item] at blank
      contradiction
  cases text with
  | nil => contradiction
  | cons c text =>
      rw [List.cons_append] at same ⊢
      simp only [opensLine, same]

/-- A text whose cuts stay where they are when it is continued ends with a line that its
continuation joins. -/
theorem logicalLines_append
    (steady : ∀ before after, text = before ++ '\n' :: after →
      opensLine (after ++ rest) = opensLine after)
    (cut : logicalLines text = front ++ [last]) (cutRest : logicalLines rest = first :: others) :
    logicalLines (text ++ rest) = front ++ (last ++ first) :: others := by
  induction text generalizing front last with
  | nil =>
      obtain ⟨rfl, rfl⟩ : front = [] ∧ [] = last := by
        cases front with
        | nil => exact ⟨rfl, (List.cons.inj cut).1⟩
        | cons line front => simp [logicalLines] at cut
      exact cutRest
  | cons c text textIH =>
      have steadyTail : ∀ before after, text = before ++ '\n' :: after →
          opensLine (after ++ rest) = opensLine after :=
        fun before after same => steady (c :: before) after (by rw [same, List.cons_append])
      have nonempty := logicalLines_ne_nil text
      rw [List.cons_append]
      simp only [logicalLines] at cut ⊢
      have decision : (c = '\n' ∧ opensLine (text ++ rest) = true) ↔
          (c = '\n' ∧ opensLine text = true) := by
        refine and_congr_right fun newline => ?_
        rw [steady [] text (by rw [newline, List.nil_append])]
      split at cut
      · rename_i opens
        rw [if_pos (decision.mpr opens)]
        cases front with
        | nil => exact absurd (List.cons.inj cut).2 nonempty
        | cons line front =>
            obtain ⟨rfl, tailCut⟩ := List.cons.inj cut
            rw [textIH steadyTail tailCut]
            rfl
      · rename_i kept
        rw [if_neg (mt decision.mp kept)]
        cases parts : logicalLines text with
        | nil => contradiction
        | cons line lines =>
            rw [parts, consHead] at cut
            cases front with
            | nil =>
                obtain ⟨rfl, rfl⟩ := List.cons.inj cut
                have joined : logicalLines (text ++ rest) = [] ++ (line ++ first) :: others :=
                  textIH steadyTail parts
                rw [joined]
                rfl
            | cons head front =>
                obtain ⟨rfl, rfl⟩ := List.cons.inj cut
                have joined : logicalLines (text ++ rest) =
                    line :: front ++ (last ++ first) :: others := textIH steadyTail parts
                rw [joined]
                rfl

theorem opensLine_inside_append_newline (unterminated : text.getLast? ≠ some '\n')
    (settled : isItem rest = true → EndsVisible text) (inside : text = before ++ '\n' :: after) :
    opensLine (after ++ '\n' :: rest) = opensLine after := by
  cases after with
  | nil => simp [inside] at unterminated
  | cons c after =>
      refine opensLine_append_newline (List.cons_ne_nil c after) fun item => ?_
      obtain ⟨final, found, visible⟩ := settled item
      refine not_isBlankLine_of_endsVisible ⟨final, ?_, visible⟩
      rw [← found, inside, List.getLast?_append, List.getLast?_cons_cons, List.getLast?_cons,
        Option.some_or]

theorem exists_last_line (text : Text) : ∃ front last, logicalLines text = front ++ [last] := by
  obtain ⟨front, last, cut⟩ := (List.eq_nil_or_concat (logicalLines text)).resolve_left
    (logicalLines_ne_nil text)
  exact ⟨front, last, cut.trans (List.concat_eq_append ..)⟩

/-- Behind a newline that ends a line, the rest of a text is cut on its own. -/
theorem logicalLines_append_newline (unterminated : text.getLast? ≠ some '\n')
    (settled : isItem rest = true → EndsVisible text) (opens : opensLine rest = true) :
    logicalLines (text ++ '\n' :: rest) = logicalLines text ++ logicalLines rest := by
  obtain ⟨front, last, cut⟩ := exists_last_line text
  have cutRest : logicalLines ('\n' :: rest) = [] :: logicalLines rest := by
    simp [logicalLines, opens]
  rw [logicalLines_append
    (fun _ _ => opensLine_inside_append_newline unterminated settled) cut cutRest, cut]
  simp

/-- A newline at the end of a text belongs to its last line. -/
theorem logicalLines_append_final_newline (unterminated : text.getLast? ≠ some '\n')
    (cut : logicalLines text = front ++ [last]) :
    logicalLines (text ++ ['\n']) = front ++ [last ++ ['\n']] :=
  logicalLines_append
    (fun _ _ => opensLine_inside_append_newline unterminated fun item => by contradiction) cut rfl

theorem logicalLines_replicate_newline (count : Nat) :
    logicalLines (List.replicate (count + 1) '\n') = List.replicate count [] ++ [['\n']] := by
  induction count with
  | zero => rfl
  | succ count countIH =>
      have opens : opensLine (List.replicate (count + 1) '\n') = true := rfl
      rw [List.replicate_succ, logicalLines, if_pos ⟨rfl, opens⟩, countIH, List.replicate_succ]
      rfl

/-- Only a text that is a single line ends in an empty one. -/
theorem ne_nil_of_logicalLines_eq_append (cut : logicalLines text = front ++ [last])
    (more : front ≠ []) : last ≠ [] := by
  induction text generalizing front with
  | nil =>
      cases front with
      | nil => contradiction
      | cons line front => simp [logicalLines] at cut
  | cons c text textIH =>
      simp only [logicalLines] at cut
      cases front with
      | nil => contradiction
      | cons line front =>
          split at cut
          · rename_i opens
            have cut := (List.cons.inj cut).2
            cases front with
            | nil =>
                have joined := joinLines_logicalLines text
                rw [cut] at joined
                rintro rfl
                obtain rfl : [] = text := joined
                simp [opensLine] at opens
            | cons next front => exact textIH cut (List.cons_ne_nil next front)
          · cases parts : logicalLines text with
            | nil => exact absurd parts (logicalLines_ne_nil text)
            | cons head tail =>
                rw [parts, consHead] at cut
                obtain ⟨_, rfl⟩ := List.cons.inj cut
                have whole : logicalLines text = (head :: front) ++ [last] := parts
                exact textIH whole (List.cons_ne_nil head front)

end

end PseudocodeLint
