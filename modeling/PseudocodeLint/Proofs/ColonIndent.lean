import Mathlib.Data.List.TakeWhile
import PseudocodeLint.Proofs.LineFindings

namespace PseudocodeLint

/-- Blanks, a dash, a space and a body whose last visible character is a colon.  The body may run
over several lines. -/
structure IsColonBullet (line indent body : Text) : Prop where
  indent_blank : ∀ c ∈ indent, isBlank c = true
  text : line = indent ++ '-' :: ' ' :: body
  colon : lastVisible? body = some ':'

/-- At a line stands a bullet that ends in a colon, and the next line is not two spaces deeper. -/
structure LacksIndent (lines : List Text) (line : Nat) (current next indent body : Text) : Prop where
  bullet : IsColonBullet current indent body
  found : lines[line]? = some current
  followed : lines[line + 1]? = some next
  shallow : ¬ indent ++ "  ".toList <+: next

section

variable {lines : List Text} {line : Nat} {text current next indent body : Text}

theorem lastVisible?_eq_head? (text : Text) :
    lastVisible? text = (text.reverse.dropWhile isBlank).head? :=
  List.find?_not_eq_head?_dropWhile isBlank text.reverse

theorem newline_mem_trimEnd_iff {before : Text}
    (visible : text.reverse.dropWhile isBlank = ':' :: before) :
    '\n' ∈ trimEnd text ↔ '\n' ∈ before := by
  rw [trimEnd, visible, List.mem_reverse, List.mem_cons]
  exact or_iff_right (by decide)

theorem IsColonBullet.trimStart_eq (bullet : IsColonBullet current indent body) :
    trimStart current = '-' :: ' ' :: body := by
  rw [bullet.text]
  apply dropWhile_run bullet.indent_blank
  rintro c ⟨⟩
  rfl

theorem IsColonBullet.takeWhile_eq (bullet : IsColonBullet current indent body) :
    current.takeWhile isBlank = indent := by
  rw [bullet.text]
  apply takeWhile_run bullet.indent_blank
  rintro c ⟨⟩
  rfl

theorem colonIndent?_eq_some_iff :
    colonIndent? current = some indent ↔
      ∃ body, IsColonBullet current indent body ∧ '\n' ∉ trimEnd body := by
  constructor
  · intro found
    simp only [colonIndent?] at found
    split at found
    · rename_i body dash
      split at found
      · rename_i before visible
        split at found
        · contradiction
        · rename_i unbroken
          obtain rfl := Option.some.inj found
          have text : current.takeWhile isBlank ++ '-' :: ' ' :: body = current :=
            dash ▸ List.takeWhile_append_dropWhile
          have colon : lastVisible? body = some ':' := by
            rw [lastVisible?_eq_head?, visible, List.head?_cons]
          rw [← newline_mem_trimEnd_iff visible] at unbroken
          exact ⟨body, ⟨List.all_eq_true.mp List.all_takeWhile, text.symm, colon⟩, unbroken⟩
      · contradiction
    · contradiction
  · rintro ⟨body, bullet, unbroken⟩
    have colon := bullet.colon
    rw [lastVisible?_eq_head?] at colon
    obtain ⟨before, visible⟩ := List.head?_eq_some_iff.mp colon
    rw [newline_mem_trimEnd_iff visible] at unbroken
    simp only [colonIndent?, bullet.trimStart_eq, visible, if_neg unbroken, bullet.takeWhile_eq]

theorem isItem_of_colonIndent? (found : colonIndent? current = some indent) :
    isItem current = true := by
  obtain ⟨body, bullet, _⟩ := colonIndent?_eq_some_iff.mp found
  let item : Item := ⟨indent, .bullet, body⟩
  have text : current = item.toText := by
    simp [item, bullet.text, Item.toText, Marker.toText]
  exact isItem_iff.mpr ⟨item, ⟨bullet.indent_blank, trivial⟩, text⟩

theorem indentReport_eq_of_lacksIndent (lacks : LacksIndent lines line current next indent body)
    (unbroken : '\n' ∉ trimEnd body) :
    indentReport lines line = [⟨line, .missingIndentAfterColon, [current, next]⟩] := by
  have found := colonIndent?_eq_some_iff.mpr ⟨body, lacks.bullet, unbroken⟩
  have shallow := lacks.shallow
  rw [← List.isPrefixOf_iff_prefix] at shallow
  simp only [indentReport, lacks.found, lacks.followed, indentFinding?, found, if_neg shallow,
    Option.toList_some]

theorem exists_lacksIndent (reported : indentReport lines line ≠ []) :
    ∃ current next indent body, LacksIndent lines line current next indent body ∧
      '\n' ∉ trimEnd body := by
  simp only [indentReport] at reported
  split at reported
  · rename_i current next found followed
    cases bullet : colonIndent? current with
    | none => simp [indentFinding?, bullet] at reported
    | some indent =>
        simp only [indentFinding?, bullet] at reported
        split at reported
        · contradiction
        · rename_i shallow
          rw [List.isPrefixOf_iff_prefix] at shallow
          obtain ⟨body, bullet, unbroken⟩ := colonIndent?_eq_some_iff.mp bullet
          exact ⟨current, next, indent, body, ⟨bullet, found, followed, shallow⟩, unbroken⟩
  · contradiction

theorem of_mem_indentReport {finding : Finding} (member : finding ∈ indentReport lines line) :
    finding.line = line ∧ finding.violation.rule = .missingIndentAfterColon := by
  simp only [indentReport] at member
  split at member
  · exact indentFinding?_eq_some (Option.mem_toList.mp member)
  · contradiction

theorem filter_line_indentFindings (lines : List Text) (line : Nat) :
    (indentFindings lines).filter (·.line = line) = indentReport lines line := by
  rw [indentFindings_eq_flatMap, filter_key_flatMap (fun _ _ member => (of_mem_indentReport member).1)
    List.nodup_range]
  split
  · rfl
  · rename_i outside
    rw [List.mem_range, Nat.not_lt] at outside
    simp [indentReport, List.getElem?_eq_none outside]

theorem length_indentReport_le_one (lines : List Text) (line : Nat) :
    (indentReport lines line).length ≤ 1 := by
  simp only [indentReport]
  split
  · exact Option.length_toList_le
  · exact Nat.zero_le 1

theorem diagnosticsAt_missingIndent (policy : Policy) (document : Document) (line : Nat) :
    document.diagnosticsAt policy line .missingIndentAfterColon =
      (indentReport document.lines line).map (Finding.toDiagnostic policy document.name) := by
  rw [diagnosticsAt_eq, filter_rule_of_indent rfl, filter_line_indentFindings]
  congr 1
  apply List.filter_eq_self.mpr
  intro finding member
  exact decide_eq_true (of_mem_indentReport member).2

end

/-- The indent below a bullet is reported exactly where the bullet ends in a colon on its own first
line and the next line is not two spaces deeper, and then once.  Blocks, the name of the document
and the policy have no part in it. -/
theorem missingIndent_iff_colon_on_first_line (policy : Policy) (document : Document)
    (line : Nat) :
    (document.diagnosticsAt policy line .missingIndentAfterColon ≠ [] ↔
      ∃ current next indent body, LacksIndent document.lines line current next indent body ∧
        '\n' ∉ trimEnd body) ∧
    ∀ current next indent body, LacksIndent document.lines line current next indent body →
      '\n' ∉ trimEnd body →
        document.diagnosticsAt policy line .missingIndentAfterColon =
          [Finding.toDiagnostic policy document.name
            ⟨line, .missingIndentAfterColon, [current, next]⟩] := by
  have exactly : ∀ current next indent body,
      LacksIndent document.lines line current next indent body → '\n' ∉ trimEnd body →
        document.diagnosticsAt policy line .missingIndentAfterColon =
          [Finding.toDiagnostic policy document.name
            ⟨line, .missingIndentAfterColon, [current, next]⟩] := by
    intro current next indent body lacks unbroken
    rw [diagnosticsAt_missingIndent, indentReport_eq_of_lacksIndent lacks unbroken,
      List.map_singleton]
  refine ⟨⟨?_, ?_⟩, exactly⟩
  · intro reported
    apply exists_lacksIndent
    rwa [diagnosticsAt_missingIndent, ne_eq, List.map_eq_nil_iff] at reported
  · rintro ⟨current, next, indent, body, lacks, unbroken⟩
    rw [exactly current next indent body lacks unbroken]
    exact List.cons_ne_nil _ _

/-- Below an algorithm header, a bullet that ends in a colon and one at the same indent. -/
theorem bullet_below_colon_reported :
    let document : Document := ⟨"a.md".toList, "Foo(a):\n\n - If \x7ba\x7d:\n - Return.".toList⟩
    let current := " - If \x7ba\x7d:".toList
    let next := " - Return.".toList
    LacksIndent document.lines 2 current next " ".toList "If \x7ba\x7d:".toList ∧
      '\n' ∉ trimEnd "If \x7ba\x7d:".toList ∧
      document.diagnosticsAt {} 2 .missingIndentAfterColon =
        [Finding.toDiagnostic {} document.name ⟨2, .missingIndentAfterColon, [current, next]⟩] := by
  intro document current next
  have lacks : LacksIndent document.lines 2 current next " ".toList "If \x7ba\x7d:".toList :=
    ⟨⟨List.all_eq_true.mp rfl, rfl, by decide⟩, by decide, by decide, by decide⟩
  have unbroken : '\n' ∉ trimEnd "If \x7ba\x7d:".toList := by decide
  obtain ⟨_, exactly⟩ := missingIndent_iff_colon_on_first_line {} document 2
  exact ⟨lacks, unbroken, exactly _ _ _ _ lacks unbroken⟩

/-- The indent below a bullet that reaches its colon on a continuation line goes unchecked. -/
theorem indent_below_wrapped_bullet_unchecked :
    ¬ ∀ (policy : Policy) (document : Document) (line : Nat),
      document.diagnosticsAt policy line .missingIndentAfterColon ≠ [] ↔
        ∃ current next indent body,
          LacksIndent document.lines line current next indent body := by
  intro always
  let document : Document := ⟨"a.md".toList, "- If a\n  or b:\n- Return.".toList⟩
  have lacks : LacksIndent document.lines 0 "- If a\n  or b:".toList "- Return.".toList []
      "If a\n  or b:".toList :=
    ⟨⟨List.all_eq_true.mp rfl, rfl, by decide⟩, by decide, by decide, by decide⟩
  apply (always {} document 0).mpr ⟨_, _, _, _, lacks⟩
  rw [diagnosticsAt_missingIndent]
  decide

end PseudocodeLint
