import PseudocodeLint.Proofs.BracePairs

namespace PseudocodeLint

def isBrace (c : Char) : Bool :=
  c = '{' || c = '}'

inductive LiteralBody : Text → Prop where
  | nil : LiteralBody []
  | plain {c : Char} {rest : Text} (unbraced : isBrace c = false) (body : LiteralBody rest) :
      LiteralBody (c :: rest)
  | group {inner rest : Text} (unbraced : ∀ c ∈ inner, isBrace c = false)
      (body : LiteralBody rest) : LiteralBody ('{' :: (inner ++ '}' :: rest))

/-- What is read before the closing brace is a body; behind an open inner brace, it is the rest of
a group and a body. -/
def ReadBody (nested : Bool) (content : Text) : Prop :=
  if nested then
    ∃ inner rest, content = inner ++ '}' :: rest ∧ (∀ c ∈ inner, isBrace c = false) ∧
      LiteralBody rest
  else LiteralBody content

/-- No group of a text has braces inside. -/
def Shallow (text : Text) : Prop :=
  ∀ lead inner rest, text = lead ++ '{' :: (inner ++ '}' :: rest) → Balanced inner → '{' ∉ inner

section

variable {text content after inner rest : Text} {nested : Bool} {c : Char}

theorem isBrace_eq_false_iff : isBrace c = false ↔ c ≠ '{' ∧ c ≠ '}' := by
  simp [isBrace]

theorem readContent?_unbraced (nested : Bool) (unbraced : ∀ c ∈ inner, isBrace c = false)
    (rest : Text) :
    readContent? nested (inner ++ rest) =
      (readContent? nested rest).map (Prod.map (inner ++ ·) id) := by
  induction inner with
  | nil => cases read : readContent? nested rest <;> simp [read, Prod.map]
  | cons c inner innerIH =>
      obtain ⟨notOpen, notClose⟩ := isBrace_eq_false_iff.mp (unbraced c (by simp))
      simp only [List.cons_append, readContent?, if_neg notOpen, if_neg notClose]
      rw [innerIH fun other member => unbraced other (List.mem_cons_of_mem c member), Option.map_map]
      rfl

theorem readContent?_of_body (body : LiteralBody content) (after : Text) :
    readContent? false (content ++ '}' :: after) = some (content, after) := by
  induction body with
  | nil => rfl
  | plain unbraced _ bodyIH =>
      obtain ⟨notOpen, notClose⟩ := isBrace_eq_false_iff.mp unbraced
      simp [readContent?, notOpen, notClose, bodyIH]
  | group unbraced _ bodyIH =>
      simp [readContent?, readContent?_unbraced true unbraced, bodyIH]

theorem ReadBody.plain (unbraced : isBrace c = false) (body : ReadBody nested content) :
    ReadBody nested (c :: content) := by
  cases nested with
  | true =>
      obtain ⟨inner, rest, rfl, unbracedInner, restBody⟩ := body
      exact ⟨c :: inner, rest, rfl, List.forall_mem_cons.mpr ⟨unbraced, unbracedInner⟩, restBody⟩
  | false => exact .plain unbraced body

theorem ReadBody.closed (body : ReadBody false content) : ReadBody true ('}' :: content) :=
  ⟨[], content, rfl, List.forall_mem_nil _, body⟩

theorem ReadBody.opened (body : ReadBody true content) : ReadBody false ('{' :: content) := by
  obtain ⟨inner, rest, rfl, unbraced, restBody⟩ := body
  exact .group unbraced restBody

theorem readBody_of_readContent? (closed : readContent? nested text = some (content, after)) :
    ReadBody nested content := by
  induction text generalizing nested content after with
  | nil => simp [readContent?] at closed
  | cons c text textIH =>
      have step {inner : Bool}
          (read : (readContent? inner text).map (Prod.map (c :: ·) id) = some (content, after)) :
          ∃ others, content = c :: others ∧ ReadBody inner others := by
        obtain ⟨⟨others, tail⟩, found, same⟩ := Option.map_eq_some_iff.mp read
        simp only [Prod.map, id, Prod.mk.injEq] at same
        exact ⟨others, same.1.symm, textIH found⟩
      simp only [readContent?] at closed
      split at closed
      · rename_i brace
        subst brace
        cases nested with
        | true =>
            obtain ⟨others, rfl, body⟩ := step closed
            exact body.closed
        | false =>
            cases closed
            exact .nil
      · rename_i notClose
        split at closed
        · rename_i brace
          subst brace
          cases nested with
          | true => contradiction
          | false =>
              obtain ⟨others, rfl, body⟩ := step closed
              exact body.opened
        · rename_i notOpen
          obtain ⟨others, rfl, body⟩ := step closed
          exact body.plain (isBrace_eq_false_iff.mpr ⟨notOpen, notClose⟩)

theorem readLiteral?_eq_some_iff :
    readLiteral? text = some (content, after) ↔
      text = '{' :: (content ++ '}' :: after) ∧ content ≠ [] ∧ LiteralBody content := by
  constructor
  · intro found
    have split := readLiteral?_eq_some found
    cases text with
    | nil => simp [readLiteral?] at found
    | cons c rest =>
        simp only [readLiteral?] at found
        split at found
        · obtain ⟨closed, filled⟩ := Option.filter_eq_some_iff.mp found
          exact ⟨by simpa [Piece.toText] using split.symm, by simpa using filled,
            readBody_of_readContent? closed⟩
        · contradiction
  · rintro ⟨rfl, filled, body⟩
    simp [readLiteral?, readContent?_of_body body, filled]

theorem depthAfter?_unbraced (depth : Nat) (unbraced : ∀ c ∈ inner, isBrace c = false)
    (rest : Text) : depthAfter? depth (inner ++ rest) = depthAfter? depth rest := by
  induction inner with
  | nil => rfl
  | cons c inner innerIH =>
      obtain ⟨notOpen, notClose⟩ := isBrace_eq_false_iff.mp (unbraced c (by simp))
      simp only [List.cons_append, depthAfter?, if_neg notOpen, if_neg notClose]
      exact innerIH fun other member => unbraced other (List.mem_cons_of_mem c member)

theorem LiteralBody.balanced (body : LiteralBody content) : Balanced content := by
  induction body with
  | nil => rfl
  | plain unbraced _ bodyIH =>
      obtain ⟨notOpen, notClose⟩ := isBrace_eq_false_iff.mp unbraced
      simpa [Balanced, depthAfter?, notOpen, notClose] using bodyIH
  | group unbraced _ bodyIH =>
      simpa [Balanced, depthAfter?, depthAfter?_unbraced _ unbraced] using bodyIH

theorem Balanced.unbraced (balanced : Balanced text) (unopened : '{' ∉ text) :
    ∀ c ∈ text, isBrace c = false := by
  induction text with
  | nil => simp
  | cons c rest restIH =>
      simp only [List.mem_cons, not_or] at unopened
      have notOpen : ¬ c = '{' := fun same => unopened.1 same.symm
      have notClose : ¬ c = '}' := by
        rintro rfl
        simp [Balanced, depthAfter?] at balanced
      simp only [Balanced, depthAfter?, if_neg notOpen, if_neg notClose] at balanced
      rw [List.forall_mem_cons]
      exact ⟨isBrace_eq_false_iff.mpr ⟨notOpen, notClose⟩, restIH balanced unopened.2⟩

/-- A balanced text ends no later than the plain text before a closing brace. -/
theorem Balanced.isPrefix_unbraced {lead : Text} (balanced : Balanced lead)
    (unbraced : ∀ c ∈ inner, isBrace c = false)
    (same : inner ++ '}' :: rest = lead ++ after) : lead <+: inner := by
  rcases List.append_eq_append_iff.mp same with ⟨beyond, rfl, split⟩ | ⟨beyond, rfl, _⟩
  · cases beyond with
    | nil => simp
    | cons c beyond =>
        obtain ⟨rfl, _⟩ := List.cons.inj split
        rw [Balanced, depthAfter?_unbraced 0 unbraced] at balanced
        simp [depthAfter?] at balanced
  · exact List.prefix_append ..

theorem LiteralBody.shallow (body : LiteralBody content) : Shallow content := by
  induction body with
  | nil =>
      intro lead inner rest same
      simp at same
  | @plain c rest unbraced _ bodyIH =>
      intro lead inner more same balanced
      cases lead with
      | nil =>
          obtain ⟨rfl, _⟩ := List.cons.inj same
          simp [isBrace] at unbraced
      | cons first lead => exact bodyIH lead inner more (List.cons.inj same).2 balanced
  | @group group rest unbraced _ bodyIH =>
      intro lead inner more same balanced
      cases lead with
      | nil =>
          have within := balanced.isPrefix_unbraced unbraced (List.cons.inj same).2
          intro member
          have brace := unbraced _ (within.subset member)
          simp [isBrace] at brace
      | cons first lead =>
          rcases List.append_eq_append_iff.mp (List.cons.inj same).2 with
            ⟨beyond, rfl, split⟩ | ⟨beyond, rfl, split⟩
          · cases beyond with
            | nil => simp at split
            | cons c beyond => exact bodyIH beyond inner more (List.cons.inj split).2 balanced
          · cases beyond with
            | nil => simp at split
            | cons c beyond =>
                obtain ⟨rfl, _⟩ := List.cons.inj split
                have brace := unbraced '{' (by simp)
                simp [isBrace] at brace

theorem Balanced.body {content : Text} (balanced : Balanced content) (shallow : Shallow content) :
    LiteralBody content := by
  match content with
  | [] => exact .nil
  | c :: rest =>
      by_cases opening : c = '{'
      · subst opening
        obtain ⟨inner, more, rfl, innerBalanced⟩ := balanced.partner_head
        have unbraced := innerBalanced.unbraced (shallow [] inner more rfl innerBalanced)
        have moreBalanced : Balanced more := by
          simpa [Balanced, depthAfter?, depthAfter?_unbraced _ unbraced] using balanced
        refine .group unbraced (moreBalanced.body fun lead group others same => ?_)
        exact shallow ('{' :: (inner ++ '}' :: lead)) group others (by simp [same])
      · have notClose : ¬ c = '}' := by
          rintro rfl
          simp [Balanced, depthAfter?] at balanced
        have restBalanced : Balanced rest := by
          simpa [Balanced, depthAfter?, opening, notClose] using balanced
        refine .plain (isBrace_eq_false_iff.mpr ⟨opening, notClose⟩)
          (restBalanced.body fun lead group others same => ?_)
        exact shallow (c :: lead) group others (by simp [same])
termination_by content.length

end

end PseudocodeLint
