import PseudocodeLint.Text.Basic

namespace PseudocodeLint

/-! Value literals: spans in braces that hold something, with at most one level of braces
inside.  A text is read from the left, and a literal is taken at the first brace that has one. -/

inductive Piece where
  | plain (c : Char)
  /-- A literal with the text between its outer braces. -/
  | literal (content : Text)
deriving DecidableEq, Repr

def Piece.toText : Piece → Text
  | .plain c => [c]
  | .literal content => '{' :: content ++ ['}']

/-- Reads to the brace that closes a literal, and returns the content before the brace and the
text after it.  `nested` tells whether an inner brace is open. -/
def readContent? (nested : Bool) : Text → Option (Text × Text)
  | [] => none
  | c :: rest =>
      if c = '}' then
        if nested then (readContent? false rest).map (Prod.map (c :: ·) id)
        else some ([], rest)
      else if c = '{' then
        if nested then none
        else (readContent? true rest).map (Prod.map (c :: ·) id)
      else (readContent? nested rest).map (Prod.map (c :: ·) id)

def readLiteral? : Text → Option (Text × Text)
  | [] => none
  | c :: rest =>
      if c = '{' then (readContent? false rest).filter (!·.1.isEmpty) else none

theorem readContent?_rest_length {nested : Bool} {text content after : Text}
    (closed : readContent? nested text = some (content, after)) :
    after.length < text.length := by
  induction text generalizing nested content after with
  | nil => simp [readContent?] at closed
  | cons c rest restIH =>
      simp only [readContent?] at closed
      split at closed
      · split at closed
        · obtain ⟨⟨inner, tail⟩, found, same⟩ := Option.map_eq_some_iff.mp closed
          simp only [Prod.map, id, Prod.mk.injEq] at same
          have shorter := restIH found
          simp only [List.length_cons, ← same.2]
          omega
        · simp only [Option.some.injEq, Prod.mk.injEq] at closed
          simp [← closed.2]
      · split at closed
        · split at closed
          · exact absurd closed (by simp)
          · obtain ⟨⟨inner, tail⟩, found, same⟩ := Option.map_eq_some_iff.mp closed
            simp only [Prod.map, id, Prod.mk.injEq] at same
            have shorter := restIH found
            simp only [List.length_cons, ← same.2]
            omega
        · obtain ⟨⟨inner, tail⟩, found, same⟩ := Option.map_eq_some_iff.mp closed
          simp only [Prod.map, id, Prod.mk.injEq] at same
          have shorter := restIH found
          simp only [List.length_cons, ← same.2]
          omega

theorem readLiteral?_rest_length {c : Char} {rest content after : Text}
    (found : readLiteral? (c :: rest) = some (content, after)) :
    after.length < rest.length := by
  simp only [readLiteral?] at found
  split at found
  · exact readContent?_rest_length (Option.eq_some_of_filter_eq_some found)
  · simp at found

/-- Cuts a text into its literals and the characters outside them. -/
def pieces : Text → List Piece
  | [] => []
  | c :: rest =>
      match found : readLiteral? (c :: rest) with
      | some (content, after) =>
          have := readLiteral?_rest_length found
          .literal content :: pieces after
      | none => .plain c :: pieces rest
termination_by text => text.length
decreasing_by
  · exact Nat.lt_succ_of_lt this
  · exact Nat.lt_succ_self _

theorem pieces_cons_literal {c : Char} {rest content after : Text}
    (found : readLiteral? (c :: rest) = some (content, after)) :
    pieces (c :: rest) = .literal content :: pieces after := by
  rw [pieces]
  split
  · rename_i other tail read
    obtain ⟨rfl, rfl⟩ := Prod.mk.inj (Option.some.inj (read.symm.trans found))
    rfl
  · rename_i missing
    rw [found] at missing
    contradiction

theorem pieces_cons_plain {c : Char} {rest : Text} (missing : readLiteral? (c :: rest) = none) :
    pieces (c :: rest) = .plain c :: pieces rest := by
  rw [pieces]
  split
  · rename_i content after found
    rw [missing] at found
    contradiction
  · rfl

def literalContents (text : Text) : List Text :=
  (pieces text).filterMap fun
    | .literal content => some content
    | .plain _ => none

def outsideLiterals (text : Text) : Text :=
  (pieces text).filterMap fun
    | .plain c => some c
    | .literal _ => none

theorem literalContents_cons_literal {c : Char} {rest content after : Text}
    (found : readLiteral? (c :: rest) = some (content, after)) :
    literalContents (c :: rest) = content :: literalContents after := by
  rw [literalContents, pieces_cons_literal found]
  rfl

theorem literalContents_cons_plain {c : Char} {rest : Text}
    (missing : readLiteral? (c :: rest) = none) :
    literalContents (c :: rest) = literalContents rest := by
  rw [literalContents, pieces_cons_plain missing]
  rfl

theorem outsideLiterals_cons_literal {c : Char} {rest content after : Text}
    (found : readLiteral? (c :: rest) = some (content, after)) :
    outsideLiterals (c :: rest) = outsideLiterals after := by
  rw [outsideLiterals, pieces_cons_literal found]
  rfl

theorem outsideLiterals_cons_plain {c : Char} {rest : Text}
    (missing : readLiteral? (c :: rest) = none) :
    outsideLiterals (c :: rest) = c :: outsideLiterals rest := by
  rw [outsideLiterals, pieces_cons_plain missing]
  rfl

/-- The literals that have braces inside, written with their outer braces. -/
def nestedLiterals (text : Text) : List Text :=
  ((literalContents text).filter (·.contains '{')).map (Piece.toText ∘ .literal)

theorem readContent?_eq_some {nested : Bool} {text content after : Text}
    (closed : readContent? nested text = some (content, after)) :
    content ++ '}' :: after = text := by
  induction text generalizing nested content after with
  | nil => simp [readContent?] at closed
  | cons c rest restIH =>
      have step {inner : Bool}
          (read : (readContent? inner rest).map (Prod.map (c :: ·) id) = some (content, after)) :
          content ++ '}' :: after = c :: rest := by
        obtain ⟨⟨tail, remaining⟩, found, same⟩ := Option.map_eq_some_iff.mp read
        simp only [Prod.map, id, Prod.mk.injEq] at same
        rw [← same.1, ← same.2, List.cons_append, restIH found]
      simp only [readContent?] at closed
      split at closed
      · split at closed
        · exact step closed
        · rename_i brace _
          simp only [Option.some.injEq, Prod.mk.injEq] at closed
          rw [← closed.1, ← closed.2, brace]
          rfl
      · split at closed
        · split at closed
          · contradiction
          · exact step closed
        · exact step closed

theorem readLiteral?_eq_some {text content after : Text}
    (found : readLiteral? text = some (content, after)) :
    (Piece.literal content).toText ++ after = text := by
  cases text with
  | nil => simp [readLiteral?] at found
  | cons c rest =>
      simp only [readLiteral?] at found
      split at found
      · rename_i brace
        have closed := readContent?_eq_some (Option.eq_some_of_filter_eq_some found)
        simp [Piece.toText, closed, brace]
      · simp at found

/-- Cutting a text into pieces loses nothing. -/
theorem pieces_flatMap_toText (text : Text) : (pieces text).flatMap Piece.toText = text := by
  fun_induction pieces text with
  | case1 => rfl
  | case2 c rest content after found _ restIH =>
      rw [List.flatMap_cons, restIH]
      exact readLiteral?_eq_some found
  | case3 c rest _ restIH =>
      rw [List.flatMap_cons, restIH]
      rfl

end PseudocodeLint
