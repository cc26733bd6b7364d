import PseudocodeLint.Text.CodeRange

namespace PseudocodeLint

/-- The characters with the Unicode property White_Space. -/
def blankRanges : List (Nat × Nat) :=
  [(0x9, 0xD), (0x20, 0x20), (0x85, 0x85), (0xA0, 0xA0), (0x1680, 0x1680), (0x2000, 0x200A),
   (0x2028, 0x2029), (0x202F, 0x202F), (0x205F, 0x205F), (0x3000, 0x3000)]

def isBlank (c : Char) : Bool :=
  inRanges c.toNat blankRanges

def trimStart (text : Text) : Text :=
  text.dropWhile isBlank

def trimEnd (text : Text) : Text :=
  (text.reverse.dropWhile isBlank).reverse

theorem trimStart_eq_cons_iff {text rest : Text} {c : Char} :
    trimStart text = c :: rest ↔
      ∃ blanks, text = blanks ++ c :: rest ∧ (∀ b ∈ blanks, isBlank b = true) ∧
        isBlank c = false := by
  constructor
  · intro shown
    have visible := List.head?_dropWhile_not isBlank text
    have parts : text.takeWhile isBlank ++ trimStart text = text :=
      List.takeWhile_append_dropWhile
    rw [trimStart] at shown parts
    rw [shown] at visible parts
    exact ⟨text.takeWhile isBlank, parts.symm, List.all_eq_true.mp List.all_takeWhile, visible⟩
  · intro split
    obtain ⟨blanks, rfl, blank, visible⟩ := split
    apply dropWhile_run blank
    intro first begins
    rwa [← Option.some.inj begins]

/-- The last character that is not blank. -/
def lastVisible? (text : Text) : Option Char :=
  text.reverse.find? (!isBlank ·)

/-- Writes every maximal run of blanks as one space. -/
def collapseBlanks : Text → Text
  | [] => []
  | c :: rest =>
      if !isBlank c then c :: collapseBlanks rest
      else if rest.head?.any isBlank then collapseBlanks rest
      else ' ' :: collapseBlanks rest

theorem isBlank_eq_false_of_isAlphanum {c : Char} (alphanumeric : c.isAlphanum = true) :
    isBlank c = false := by
  have code := code_of_isAlphanum alphanumeric
  simp [isBlank, blankRanges, inRanges]
  omega

end PseudocodeLint
