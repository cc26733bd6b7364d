import PseudocodeLint.Text.Basic

namespace PseudocodeLint

/-- Whether a code point lies in one of the ranges, which ascend and include both ends.
The search stops at the first range above the code point. -/
def inRanges (code : Nat) : List (Nat × Nat) → Bool
  | [] => false
  | (first, last) :: rest => first ≤ code && (code ≤ last || inRanges code rest)

/-- The code points that lie in the ranges, one by one. -/
def codesIn (ranges : List (Nat × Nat)) : List Nat :=
  ranges.flatMap fun (first, last) => List.range' first (last + 1 - first)

theorem mem_codesIn_of_inRanges {code : Nat} {ranges : List (Nat × Nat)}
    (inside : inRanges code ranges = true) : code ∈ codesIn ranges := by
  induction ranges with
  | nil => contradiction
  | cons range ranges rangesIH =>
      simp only [inRanges, Bool.and_eq_true, Bool.or_eq_true, decide_eq_true_eq] at inside
      rw [codesIn, List.flatMap_cons, List.mem_append, List.mem_range'_1]
      obtain ⟨first, last | later⟩ := inside
      · exact Or.inl (by omega)
      · exact Or.inr (rangesIH later)

theorem code_of_isAlphanum {c : Char} (alphanumeric : c.isAlphanum = true) :
    65 ≤ c.toNat ∧ c.toNat ≤ 90 ∨ 97 ≤ c.toNat ∧ c.toNat ≤ 122 ∨ 48 ≤ c.toNat ∧ c.toNat ≤ 57 := by
  unfold Char.isAlphanum Char.isAlpha Char.isUpper Char.isLower Char.isDigit at alphanumeric
  simp [UInt32.le_iff_toNat_le] at alphanumeric
  omega

end PseudocodeLint
