import PseudocodeLint.Proofs.Sorting

namespace PseudocodeLint

/-- `after` is `before` with the entries of `extra` put in between. -/
structure Adds (extra before after : List α) : Prop where
  keeps : before.Sublist after
  counts : after.Perm (extra ++ before)

namespace Adds

variable {extra extraToo before beforeToo after afterToo : List α}

theorem refl (entries : List α) : Adds [] entries entries :=
  ⟨List.Sublist.refl _, List.Perm.refl _⟩

theorem singleton (entry : α) : Adds [entry] [] [entry] :=
  ⟨List.nil_sublist _, List.Perm.refl _⟩

theorem eq_of_nil (added : Adds [] before after) : after = before :=
  (added.keeps.eq_of_length added.counts.length_eq.symm).symm

theorem append (upper : Adds extra before after) (lower : Adds extraToo beforeToo afterToo) :
    Adds (extra ++ extraToo) (before ++ beforeToo) (after ++ afterToo) := by
  refine ⟨upper.keeps.append lower.keeps, (upper.counts.append lower.counts).trans ?_⟩
  have swapped : (before ++ (extraToo ++ beforeToo)).Perm (extraToo ++ (before ++ beforeToo)) := by
    rw [← List.append_assoc, ← List.append_assoc]
    exact List.perm_append_comm.append_right _
  rw [List.append_assoc, List.append_assoc]
  exact swapped.append_left extra

theorem append_left (added : Adds extra before after) (entries : List α) :
    Adds extra (entries ++ before) (entries ++ after) :=
  (refl entries).append added

theorem append_right (added : Adds extra before after) (entries : List α) :
    Adds extra (before ++ entries) (after ++ entries) := by
  rw [← List.append_nil extra]
  exact added.append (refl entries)

theorem map (added : Adds extra before after) (view : α → β) :
    Adds (extra.map view) (before.map view) (after.map view) := by
  refine ⟨added.keeps.map view, ?_⟩
  rw [← List.map_append]
  exact added.counts.map view

theorem flatMap {keys : List κ} {extra before after : κ → List α}
    (added : ∀ key ∈ keys, Adds (extra key) (before key) (after key)) :
    Adds (keys.flatMap extra) (keys.flatMap before) (keys.flatMap after) := by
  induction keys with
  | nil => exact refl []
  | cons first rest restIH =>
      simp only [List.flatMap_cons]
      exact (added first (List.mem_cons_self ..)).append
        (restIH fun key member => added key (List.mem_cons_of_mem _ member))

theorem insertionSort [LinearOrder κ] {key : α → κ} (added : Adds extra before after) :
    Adds extra (before.insertionSort fun left right => key left ≤ key right)
      (after.insertionSort fun left right => key left ≤ key right) := by
  refine ⟨insertionSort_sublist added.keeps, (List.perm_insertionSort _ after).trans ?_⟩
  exact added.counts.trans ((List.perm_insertionSort _ before).symm.append_left extra)

end Adds

end PseudocodeLint
