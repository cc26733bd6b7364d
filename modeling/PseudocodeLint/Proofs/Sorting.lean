import Mathlib.Data.List.Sort
import PseudocodeLint.Lint

namespace PseudocodeLint

instance keyTotal [LinearOrder κ] (key : α → κ) : Std.Total fun left right => key left ≤ key right :=
  ⟨fun left right => le_total (key left) (key right)⟩

instance keyTrans [LinearOrder κ] (key : α → κ) : IsTrans α fun left right => key left ≤ key right :=
  ⟨fun _ _ _ => le_trans⟩

section

variable [LinearOrder κ] {key : α → κ} {element : α} {elements few many : List α}

theorem stableSort_eq_insertionSort {before : α → α → Bool}
    (ordered : ∀ left right, before left right = true ↔ key left < key right)
    (elements : List α) :
    stableSort before elements =
      elements.insertionSort fun left right => key left ≤ key right := by
  induction elements with
  | nil => rfl
  | cons first rest restIH =>
      have behind : (before · first) = fun other => decide ¬ key first ≤ key other := by
        funext other
        rw [Bool.eq_iff_iff, decide_eq_true_eq, ordered, not_le]
      rw [List.insertionSort_cons_eq_take_drop, ← restIH, ← behind]
      rfl

theorem orderedInsert_of_forall_le (least : ∀ other ∈ elements, key element ≤ key other) :
    elements.orderedInsert (fun left right => key left ≤ key right) element =
      element :: elements := by
  cases elements with
  | nil => rfl
  | cons first rest => exact List.orderedInsert_cons_of_le _ rest (least first List.mem_cons_self)

theorem filter_orderedInsert (keep : α → Bool)
    (sorted : elements.Pairwise fun left right => key left ≤ key right) :
    (elements.orderedInsert (fun left right => key left ≤ key right) element).filter keep =
      if keep element then
        (elements.filter keep).orderedInsert (fun left right => key left ≤ key right) element
      else elements.filter keep := by
  induction elements with
  | nil => cases kept : keep element <;> simp [kept]
  | cons first rest restIH =>
      obtain ⟨firstBefore, restSorted⟩ := List.pairwise_cons.mp sorted
      by_cases least : key element ≤ key first
      · have ahead : ∀ other ∈ first :: rest, key element ≤ key other :=
          List.forall_mem_cons.mpr ⟨least, fun other member =>
            least.trans (firstBefore other member)⟩
        rw [orderedInsert_of_forall_le ahead, List.filter_cons, orderedInsert_of_forall_le
          fun other member => ahead other (List.mem_filter.mp member).1]
      · rw [List.orderedInsert_of_not_le _ rest least, List.filter_cons, List.filter_cons,
          restIH restSorted]
        cases keep first <;> cases keep element <;> simp [least]

/-- Leaving elements out does not change the order of the others. -/
theorem filter_insertionSort (keep : α → Bool) (elements : List α) :
    (elements.insertionSort fun left right => key left ≤ key right).filter keep =
      (elements.filter keep).insertionSort fun left right => key left ≤ key right := by
  induction elements with
  | nil => rfl
  | cons first rest restIH =>
      rw [List.insertionSort_cons, filter_orderedInsert keep (List.pairwise_insertionSort _ rest),
        restIH, List.filter_cons]
      split <;> rfl

theorem eq_filter_append_filter {early : α → Bool}
    (apart : ∀ left right, early left = true → early right = false → key left < key right)
    (sorted : elements.Pairwise fun left right => key left ≤ key right) :
    elements = elements.filter early ++ elements.filter (!early ·) := by
  induction elements with
  | nil => rfl
  | cons first rest restIH =>
      obtain ⟨firstBefore, restSorted⟩ := List.pairwise_cons.mp sorted
      cases kind : early first with
      | true => simpa [kind] using restIH restSorted
      | false =>
          have late : ∀ other ∈ first :: rest, early other = false := by
            refine List.forall_mem_cons.mpr ⟨kind, fun other member => ?_⟩
            refine Bool.eq_false_iff.mpr fun ahead => ?_
            exact not_le_of_gt (apart other first ahead kind) (firstBefore other member)
          rw [List.filter_eq_nil_iff.mpr (by simpa using late), List.nil_append, eq_comm,
            List.filter_eq_self]
          simpa using late

/-- When some elements belong before all others, the two kinds are sorted apart. -/
theorem insertionSort_eq_append (early : α → Bool)
    (apart : ∀ left right, early left = true → early right = false → key left < key right)
    (elements : List α) :
    (elements.insertionSort fun left right => key left ≤ key right) =
      ((elements.filter early).insertionSort fun left right => key left ≤ key right) ++
        (elements.filter (!early ·)).insertionSort fun left right => key left ≤ key right := by
  rw [← filter_insertionSort, ← filter_insertionSort]
  exact eq_filter_append_filter apart (List.pairwise_insertionSort _ elements)

theorem insertionSort_sublist (among : few.Sublist many) :
    (few.insertionSort fun left right => key left ≤ key right).Sublist
      (many.insertionSort fun left right => key left ≤ key right) := by
  induction among with
  | slnil => exact List.Sublist.refl _
  | cons first among amongIH => exact amongIH.trans (List.sublist_orderedInsert first _)
  | cons_cons first among amongIH =>
      exact amongIH.orderedInsert_sublist first (List.pairwise_insertionSort _ _)

end

section

variable {same : α → α → Bool} {elements : List α}

theorem dropRepeats_sublist (same : α → α → Bool) (elements : List α) :
    (dropRepeats same elements).Sublist elements := by
  induction elements with
  | nil => exact List.Sublist.refl _
  | cons first rest restIH =>
      simp only [dropRepeats]
      split
      · exact (List.nil_sublist rest).cons_cons first
      · rename_i next others kept
        rw [kept] at restIH
        split
        · exact ((List.sublist_cons_self next others).trans restIH).cons_cons first
        · exact restIH.cons_cons first

/-- The first element of a kind is not a repeat. -/
theorem find?_dropRepeats {wanted : α → Bool} (elements : List α)
    (alike : ∀ left right, same left right = true → wanted left = wanted right) :
    (dropRepeats same elements).find? wanted = elements.find? wanted := by
  induction elements with
  | nil => rfl
  | cons first rest restIH =>
      rw [List.find?_cons, ← restIH]
      simp only [dropRepeats]
      split
      · rename_i kept
        simp [kept, List.find?_cons]
      · rename_i next others kept
        rw [kept]
        split
        · rename_i repeated
          rw [List.find?_cons]
          cases found : wanted first with
          | true => rfl
          | false => simp [← alike first next repeated, found]
        · rw [List.find?_cons]

/-- What is left of a sorted list ascends strictly when elements with one key count as the same. -/
theorem dropRepeats_pairwise [LinearOrder κ] {key : α → κ}
    (alike : ∀ left right, key left = key right → same left right = true)
    (sorted : elements.Pairwise fun left right => key left ≤ key right) :
    (dropRepeats same elements).Pairwise fun left right => key left < key right := by
  induction elements with
  | nil => exact .nil
  | cons first rest restIH =>
      obtain ⟨firstBefore, restSorted⟩ := List.pairwise_cons.mp sorted
      have strict := restIH restSorted
      simp only [dropRepeats]
      split
      · exact List.pairwise_singleton ..
      · rename_i next others kept
        rw [kept] at strict
        obtain ⟨nextBefore, othersStrict⟩ := List.pairwise_cons.mp strict
        have member : next ∈ rest := (dropRepeats_sublist same rest).subset (by simp [kept])
        have ahead : ∀ other ∈ others, key first < key other := fun other memberToo =>
          (firstBefore next member).trans_lt (nextBefore other memberToo)
        split
        · exact othersStrict.cons ahead
        · rename_i distinct
          have before : key first < key next :=
            (firstBefore next member).lt_of_ne fun equal => distinct (alike first next equal)
          exact strict.cons (List.forall_mem_cons.mpr ⟨before, ahead⟩)

end

theorem sortByLine_eq_insertionSort (found : List Finding) :
    sortByLine found = found.insertionSort fun left right => left.line ≤ right.line :=
  stableSort_eq_insertionSort (fun _ _ => decide_eq_true_iff) found

end PseudocodeLint
