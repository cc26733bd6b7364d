import Mathlib.Data.List.Lex
import PseudocodeLint.Proofs.Sorting
import PseudocodeLint.Selection

namespace PseudocodeLint

def Component.rank : Component → Nat
  | .root => 1
  | .current => 2
  | .parent => 3
  | .name _ => 4

def codeBefore (left right : Char) : Prop :=
  left.toNat < right.toNat

/-- The root comes first, then `.`, then `..`, then names by their code points. -/
inductive Component.Before : Component → Component → Prop where
  | kind {left right : Component} (lower : left.rank < right.rank) : Before left right
  | name {left right : Text} (lower : List.Lex codeBefore left right) :
      Before (.name left) (.name right)

def pathBefore (left right : Text) : Prop :=
  List.Lex Component.Before (components left) (components right)

instance : Std.Trichotomous codeBefore where
  trichotomous _ _ notBefore notAfter :=
    Char.ext (UInt32.toNat_inj.mp
      (Nat.le_antisymm (Nat.le_of_not_lt notAfter) (Nat.le_of_not_lt notBefore)))

instance : Std.Asymm codeBefore where
  asymm _ _ before := Nat.lt_asymm before

instance : Std.Trichotomous Component.Before where
  trichotomous left right notBefore notAfter := by
    have ranks : left.rank = right.rank :=
      Nat.le_antisymm (Nat.le_of_not_lt fun lower => notAfter (.kind lower))
        (Nat.le_of_not_lt fun lower => notBefore (.kind lower))
    cases left with
    | name name =>
        cases right with
        | name other =>
            have same := Std.Trichotomous.trichotomous (r := List.Lex codeBefore) name other
              (fun lower => notBefore (.name lower)) fun lower => notAfter (.name lower)
            rw [same]
        | _ => simp [Component.rank] at ranks
    | _ => cases right <;> first | rfl | simp [Component.rank] at ranks

instance : Std.Asymm Component.Before where
  asymm left right before after := by
    cases before with
    | kind lower =>
        cases after with
        | kind lowerToo => exact Nat.lt_asymm lower lowerToo
        | name => exact Nat.lt_irrefl _ lower
    | name lower =>
        cases after with
        | kind lowerToo => exact Nat.lt_irrefl _ lowerToo
        | name lowerToo => exact Std.Asymm.asymm _ _ lower lowerToo

section

variable {left right : Component} {name other : Text} {lefts rights : List Component}

theorem Component.key_eq_cons (component : Component) :
    ∃ rest, component.key = component.rank :: rest := by
  cases component <;> exact ⟨_, rfl⟩

theorem names_lt (lower : List.Lex codeBefore name other) (lefts rights : List Nat) :
    name.map (·.toNat + 1) ++ 0 :: lefts < other.map (·.toNat + 1) ++ 0 :: rights := by
  induction lower with
  | nil => exact .rel (Nat.succ_pos _)
  | cons _ lowerIH => exact .cons lowerIH
  | rel lower => exact .rel (Nat.succ_lt_succ lower)

/-- A component that comes first has the lower key, whatever follows the two. -/
theorem Component.Before.key_lt (lower : left.Before right) (lefts rights : List Nat) :
    left.key ++ lefts < right.key ++ rights := by
  cases lower with
  | kind lower =>
      obtain ⟨leftRest, leftKey⟩ := left.key_eq_cons
      obtain ⟨rightRest, rightKey⟩ := right.key_eq_cons
      rw [leftKey, rightKey]
      exact .rel lower
  | name lower =>
      simp only [Component.key, List.cons_append, List.append_assoc, List.nil_append]
      exact .cons (names_lt lower lefts rights)

theorem sortKey_lt (lower : List.Lex Component.Before lefts rights) :
    sortKey lefts < sortKey rights := by
  induction lower with
  | @nil component rest =>
      obtain ⟨numbers, key⟩ := component.key_eq_cons
      rw [sortKey, sortKey, List.flatMap_nil, List.flatMap_cons, key]
      exact .nil
  | cons _ lowerIH => exact List.Lex.append_left _ lowerIH _
  | rel lower => exact lower.key_lt _ _

end

section

variable {left right path : Text} {paths others : List Text}

theorem samePath_iff : samePath left right = true ↔ components left = components right :=
  decide_eq_true_iff

theorem pathBefore_cases (left right : Text) :
    components left = components right ∨ pathBefore left right ∨ pathBefore right left := by
  by_cases before : pathBefore left right
  · exact .inr (.inl before)
  · by_cases after : pathBefore right left
    · exact .inr (.inr after)
    · exact .inl (Std.Trichotomous.trichotomous (r := List.Lex Component.Before) _ _ before after)

theorem pathKey_lt_iff : pathKey left < pathKey right ↔ pathBefore left right := by
  refine ⟨fun lower => ?_, sortKey_lt⟩
  rcases pathBefore_cases left right with same | before | after
  · exact absurd (congrArg sortKey same) (ne_of_lt lower)
  · exact before
  · exact absurd (sortKey_lt after) (lt_asymm lower)

theorem pathKey_eq_iff : pathKey left = pathKey right ↔ components left = components right := by
  refine ⟨fun same => ?_, congrArg sortKey⟩
  rcases pathBefore_cases left right with equal | before | after
  · exact equal
  · exact absurd same (ne_of_lt (sortKey_lt before))
  · exact absurd same.symm (ne_of_lt (sortKey_lt after))

theorem sortPaths_eq_insertionSort (paths : List Text) :
    sortPaths paths = paths.insertionSort fun left right => pathKey left ≤ pathKey right :=
  stableSort_eq_insertionSort (fun _ _ => List.lex_eq_true_iff_lt) paths

theorem distinctPaths_pairwise (paths : List Text) : (distinctPaths paths).Pairwise pathBefore := by
  have alike : ∀ left right, pathKey left = pathKey right → samePath left right = true :=
    fun _ _ equal => samePath_iff.mpr (pathKey_eq_iff.mp equal)
  rw [distinctPaths, sortPaths_eq_insertionSort]
  exact (dropRepeats_pairwise alike (List.pairwise_insertionSort _ paths)).imp pathKey_lt_iff.mp

/-- Of equal paths the one given first is kept. -/
theorem find?_distinctPaths (path : Text) (paths : List Text) :
    (distinctPaths paths).find? (samePath path) = paths.find? (samePath path) := by
  have alike : ∀ left right, samePath left right = true →
      samePath path left = samePath path right := by
    intro left right same
    simp only [samePath, samePath_iff.mp same]
  have spelled : ∀ other ∈ paths.filter (samePath path), pathKey other = pathKey path := by
    intro other member
    exact pathKey_eq_iff.mpr (samePath_iff.mp (List.mem_filter.mp member).2).symm
  have level : (paths.filter (samePath path)).Pairwise
      fun left right => pathKey left ≤ pathKey right :=
    List.pairwise_of_forall_mem_list fun left member right memberToo =>
      le_of_eq ((spelled left member).trans (spelled right memberToo).symm)
  -- The spellings of one path keep their order, since the sort is stable.
  have sorted : (sortPaths paths).filter (samePath path) = paths.filter (samePath path) := by
    rw [sortPaths_eq_insertionSort, filter_insertionSort, level.insertionSort_eq]
  rw [distinctPaths, find?_dropRepeats _ alike, ← List.head?_filter, sorted, List.head?_filter]

theorem mem_of_mem_distinctPaths (member : path ∈ distinctPaths paths) : path ∈ paths := by
  have sorted := (dropRepeats_sublist samePath _).subset member
  rwa [sortPaths_eq_insertionSort, List.mem_insertionSort] at sorted

theorem exists_kept (member : path ∈ paths) :
    ∃ kept ∈ distinctPaths paths, components kept = components path := by
  have found : (paths.find? (samePath path)).isSome = true :=
    List.find?_isSome.mpr ⟨path, member, samePath_iff.mpr rfl⟩
  rw [← find?_distinctPaths, List.find?_isSome] at found
  obtain ⟨kept, memberToo, same⟩ := found
  exact ⟨kept, memberToo, (samePath_iff.mp same).symm⟩

/-- Ascending paths differ in their components. -/
theorem nodup_map_components (ascending : paths.Pairwise pathBefore) :
    (paths.map components).Nodup :=
  List.pairwise_map.mpr (ascending.imp fun before same => by
    rw [pathBefore, same] at before
    exact Std.Asymm.asymm _ _ before before)

/-- The order leaves no choice: the same paths are listed alike. -/
theorem map_components_eq_of_mem_iff (ascending : paths.Pairwise pathBefore)
    (ascendingToo : others.Pairwise pathBefore)
    (same : ∀ key, key ∈ paths.map components ↔ key ∈ others.map components) :
    paths.map components = others.map components := by
  have sorted : (paths.map components).Pairwise (List.Lex Component.Before) :=
    List.pairwise_map.mpr ascending
  have sortedToo : (others.map components).Pairwise (List.Lex Component.Before) :=
    List.pairwise_map.mpr ascendingToo
  exact sorted.eq_of_mem_iff sortedToo same

/-- A path that is kept is the first of its spellings. -/
theorem find?_of_mem_distinctPaths (member : path ∈ distinctPaths paths) :
    paths.find? (samePath path) = some path := by
  rw [← find?_distinctPaths]
  have found : ((distinctPaths paths).find? (samePath path)).isSome = true :=
    List.find?_isSome.mpr ⟨path, member, samePath_iff.mpr rfl⟩
  obtain ⟨other, same⟩ := Option.isSome_iff_exists.mp found
  have equal := samePath_iff.mp (List.find?_some same)
  rw [same, List.inj_on_of_nodup_map (nodup_map_components (distinctPaths_pairwise paths)) member
    (List.mem_of_find?_eq_some same) equal]

end

end PseudocodeLint
