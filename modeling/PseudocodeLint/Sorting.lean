namespace PseudocodeLint

/-- Sorts by insertion, from the last element on.  An element goes behind those that come before it
and in front of its equals, so that these keep their order. -/
def stableSort (before : α → α → Bool) (elements : List α) : List α :=
  elements.foldr
    (fun element sorted =>
      sorted.takeWhile (before · element) ++ element :: sorted.dropWhile (before · element)) []

/-- Keeps the first of each run of elements that count as the same. -/
def dropRepeats (same : α → α → Bool) : List α → List α
  | [] => []
  | first :: rest =>
      match dropRepeats same rest with
      | [] => [first]
      | next :: others => if same first next then first :: others else first :: next :: others

end PseudocodeLint
