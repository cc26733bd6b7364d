import PseudocodeLint.Block

namespace PseudocodeLint

section

variable {inClass : Text → Bool} {lines : List Text} {start stop line : Nat}

/-- The lines from `start` up to `stop` are in the class, and a line at `stop` is not. -/
structure EndsRun (inClass : Text → Bool) (lines : List Text) (start stop : Nat) : Prop where
  start_le : start ≤ stop
  inside : ∀ line, start ≤ line → line < stop →
    ∃ text, lines[line]? = some text ∧ inClass text = true
  outside : ∀ text, lines[stop]? = some text → inClass text = false

theorem endsRun_takeWhile (inClass : Text → Bool) (lines : List Text) (start : Nat) :
    EndsRun inClass lines start (start + ((lines.drop start).takeWhile inClass).length) := by
  have parts : (lines.drop start).takeWhile inClass ++ (lines.drop start).dropWhile inClass =
      lines.drop start := List.takeWhile_append_dropWhile
  have members : ∀ text ∈ (lines.drop start).takeWhile inClass, inClass text = true :=
    List.all_eq_true.mp List.all_takeWhile
  have stops := List.head?_dropWhile_not inClass (lines.drop start)
  generalize (lines.drop start).takeWhile inClass = run at *
  generalize (lines.drop start).dropWhile inClass = rest at *
  have at_offset : ∀ offset, lines[start + offset]? = (run ++ rest)[offset]? := by
    intro offset
    rw [parts, List.getElem?_drop]
  refine ⟨Nat.le_add_right .., ?_, ?_⟩
  · intro line lower upper
    obtain ⟨offset, rfl⟩ := Nat.exists_eq_add_of_le lower
    have bound : offset < run.length := by omega
    refine ⟨run[offset], ?_, members _ (List.getElem_mem bound)⟩
    rw [at_offset, List.getElem?_append_left bound, List.getElem?_eq_getElem bound]
  · intro text found
    rw [at_offset, List.getElem?_append_right (Nat.le_refl _), Nat.sub_self,
      ← List.head?_eq_getElem?] at found
    rw [found] at stops
    exact stops

namespace EndsRun

theorem stop_le (run : EndsRun inClass lines start stop) (lower : start ≤ line)
    (outside : ∀ text, lines[line]? = some text → inClass text = false) : stop ≤ line := by
  refine Nat.le_of_not_lt fun upper => ?_
  obtain ⟨text, found, member⟩ := run.inside line lower upper
  rw [outside text found] at member
  contradiction

theorem le_stop (run : EndsRun inClass lines start stop) (lower : start ≤ stop)
    (known : ∀ earlier, start ≤ earlier → earlier < line →
      ∃ text, lines[earlier]? = some text ∧ inClass text = true) : line ≤ stop := by
  refine Nat.le_of_not_lt fun upper => ?_
  obtain ⟨text, found, member⟩ := known stop lower upper
  rw [run.outside text found] at member
  contradiction

theorem unique {other : Nat} (run : EndsRun inClass lines start stop)
    (again : EndsRun inClass lines start other) : stop = other :=
  Nat.le_antisymm (run.stop_le again.start_le again.outside)
    (again.stop_le run.start_le run.outside)

theorem of_middle (run : EndsRun inClass lines start stop) (lower : start ≤ line)
    (upper : line ≤ stop) : EndsRun inClass lines line stop :=
  ⟨upper, fun later above => run.inside later (Nat.le_trans lower above), run.outside⟩

theorem stop_le_length (run : EndsRun inClass lines start stop) (bound : start ≤ lines.length) :
    stop ≤ lines.length :=
  run.stop_le bound fun text found => by simp at found

/-- Only the class of each line counts. -/
theorem congr {linesToo : List Text} (run : EndsRun inClass lines start stop)
    (same : ∀ line : Nat, lines[line]?.map inClass = linesToo[line]?.map inClass) :
    EndsRun inClass linesToo start stop := by
  refine ⟨run.start_le, fun line lower upper => ?_, fun text found => ?_⟩
  · obtain ⟨text, found, member⟩ := run.inside line lower upper
    have inside := (same line).symm
    rw [found, Option.map_some, member] at inside
    exact Option.map_eq_some_iff.mp inside
  · have outside := same stop
    rw [found, Option.map_some] at outside
    obtain ⟨own, ownFound, ownClass⟩ := Option.map_eq_some_iff.mp outside
    rw [← ownClass]
    exact run.outside own ownFound

end EndsRun

end

theorem endsRun_stepsEnd (lines : List Text) (start : Nat) :
    EndsRun isItem lines start (Block.stepsEnd lines start) :=
  endsRun_takeWhile isItem lines start

theorem endsRun_definitionEnd (lines : List Text) (header : Nat) :
    EndsRun (!isBlankLine ·) lines (header + 1) (definitionEnd lines header) :=
  endsRun_takeWhile (!isBlankLine ·) lines (header + 1)

end PseudocodeLint
