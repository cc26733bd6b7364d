import PseudocodeLint.Proofs.LineFindings

namespace PseudocodeLint

/-! Lines that are checked more than once.  The steps below a header whose blank line is missing
are checked from two lines below it, and the search goes on right behind the header; so a line is
checked twice exactly when two algorithm headers stand above one another on top of its list. -/

/-- Two algorithms with headers on adjacent lines, and a line that the steps below both headers
lead to. -/
structure CheckedTwice (lines : List Text) (inGrammar : Bool) (upper lower : Block) (line : Nat) :
    Prop where
  upper_found : upper ∈ blocks lines inGrammar
  lower_found : lower ∈ blocks lines inGrammar
  upper_algorithm : upper.kind = .algorithm
  lower_algorithm : lower.kind = .algorithm
  adjacent : lower.header = upper.header + 1
  below : upper.header + 3 ≤ line
  bound : line < lines.length
  items : ∀ earlier, upper.header + 2 ≤ earlier → earlier < line →
    ∃ text, lines[earlier]? = some text ∧ isItem text = true

section

variable {lines : List Text} {inGrammar : Bool} {line start : Nat} {block upper lower : Block}

theorem length_le_one_of_pairwise {related : α → α → Prop} {entries : List α}
    (ordered : entries.Pairwise related)
    (apart : ∀ left ∈ entries, ∀ right ∈ entries, ¬ related left right) :
    entries.length ≤ 1 := by
  match entries with
  | [] | [_] => simp
  | first :: second :: rest =>
      have both := List.rel_of_pairwise_cons ordered (List.mem_cons_self ..)
      exact absurd both (apart first (by simp) second (by simp))

theorem eq_singleton_of_mem {entries : List α} {entry : α} (short : entries.length ≤ 1)
    (member : entry ∈ entries) : entries = [entry] := by
  match entries, short, member with
  | [only], _, member => rw [List.mem_singleton.mp member]

namespace Block

theorem stepsStart_of_algorithm (algorithm : block.kind = .algorithm) :
    block.stepsStart? = some (block.header + 2) := by
  obtain ⟨header, opening⟩ := block
  cases opening with
  | algorithm name blankGap => rfl
  | grammar name needsBlank stop hasSteps => contradiction

theorem Opened.add_two_le_start (opened : block.Opened lines inGrammar)
    (steps : block.stepsStart? = some start) : block.header + 2 ≤ start := by
  obtain ⟨header, opening⟩ := block
  cases opening with
  | algorithm name blankGap =>
      cases steps
      exact Nat.le_refl _
  | grammar name needsBlank stop hasSteps =>
      have below := lt_definitionEnd lines header
      obtain rfl := opened.stop_eq
      cases hasSteps with
      | false => contradiction
      | true =>
          cases steps
          exact Nat.succ_le_succ below

theorem resume_eq (lines : List Text) (steps : block.stepsStart? = some start) :
    block.resume lines = stepsEnd lines start ∨
      block.kind = .algorithm ∧ block.resume lines = block.header + 1 := by
  obtain ⟨header, opening⟩ := block
  cases opening with
  | algorithm name blankGap =>
      cases steps
      simp only [resume]
      split
      · exact Or.inl rfl
      · exact Or.inr ⟨rfl, rfl⟩
  | grammar name needsBlank stop hasSteps =>
      cases hasSteps with
      | false => contradiction
      | true =>
          cases steps
          exact Or.inl rfl

end Block

/-- A production below an algorithm header starts its list only after the list of that header has
ended at the latest on the blank line behind the definition. -/
theorem lower_algorithm_of_examines (opened : lower.Opened lines inGrammar)
    (above : start ≤ lower.header + 1) (examined : lower.examines lines line = true)
    (reached : line ≤ Block.stepsEnd lines start) : lower.kind = .algorithm := by
  obtain ⟨header, opening⟩ := lower
  cases opening with
  | algorithm name blankGap => rfl
  | grammar name needsBlank stop hasSteps =>
      obtain ⟨own, steps, later, _, _⟩ := Block.examines_iff.mp examined
      have behind := lt_definitionEnd lines header
      obtain rfl := opened.stop_eq
      have ended : Block.stepsEnd lines start ≤ definitionEnd lines header := by
        refine (endsRun_stepsEnd lines start).stop_le (Nat.le_trans above behind) ?_
        intro text found
        exact isItem_eq_false_of_isBlankLine (isBlankLine_definitionEnd found)
      cases hasSteps with
      | false => contradiction
      | true =>
          cases steps
          omega

theorem checkedTwice_of_examines (found : upper ∈ blocks lines inGrammar)
    (foundToo : lower ∈ blocks lines inGrammar) (ordered : upper.header < lower.header)
    (first : upper.examines lines line = true) (second : lower.examines lines line = true) :
    CheckedTwice lines inGrammar upper lower line := by
  obtain ⟨opened, _⟩ := mem_blocks_iff.mp foundToo
  obtain ⟨start, steps, after, reached, bound⟩ := Block.examines_iff.mp first
  obtain ⟨lowerStart, lowerSteps, lowerAfter, _, _⟩ := Block.examines_iff.mp second
  have lowerBelow := opened.add_two_le_start lowerSteps
  have resumed := resume_le_header found foundToo ordered
  have run := endsRun_stepsEnd lines start
  rcases Block.resume_eq lines steps with ended | ⟨algorithm, back⟩
  · omega
  · obtain rfl : upper.header + 2 = start :=
      Option.some.inj ((Block.stepsStart_of_algorithm algorithm).symm.trans steps)
    have adjacent : lower.header = upper.header + 1 := by
      -- a header further down would have ended the list of the upper block
      refine Nat.le_antisymm (Nat.le_of_not_lt fun further => ?_) ordered
      have ended := run.stop_le further fun _ => opened.header_not_isItem
      omega
    have lowerAlgorithm := lower_algorithm_of_examines opened (by omega) second reached
    exact {
      upper_found := found
      lower_found := foundToo
      upper_algorithm := algorithm
      lower_algorithm := lowerAlgorithm
      adjacent := adjacent
      below := by omega
      bound := bound
      items := fun earlier lowest last => run.inside earlier lowest (by omega) }

namespace CheckedTwice

theorem upper_examines (twice : CheckedTwice lines inGrammar upper lower line) :
    upper.examines lines line = true := by
  have below := twice.below
  refine Block.examines_iff.mpr ⟨_, Block.stepsStart_of_algorithm twice.upper_algorithm,
    by omega, ?_, twice.bound⟩
  have run := endsRun_stepsEnd lines (upper.header + 2)
  exact run.le_stop run.start_le twice.items

theorem lower_examines (twice : CheckedTwice lines inGrammar upper lower line) :
    lower.examines lines line = true := by
  have below := twice.below
  have adjacent := twice.adjacent
  refine Block.examines_iff.mpr ⟨_, Block.stepsStart_of_algorithm twice.lower_algorithm,
    by omega, ?_, twice.bound⟩
  have run := endsRun_stepsEnd lines (lower.header + 2)
  exact run.le_stop run.start_le fun earlier lowest last =>
    twice.items earlier (by omega) last

theorem no_third {third : Block} (twice : CheckedTwice lines inGrammar upper lower line)
    (again : CheckedTwice lines inGrammar lower third line) : False := by
  have adjacent := twice.adjacent
  have adjacentToo := again.adjacent
  have below := again.below
  obtain ⟨opened, _⟩ := mem_blocks_iff.mp again.lower_found
  -- the third header would have to be one of the steps
  obtain ⟨text, found, item⟩ := twice.items third.header (by omega) (by omega)
  rw [opened.header_not_isItem found] at item
  contradiction

end CheckedTwice

theorem mem_examiners_iff :
    block ∈ examiners lines inGrammar line ↔
      block ∈ blocks lines inGrammar ∧ block.examines lines line = true :=
  List.mem_filter

theorem examiners_pairwise (lines : List Text) (inGrammar : Bool) (line : Nat) :
    (examiners lines inGrammar line).Pairwise
      fun upper lower => CheckedTwice lines inGrammar upper lower line := by
  refine List.Pairwise.imp_of_mem ?_ ((blocks_pairwise lines inGrammar).filter _)
  intro upper lower member memberToo ordered
  obtain ⟨found, first⟩ := mem_examiners_iff.mp member
  obtain ⟨foundToo, second⟩ := mem_examiners_iff.mp memberToo
  exact checkedTwice_of_examines found foundToo ordered first second

theorem length_examiners_le_two (lines : List Text) (inGrammar : Bool) (line : Nat) :
    (examiners lines inGrammar line).length ≤ 2 := by
  have ordered := examiners_pairwise lines inGrammar line
  match examiners lines inGrammar line, ordered with
  | [], _ | [_], _ | [_, _], _ => simp
  | first :: second :: third :: rest, ordered =>
      obtain ⟨firstTwice, restOrdered⟩ := List.pairwise_cons.mp ordered
      have upper := firstTwice second (by simp)
      have lower := List.rel_of_pairwise_cons restOrdered (List.mem_cons_self ..)
      exact (upper.no_third lower).elim

theorem examiners_eq_pair_iff :
    examiners lines inGrammar line = [upper, lower] ↔
      CheckedTwice lines inGrammar upper lower line := by
  have ordered := examiners_pairwise lines inGrammar line
  constructor
  · intro same
    rw [same] at ordered
    exact List.rel_of_pairwise_cons ordered (List.mem_cons_self ..)
  · intro twice
    have upperMember := mem_examiners_iff.mpr ⟨twice.upper_found, twice.upper_examines⟩
    have lowerMember := mem_examiners_iff.mpr ⟨twice.lower_found, twice.lower_examines⟩
    have adjacent := twice.adjacent
    have short := length_examiners_le_two lines inGrammar line
    match examiners lines inGrammar line, ordered, upperMember, lowerMember, short with
    | [only], _, upperMember, lowerMember, _ =>
        rw [List.mem_singleton.mp upperMember, List.mem_singleton.mp lowerMember] at adjacent
        omega
    | [first, second], ordered, upperMember, lowerMember, _ =>
        have apart := (List.rel_of_pairwise_cons ordered (List.mem_cons_self ..)).adjacent
        simp only [List.mem_cons, List.not_mem_nil, or_false] at upperMember lowerMember
        rcases upperMember with rfl | rfl <;> rcases lowerMember with rfl | rfl
        · omega
        · rfl
        · omega
        · omega

example : (examiners (logicalLines "A(a):\nB(b):\n- X.\n- y.".toList) false 3).length = 2 := by
  rw [examiners, blocks_eq_filterMap]
  decide

/-- An algorithm found by the search checks the line as one of its steps. -/
structure AlgorithmStep (lines : List Text) (inGrammar : Bool) (line : Nat) (block : Block)
    (step : Text) : Prop where
  found : block ∈ blocks lines inGrammar
  algorithm : block.kind = .algorithm
  examined : block.examines lines line = true
  text : lines[line]? = some step
  item : isItem step = true

theorem length_filter_header_le_one (lines : List Text) (inGrammar : Bool) (line : Nat) :
    ((blocks lines inGrammar).filter (·.header = line)).length ≤ 1 := by
  refine length_le_one_of_pairwise ((blocks_pairwise lines inGrammar).filter _) ?_
  intro upper upperMember lower lowerMember
  have upperHeader := of_decide_eq_true (List.mem_filter.mp upperMember).2
  have lowerHeader := of_decide_eq_true (List.mem_filter.mp lowerMember).2
  omega

theorem length_filter_indent_le_one (lines : List Text) (line : Nat) :
    ((indentFindings lines).filter (·.line = line)).length ≤ 1 := by
  refine length_le_one_of_pairwise ((indentFindings_pairwise lines).filter _) ?_
  intro upper upperMember lower lowerMember
  have upperLine := of_decide_eq_true (List.mem_filter.mp upperMember).2
  have lowerLine := of_decide_eq_true (List.mem_filter.mp lowerMember).2
  omega

theorem length_flatMap_le_one {report : α → List β} {entries : List α}
    (short : entries.length ≤ 1) (each : ∀ entry, (report entry).length ≤ 1) :
    (entries.flatMap report).length ≤ 1 := by
  match entries, short with
  | [], _ => exact Nat.zero_le 1
  | [entry], _ =>
      rw [List.flatMap_singleton]
      exact each entry

theorem length_diagnosticsAt_le_one (policy : Policy) (document : Document) (rule : Rule)
    (once : (examiners document.lines (document.isGrammar policy) line).length ≤ 1)
    (single : rule ≠ .nestedValueLiteral) :
    (document.diagnosticsAt policy line rule).length ≤ 1 := by
  rw [diagnosticsAt_eq, List.length_map]
  cases site : rule.site with
  | header =>
      rw [filter_rule_of_header site]
      exact length_flatMap_le_one (length_filter_header_le_one ..)
        fun _ => length_filter_headerFindings
  | list =>
      rw [filter_rule_of_list site]
      exact length_flatMap_le_one once fun _ => length_filter_lineReport single
  | indent =>
      rw [filter_rule_of_indent site]
      exact Nat.le_trans (List.length_filter_le ..) (length_filter_indent_le_one ..)

theorem filter_nested_lineReport {step : Text} (algorithm : block.kind = .algorithm)
    (found : lines[line]? = some step) (item : isItem step = true) :
    (block.lineReport lines line).filter (·.violation.rule = .nestedValueLiteral) =
      (nestedLiterals step).map fun literal =>
        ⟨line, .nestedValueLiteral block.name literal, [step]⟩ := by
  rw [lineReport_of_isItem found item, filter_rule_stepFindings]
  simp [stepRules, ruleViolations, algorithm]

theorem filter_nested_lineReport_eq_nil
    (unchecked : ∀ step, lines[line]? = some step → isItem step = true →
      block.kind ≠ .algorithm) :
    (block.lineReport lines line).filter (·.violation.rule = .nestedValueLiteral) = [] := by
  simp only [Block.lineReport]
  split
  · rfl
  · rename_i step found
    split
    · rename_i item
      rw [filter_rule_stepFindings]
      simp [stepRules, ruleViolations, unchecked step found item]
    · refine List.filter_eq_nil_iff.mpr fun finding member => ?_
      simp [(of_mem_endFindings member).2]

theorem examiners_eq_singleton
    (once : (examiners lines inGrammar line).length ≤ 1)
    (member : block ∈ examiners lines inGrammar line) :
    examiners lines inGrammar line = [block] :=
  eq_singleton_of_mem once member

/-- A line is examined by at most two lists.  It is examined by two exactly when they belong to
algorithms on adjacent lines and the steps below both headers lead to it.  Where there is no such
line, no two diagnostics share line and rule, nested literals apart, and those appear once for
every nested literal of a step of an algorithm. -/
theorem examined_twice_iff_adjacent (policy : Policy) (document : Document) :
    let lines := document.lines
    let inGrammar := document.isGrammar policy
    (∀ line, (examiners lines inGrammar line).length ≤ 2) ∧
    (∀ line upper lower, examiners lines inGrammar line = [upper, lower] ↔
      CheckedTwice lines inGrammar upper lower line) ∧
    ((∀ line upper lower, ¬ CheckedTwice lines inGrammar upper lower line) →
      (∀ line rule, rule ≠ .nestedValueLiteral →
        (document.diagnosticsAt policy line rule).length ≤ 1) ∧
      (∀ line block step, AlgorithmStep lines inGrammar line block step →
        document.diagnosticsAt policy line .nestedValueLiteral =
          (nestedLiterals step).map fun literal =>
            Finding.toDiagnostic policy document.name
              ⟨line, .nestedValueLiteral block.name literal, [step]⟩) ∧
      ∀ line, (∀ block step, ¬ AlgorithmStep lines inGrammar line block step) →
        document.diagnosticsAt policy line .nestedValueLiteral = []) := by
  intro lines inGrammar
  refine ⟨length_examiners_le_two lines inGrammar, fun line upper lower => examiners_eq_pair_iff,
    fun never => ?_⟩
  have once : ∀ line, (examiners lines inGrammar line).length ≤ 1 := fun line =>
    length_le_one_of_pairwise (examiners_pairwise lines inGrammar line)
      fun upper _ lower _ => never line upper lower
  refine ⟨?_, ?_, ?_⟩
  · intro line rule single
    exact length_diagnosticsAt_le_one policy document rule (once line) single
  · intro line block step checked
    have member := mem_examiners_iff.mpr ⟨checked.found, checked.examined⟩
    rw [diagnosticsAt_eq, filter_rule_of_list rfl, examiners_eq_singleton (once line) member,
      List.flatMap_singleton, filter_nested_lineReport checked.algorithm checked.text checked.item,
      List.map_map]
    rfl
  · intro line unchecked
    rw [diagnosticsAt_eq, filter_rule_of_list rfl, List.map_eq_nil_iff, List.flatMap_eq_nil_iff]
    intro block member
    obtain ⟨found, examined⟩ := mem_examiners_iff.mp member
    refine filter_nested_lineReport_eq_nil fun step text item algorithm => ?_
    exact unchecked block step ⟨found, algorithm, examined, text, item⟩

/-- Two headers on adjacent lines, of which the lower one has its blank line. -/
theorem blank_keeps_adjacent_headers_apart :
    let document : Document :=
      ⟨"a.md".toList, "Foo(a):\nBar(b):\n\n- Let \x7bx\x7d be \x7ba \x7bb\x7d c\x7d.".toList⟩
    let upper : Block := ⟨0, .algorithm "Foo".toList false⟩
    let lower : Block := ⟨1, .algorithm "Bar".toList false⟩
    let step := "- Let \x7bx\x7d be \x7ba \x7bb\x7d c\x7d.".toList
    blocks document.lines false = [upper, lower] ∧
      (∀ line first second, ¬ CheckedTwice document.lines false first second line) ∧
      AlgorithmStep document.lines false 3 lower step ∧
      (∀ block text, ¬ AlgorithmStep document.lines false 2 block text) ∧
      (∀ line rule, rule ≠ .nestedValueLiteral →
        (document.diagnosticsAt {} line rule).length ≤ 1) ∧
      document.diagnosticsAt {} 3 .nestedValueLiteral =
        [Finding.toDiagnostic {} document.name
          ⟨3, .nestedValueLiteral "Bar".toList "\x7ba \x7bb\x7d c\x7d".toList, [step]⟩] ∧
      document.diagnosticsAt {} 2 .nestedValueLiteral = [] := by
  intro document upper lower step
  have cut : document.lines = ["Foo(a):".toList, "Bar(b):".toList, [], step] := by decide
  have found : blocks document.lines false = [upper, lower] := by
    rw [blocks_eq_filterMap]
    decide
  have never : ∀ line first second, ¬ CheckedTwice document.lines false first second line := by
    intro line first second twice
    have upperFound := twice.upper_found
    have lowerFound := twice.lower_found
    have adjacent := twice.adjacent
    rw [found] at upperFound lowerFound
    simp only [List.mem_cons, List.not_mem_nil, or_false] at upperFound lowerFound
    have top : first.header = 0 := by
      rcases upperFound with rfl | rfl
      · rfl
      · rcases lowerFound with rfl | rfl <;> exact absurd adjacent (by decide)
    obtain ⟨text, blank, item⟩ :=
      twice.items 2 (by omega) (by have below := twice.below; omega)
    rw [cut] at blank
    cases blank
    contradiction
  have checked : AlgorithmStep document.lines false 3 lower step := {
    found := by simp [found]
    algorithm := rfl
    examined := by decide
    text := by rw [cut]; rfl
    item := by decide }
  have unchecked : ∀ block text, ¬ AlgorithmStep document.lines false 2 block text := by
    intro block text blank
    have empty := blank.text
    rw [cut] at empty
    cases empty
    exact absurd blank.item (by decide)
  obtain ⟨_, _, once⟩ := examined_twice_iff_adjacent {} document
  obtain ⟨single, nested, none⟩ := once never
  refine ⟨found, never, checked, unchecked, single, ?_, none 2 unchecked⟩
  have literals : nestedLiterals "- Let \x7bx\x7d be \x7ba \x7bb\x7d c\x7d.".toList =
      ["\x7ba \x7bb\x7d c\x7d".toList] := by
    cbv
  rw [nested 3 lower step checked, literals]
  rfl

end

end PseudocodeLint
