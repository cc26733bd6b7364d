import PseudocodeLint.Proofs.RunOutput

namespace PseudocodeLint

/-! Quotations read back.  A quotation is one line between double quotes; one reader takes every
quotation apart, and with it the message and the snippets of a diagnostic are recovered from what is
printed. -/

/-- Where the reader of a quotation stands: in front of a character, behind a backslash, or among
the digits of a code point, some of which it has read. -/
inductive QuotationPhase where
  | plain
  | escape
  | code (value : Nat)
deriving DecidableEq, Repr

def hexDigitValue (c : Char) : Nat :=
  if c.isDigit then c.toNat - '0'.toNat else c.toNat - 'a'.toNat + 10

/-- The character that a single character behind a backslash stands for. -/
def escapedChar? : Char → Option Char
  | '0' => some '\x00'
  | 't' => some '\t'
  | 'r' => some '\r'
  | 'n' => some '\n'
  | '"' => some '"'
  | '\\' => some '\\'
  | _ => none

/-- Reads a quotation from behind its first double quote to the end of the line. -/
def readQuotation? : QuotationPhase → Text → Option Text
  | .plain, '\\' :: rest => readQuotation? .escape rest
  | .plain, ['"'] => some []
  | .plain, c :: rest => if c = '"' then none else (readQuotation? .plain rest).map (c :: ·)
  | .escape, 'u' :: '{' :: rest => readQuotation? (.code 0) rest
  | .escape, c :: rest => do
      let spelled ← escapedChar? c
      (readQuotation? .plain rest).map (spelled :: ·)
  | .code value, '}' :: rest => (readQuotation? .plain rest).map (Char.ofNat value :: ·)
  | .code value, c :: rest => readQuotation? (.code (16 * value + hexDigitValue c)) rest
  | _, [] => none

/-- The text that a line quotes. -/
def unquote? : Text → Option Text
  | '"' :: rest => readQuotation? .plain rest
  | _ => none

/-- Whether the character behind a text is escaped: the last backslash in front of it is not
escaped itself. -/
def escapesNext (text : Text) : Bool :=
  text.foldl (fun escaped c => !escaped && c = '\\') false

/-- What may stand between double quotes: it escapes every double quote of its own, and it leaves the
closing one alone. -/
structure Enclosable (inside : Text) : Prop where
  complete : escapesNext inside = false
  escaped : ∀ before after, inside = before ++ '"' :: after → escapesNext before = true

/-- One line that starts and ends in a double quote, with no unescaped one between them. -/
structure IsQuotation (line : Text) : Prop where
  one_line : '\n' ∉ line
  enclosed : ∃ inside, line = '"' :: inside ++ ['"'] ∧ Enclosable inside

/-- The lines of a printed text, each of which ends in a newline. -/
def printedLines (printed : Text) : List Text :=
  (physicalLines printed).dropLast

/-- Reads the message and the snippets from a printed diagnostic. -/
def readDiagnostic? (printed : Text) : Option (Text × List Text) :=
  match printedLines printed with
  | [] => none
  | message :: quotations => (quotations.dropLast.mapM unquote?).map (message, ·)

theorem hexDigitValue_digitChar : ∀ digit < 16, hexDigitValue digit.digitChar = digit := by decide

theorem digitChar_plain :
    ∀ digit < 16, digit.digitChar ∉ ['}', '"', '\\', '\n'] := by decide

theorem hexDigits_eq (code : Nat) :
    hexDigits code =
      if code < 16 then [code.digitChar] else hexDigits (code / 16) ++ [(code % 16).digitChar] :=
  Nat.toDigits_eq_if (by decide)

theorem exists_of_mem_hexDigits {code : Nat} {c : Char} (member : c ∈ hexDigits code) :
    ∃ digit < 16, c = digit.digitChar := by
  induction code using Nat.strongRecOn with
  | ind code codeIH =>
      rw [hexDigits_eq] at member
      split at member
      · rename_i single
        exact ⟨code, single, List.mem_singleton.mp member⟩
      · rename_i further
        rcases List.mem_append.mp member with lead | last
        · exact codeIH (code / 16) (by omega) lead
        · exact ⟨code % 16, Nat.mod_lt code (by decide), List.mem_singleton.mp last⟩

/-- The digits of a number read as that number. -/
theorem foldl_hexDigits (code : Nat) :
    (hexDigits code).foldl (fun value c => 16 * value + hexDigitValue c) 0 = code := by
  induction code using Nat.strongRecOn with
  | ind code codeIH =>
      rw [hexDigits_eq]
      split
      · rename_i single
        simp [hexDigitValue_digitChar code single]
      · rename_i further
        have lead := codeIH (code / 16) (by omega)
        have last := hexDigitValue_digitChar (code % 16) (Nat.mod_lt code (by decide))
        rw [List.foldl_append, lead, List.foldl_cons, List.foldl_nil, last]
        exact Nat.div_add_mod code 16

theorem readQuotation?_digits {digits : Text} (plain : ∀ c ∈ digits, c ≠ '}') (value : Nat)
    (rest : Text) :
    readQuotation? (.code value) (digits ++ '}' :: rest) =
      (readQuotation? .plain rest).map
        (Char.ofNat (digits.foldl (fun value c => 16 * value + hexDigitValue c) value) :: ·) := by
  induction digits generalizing value with
  | nil => rfl
  | cons c digits digitsIH =>
      have further : c ≠ '}' := plain c (List.mem_cons_self ..)
      have later := digitsIH fun other member => plain other (List.mem_cons_of_mem _ member)
      rw [List.cons_append, readQuotation?, later, List.foldl_cons]
      exact further

theorem readQuotation?_code (c : Char) (rest : Text) :
    readQuotation? .plain ("\\u\x7b".toList ++ hexDigits c.toNat ++ "\x7d".toList ++ rest) =
      (readQuotation? .plain rest).map (c :: ·) := by
  have plain : ∀ digit ∈ hexDigits c.toNat, digit ≠ '}' := by
    intro digit member
    obtain ⟨value, bound, rfl⟩ := exists_of_mem_hexDigits member
    have facts := digitChar_plain value bound
    simp only [List.mem_cons, not_or] at facts
    exact facts.1
  have digits := readQuotation?_digits plain 0 rest
  rw [foldl_hexDigits, Char.ofNat_toNat] at digits
  rw [List.append_assoc, List.append_assoc]
  exact digits

theorem readQuotation?_plain {c : Char} (unquoted : c ≠ '"') (unescaped : c ≠ '\\') (rest : Text) :
    readQuotation? .plain (c :: rest) = (readQuotation? .plain rest).map (c :: ·) := by
  cases rest with
  | nil => simp [readQuotation?, unquoted]
  | cons next rest => simp [readQuotation?, unquoted]

theorem readQuotation?_escape {letter c : Char} (spells : escapedChar? letter = some c)
    (rest : Text) :
    readQuotation? .plain ('\\' :: letter :: rest) = (readQuotation? .plain rest).map (c :: ·) := by
  have noCode : letter ≠ 'u' := by
    intro same
    rw [same] at spells
    contradiction
  rw [readQuotation?, readQuotation?, spells]
  · rfl
  · intro later same
    exact absurd same noCode

/-- A character is spelled by a letter behind a backslash, as it is, or by its code point. -/
theorem quoteChar_cases (c : Char) :
    (∃ letter, quoteChar c = ['\\', letter] ∧ escapedChar? letter = some c) ∨
      (quoteChar c = [c] ∧ c ≠ '"' ∧ c ≠ '\\' ∧ c ≠ '\n') ∨
      quoteChar c = "\\u\x7b".toList ++ hexDigits c.toNat ++ "\x7d".toList := by
  unfold quoteChar
  split
  case h_7 =>
    rename_i nul tab carriage newline quote backslash
    split
    · exact .inr (.inl ⟨rfl, quote, backslash, newline⟩)
    · exact .inr (.inr rfl)
  all_goals exact .inl ⟨_, rfl, rfl⟩

theorem readQuotation?_quoteChar (c : Char) (rest : Text) :
    readQuotation? .plain (quoteChar c ++ rest) =
      (readQuotation? .plain rest).map (c :: ·) := by
  rcases quoteChar_cases c with
    ⟨letter, spelled, spells⟩ | ⟨spelled, unquoted, unescaped, -⟩ | spelled
  · rw [spelled]
    exact readQuotation?_escape spells rest
  · rw [spelled]
    exact readQuotation?_plain unquoted unescaped rest
  · rw [spelled]
    exact readQuotation?_code c rest

theorem readQuotation?_flatMap_quoteChar (text : Text) :
    readQuotation? .plain (text.flatMap quoteChar ++ ['"']) = some text := by
  induction text with
  | nil => rfl
  | cons c text textIH =>
      rw [List.flatMap_cons, List.append_assoc, readQuotation?_quoteChar, textIH, Option.map_some]

theorem unquote?_quote (text : Text) : unquote? (quote text) = some text :=
  readQuotation?_flatMap_quoteChar text

theorem quote_injective {text other : Text} (same : quote text = quote other) : text = other :=
  eq_of_read_back (unquote?_quote text) (unquote?_quote other) same

theorem mapM_unquote?_quote (texts : List Text) :
    (texts.map quote).mapM unquote? = some texts := by
  induction texts with
  | nil => rfl
  | cons text texts textsIH =>
      rw [List.map_cons, List.mapM_cons, unquote?_quote, textsIH]
      rfl

theorem escapesNext_append {first : Text} (complete : escapesNext first = false) (second : Text) :
    escapesNext (first ++ second) = escapesNext second := by
  simp only [escapesNext] at complete ⊢
  rw [List.foldl_append, complete]

theorem escapesNext_of_no_backslash {text : Text} (plain : '\\' ∉ text) :
    escapesNext text = false := by
  induction text with
  | nil => rfl
  | cons c text textIH =>
      simp only [List.mem_cons, not_or] at plain
      have single : escapesNext [c] = false := by simp [escapesNext, Ne.symm plain.1]
      rw [← List.singleton_append, escapesNext_append single]
      exact textIH plain.2

theorem Enclosable.of_plain {text : Text} (unquoted : '"' ∉ text) (unescaped : '\\' ∉ text) :
    Enclosable text where
  complete := escapesNext_of_no_backslash unescaped
  escaped := by
    intro before after same
    have member : '"' ∈ text := by simp [same]
    exact absurd member unquoted

theorem Enclosable.of_escape (letter : Char) : Enclosable ['\\', letter] where
  complete := by simp [escapesNext]
  escaped := by
    intro before after same
    cases before with
    | nil => simp at same
    | cons c before =>
        obtain ⟨rfl, tail⟩ := List.cons.inj same
        cases before with
        | nil => rfl
        | cons c before => simp at tail

theorem Enclosable.append {first second : Text} (firstPart : Enclosable first)
    (secondPart : Enclosable second) : Enclosable (first ++ second) where
  complete := (escapesNext_append firstPart.complete second).trans secondPart.complete
  escaped := by
    intro before after same
    rcases List.append_eq_append_iff.mp same with
      ⟨lead, splitBefore, splitSecond⟩ | ⟨rest, splitFirst, splitAfter⟩
    · rw [splitBefore, escapesNext_append firstPart.complete]
      exact secondPart.escaped lead after splitSecond
    · cases rest with
      | nil =>
          -- The double quote is the first character of the second part.
          rw [List.append_nil] at splitFirst
          have atStart := secondPart.escaped [] after splitAfter.symm
          contradiction
      | cons c rest =>
          obtain ⟨rfl, -⟩ := List.cons.inj splitAfter
          exact firstPart.escaped before rest splitFirst

theorem hexDigits_plain (code : Nat) : ∀ c ∈ ['}', '"', '\\', '\n'], c ∉ hexDigits code := by
  intro c listed member
  obtain ⟨value, bound, rfl⟩ := exists_of_mem_hexDigits member
  exact digitChar_plain value bound listed

theorem enclosable_quoteChar (c : Char) : Enclosable (quoteChar c) := by
  rcases quoteChar_cases c with ⟨letter, spelled, -⟩ | ⟨spelled, unquoted, unescaped, -⟩ | spelled
  · rw [spelled]
    exact .of_escape letter
  · rw [spelled]
    apply Enclosable.of_plain
    · simpa using Ne.symm unquoted
    · simpa using Ne.symm unescaped
  · have digits := hexDigits_plain c.toNat
    have plain : Enclosable ('{' :: hexDigits c.toNat ++ ['}']) := by
      apply Enclosable.of_plain
      · simpa using digits '"' (by decide)
      · simpa using digits '\\' (by decide)
    rw [spelled]
    exact (Enclosable.of_escape 'u').append plain

theorem newline_not_mem_quoteChar (c : Char) : '\n' ∉ quoteChar c := by
  rcases quoteChar_cases c with ⟨letter, spelled, spells⟩ | ⟨spelled, -, -, inLine⟩ | spelled
  · have inLine : letter ≠ '\n' := by
      intro same
      rw [same] at spells
      contradiction
    simpa [spelled] using Ne.symm inLine
  · simpa [spelled] using Ne.symm inLine
  · simpa [spelled] using hexDigits_plain c.toNat '\n' (by decide)

theorem isQuotation_quote (text : Text) : IsQuotation (quote text) where
  one_line := by
    intro member
    simp only [quote, List.mem_append, List.mem_cons, List.mem_flatMap] at member
    rcases member with (first | ⟨c, -, inside⟩) | last
    · contradiction
    · exact newline_not_mem_quoteChar c inside
    · simp at last
  enclosed := by
    refine ⟨text.flatMap quoteChar, rfl, ?_⟩
    induction text with
    | nil => exact .of_plain List.not_mem_nil List.not_mem_nil
    | cons c text textIH =>
        rw [List.flatMap_cons]
        exact (enclosable_quoteChar c).append textIH

theorem physicalLines_of_no_newline {line : Text} (inLine : '\n' ∉ line) :
    physicalLines line = [line] := by
  induction line with
  | nil => rfl
  | cons c line lineIH =>
      simp only [List.mem_cons, not_or] at inLine
      rw [physicalLines] at lineIH ⊢
      rw [splitAtEach, if_neg (Ne.symm inLine.1), lineIH inLine.2, consHead]

theorem printedLines_flatMap_endLine {lines : List Text} (inLine : ∀ line ∈ lines, '\n' ∉ line) :
    printedLines (lines.flatMap endLine) = lines := by
  have single : lines.flatMap physicalLines = lines.flatMap fun line => [line] :=
    List.flatMap_congr fun line member => physicalLines_of_no_newline (inLine line member)
  rw [printedLines, physicalLines_flatMap_endLine, List.dropLast_concat, single]
  exact List.flatMap_singleton' lines

theorem Diagnostic.newline_not_mem_reportLines {diagnostic : Diagnostic}
    (inLine : '\n' ∉ diagnostic.message) : ∀ line ∈ diagnostic.reportLines, '\n' ∉ line := by
  intro line member
  simp only [reportLines, List.cons_append, List.mem_cons, List.mem_append, List.mem_map,
    List.not_mem_nil, or_false] at member
  rcases member with rfl | ⟨snippet, -, rfl⟩ | rfl
  · exact inLine
  · exact (isQuotation_quote snippet).one_line
  · exact List.not_mem_nil

theorem Diagnostic.printedLines_render {diagnostic : Diagnostic}
    (inLine : '\n' ∉ diagnostic.message) :
    printedLines diagnostic.render = diagnostic.reportLines := by
  rw [render_eq_flatMap_endLine]
  exact printedLines_flatMap_endLine (newline_not_mem_reportLines inLine)

theorem Diagnostic.readDiagnostic?_render {diagnostic : Diagnostic}
    (inLine : '\n' ∉ diagnostic.message) :
    readDiagnostic? diagnostic.render = some (diagnostic.message, diagnostic.snippets) := by
  rw [readDiagnostic?, printedLines_render inLine]
  simp only [reportLines, List.cons_append, List.dropLast_concat, mapM_unquote?_quote,
    Option.map_some]

/-- Every snippet is printed as one quotation, from which one reader recovers it, so that different
snippets never print the same line.  A diagnostic whose message is one line is printed as that line,
a line for each snippet and an empty one; message and snippets are recovered from them. -/
theorem snippets_read_back :
    (∀ snippet, IsQuotation (quote snippet) ∧ unquote? (quote snippet) = some snippet) ∧
    (∀ snippet other, endLine (quote snippet) = endLine (quote other) → snippet = other) ∧
    (∀ diagnostic : Diagnostic, diagnostic.render =
      (diagnostic.message :: diagnostic.snippets.map quote ++ [[]]).flatMap endLine) ∧
    ∀ diagnostic : Diagnostic, '\n' ∉ diagnostic.message →
      (printedLines diagnostic.render).length = 2 + diagnostic.snippets.length ∧
      (∀ line ∈ printedLines diagnostic.render, '\n' ∉ line) ∧
      (printedLines diagnostic.render).flatMap endLine = diagnostic.render ∧
      readDiagnostic? diagnostic.render = some (diagnostic.message, diagnostic.snippets) := by
  refine ⟨?_, ?_, Diagnostic.render_eq_flatMap_endLine, ?_⟩
  · intro snippet
    exact ⟨isQuotation_quote snippet, unquote?_quote snippet⟩
  · intro snippet other same
    exact quote_injective (List.append_cancel_right same)
  · intro diagnostic inLine
    have lines := Diagnostic.printedLines_render inLine
    have count : diagnostic.reportLines.length = 2 + diagnostic.snippets.length := by
      simp [Diagnostic.reportLines]
      omega
    rw [lines]
    exact ⟨count, Diagnostic.newline_not_mem_reportLines inLine,
      diagnostic.render_eq_flatMap_endLine.symm, Diagnostic.readDiagnostic?_render inLine⟩

/-- Snippets with characters that are escaped and with text that looks like an escape. -/
theorem escape_lookalikes_read_back :
    let spelled := "\\u\x7b41\x7d \\n \"".toList
    let special := ['A', '\n', '\x00', '\u200b', '\\']
    let other := "A\n\x00".toList ++ special.drop 3
    let diagnostic : Diagnostic :=
      ⟨.unwrappedAlgorithmCall, .enforced, "Missing \\n here:".toList, [spelled, special], 0⟩
    '\n' ∉ diagnostic.message ∧
      quote special = "\"A\\n\\0\\u\x7b200b\x7d\\\\\"".toList ∧
      unquote? (quote spelled) = some spelled ∧
      endLine (quote special) = endLine (quote other) ∧ special = other ∧
      (printedLines diagnostic.render).length = 4 ∧
      readDiagnostic? diagnostic.render = some (diagnostic.message, [spelled, special]) := by
  intro spelled special other diagnostic
  have inLine : '\n' ∉ diagnostic.message := by decide +kernel
  have same : endLine (quote special) = endLine (quote other) := by decide +kernel
  obtain ⟨reads, distinct, -, prints⟩ := snippets_read_back
  obtain ⟨count, -, -, read⟩ := prints diagnostic inLine
  exact ⟨inLine, by decide +kernel, (reads spelled).2, same,
    distinct special other same, count, read⟩

end PseudocodeLint
