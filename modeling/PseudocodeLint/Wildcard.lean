import PseudocodeLint.Text.Basic

namespace PseudocodeLint

/-! Wildcard patterns over names: `?` stands for one character, `*` for any number of them,
`[...]` for one of a class and `[!...]` for one outside it.  `**` stands for directories at any
depth and must be a whole part of a path. -/

inductive CharClass where
  | single (c : Char)
  | range (first last : Char)
deriving DecidableEq, Repr

inductive Token where
  | char (c : Char)
  | anyChar
  | anySequence
  | anyDepth
  | within (classes : List CharClass)
  | except (classes : List CharClass)
deriving DecidableEq, Repr

inductive PatternFault where
  | tooManyStars
  | partialDepth
  | openClass
deriving DecidableEq, Repr

structure PatternError where
  position : Nat
  fault : PatternFault
deriving DecidableEq, Repr

def PatternFault.message : PatternFault → Text
  | .tooManyStars => "wildcards are either regular `*` or recursive `**`".toList
  | .partialDepth => "recursive wildcards must form a single path component".toList
  | .openClass => "invalid range pattern".toList

def PatternError.message (error : PatternError) : Text :=
  s!"Pattern syntax error near position {error.position}: ".toList ++ error.fault.message

def readClasses : Text → List CharClass
  | first :: '-' :: last :: rest => .range first last :: readClasses rest
  | c :: rest => .single c :: readClasses rest
  | [] => []

/-- Reads the members of a class to its closing bracket.  A bracket in the first place is a
member. -/
def readMembers? : Text → Option (Text × Text)
  | [] => none
  | first :: rest =>
      match rest.dropWhile (· ≠ ']') with
      | [] => none
      | _ :: after => some (first :: rest.takeWhile (· ≠ ']'), after)

def readClass? : Text → Option (Token × Text)
  | '!' :: rest => (readMembers? rest).map fun (members, after) =>
      (.except (readClasses members), after)
  | text => (readMembers? text).map fun (members, after) =>
      (.within (readClasses members), after)

theorem readMembers?_rest_length {text members after : Text}
    (found : readMembers? text = some (members, after)) :
    after.length < text.length := by
  cases text with
  | nil => simp [readMembers?] at found
  | cons first rest =>
      have shorter := (List.dropWhile_sublist (l := rest) (· ≠ ']')).length_le
      simp only [readMembers?] at found
      split at found
      · contradiction
      · rename_i dropped
        simp only [Option.some.injEq, Prod.mk.injEq] at found
        simp only [dropped, found.2, List.length_cons] at shorter ⊢
        omega

theorem readClass?_rest_length {text after : Text} {token : Token}
    (found : readClass? text = some (token, after)) :
    after.length < text.length := by
  unfold readClass? at found
  split at found
  · obtain ⟨⟨members, tail⟩, read, same⟩ := Option.map_eq_some_iff.mp found
    have shorter := readMembers?_rest_length read
    simp only [Prod.mk.injEq] at same
    simp only [List.length_cons, ← same.2]
    omega
  · obtain ⟨⟨members, tail⟩, read, same⟩ := Option.map_eq_some_iff.mp found
    have shorter := readMembers?_rest_length read
    simp only [Prod.mk.injEq] at same
    exact same.2 ▸ shorter

/-- Reads the tokens of a pattern.  `position` counts the characters read so far, and `fresh`
tells whether a part of the path starts here. -/
def readTokens (position : Nat) (fresh : Bool) : Text → Except PatternError (List Token)
  | [] => .ok []
  | '?' :: rest => (readTokens (position + 1) false rest).map (.anyChar :: ·)
  | '*' :: '*' :: '*' :: _ => .error ⟨position + 2, .tooManyStars⟩
  | '*' :: '*' :: rest =>
      if !fresh then .error ⟨position - 1, .partialDepth⟩
      else
        match rest with
        | [] => .ok [.anyDepth]
        | '/' :: after => (readTokens (position + 3) true after).map (.anyDepth :: ·)
        | _ => .error ⟨position + 2, .partialDepth⟩
  | '*' :: rest => (readTokens (position + 1) false rest).map (.anySequence :: ·)
  | '[' :: rest =>
      match found : readClass? rest with
      | none => .error ⟨position, .openClass⟩
      | some (token, after) =>
          have shorter := readClass?_rest_length found
          (readTokens (position + 1 + (rest.length - after.length)) false after).map (token :: ·)
  | c :: rest => (readTokens (position + 1) (c = '/') rest).map (.char c :: ·)
termination_by text => text.length
decreasing_by all_goals simp only [List.length_cons]; omega

def CharClass.admits (c : Char) : CharClass → Bool
  | .single member => c = member
  | .range first last => first ≤ c && c ≤ last

def Token.admits (c : Char) : Token → Bool
  | .char expected => c = expected
  | .anyChar | .anySequence | .anyDepth => true
  | .within classes => classes.any (CharClass.admits c)
  | .except classes => !classes.any (CharClass.admits c)

/-- For each suffix of a name, the longest first, whether it is empty. -/
def emptySuffixes : Text → List Bool
  | [] => [true]
  | _ :: rest => false :: emptySuffixes rest

/-- For each position, whether it or a later one was found. -/
def foundLater : List Bool → List Bool
  | [] => []
  | found :: rest =>
      let later := foundLater rest
      (found || later.headD false) :: later

/-- For each suffix of a name, whether it starts with a character that the token admits, before a
suffix that was found. -/
def foundNext (token : Token) : Text → List Bool → List Bool
  | c :: rest, _ :: found => (token.admits c && found.headD false) :: foundNext token rest found
  | _, _ => [false]

/-- For each suffix of a name, the longest first, whether a pattern matches it.  All suffixes are
looked at together, so that several sequences in one pattern do not multiply the work. -/
def matchedSuffixes (name : Text) : List Token → List Bool
  | [] => emptySuffixes name
  | .anySequence :: rest | .anyDepth :: rest => foundLater (matchedSuffixes name rest)
  | token :: rest => foundNext token name (matchedSuffixes name rest)

def matchesName (tokens : List Token) (name : Text) : Bool :=
  (matchedSuffixes name tokens).headD false

theorem matchedSuffixes_nil (tokens : List Token) :
    ∃ found, matchedSuffixes [] tokens = [found] := by
  induction tokens with
  | nil => exact ⟨true, rfl⟩
  | cons token rest restIH =>
      obtain ⟨found, same⟩ := restIH
      cases token <;> simp [matchedSuffixes, same, foundNext, foundLater]

theorem matchedSuffixes_cons (tokens : List Token) (c : Char) (name : Text) :
    ∃ found, matchedSuffixes (c :: name) tokens = found :: matchedSuffixes name tokens := by
  induction tokens with
  | nil => exact ⟨false, rfl⟩
  | cons token rest restIH =>
      obtain ⟨found, same⟩ := restIH
      cases token <;> simp [matchedSuffixes, same, foundNext, foundLater]

theorem matchesName_nil (name : Text) : matchesName [] name = name.isEmpty := by
  cases name <;> rfl

/-- A sequence takes any part of the name before what the rest of the pattern matches. -/
theorem matchesName_anySequence (rest : List Token) (name : Text) :
    matchesName (.anySequence :: rest) name = anySuffix (matchesName rest) name := by
  induction name with
  | nil =>
      obtain ⟨found, same⟩ := matchedSuffixes_nil rest
      simp [matchesName, matchedSuffixes, same, foundLater, anySuffix]
  | cons c name nameIH =>
      obtain ⟨found, same⟩ := matchedSuffixes_cons rest c name
      rw [anySuffix, ← nameIH]
      simp [matchesName, matchedSuffixes, same, foundLater]

theorem matchesName_char (expected : Char) (rest : List Token) (c : Char) (name : Text) :
    matchesName (.char expected :: rest) (c :: name) =
      (decide (c = expected) && matchesName rest name) := by
  obtain ⟨found, same⟩ := matchedSuffixes_cons rest c name
  simp [matchesName, matchedSuffixes, same, foundNext, Token.admits]

end PseudocodeLint
