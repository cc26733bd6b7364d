import PseudocodeLint.Item
import PseudocodeLint.Text.Word
import PseudocodeLint.ValueLiteral

namespace PseudocodeLint

/-- A step ends in a full stop or a colon; blanks after it do not count. -/
def endsSentence (step : Text) : Bool :=
  (lastVisible? step).any fun c => c = '.' || c = ':'

namespace Item

def startsLowercase (item : Item) : Bool :=
  (trimStart item.body).head?.any Char.isLower

/-- The character after a leading `Assert`, when it is not the colon that belongs there. -/
def assertFollower? (item : Item) : Option Char :=
  let lead := trimStart item.body
  if "Assert".toList.isPrefixOf lead then
    (lead.drop "Assert".length).head?.filter (· ≠ ':')
  else none

end Item

/-- Whether a text begins with a capitalised name of two or more characters and an opening
bracket. -/
def startsCall : Text → Bool
  | [] => false
  | c :: rest =>
      c.isUpper && !(rest.takeWhile Char.isAlphanum).isEmpty &&
        (rest.dropWhile Char.isAlphanum).head? = some '('

/-- Whether an algorithm call stands outside the value literals. -/
def hasBareCall (step : Text) : Bool :=
  anyWordStart startsCall false (outsideLiterals step)

/-- Whether a text begins with the given one, and what follows satisfies `next`. -/
def startsWithThen (lead : Text) (next : Text → Bool) (text : Text) : Bool :=
  lead.isPrefixOf text && next (text.drop lead.length)

/-- Whether a text begins with a literal keyword as a whole word. -/
def startsKeyword (text : Text) : Bool :=
  ["true".toList, "false".toList, "null".toList].any fun keyword =>
    startsWithThen keyword (fun after => !after.head?.any isWordChar) text

/-- Whether a text begins with a phrase that a literal keyword completes. -/
def startsKeywordPhrase (text : Text) : Bool :=
  ["return ".toList, "Return ".toList, "is ".toList, "is not ".toList].any fun phrase =>
    startsWithThen phrase startsKeyword text

/-- Whether a literal keyword stands without braces.  Steps that speak of values that are
"null or empty" are excused. -/
def hasBareKeyword (step : Text) : Bool :=
  let text := collapseBlanks step
  anyWordStart startsKeywordPhrase false text && !containsText "null or empty".toList text

end PseudocodeLint
