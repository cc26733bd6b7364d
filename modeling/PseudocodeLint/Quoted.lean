import PseudocodeLint.Text.Printable

namespace PseudocodeLint

def hexDigits (code : Nat) : Text :=
  Nat.toDigits 16 code

/-- How a quotation spells a character. -/
def quoteChar (c : Char) : Text :=
  match c with
  | '\x00' => "\\0".toList
  | '\t' => "\\t".toList
  | '\r' => "\\r".toList
  | '\n' => "\\n".toList
  | '"' => "\\\"".toList
  | '\\' => "\\\\".toList
  | _ => if isPrintable c then [c] else "\\u\x7b".toList ++ hexDigits c.toNat ++ "\x7d".toList

def quote (text : Text) : Text :=
  '"' :: text.flatMap quoteChar ++ ['"']

end PseudocodeLint
