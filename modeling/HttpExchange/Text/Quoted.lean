import HttpExchange.Text.Printable
/-!
Text in double quotes, as messages show it. The quote and the backslash take a backslash, four
control characters have names, and any other character that does not show itself is written by
its code point.
-/

namespace HttpExchange.Text

/-- A character by its code point, in lower-case hexadecimal without padding. -/
def codePointEscape (character : Char) : List Char :=
  ['\\', 'u', '{'] ++ Nat.toDigits 16 character.toNat ++ ['}']

def escape (character : Char) : List Char :=
  match character with
  | '\x00' => ['\\', '0']
  | '\t' => ['\\', 't']
  | '\r' => ['\\', 'r']
  | '\n' => ['\\', 'n']
  | '\\' => ['\\', '\\']
  | '"' => ['\\', '"']
  | _ => if isDisplayed character then [character] else codePointEscape character

/-- The text between double quotes, with every character escaped as needed. -/
def quoted (text : String) : String :=
  String.ofList ('"' :: text.toList.flatMap escape ++ ['"'])

example : quoted "a\"b" = "\"a\\\"b\"" := by decide +kernel

end HttpExchange.Text
