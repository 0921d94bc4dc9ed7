/-!
TOML strings in their four forms. Each reader starts behind the opening quotes and answers with
the text and what stands behind the closing ones.
-/

namespace HttpExchange.Toml

/-- A character that text on one line may hold: no control character but the tab. -/
def isLineCharacter (character : Char) : Bool :=
  character == '\t' || (0x20 ≤ character.toNat && character.toNat != 0x7F)

def hexDigit? (digit : Char) : Option Nat :=
  if digit.isDigit then some (digit.toNat - '0'.toNat)
  else if 'a' ≤ digit ∧ digit ≤ 'f' then some (digit.toNat - 'a'.toNat + 10)
  else if 'A' ≤ digit ∧ digit ≤ 'F' then some (digit.toNat - 'A'.toNat + 10)
  else none

def hexValue? (digits : List Char) : Option Nat :=
  digits.foldlM (fun value digit => (hexDigit? digit).map (value * 16 + ·)) 0

/-- The character of a code point in hexadecimal digits, if there is one. -/
def codePoint? (digits : List Char) : Option Char := do
  let code ← hexValue? digits
  if code.isValidChar then some (Char.ofNat code) else none

def letterEscape? : Char → Option Char
  | 'b' => some '\x08'
  | 't' => some '\t'
  | 'n' => some '\n'
  | 'f' => some '\x0c'
  | 'r' => some '\r'
  | 'e' => some '\x1b'
  | '"' => some '"'
  | '\\' => some '\\'
  | _ => none

/-- A text that goes on: `head` in front of what was read behind it. -/
def behind (head : Char) (read : Option (List Char × List Char)) :
    Option (List Char × List Char) :=
  read.map fun (text, rest) => (head :: text, rest)

/-- A string between double quotes, with escapes, on one line. -/
def readBasic? : List Char → Option (List Char × List Char)
  | [] => none
  | '"' :: rest => some ([], rest)
  | '\\' :: 'x' :: a :: b :: rest => do behind (← codePoint? [a, b]) (readBasic? rest)
  | '\\' :: 'u' :: a :: b :: c :: d :: rest => do
      behind (← codePoint? [a, b, c, d]) (readBasic? rest)
  | '\\' :: 'U' :: a :: b :: c :: d :: e :: f :: g :: h :: rest => do
      behind (← codePoint? [a, b, c, d, e, f, g, h]) (readBasic? rest)
  | '\\' :: letter :: rest => do behind (← letterEscape? letter) (readBasic? rest)
  | head :: rest =>
      if isLineCharacter head && head != '\\' then behind head (readBasic? rest) else none

/-- A string between single quotes, without escapes, on one line. -/
def readLiteral? : List Char → Option (List Char × List Char)
  | [] => none
  | '\'' :: rest => some ([], rest)
  | head :: rest => if isLineCharacter head then behind head (readLiteral? rest) else none

/-- The end of a string in three quotes: up to two more quotes belong to the text. -/
def closing (quote : Char) (rest : List Char) : List Char × List Char :=
  match rest with
  | first :: second :: after =>
      if first = quote && second = quote then ([quote, quote], after)
      else if first = quote then ([quote], second :: after)
      else ([], rest)
  | [first] => if first = quote then ([quote], []) else ([], rest)
  | [] => ([], [])

/-- Whether nothing but blanks stands before the end of the line. -/
def endsLine (text : List Char) : Bool :=
  match text.dropWhile fun character => character == ' ' || character == '\t' with
  | '\n' :: _ => true
  | '\r' :: '\n' :: _ => true
  | _ => false

/-- A string between three double quotes. A backslash at the end of a line leaves out the line
end and all blanks and line ends behind it; `skipping` says that this is going on. -/
def readLongBasic? (skipping : Bool) : List Char → Option (List Char × List Char)
  | [] => none
  | '"' :: '"' :: '"' :: rest => some (closing '"' rest)
  | '\r' :: '\n' :: rest =>
      if skipping then readLongBasic? true rest
      else behind '\r' (behind '\n' (readLongBasic? false rest))
  | '\n' :: rest =>
      if skipping then readLongBasic? true rest else behind '\n' (readLongBasic? false rest)
  | '\\' :: 'x' :: a :: b :: rest => do behind (← codePoint? [a, b]) (readLongBasic? false rest)
  | '\\' :: 'u' :: a :: b :: c :: d :: rest => do
      behind (← codePoint? [a, b, c, d]) (readLongBasic? false rest)
  | '\\' :: 'U' :: a :: b :: c :: d :: e :: f :: g :: h :: rest => do
      behind (← codePoint? [a, b, c, d, e, f, g, h]) (readLongBasic? false rest)
  | '\\' :: letter :: rest =>
      if endsLine (letter :: rest) then readLongBasic? true (letter :: rest)
      else do behind (← letterEscape? letter) (readLongBasic? false rest)
  | head :: rest =>
      if skipping && (head == ' ' || head == '\t') then readLongBasic? true rest
      else if isLineCharacter head && head != '\\' then behind head (readLongBasic? false rest)
      else none

def readLongLiteral? : List Char → Option (List Char × List Char)
  | [] => none
  | '\'' :: '\'' :: '\'' :: rest => some (closing '\'' rest)
  | '\r' :: '\n' :: rest => behind '\r' (behind '\n' (readLongLiteral? rest))
  | '\n' :: rest => behind '\n' (readLongLiteral? rest)
  | head :: rest => if isLineCharacter head then behind head (readLongLiteral? rest) else none

def withoutLineEnd : List Char → List Char
  | '\n' :: rest => rest
  | '\r' :: '\n' :: rest => rest
  | text => text

/-- A string of any form, from its opening quotes on. -/
def readText? : List Char → Option (List Char × List Char)
  | '"' :: '"' :: '"' :: rest => readLongBasic? false (withoutLineEnd rest)
  | '"' :: rest => readBasic? rest
  | '\'' :: '\'' :: '\'' :: rest => readLongLiteral? (withoutLineEnd rest)
  | '\'' :: rest => readLiteral? rest
  | _ => none

end HttpExchange.Toml
