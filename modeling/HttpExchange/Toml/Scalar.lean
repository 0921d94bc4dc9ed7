import HttpExchange.Binary64
import HttpExchange.Calendar
import HttpExchange.Text.Decimal
import HttpExchange.Toml.Text
import HttpExchange.Toml.Value
/-!
TOML values without quotes or brackets: truth values, numbers, dates and times. A word is read
as a whole, so every function here answers for a complete word.
-/

namespace HttpExchange.Toml

/-- Digits of a numeral without the underscores between them. An underscore must have a digit
on both sides, and there must be a digit. -/
def digits? (isDigit : Char → Bool) (text : List Char) : Option (List Char) :=
  let groups := text.splitOn '_'
  if groups.all fun group => !group.isEmpty && group.all isDigit then some groups.flatten
  else none

def hasNoLeadingZero : List Char → Bool
  | '0' :: _ :: _ => false
  | _ => true

/-- An integer, if it fits in 128 bits. -/
def fitInteger? (value : Int) : Option Value :=
  if -Int.pow 2 127 ≤ value ∧ value < Int.pow 2 128 then some (.integer value) else none

/-- The number of digits to a base. -/
def valueToBase? (base : Nat) (digits : List Char) : Option Nat :=
  digits.foldlM (fun value digit => do
    let next ← hexDigit? digit
    if next < base then some (value * base + next) else none) 0

def prefixedInteger? (base : Nat) (text : List Char) : Option Value := do
  let digits ← digits? (fun digit => (hexDigit? digit).isSome) text
  fitInteger? (Int.ofNat (← valueToBase? base digits))

def decimalInteger? (word : List Char) : Option Value := do
  let (negative, text) := Text.unsigned word
  let digits ← digits? Char.isDigit text
  if hasNoLeadingZero digits then
    let magnitude := Int.ofNat (Text.decimalValue digits)
    fitInteger? (if negative then -magnitude else magnitude)
  else none

def integer? : List Char → Option Value
  | '0' :: 'x' :: rest => prefixedInteger? 16 rest
  | '0' :: 'o' :: rest => prefixedInteger? 8 rest
  | '0' :: 'b' :: rest => prefixedInteger? 2 rest
  | word => decimalInteger? word

/-- Whether digits with the decimal point moved by `exponent` places stay below infinity. The
place of the first digit settles it but for numbers near the limit. -/
def isFinite (digits : List Char) (exponent : Int) : Bool :=
  let significant := digits.dropWhile (· == '0')
  let place := significant.length + exponent
  if significant.isEmpty || place < 300 then true
  else if 320 < place then false
  else
    let value := Text.decimalValue significant
    let rounded :=
      if exponent < 0 then Binary64.ofFraction value (Nat.pow 10 exponent.natAbs)
      else Binary64.ofFraction (value * Nat.pow 10 exponent.natAbs) 1
    rounded < Binary64.infinity

def exponent? (text : List Char) : Option Int := do
  let (negative, rest) := Text.unsigned text
  let digits ← digits? Char.isDigit rest
  let magnitude := Int.ofNat (Text.decimalValue digits)
  some (if negative then -magnitude else magnitude)

/-- A number with a fraction, an exponent or both, if it is finite. -/
def decimalFloat? (word : List Char) : Option Value := do
  let (_, text) := Text.unsigned word
  let isMark := fun character => character == 'e' || character == 'E'
  let mantissa := text.takeWhile fun character => !isMark character
  let exponent ← match text.drop mantissa.length with
    | [] => if mantissa.contains '.' then some 0 else none
    | _ :: rest => exponent? rest
  let (whole, fraction) ← match mantissa.splitOn '.' with
    | [whole] => do some (← digits? Char.isDigit whole, [])
    | [whole, fraction] => do
        some (← digits? Char.isDigit whole, ← digits? Char.isDigit fraction)
    | _ => none
  if hasNoLeadingZero whole && isFinite (whole ++ fraction) (exponent - fraction.length) then
    some (.float (String.ofList word))
  else none

def float? (word : List Char) : Option Value :=
  match (Text.unsigned word).2 with
  | ['i', 'n', 'f'] => some (.float (String.ofList word))
  | ['n', 'a', 'n'] => some (.float (String.ofList word))
  | _ => decimalFloat? word

def afterDate? : List Char → Option (List Char)
  | y₁ :: y₂ :: y₃ :: y₄ :: '-' :: m₁ :: m₂ :: '-' :: d₁ :: d₂ :: rest => do
      let year ← Text.fourDigits? y₁ y₂ y₃ y₄
      let month ← Text.twoDigits? m₁ m₂
      let day ← Text.twoDigits? d₁ d₂
      let length := if month = 0 then 0 else (Calendar.monthLengths year).getD (month - 1) 0
      if 1 ≤ day ∧ day ≤ length then some rest else none
  | _ => none

/-- The text behind the fraction of a second, if there is one. -/
def afterFraction? : List Char → Option (List Char)
  | '.' :: digit :: rest => if digit.isDigit then some (rest.dropWhile Char.isDigit) else none
  | ['.'] => none
  | text => some text

/-- The text behind a time, if the word starts with one. Seconds may be left out. -/
def afterTime? : List Char → Option (List Char)
  | h₁ :: h₂ :: ':' :: n₁ :: n₂ :: rest => do
      let hour ← Text.twoDigits? h₁ h₂
      let minute ← Text.twoDigits? n₁ n₂
      if hour < 24 ∧ minute < 60 then
        match rest with
        | ':' :: s₁ :: s₂ :: rest => do
            let second ← Text.twoDigits? s₁ s₂
            if second ≤ 60 then afterFraction? rest else none
        | rest => some rest
      else none
  | _ => none

/-- Whether a word is an offset from universal time, or nothing. -/
def isOffset : List Char → Bool
  | [] => true
  | ['Z'] => true
  | ['z'] => true
  | [sign, h₁, h₂, ':', n₁, n₂] =>
      (sign == '+' || sign == '-') &&
        (match Text.twoDigits? h₁ h₂, Text.twoDigits? n₁ n₂ with
          | some hour, some minute => hour < 24 && minute < 60
          | _, _ => false)
  | _ => false

/-- Whether a word is a date, a time, or a date and a time with an optional offset. -/
def isMoment (word : List Char) : Bool :=
  match afterDate? word with
  | some [] => true
  | some (mark :: rest) =>
      (mark == 'T' || mark == 't' || mark == ' ') && (afterTime? rest).any isOffset
  | none => afterTime? word == some []

def scalar? (word : List Char) : Option Value :=
  match word with
  | ['t', 'r', 'u', 'e'] => some (.boolean true)
  | ['f', 'a', 'l', 's', 'e'] => some (.boolean false)
  | _ =>
      if isMoment word then some (.moment (String.ofList word))
      else (integer? word).or (float? word)

end HttpExchange.Toml
