import HttpExchange.Binary64
import HttpExchange.Text.Decimal
/-!
The values of the binary format with 53 significant bits, with their signs and with the one that
is not a number, and the numerals that stand for them.
-/

namespace HttpExchange.Binary64

/-- A number in steps of 2⁻¹⁰⁷⁴, or no number at all. Both zeros are the same number. -/
inductive Value
  | number (steps : Int)
  | nan
deriving DecidableEq, Repr

namespace Value

def zero : Value := number 0

def one : Value := number (ofFraction 1 1)

def negate : Value → Value
  | number steps => number (-steps)
  | nan => nan

/-- How two values stand to each other. What is not a number compares with nothing, not even
with itself. -/
def compare? : Value → Value → Option Ordering
  | number left, number right => some (compare left right)
  | _, _ => none

instance : LE Value where
  le left right := (left.compare? right).any Ordering.isLE = true

instance : DecidableLE Value := fun _ _ => inferInstanceAs (Decidable (_ = true))

/-! ## Numerals -/

/-- The words for what no digits stand for, in letters of either case. -/
def ofWord? (word : List Char) : Option Value :=
  let lower := word.map Char.toLower
  if lower = "inf".toList ∨ lower = "infinity".toList then some (number infinity)
  else if lower = "nan".toList then some nan
  else none

/-- A number in decimal digits, its point moved to the right by `exponent` places. -/
def scaled (digits : Nat) (exponent : Int) : Value :=
  if exponent < 0 then number (ofFraction digits (Nat.pow 10 exponent.natAbs))
  else number (ofFraction (digits * Nat.pow 10 exponent.natAbs) 1)

/-- An exponent behind its mark, or zero when there is nothing. -/
def exponent? : List Char → Option Int
  | [] => some 0
  | mark :: text =>
      let (negative, digits) := Text.unsigned text
      if mark.toLower = 'e' ∧ digits ≠ [] ∧ digits.all Char.isDigit then
        let magnitude := Int.ofNat (Text.decimalValue digits)
        some (if negative then -magnitude else magnitude)
      else none

/-- Digits behind a decimal point, and what follows them. -/
def fraction : List Char → List Char × List Char
  | '.' :: text => text.span Char.isDigit
  | text => ([], text)

/-- Digits with at most one point among or beside them, and perhaps an exponent. -/
def decimal? (text : List Char) : Option Value :=
  let (whole, afterWhole) := text.span Char.isDigit
  let (fraction, rest) := fraction afterWhole
  if whole.isEmpty && fraction.isEmpty then none
  else (exponent? rest).map fun exponent =>
    scaled (Text.decimalValue (whole ++ fraction)) (exponent - fraction.length)

/-- The value that a numeral stands for. -/
def read? (numeral : List Char) : Option Value :=
  let (negative, text) := Text.unsigned numeral
  let magnitude := (ofWord? text).or (decimal? text)
  magnitude.map fun value => if negative then value.negate else value

example : read? "0.50".toList = read? "5e-1".toList := by decide +kernel
example : read? "-.5".toList = (read? "+0.5".toList).map negate := by decide +kernel
example : read? "NaN".toList = some nan := by decide +kernel
example : read? "..".toList = none := by decide +kernel

end Value

end HttpExchange.Binary64
