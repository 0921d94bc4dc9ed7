/-!
Decimal numerals in ASCII digits: the number that a run of digits stands for, and numerals
filled up with zeros to a fixed width.
-/

namespace HttpExchange.Text

def decimalValue (digits : List Char) : Nat :=
  Nat.ofDigitChars 10 digits 0

/-- A text without a sign in front, and whether the sign was a minus. -/
def unsigned : List Char → Bool × List Char
  | '+' :: rest => (false, rest)
  | '-' :: rest => (true, rest)
  | text => (false, text)

/-- The decimal numeral of a number, with zeros in front up to `width` digits. -/
def paddedDecimal (width number : Nat) : List Char :=
  let digits := Nat.toDigits 10 number
  List.replicate (width - digits.length) '0' ++ digits

def twoDigits? (tens units : Char) : Option Nat :=
  if tens.isDigit && units.isDigit then some (decimalValue [tens, units]) else none

def fourDigits? (first second third fourth : Char) : Option Nat :=
  if [first, second, third, fourth].all Char.isDigit then
    some (decimalValue [first, second, third, fourth])
  else none

theorem decimalValue_toDigits (number : Nat) :
    decimalValue (Nat.toDigits 10 number) = number :=
  Nat.ofDigitChars_toDigits (by decide) (by decide)

theorem decimalValue_lt {digits : List Char} (decimal : ∀ digit ∈ digits, digit.isDigit = true) :
    decimalValue digits < Nat.pow 10 digits.length := by
  induction digits with
  | nil => decide
  | cons digit digits induction =>
      have small : digit.toNat - '0'.toNat ≤ 9 := by
        have isDigit := decimal digit List.mem_cons_self
        simp only [Char.isDigit, Bool.and_eq_true, decide_eq_true_eq] at isDigit
        exact Nat.sub_le_of_le_add (UInt32.le_iff_toNat_le.mp isDigit.2)
      have rest := induction fun other member => decimal other (List.mem_cons_of_mem digit member)
      rw [decimalValue, Nat.ofDigitChars_cons, Nat.ofDigitChars_eq_ofDigitChars_zero, Nat.mul_zero,
        Nat.zero_add]
      calc
        Nat.pow 10 digits.length * (digit.toNat - '0'.toNat) + decimalValue digits
          < Nat.pow 10 digits.length * (digit.toNat - '0'.toNat) + Nat.pow 10 digits.length :=
            Nat.add_lt_add_left rest _
        _ = Nat.pow 10 digits.length * (digit.toNat - '0'.toNat + 1) := rfl
        _ ≤ Nat.pow 10 digits.length * 10 := Nat.mul_le_mul_left _ (by omega)

theorem isDigit_of_mem_toString {number : Nat} {character : Char}
    (member : character ∈ (toString number).toList) : character.isDigit = true := by
  have member : character ∈ Nat.toDigits 10 number := by simpa using member
  exact Nat.isDigit_of_mem_toDigits (by decide) (by decide) member

theorem length_paddedDecimal {width number : Nat} (positive : 0 < width)
    (bound : number < Nat.pow 10 width) : (paddedDecimal width number).length = width := by
  have short : (Nat.toDigits 10 number).length ≤ width :=
    (Nat.length_toDigits_le_iff (by decide) positive).mpr bound
  rw [paddedDecimal, List.length_append, List.length_replicate]
  omega

theorem isDigit_of_mem_paddedDecimal {width number : Nat} {character : Char}
    (member : character ∈ paddedDecimal width number) : character.isDigit = true := by
  rcases List.mem_append.mp member with zero | digit
  · rw [List.eq_of_mem_replicate zero]
    rfl
  · exact Nat.isDigit_of_mem_toDigits (by decide) (by decide) digit

theorem decimalValue_paddedDecimal (width number : Nat) :
    decimalValue (paddedDecimal width number) = number := by
  rw [decimalValue, paddedDecimal, Nat.ofDigitChars_append, Nat.ofDigitChars_replicate_zero,
    Nat.mul_zero]
  exact decimalValue_toDigits number

theorem twoDigits?_of_paddedDecimal {number : Nat} (bound : number < 100) :
    ∃ tens units, paddedDecimal 2 number = [tens, units] ∧
      twoDigits? tens units = some number := by
  have length := length_paddedDecimal (show 0 < 2 by decide) bound
  have digits := @isDigit_of_mem_paddedDecimal 2 number
  have value := decimalValue_paddedDecimal 2 number
  match shape : paddedDecimal 2 number, length with
  | [tens, units], _ =>
      rw [shape] at digits value
      refine ⟨tens, units, rfl, ?_⟩
      rw [twoDigits?, digits (by simp), digits (by simp), value]
      rfl

theorem fourDigits?_of_paddedDecimal {number : Nat} (bound : number < 10000) :
    ∃ first second third fourth, paddedDecimal 4 number = [first, second, third, fourth] ∧
      fourDigits? first second third fourth = some number := by
  have length := length_paddedDecimal (show 0 < 4 by decide) bound
  have digits := @isDigit_of_mem_paddedDecimal 4 number
  have value := decimalValue_paddedDecimal 4 number
  match shape : paddedDecimal 4 number, length with
  | [first, second, third, fourth], _ =>
      rw [shape] at digits value
      refine ⟨first, second, third, fourth, rfl, ?_⟩
      rw [fourDigits?, if_pos (List.all_eq_true.mpr fun _ member => digits member), value]

example : decimalValue "0042".toList = 42 := by decide
example : paddedDecimal 2 7 = "07".toList := by decide +kernel
example : twoDigits? '0' '8' = some 8 := by decide
example : twoDigits? ' ' '8' = none := by decide

end HttpExchange.Text
