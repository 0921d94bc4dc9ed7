import HttpExchange.Text.Decimal
/-!
Port numbers as text: an optional plus sign and ASCII digits, up to 65535.
-/

namespace HttpExchange

/-- Why a text is not a port number. -/
inductive PortFault
  | empty
  | invalidDigit
  | tooLarge
deriving DecidableEq, Repr

def PortFault.message : PortFault → String
  | .empty => "cannot parse integer from empty string"
  | .invalidDigit => "invalid digit found in string"
  | .tooLarge => "number too large to fit in target type"

namespace Port

/-- Reads digits behind those that gave `value`. The first fault on the way is the answer. -/
def readDigits (value : Nat) : List Char → Except PortFault Nat
  | [] => .ok value
  | digit :: rest =>
      if digit.isDigit then
        let next := value * 10 + Text.decimalValue [digit]
        if next < UInt16.size then readDigits next rest else .error .tooLarge
      else .error .invalidDigit

def read (text : List Char) : Except PortFault UInt16 :=
  match text with
  | [] => .error .empty
  | ['+'] => .error .invalidDigit
  | '+' :: digits => (readDigits 0 digits).map UInt16.ofNat
  | digits => (readDigits 0 digits).map UInt16.ofNat

example : read "+0080".toList = .ok 80 := rfl
example : read "65536x".toList = .error .tooLarge := rfl
example : read "6553x6".toList = .error .invalidDigit := rfl
example : read "+".toList = .error .invalidDigit := rfl

end Port

end HttpExchange
