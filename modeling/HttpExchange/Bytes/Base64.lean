import HttpExchange.Bytes
/-!
Base64 with the standard alphabet and padding. Reading is strict: the text consists of whole
groups of four characters, only the last group may be padded, and the bits that the padding
leaves over are zero. So every octet string has exactly one text.
-/

namespace HttpExchange.Base64

def alphabet : List Char :=
  "ABCDEFGHIJKLMNOPQRSTUVWXYZabcdefghijklmnopqrstuvwxyz0123456789+/".toList

def symbol (sextet : Nat) : Char :=
  alphabet.getD sextet '='

def sextet? (character : Char) : Option Nat :=
  let code := character.toNat
  if 'A'.toNat ≤ code ∧ code ≤ 'Z'.toNat then some (code - 'A'.toNat)
  else if 'a'.toNat ≤ code ∧ code ≤ 'z'.toNat then some (code - 'a'.toNat + 26)
  else if '0'.toNat ≤ code ∧ code ≤ '9'.toNat then some (code - '0'.toNat + 52)
  else if character = '+' then some 62
  else if character = '/' then some 63
  else none

/-- One octet from two characters; four bits are left over. -/
def oneOctet? (first second : Char) : Option Bytes := do
  let high ← sextet? first
  let low ← sextet? second
  if low % 16 = 0 then some [UInt8.ofNat (high * 4 + low / 16)] else none

/-- Two octets from three characters; two bits are left over. -/
def twoOctets? (first second third : Char) : Option Bytes := do
  let high ← sextet? first
  let middle ← sextet? second
  let low ← sextet? third
  if low % 4 = 0 then
    some [UInt8.ofNat (high * 4 + middle / 16), UInt8.ofNat (middle % 16 * 16 + low / 4)]
  else none

/-- Three octets from a full group. -/
def threeOctets? (first second third fourth : Char) : Option Bytes := do
  let a ← sextet? first
  let b ← sextet? second
  let c ← sextet? third
  let d ← sextet? fourth
  some [UInt8.ofNat (a * 4 + b / 16), UInt8.ofNat (b % 16 * 16 + c / 4),
    UInt8.ofNat (c % 4 * 64 + d)]

def decode? : List Char → Option Bytes
  | [] => some []
  | [first, second, '=', '='] => oneOctet? first second
  | [first, second, third, '='] => twoOctets? first second third
  | first :: second :: third :: fourth :: rest => do
      let octets ← threeOctets? first second third fourth
      let others ← decode? rest
      some (octets ++ others)
  | _ => none

def encode : Bytes → List Char
  | [] => []
  | [a] => [symbol (a.toNat / 4), symbol (a.toNat % 4 * 16), '=', '=']
  | [a, b] =>
      [symbol (a.toNat / 4), symbol (a.toNat % 4 * 16 + b.toNat / 16),
        symbol (b.toNat % 16 * 4), '=']
  | a :: b :: c :: rest =>
      symbol (a.toNat / 4) :: symbol (a.toNat % 4 * 16 + b.toNat / 16) ::
        symbol (b.toNat % 16 * 4 + c.toNat / 64) :: symbol (c.toNat % 64) :: encode rest

example : decode? "aGk=".toList = some [104, 105] := by decide
example : decode? "aGl=".toList = none := by decide
example : decode? "aGk".toList = none := by decide
example : encode [104, 105] = "aGk=".toList := by decide

end HttpExchange.Base64
