import HttpExchange.Bytes.Utf8
import HttpExchange.Error
import HttpExchange.Text.Trim
/-!
The charsets that response text can be written in. The single-byte ones write a question mark
for a character that they do not have.
-/

namespace HttpExchange

inductive Charset
  | utf8
  | latin1
  | ascii
deriving DecidableEq, Repr

namespace Charset

/-- The charset of a name, in any letter case and with white space around it. -/
def ofName? (name : String) : Option Charset :=
  match String.ofList (Text.lower (Text.trim name.toList)) with
  | "utf-8" | "utf8" => some .utf8
  | "iso-8859-1" | "iso8859-1" | "latin1" | "latin-1" => some .latin1
  | "us-ascii" | "ascii" => some .ascii
  | _ => none

def isSupported (name : String) : Bool :=
  (ofName? name).isSome

/-- One octet for a character up to `last`, and a question mark for any other. -/
def octetUpTo (last : Nat) (character : Char) : UInt8 :=
  if character.toNat ≤ last then UInt8.ofNat character.toNat else UInt8.ofNat '?'.toNat

def encode (charset : Charset) (text : String) : Bytes :=
  match charset with
  | .utf8 => Utf8.encode text.toList
  | .latin1 => text.toList.map (octetUpTo 0xFF)
  | .ascii => text.toList.map (octetUpTo 0x7F)

def encodeAs (name : String) (text : String) : Except Error Bytes :=
  match ofName? name with
  | some charset => .ok (charset.encode text)
  | none => .error (.unknownCharset name)

end Charset

end HttpExchange
