import HttpExchange.Bytes
/-!
Text as UTF-8 octets. `pieces` reads octets into characters and malformed parts; a malformed
part is as long as the longest start of a well-formed character, or one octet. Strict reading
refuses malformed parts and lenient reading puts U+FFFD in their place.
-/

namespace HttpExchange.Utf8

def encode (text : List Char) : Bytes :=
  text.flatMap String.utf8EncodeChar

inductive Piece
  | character (value : Char)
  | malformed
deriving DecidableEq, Repr

def isContinuation (octet : UInt8) : Bool :=
  0x80 ≤ octet && octet ≤ 0xBF

/-- Whether `second` may follow `first` in a character of three octets: neither a longer form
of a shorter character nor a surrogate. -/
def startsThree (first second : UInt8) : Bool :=
  (first == 0xE0 && 0xA0 ≤ second && second ≤ 0xBF) ||
  (0xE1 ≤ first && first ≤ 0xEC && isContinuation second) ||
  (first == 0xED && 0x80 ≤ second && second ≤ 0x9F) ||
  (0xEE ≤ first && first ≤ 0xEF && isContinuation second)

/-- Whether `second` may follow `first` in a character of four octets: neither a longer form
of a shorter character nor a number past the last code point. -/
def startsFour (first second : UInt8) : Bool :=
  (first == 0xF0 && 0x90 ≤ second && second ≤ 0xBF) ||
  (0xF1 ≤ first && first ≤ 0xF3 && isContinuation second) ||
  (first == 0xF4 && 0x80 ≤ second && second ≤ 0x8F)

/-- The six bits that a continuation octet carries. -/
def payload (octet : UInt8) : Nat :=
  octet.toNat % 0x40

def pieces : Bytes → List Piece
  | [] => []
  | first :: rest =>
    if first < 0x80 then
      .character (Char.ofNat first.toNat) :: pieces rest
    else if 0xC2 ≤ first && first ≤ 0xDF then
      match rest with
      | second :: others =>
        if isContinuation second then
          .character (Char.ofNat (first.toNat % 0x20 * 0x40 + payload second)) :: pieces others
        else .malformed :: pieces (second :: others)
      | [] => [.malformed]
    else if 0xE0 ≤ first && first ≤ 0xEF then
      match rest with
      | second :: third :: others =>
        if startsThree first second then
          if isContinuation third then
            .character (Char.ofNat
              (first.toNat % 0x10 * 0x1000 + payload second * 0x40 + payload third)) ::
                pieces others
          else .malformed :: pieces (third :: others)
        else .malformed :: pieces (second :: third :: others)
      | [second] =>
        if startsThree first second then [.malformed] else .malformed :: pieces [second]
      | [] => [.malformed]
    else if 0xF0 ≤ first && first ≤ 0xF4 then
      match rest with
      | second :: third :: fourth :: others =>
        if startsFour first second then
          if isContinuation third then
            if isContinuation fourth then
              .character (Char.ofNat (first.toNat % 0x08 * 0x40000 + payload second * 0x1000 +
                payload third * 0x40 + payload fourth)) :: pieces others
            else .malformed :: pieces (fourth :: others)
          else .malformed :: pieces (third :: fourth :: others)
        else .malformed :: pieces (second :: third :: fourth :: others)
      | [second, third] =>
        if startsFour first second then
          if isContinuation third then [.malformed] else .malformed :: pieces [third]
        else .malformed :: pieces [second, third]
      | [second] =>
        if startsFour first second then [.malformed] else .malformed :: pieces [second]
      | [] => [.malformed]
    else .malformed :: pieces rest

def Piece.strict? : Piece → Option Char
  | .character value => some value
  | .malformed => none

def Piece.lenient : Piece → Char
  | .character value => value
  | .malformed => '\ufffd'

def decode? (octets : Bytes) : Option (List Char) :=
  (pieces octets).mapM Piece.strict?

/-- The text of any octets, with U+FFFD for each malformed part. -/
def decodeLenient (octets : Bytes) : List Char :=
  (pieces octets).map Piece.lenient

example : decodeLenient [0x61, 0xE2, 0x82, 0x62] = ['a', '\ufffd', 'b'] := by decide
example : decodeLenient [0xED, 0xA0, 0x80] = ['\ufffd', '\ufffd', '\ufffd'] := by decide
example : decode? (encode "é€😀".toList) = some "é€😀".toList := by decide

end HttpExchange.Utf8
