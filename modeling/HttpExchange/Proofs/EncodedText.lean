import HttpExchange.Proofs.Charsets
import HttpExchange.Proofs.Utf8
import HttpExchange.Response.Operation
import Mathlib.Data.List.Basic

/-! Text in a charset, read again. The reader of the charset gets the text back, with a question mark
for each character that the charset does not have, and text that is written in pieces is the text
that is written at once. -/

namespace HttpExchange

namespace Charset

/-! ## Characters of a charset -/

def has : Charset → Char → Bool
  | .utf8, _ => true
  | .latin1, character => character.toNat ≤ 0xFF
  | .ascii, character => character.toNat ≤ 0x7F

/-- What a reader of the charset gets for a character that was written. -/
def shown (charset : Charset) (character : Char) : Char :=
  if charset.has character then character else '?'

/-- Reads octets in the charset: as UTF-8, or as one code point each. ASCII has no octet from 0x80
on. -/
def decode? : Charset → Bytes → Option (List Char)
  | .utf8, octets => Utf8.decode? octets
  | .latin1, octets => some (octets.map fun octet => Char.ofNat octet.toNat)
  | .ascii, octets =>
      if octets.all (· < 0x80) then some (octets.map fun octet => Char.ofNat octet.toNat)
      else none

theorem toNat_octetUpTo {last : Nat} (small : last ≤ 0xFF) (character : Char) :
    (octetUpTo last character).toNat =
      if character.toNat ≤ last then character.toNat else '?'.toNat := by
  rw [octetUpTo]
  by_cases within : character.toNat ≤ last
  · rw [if_pos within, if_pos within]
    exact UInt8.toNat_ofNat_of_lt' (Nat.lt_succ_of_le (Nat.le_trans within small))
  · rw [if_neg within, if_neg within]
    rfl

theorem ofNat_octetUpTo {last : Nat} (small : last ≤ 0xFF) (character : Char) :
    Char.ofNat (octetUpTo last character).toNat =
      if character.toNat ≤ last then character else '?' := by
  rw [toNat_octetUpTo small, apply_ite Char.ofNat, Char.ofNat_toNat, Char.ofNat_toNat]

theorem octetUpTo_lt (character : Char) : octetUpTo 0x7F character < 0x80 := by
  rw [UInt8.lt_iff_toNat_lt, toNat_octetUpTo (by decide)]
  by_cases within : character.toNat ≤ 0x7F
  · rw [if_pos within]
    exact Nat.lt_succ_of_le within
  · rw [if_neg within]
    decide

theorem lt_of_mem_encode_ascii {text : String} {octet : UInt8}
    (member : octet ∈ encode .ascii text) : octet < 0x80 := by
  rcases List.mem_map.mp member with ⟨character, _, rfl⟩
  exact octetUpTo_lt character

/-- What was written is read as the text with a question mark for each missing character. -/
theorem decode?_encode (charset : Charset) (text : String) :
    charset.decode? (charset.encode text) = some (text.toList.map charset.shown) := by
  cases charset with
  | utf8 =>
      have all : text.toList.map (shown .utf8) = text.toList := List.map_id _
      rw [all]
      exact Utf8.decode?_encode text.toList
  | latin1 =>
      rw [decode?, encode, List.map_map]
      congr 2
      funext character
      simp [ofNat_octetUpTo, shown, has]
  | ascii =>
      have low : ((encode .ascii text).all (· < 0x80)) = true :=
        List.all_eq_true.mpr fun octet member => decide_eq_true (lt_of_mem_encode_ascii member)
      rw [decode?, if_pos low, encode, List.map_map]
      congr 2
      funext character
      simp [ofNat_octetUpTo, shown, has]

theorem encode_append (charset : Charset) (front back : String) :
    charset.encode (front ++ back) = charset.encode front ++ charset.encode back := by
  cases charset with
  | utf8 => simp [encode, Utf8.encode]
  | latin1 => simp [encode]
  | ascii => simp [encode]

theorem encodeAs_of_isNamedBy {charset : Charset} {name : String} (named : charset.IsNamedBy name)
    (text : String) : encodeAs name text = .ok (charset.encode text) := by
  rw [encodeAs, ofName?_eq_some_iff.mpr named]

theorem encodeAs_eq_error_iff (name text : String) (error : Error) :
    encodeAs name text = .error error ↔
      isSupported name = false ∧ error = .unknownCharset name := by
  rw [encodeAs, isSupported]
  cases ofName? name with
  | some charset => simp
  | none => simp [eq_comm]

theorem encodeAs_append (name front back : String) :
    encodeAs name (front ++ back) =
      (encodeAs name front).bind fun start => (encodeAs name back).map (start ++ ·) := by
  simp only [encodeAs]
  cases ofName? name with
  | some charset => exact congrArg Except.ok (charset.encode_append front back)
  | none => rfl

end Charset

/-! ## Printing in pieces -/

namespace Response

theorem print_append (response : Response) (front back : String) :
    (response.print front).1.print back =
      ((response.print (front ++ back)).1, (response.print front).2) := by
  cases known : Charset.ofName? response.encoding with
  | none => rw [print_of_unknown known, print_of_unknown known, print_of_unknown known]
  | some charset =>
      rw [print_of_known known, print_of_known known]
      have stillKnown : Charset.ofName?
          { response with out := response.out ++ charset.encode front }.encoding = some charset :=
        known
      rw [print_of_known stillKnown, charset.encode_append, List.append_assoc]

theorem print_empty (response : Response) : (response.print "").1 = response := by
  cases known : Charset.ofName? response.encoding with
  | none => rw [print_of_unknown known]
  | some charset =>
      have nothing : charset.encode "" = [] := by cases charset <;> rfl
      rw [print_of_known known, nothing, List.append_nil]

/-- Whether printing succeeds does not depend on the text. -/
theorem outcome_print (response : Response) (text other : String) :
    (response.print text).2 = (response.print other).2 := by
  cases known : Charset.ofName? response.encoding with
  | none => rw [print_of_unknown known, print_of_unknown known]
  | some charset => rw [print_of_known known, print_of_known known]

theorem performAll_prints (response : Response) (pieces : List String) :
    response.performAll (pieces.map .print) =
      ((response.print (String.join pieces)).1,
        pieces.map fun _ => .outcome (response.print (String.join pieces)).2) := by
  induction pieces generalizing response with
  | nil => exact Prod.ext response.print_empty.symm rfl
  | cons piece pieces induction =>
      have step : response.perform (.print piece) =
          ((response.print piece).1, .outcome (response.print piece).2) := rfl
      rw [List.map_cons, performAll, step]
      dsimp only
      rw [induction, print_append, String.join_cons, List.map_cons,
        response.outcome_print piece (piece ++ String.join pieces)]

end Response

/-! ## Text in a charset -/

namespace Charset

/-- Octets that are this text in the charset, for whoever reads them. -/
structure Writes (charset : Charset) (text : String) (octets : Bytes) : Prop where
  reading : charset.decode? octets = some (text.toList.map charset.shown)
  whole : charset = .utf8 → charset.decode? octets = some text.toList
  single : charset ≠ .utf8 → octets.length = text.length
  low : charset = .ascii → ∀ octet ∈ octets, octet < 0x80

theorem writes_encode (charset : Charset) (text : String) :
    charset.Writes text (charset.encode text) where
  reading := decode?_encode charset text
  whole := by
    rintro rfl
    exact Utf8.decode?_encode text.toList
  single notUtf8 := by
    rw [length_encode]
    cases charset with
    | utf8 => exact absurd rfl notUtf8
    | latin1 => rfl
    | ascii => rfl
  low := by
    rintro rfl
    exact fun octet => lt_of_mem_encode_ascii

/-- Text is written so that it can be read back. Under any name of a charset it becomes the same
octets, and who reads these in the charset gets the text with a question mark for each character
that the charset does not have. A name is supported exactly if it is one of a charset, and any other
is refused as it came. What is written piece by piece is what is written at once, and printing to a
response follows this. -/
theorem encoded_text_is_read_back :
    (∀ (charset : Charset) (text : String), ∃ octets, charset.Writes text octets ∧
      ∀ name, charset.IsNamedBy name → encodeAs name text = .ok octets) ∧
    (∀ name, isSupported name = true ↔ ∃ charset : Charset, charset.IsNamedBy name) ∧
    (∀ name text error, encodeAs name text = .error error ↔
      isSupported name = false ∧ error = .unknownCharset name) ∧
    (∀ name front back, encodeAs name (front ++ back) =
      (encodeAs name front).bind fun start => (encodeAs name back).map (start ++ ·)) ∧
    ∀ (response : Response) (pieces : List String),
      response.performAll (pieces.map .print) =
        ((response.print (String.join pieces)).1,
          pieces.map fun _ => .outcome (response.print (String.join pieces)).2) := by
  refine ⟨fun charset text => ?_, fun name => ?_, encodeAs_eq_error_iff, encodeAs_append,
    Response.performAll_prints⟩
  · exact ⟨_, charset.writes_encode text, fun name named => encodeAs_of_isNamedBy named text⟩
  · simp only [isSupported_iff, ofName?_eq_some_iff]

theorem encoded_text_is_read_back_latin :
    IsNamedBy .latin1 " LATIN1\t" ∧ IsNamedBy .latin1 "Iso-8859-1" ∧
    ∃ octets, decode? .latin1 octets = some "caf\u00e9 \u00ff?".toList ∧
      encodeAs " LATIN1\t" "caf\u00e9 \u00ff\u0100" = .ok octets ∧
      encodeAs "Iso-8859-1" "caf\u00e9 \u00ff\u0100" = .ok octets := by
  have spaced : IsNamedBy .latin1 " LATIN1\t" :=
    ⟨[' '], "LATIN1".toList, ['\t'], by decide, by simp [Text.IsBlank, Text.isWhiteSpace],
      by simp [Text.IsBlank, Text.isWhiteSpace], by decide⟩
  have formal : IsNamedBy .latin1 "Iso-8859-1" :=
    ⟨[], "Iso-8859-1".toList, [], by decide, by simp [Text.IsBlank], by simp [Text.IsBlank],
      by decide⟩
  rcases encoded_text_is_read_back.1 .latin1 "caf\u00e9 \u00ff\u0100" with
    ⟨octets, written, encodes⟩
  refine ⟨spaced, formal, octets, ?_, encodes _ spaced, encodes _ formal⟩
  rw [written.reading]
  decide

end Charset

end HttpExchange
