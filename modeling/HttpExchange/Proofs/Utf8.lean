import HttpExchange.Bytes.Utf8

/-! Text that is written as UTF-8 and read again: the octets of each character are read as this
character, whatever follows them, so readers get back the text that was written. -/

namespace HttpExchange.Utf8

/-! ## Classes of octets as numbers -/

variable {first second third fourth : UInt8}

theorem isContinuation_iff {octet : UInt8} :
    isContinuation octet = true ↔ 0x80 ≤ octet.toNat ∧ octet.toNat ≤ 0xBF := by
  simp [isContinuation, UInt8.le_iff_toNat_le]

theorem startsThree_iff :
    startsThree first second = true ↔
      (first.toNat = 0xE0 ∧ 0xA0 ≤ second.toNat ∧ second.toNat ≤ 0xBF) ∨
      (0xE1 ≤ first.toNat ∧ first.toNat ≤ 0xEC ∧ 0x80 ≤ second.toNat ∧ second.toNat ≤ 0xBF) ∨
      (first.toNat = 0xED ∧ 0x80 ≤ second.toNat ∧ second.toNat ≤ 0x9F) ∨
      (0xEE ≤ first.toNat ∧ first.toNat ≤ 0xEF ∧ 0x80 ≤ second.toNat ∧ second.toNat ≤ 0xBF) := by
  simp [startsThree, isContinuation, UInt8.le_iff_toNat_le, ← UInt8.toNat_inj, and_assoc, or_assoc]

theorem startsFour_iff :
    startsFour first second = true ↔
      (first.toNat = 0xF0 ∧ 0x90 ≤ second.toNat ∧ second.toNat ≤ 0xBF) ∨
      (0xF1 ≤ first.toNat ∧ first.toNat ≤ 0xF3 ∧ 0x80 ≤ second.toNat ∧ second.toNat ≤ 0xBF) ∨
      (first.toNat = 0xF4 ∧ 0x80 ≤ second.toNat ∧ second.toNat ≤ 0x8F) := by
  simp [startsFour, isContinuation, UInt8.le_iff_toNat_le, ← UInt8.toNat_inj, and_assoc, or_assoc]

/-! ## Well-formed characters -/

theorem pieces_one (low : first.toNat < 0x80) (rest : Bytes) :
    pieces (first :: rest) = .character (Char.ofNat first.toNat) :: pieces rest := by
  have isLow : first < 0x80 := UInt8.lt_iff_toNat_lt.mpr low
  rw [pieces.eq_def]
  simp only [isLow, if_true]

theorem pieces_two (lead : 0xC2 ≤ first.toNat ∧ first.toNat ≤ 0xDF)
    (continues : isContinuation second = true) (rest : Bytes) :
    pieces (first :: second :: rest) =
      .character (Char.ofNat (first.toNat % 0x20 * 0x40 + payload second)) :: pieces rest := by
  have notLow : ¬first.toNat < 0x80 := by omega
  rw [pieces.eq_def]
  simp [UInt8.lt_iff_toNat_lt, UInt8.le_iff_toNat_le, notLow, lead, continues]

theorem pieces_three (starts : startsThree first second = true)
    (continues : isContinuation third = true) (rest : Bytes) :
    pieces (first :: second :: third :: rest) =
      .character (Char.ofNat
        (first.toNat % 0x10 * 0x1000 + payload second * 0x40 + payload third)) ::
          pieces rest := by
  have lead : 0xE0 ≤ first.toNat ∧ first.toNat ≤ 0xEF := by
    have ranges := startsThree_iff.mp starts
    omega
  have notLow : ¬first.toNat < 0x80 := by omega
  have notTwo : ¬first.toNat ≤ 0xDF := by omega
  rw [pieces.eq_def]
  simp [UInt8.lt_iff_toNat_lt, UInt8.le_iff_toNat_le, notLow, notTwo, lead, starts, continues]

theorem pieces_four (starts : startsFour first second = true)
    (thirdContinues : isContinuation third = true) (fourthContinues : isContinuation fourth = true)
    (rest : Bytes) :
    pieces (first :: second :: third :: fourth :: rest) =
      .character (Char.ofNat (first.toNat % 0x08 * 0x40000 + payload second * 0x1000 +
        payload third * 0x40 + payload fourth)) :: pieces rest := by
  have lead : 0xF0 ≤ first.toNat ∧ first.toNat ≤ 0xF4 := by
    have ranges := startsFour_iff.mp starts
    omega
  have notLow : ¬first.toNat < 0x80 := by omega
  have notTwo : ¬first.toNat ≤ 0xDF := by omega
  have notThree : ¬first.toNat ≤ 0xEF := by omega
  rw [pieces.eq_def]
  simp [UInt8.lt_iff_toNat_lt, UInt8.le_iff_toNat_le, notLow, notTwo, notThree, lead, starts,
    thirdContinues, fourthContinues]

/-! ## Written characters -/

theorem toNat_ofNat {number : Nat} (small : number < 256) : (UInt8.ofNat number).toNat = number :=
  UInt8.toNat_ofNat_of_lt' small

/-- A continuation octet as it is written for six bits of a character. -/
theorem toNat_continuation (bits : Nat) :
    (UInt8.ofNat (bits % 64 + 128)).toNat = bits % 64 + 128 :=
  toNat_ofNat (by omega)

theorem isContinuation_ofNat (bits : Nat) :
    isContinuation (UInt8.ofNat (bits % 64 + 128)) = true := by
  rw [isContinuation_iff, toNat_continuation]
  omega

theorem payload_ofNat (bits : Nat) : payload (UInt8.ofNat (bits % 64 + 128)) = bits % 64 := by
  rw [payload, toNat_continuation]
  omega

theorem pieces_character (character : Char) (rest : Bytes) :
    pieces (String.utf8EncodeChar character ++ rest) = .character character :: pieces rest := by
  have value : Char.ofNat character.val.toNat = character := Char.ofNat_toNat character
  have valid : character.val.toNat < 0xD800 ∨
      0xDFFF < character.val.toNat ∧ character.val.toNat < 0x110000 := character.valid
  unfold String.utf8EncodeChar
  generalize character.val.toNat = code at value valid ⊢
  dsimp only
  split
  · have lead := toNat_ofNat (show code < 256 by omega)
    rw [List.singleton_append, pieces_one (by omega), lead, value]
  split
  · have lead := toNat_ofNat (show code / 64 % 32 + 192 < 256 by omega)
    have whole : (code / 64 % 32 + 192) % 0x20 * 0x40 + code % 64 = code := by omega
    rw [List.cons_append, List.singleton_append, pieces_two (by omega) (isContinuation_ofNat code),
      payload_ofNat, lead, whole, value]
  split
  · have lead := toNat_ofNat (show code / 4096 % 16 + 224 < 256 by omega)
    have starts : startsThree (UInt8.ofNat (code / 4096 % 16 + 224))
        (UInt8.ofNat (code / 64 % 64 + 128)) = true := by
      rw [startsThree_iff, lead, toNat_continuation]
      omega
    have whole : (code / 4096 % 16 + 224) % 0x10 * 0x1000 + code / 64 % 64 * 0x40 + code % 64 =
        code := by omega
    simp only [List.cons_append, List.nil_append]
    rw [pieces_three starts (isContinuation_ofNat code), payload_ofNat, payload_ofNat, lead, whole,
      value]
  · have lead := toNat_ofNat (show code / 262144 % 8 + 240 < 256 by omega)
    have starts : startsFour (UInt8.ofNat (code / 262144 % 8 + 240))
        (UInt8.ofNat (code / 4096 % 64 + 128)) = true := by
      rw [startsFour_iff, lead, toNat_continuation]
      omega
    have whole : (code / 262144 % 8 + 240) % 0x08 * 0x40000 + code / 4096 % 64 * 0x1000 +
        code / 64 % 64 * 0x40 + code % 64 = code := by omega
    simp only [List.cons_append, List.nil_append]
    rw [pieces_four starts (isContinuation_ofNat _) (isContinuation_ofNat code), payload_ofNat,
      payload_ofNat, payload_ofNat, lead, whole, value]

theorem pieces_encode (text : List Char) : pieces (encode text) = text.map .character := by
  induction text with
  | nil => rfl
  | cons character text induction =>
      rw [encode, List.flatMap_cons, pieces_character, List.map_cons]
      exact congrArg _ induction

/-- Written text has no malformed part. -/
theorem decode?_encode (text : List Char) : decode? (encode text) = some text := by
  rw [decode?, pieces_encode]
  induction text with
  | nil => rfl
  | cons character text induction =>
      rw [List.map_cons, List.mapM_cons, induction]
      rfl

/-- Written text is read as it was. -/
theorem decodeLenient_encode (text : List Char) : decodeLenient (encode text) = text := by
  rw [decodeLenient, pieces_encode, List.map_map]
  exact List.map_id text

end HttpExchange.Utf8
