import HttpExchange.Bytes.Base64
import HttpExchange.Proofs.Trimming

/-! Octets as Base64 text and back. Every octet string has exactly one text, and readers accept
exactly these texts. -/

namespace HttpExchange.Base64

/-! ## Symbols -/

theorem sextet?_symbol {sextet : Nat} (small : sextet < 64) :
    sextet? (symbol sextet) = some sextet := by
  have all : ∀ sextet < 64, sextet? (symbol sextet) = some sextet := by decide +kernel
  exact all sextet small

theorem sextet?_eq_none {character : Char} (high : 'z'.toNat < character.toNat) :
    sextet? character = none := by
  have notPlus : character ≠ '+' := by
    rintro rfl
    cases Nat.lt_asymm high (by decide)
  have notSlash : character ≠ '/' := by
    rintro rfl
    cases Nat.lt_asymm high (by decide)
  have upper : ¬character.toNat ≤ 'Z'.toNat := Nat.not_le.mpr (Nat.lt_trans (by decide) high)
  have lower : ¬character.toNat ≤ 'z'.toNat := Nat.not_le.mpr high
  have digit : ¬character.toNat ≤ '9'.toNat := Nat.not_le.mpr (Nat.lt_trans (by decide) high)
  simp only [sextet?, upper, lower, digit, and_false, if_false, notPlus, notSlash]

theorem symbol_of_sextet? {character : Char} {sextet : Nat}
    (found : sextet? character = some sextet) : sextet < 64 ∧ symbol sextet = character := by
  have all : ∀ code ≤ 'z'.toNat, (sextet? (Char.ofNat code)).all fun sextet =>
      sextet < 64 ∧ symbol sextet = Char.ofNat code := by decide +kernel
  by_cases low : character.toNat ≤ 'z'.toNat
  · have checked := all character.toNat low
    rw [Char.ofNat_toNat, found] at checked
    simpa using checked
  · rw [sextet?_eq_none (Nat.lt_of_not_le low)] at found
    cases found

theorem sextet?_eq_some_iff {character : Char} {sextet : Nat} :
    sextet? character = some sextet ↔ sextet < 64 ∧ symbol sextet = character := by
  constructor
  · exact symbol_of_sextet?
  · rintro ⟨small, rfl⟩
    exact sextet?_symbol small

theorem symbol_ne_pad {sextet : Nat} (small : sextet < 64) : symbol sextet ≠ '=' := by
  intro same
  have found := sextet?_symbol small
  rw [same] at found
  cases found

/-! ## Groups of characters -/

theorem toNat_ofNat {number : Nat} (small : number < 256) : (UInt8.ofNat number).toNat = number :=
  UInt8.toNat_ofNat_of_lt' small

theorem ofNat_eq (octet : UInt8) {number : Nat} (same : number = octet.toNat) :
    UInt8.ofNat number = octet := by
  rw [same, UInt8.ofNat_toNat]

theorem oneOctet?_eq_some_iff {first second : Char} {octets : Bytes} :
    oneOctet? first second = some octets ↔
      ∃ a : UInt8, octets = [a] ∧
        first = symbol (a.toNat / 4) ∧ second = symbol (a.toNat % 4 * 16) := by
  simp only [oneOctet?, Option.bind_eq_bind, Option.bind_eq_some_iff, sextet?_eq_some_iff]
  constructor
  · rintro ⟨high, ⟨highSmall, rfl⟩, low, ⟨lowSmall, rfl⟩, found⟩
    split at found
    · have value := toNat_ofNat (show high * 4 + low / 16 < 256 by omega)
      refine ⟨_, (Option.some.inj found).symm, ?_, ?_⟩ <;> congr 1 <;> omega
    · cases found
  · rintro ⟨a, rfl, rfl, rfl⟩
    have bound := a.toNat_lt
    refine ⟨_, ⟨by omega, rfl⟩, _, ⟨by omega, rfl⟩, ?_⟩
    rw [if_pos (by omega), ofNat_eq a (by omega)]

theorem twoOctets?_eq_some_iff {first second third : Char} {octets : Bytes} :
    twoOctets? first second third = some octets ↔
      ∃ a b : UInt8, octets = [a, b] ∧
        first = symbol (a.toNat / 4) ∧ second = symbol (a.toNat % 4 * 16 + b.toNat / 16) ∧
        third = symbol (b.toNat % 16 * 4) := by
  simp only [twoOctets?, Option.bind_eq_bind, Option.bind_eq_some_iff, sextet?_eq_some_iff]
  constructor
  · rintro ⟨high, ⟨highSmall, rfl⟩, middle, ⟨middleSmall, rfl⟩, low, ⟨lowSmall, rfl⟩, found⟩
    split at found
    · have aValue := toNat_ofNat (show high * 4 + middle / 16 < 256 by omega)
      have bValue := toNat_ofNat (show middle % 16 * 16 + low / 4 < 256 by omega)
      refine ⟨_, _, (Option.some.inj found).symm, ?_, ?_, ?_⟩ <;> congr 1 <;> omega
    · cases found
  · rintro ⟨a, b, rfl, rfl, rfl, rfl⟩
    have aBound := a.toNat_lt
    have bBound := b.toNat_lt
    refine ⟨_, ⟨by omega, rfl⟩, _, ⟨by omega, rfl⟩, _, ⟨by omega, rfl⟩, ?_⟩
    rw [if_pos (by omega), ofNat_eq a (by omega), ofNat_eq b (by omega)]

theorem threeOctets?_eq_some_iff {first second third fourth : Char} {octets : Bytes} :
    threeOctets? first second third fourth = some octets ↔
      ∃ a b c : UInt8, octets = [a, b, c] ∧
        first = symbol (a.toNat / 4) ∧ second = symbol (a.toNat % 4 * 16 + b.toNat / 16) ∧
        third = symbol (b.toNat % 16 * 4 + c.toNat / 64) ∧ fourth = symbol (c.toNat % 64) := by
  simp only [threeOctets?, Option.bind_eq_bind, Option.bind_eq_some_iff, sextet?_eq_some_iff]
  constructor
  · rintro ⟨s, ⟨sSmall, rfl⟩, t, ⟨tSmall, rfl⟩, u, ⟨uSmall, rfl⟩, v, ⟨vSmall, rfl⟩, found⟩
    have aValue := toNat_ofNat (show s * 4 + t / 16 < 256 by omega)
    have bValue := toNat_ofNat (show t % 16 * 16 + u / 4 < 256 by omega)
    have cValue := toNat_ofNat (show u % 4 * 64 + v < 256 by omega)
    refine ⟨_, _, _, (Option.some.inj found).symm, ?_, ?_, ?_, ?_⟩ <;> congr 1 <;> omega
  · rintro ⟨a, b, c, rfl, rfl, rfl, rfl, rfl⟩
    have aBound := a.toNat_lt
    have bBound := b.toNat_lt
    have cBound := c.toNat_lt
    refine ⟨_, ⟨by omega, rfl⟩, _, ⟨by omega, rfl⟩, _, ⟨by omega, rfl⟩, _, ⟨by omega, rfl⟩, ?_⟩
    rw [ofNat_eq a (by omega), ofNat_eq b (by omega),
      ofNat_eq c (by omega)]

/-! ## Whole texts -/

theorem decode?_two {first second third : Char} (unpadded : third ≠ '=') :
    decode? [first, second, third, '='] = twoOctets? first second third := by
  rw [decode?]
  exact unpadded

theorem decode?_three {first second third fourth : Char} (unpadded : fourth ≠ '=')
    (rest : List Char) :
    decode? (first :: second :: third :: fourth :: rest) =
      (threeOctets? first second third fourth).bind fun octets =>
        (decode? rest).map (octets ++ ·) := by
  rw [decode?]
  · cases threeOctets? first second third fourth <;> cases decode? rest <;> rfl
  · rintro - rfl
    exact absurd rfl unpadded
  · rintro rfl
    exact absurd rfl unpadded

theorem encode_of_decode? {text : List Char} {octets : Bytes} (found : decode? text = some octets) :
    encode octets = text := by
  fun_induction decode? text generalizing octets with
  | case1 =>
      cases found
      rfl
  | case2 first second =>
      rcases oneOctet?_eq_some_iff.mp found with ⟨a, rfl, rfl, rfl⟩
      rfl
  | case3 first second third =>
      rcases twoOctets?_eq_some_iff.mp found with ⟨a, b, rfl, rfl, rfl, rfl⟩
      rfl
  | case4 first second third fourth rest _ _ induction =>
      simp only [Option.bind_eq_bind, Option.bind_eq_some_iff, Option.some.injEq] at found
      rcases found with ⟨group, groupFound, others, othersFound, rfl⟩
      rcases threeOctets?_eq_some_iff.mp groupFound with ⟨a, b, c, rfl, rfl, rfl, rfl, rfl⟩
      rw [← induction othersFound]
      rfl
  | case5 => cases found

theorem decode?_encode (octets : Bytes) : decode? (encode octets) = some octets := by
  fun_induction encode octets with
  | case1 => rfl
  | case2 a => exact oneOctet?_eq_some_iff.mpr ⟨a, rfl, rfl, rfl⟩
  | case3 a b =>
      have bound := b.toNat_lt
      rw [decode?_two (symbol_ne_pad (by omega))]
      exact twoOctets?_eq_some_iff.mpr ⟨a, b, rfl, rfl, rfl, rfl⟩
  | case4 a b c rest induction =>
      have group : threeOctets? _ _ _ _ = some [a, b, c] :=
        threeOctets?_eq_some_iff.mpr ⟨a, b, c, rfl, rfl, rfl, rfl, rfl⟩
      rw [decode?_three (symbol_ne_pad (by omega)), group, induction]
      rfl

/-- A text is read exactly if it is the one that the octets are written as. -/
theorem decode?_eq_some_iff {text : List Char} {octets : Bytes} :
    decode? text = some octets ↔ text = encode octets := by
  constructor
  · exact fun found => (encode_of_decode? found).symm
  · rintro rfl
    exact decode?_encode octets

/-! ## White space -/

theorem symbol_visible {sextet : Nat} (small : sextet < 64) :
    Text.isWhiteSpace (symbol sextet) = false := by
  have all : ∀ sextet < 64, Text.isWhiteSpace (symbol sextet) = false := by decide +kernel
  exact all sextet small

theorem encode_visible (octets : Bytes) :
    ∀ character ∈ encode octets, Text.isWhiteSpace character = false := by
  have pad : Text.isWhiteSpace '=' = false := by decide
  fun_induction encode octets with
  | case1 => simp
  | case2 a =>
      have aBound := a.toNat_lt
      simp only [List.forall_mem_cons]
      exact ⟨symbol_visible (by omega), symbol_visible (by omega), pad, pad, by simp⟩
  | case3 a b =>
      have aBound := a.toNat_lt
      have bBound := b.toNat_lt
      simp only [List.forall_mem_cons]
      exact ⟨symbol_visible (by omega), symbol_visible (by omega), symbol_visible (by omega), pad,
        by simp⟩
  | case4 a b c rest induction =>
      have aBound := a.toNat_lt
      have bBound := b.toNat_lt
      have cBound := c.toNat_lt
      simp only [List.forall_mem_cons]
      exact ⟨symbol_visible (by omega), symbol_visible (by omega), symbol_visible (by omega),
        symbol_visible (by omega), induction⟩

theorem trim_encode (octets : Bytes) : Text.trim (encode octets) = encode octets :=
  Text.trim_of_no_space (encode_visible octets)

end HttpExchange.Base64
