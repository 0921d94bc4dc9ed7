import HttpExchange.Port

/-! Ports behind the first colon of a host: which texts are port numbers, and where in a host the
port stands. Readers of ports and hosts agree with these descriptions. -/

namespace HttpExchange

/-! ## Port numerals -/

namespace Port

/-- The numerals of ports: one or more ASCII digits, with or without a plus sign before them. -/
inductive Numeral : (text : List Char) → (value : Nat) → Prop
  | plain {digits : List Char} (nonempty : digits ≠ [])
      (decimal : ∀ digit ∈ digits, digit.isDigit = true) :
      Numeral digits (Text.decimalValue digits)
  | signed {digits : List Char} (nonempty : digits ≠ [])
      (decimal : ∀ digit ∈ digits, digit.isDigit = true) :
      Numeral ('+' :: digits) (Text.decimalValue digits)

theorem le_ofDigitChars (digits : List Char) (value : Nat) :
    value ≤ Nat.ofDigitChars 10 digits value := by
  rw [Nat.ofDigitChars_eq_ofDigitChars_zero]
  calc
    value = 1 * value := (Nat.one_mul value).symm
    _ ≤ 10 ^ digits.length * value :=
      Nat.mul_le_mul_right value (Nat.pow_pos (by decide))
    _ ≤ 10 ^ digits.length * value + Nat.ofDigitChars 10 digits 0 := Nat.le_add_right _ _

/-- The check of every partial value comes to a check of the last one, since a further digit
never makes a value smaller. -/
theorem readDigits_eq_ok_iff (digits : List Char) {value : Nat} (bound : value < UInt16.size)
    (number : Nat) :
    readDigits value digits = .ok number ↔
      (∀ digit ∈ digits, digit.isDigit = true) ∧ Nat.ofDigitChars 10 digits value = number ∧
        number < UInt16.size := by
  induction digits generalizing value with
  | nil =>
      simp only [readDigits, Nat.ofDigitChars_nil, Except.ok.injEq]
      constructor
      · intro same
        cases same
        exact ⟨by simp, rfl, bound⟩
      · exact fun holds => holds.2.1
  | cons digit rest induction =>
      have step : value * 10 + Text.decimalValue [digit] =
          10 * value + (digit.toNat - '0'.toNat) := by
        simp only [Text.decimalValue, Nat.ofDigitChars_cons, Nat.ofDigitChars_nil]
        omega
      rw [readDigits, Nat.ofDigitChars_cons, ← step]
      by_cases decimal : digit.isDigit = true
      · by_cases fits : value * 10 + Text.decimalValue [digit] < UInt16.size
        · simp [decimal, fits, induction fits]
        · have grows := le_ofDigitChars rest (value * 10 + Text.decimalValue [digit])
          simp only [decimal, fits, if_true, if_false, reduceCtorEq, false_iff]
          intro holds
          rcases holds with ⟨_, total, small⟩
          omega
      · simp [decimal]

theorem map_readDigits_eq_ok_iff (digits : List Char) (port : UInt16) :
    (readDigits 0 digits).map UInt16.ofNat = .ok port ↔
      (∀ digit ∈ digits, digit.isDigit = true) ∧ Text.decimalValue digits = port.toNat := by
  have reading := readDigits_eq_ok_iff digits (show 0 < UInt16.size by decide)
  constructor
  · intro read
    cases digitsRead : readDigits 0 digits with
    | error fault => simp [digitsRead, Except.map] at read
    | ok number =>
        rcases (reading number).mp digitsRead with ⟨decimal, total, small⟩
        simp only [digitsRead, Except.map, Except.ok.injEq] at read
        refine ⟨decimal, total.trans ?_⟩
        rw [← read, UInt16.toNat_ofNat_of_lt' small]
  · intro holds
    rcases holds with ⟨decimal, total⟩
    rw [(reading port.toNat).mpr ⟨decimal, total, port.toNat_lt⟩]
    simp [Except.map]

theorem read_signed {digits : List Char} (nonempty : digits ≠ []) :
    read ('+' :: digits) = (readDigits 0 digits).map UInt16.ofNat := by
  cases digits with
  | nil => exact absurd rfl nonempty
  | cons digit rest => rfl

theorem read_unsigned {text : List Char} (nonempty : text ≠ []) (unsigned : text.head? ≠ some '+') :
    read text = (readDigits 0 text).map UInt16.ofNat := by
  unfold read
  split
  · exact absurd rfl nonempty
  · exact absurd rfl unsigned
  · exact absurd rfl unsigned
  · rfl

/-- A text is read as a port exactly when it is a numeral, and then as its value. -/
theorem read_eq_ok_iff (text : List Char) (port : UInt16) :
    read text = .ok port ↔ Numeral text port.toNat := by
  constructor
  · intro found
    by_cases signed : text.head? = some '+'
    · cases text with
      | nil => cases signed
      | cons first digits =>
          cases signed
          have nonempty : digits ≠ [] := by
            intro empty
            cases empty
            cases found
          rw [read_signed nonempty, map_readDigits_eq_ok_iff] at found
          exact found.2 ▸ .signed nonempty found.1
    · have nonempty : text ≠ [] := by
        intro empty
        cases empty
        cases found
      rw [read_unsigned nonempty signed, map_readDigits_eq_ok_iff] at found
      exact found.2 ▸ .plain nonempty found.1
  · intro numeral
    generalize same : port.toNat = value at numeral
    cases numeral with
    | plain nonempty decimal =>
        have unsigned : text.head? ≠ some '+' := fun plus =>
          absurd (decimal '+' (List.mem_of_mem_head? plus)) (by decide)
        rw [read_unsigned nonempty unsigned, map_readDigits_eq_ok_iff]
        exact ⟨decimal, same.symm⟩
    | signed nonempty decimal =>
        rw [read_signed nonempty, map_readDigits_eq_ok_iff]
        exact ⟨decimal, same.symm⟩

/-- Only numerals up to 65535 are ports; every other text has a fault. -/
theorem exists_read_eq_error_iff (text : List Char) :
    (∃ fault, read text = .error fault) ↔ ¬∃ value ≤ 65535, Numeral text value := by
  cases found : read text with
  | ok port =>
      have numeral := (read_eq_ok_iff text port).mp found
      have bound : port.toNat ≤ 65535 := Nat.le_of_lt_succ port.toNat_lt
      simp only [reduceCtorEq, exists_false, false_iff]
      exact fun malformed => malformed ⟨port.toNat, bound, numeral⟩
  | error fault =>
      simp only [Except.error.injEq, exists_eq', true_iff]
      intro numeral
      rcases numeral with ⟨value, bound, numeral⟩
      have small : value < UInt16.size := Nat.lt_succ_of_le bound
      have read := (read_eq_ok_iff text (UInt16.ofNat value)).mpr (by
        rw [UInt16.toNat_ofNat_of_lt' small]
        exact numeral)
      rw [found] at read
      cases read

end Port

/-! ## Hosts with a colon -/

/-- The cut of a host with a colon: `domain` stands before its first colon, and `port` between
that one and the next, or the end. -/
inductive HostParts : (host domain port : List Char) → Prop
  | last {domain port : List Char} (first : ':' ∉ domain) (single : ':' ∉ port) :
      HostParts (domain ++ ':' :: port) domain port
  | followed {domain port : List Char} (first : ':' ∉ domain) (next : ':' ∉ port)
      (rest : List Char) : HostParts (domain ++ ':' :: (port ++ ':' :: rest)) domain port

namespace HostParts

theorem exists_of_mem {host : List Char} (colon : ':' ∈ host) :
    ∃ domain port, HostParts host domain port := by
  rcases List.eq_append_cons_of_mem colon with ⟨domain, behind, rfl, first⟩
  by_cases more : ':' ∈ behind
  · rcases List.eq_append_cons_of_mem more with ⟨port, rest, rfl, next⟩
    exact ⟨domain, port, .followed first next rest⟩
  · exact ⟨domain, behind, .last first more⟩

theorem splitOn_eq {host domain port : List Char} (parts : HostParts host domain port) :
    ∃ rest, host.splitOn ':' = domain :: port :: rest := by
  cases parts with
  | last first single =>
      rw [List.splitOn_append_cons_self_of_not_mem first, List.splitOn_eq_singleton single]
      exact ⟨[], rfl⟩
  | followed first next rest =>
      rw [List.splitOn_append_cons_self_of_not_mem first,
        List.splitOn_append_cons_self_of_not_mem next]
      exact ⟨rest.splitOn ':', rfl⟩

theorem mem {host domain port : List Char} (parts : HostParts host domain port) : ':' ∈ host := by
  cases parts <;> simp

theorem unique {host domain port otherDomain otherPort : List Char}
    (parts : HostParts host domain port) (others : HostParts host otherDomain otherPort) :
    domain = otherDomain ∧ port = otherPort := by
  rcases parts.splitOn_eq with ⟨rest, split⟩
  rcases others.splitOn_eq with ⟨otherRest, otherSplit⟩
  rw [split] at otherSplit
  cases otherSplit
  exact ⟨rfl, rfl⟩

end HostParts

/-- Domain and port are the ones that a host names: what stands before its first colon and the
number behind it, or the whole host and 80 if it has no colon. -/
def NamedByHost (host domain : String) (port : UInt16) : Prop :=
  (∀ before behind, HostParts host.toList before behind →
    domain.toList = before ∧ Port.Numeral behind port.toNat) ∧
  (':' ∉ host.toList → domain = host ∧ port = 80)

theorem NamedByHost.of_parts {host : String} {domain behind : List Char} {port : UInt16}
    (parts : HostParts host.toList domain behind) (read : Port.read behind = .ok port) :
    NamedByHost host (String.ofList domain) port := by
  refine ⟨fun before other others => ?_, fun noColon => absurd parts.mem noColon⟩
  rcases parts.unique others with ⟨rfl, rfl⟩
  exact ⟨String.toList_ofList, (Port.read_eq_ok_iff behind port).mp read⟩

theorem NamedByHost.of_no_colon {host : String} (noColon : ':' ∉ host.toList) :
    NamedByHost host host 80 :=
  ⟨fun _ _ parts => absurd parts.mem noColon, fun _ => ⟨rfl, rfl⟩⟩

end HttpExchange
