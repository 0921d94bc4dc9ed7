import HttpExchange.Proofs.Request.Forwarding

/-! Hosts that domain and port follow: how much of a new host they tell, and which hosts are
refused. -/

namespace HttpExchange

theorem Port.Numeral.colon_not_mem {text : List Char} {value : Nat} (numeral : Numeral text value) :
    ':' ∉ text := by
  have digits : ∀ text : List Char, (∀ digit ∈ text, digit.isDigit = true) → ':' ∉ text :=
    fun text decimal member => absurd (decimal ':' member) (by decide)
  cases numeral with
  | plain _ decimal => exact digits text decimal
  | signed _ decimal =>
      rw [List.mem_cons, not_or]
      exact ⟨by decide, digits _ decimal⟩

/-! ## Readings of a host -/

/-- What domain and port take from a host, and what they drop: a host without a colon is a domain,
and in any other the port's numeral stands behind the first colon, up to the next one. Nothing
from there on is looked at. -/
inductive HostReading : (host domain : List Char) → (port : UInt16) → (dropped : List Char) → Prop
  | portless {host : List Char} (noColon : ':' ∉ host) : HostReading host host 80 []
  | ported {domain numeral : List Char} {port : UInt16} (first : ':' ∉ domain)
      (isPort : Port.Numeral numeral port.toNat) :
      HostReading (domain ++ ':' :: numeral) domain port []
  | crowded {domain numeral : List Char} {port : UInt16} (first : ':' ∉ domain)
      (isPort : Port.Numeral numeral port.toNat) (rest : List Char) :
      HostReading (domain ++ ':' :: (numeral ++ ':' :: rest)) domain port (':' :: rest)

namespace HostReading

variable {host domain dropped : List Char} {port : UInt16}

theorem of_parts {text : List Char} (parts : HostParts host domain text)
    (isPort : Port.Numeral text port.toNat) : ∃ dropped, HostReading host domain port dropped := by
  cases parts with
  | last first _ => exact ⟨[], .ported first isPort⟩
  | followed first _ rest => exact ⟨':' :: rest, .crowded first isPort rest⟩

theorem of_named {host domain : String} (named : NamedByHost host domain port) :
    ∃ dropped, HostReading host.toList domain.toList port dropped := by
  by_cases colon : ':' ∈ host.toList
  · rcases HostParts.exists_of_mem colon with ⟨before, behind, parts⟩
    rcases named.1 before behind parts with ⟨rfl, isPort⟩
    exact of_parts parts isPort
  · rcases named.2 colon with ⟨rfl, rfl⟩
    exact ⟨[], .portless colon⟩

/-- A host can be read unless the text where its port stands is not a port. -/
theorem exists_iff (host : List Char) :
    (∃ domain port dropped, HostReading host domain port dropped) ↔
      ∀ domain text, HostParts host domain text → ∃ value ≤ 65535, Port.Numeral text value := by
  constructor
  · rintro ⟨domain, port, dropped, reading⟩ other text parts
    have bound : port.toNat ≤ 65535 := Nat.le_of_lt_succ port.toNat_lt
    cases reading with
    | portless noColon => exact absurd parts.mem noColon
    | ported first isPort =>
        rcases parts.unique (.last first isPort.colon_not_mem) with ⟨rfl, rfl⟩
        exact ⟨port.toNat, bound, isPort⟩
    | crowded first isPort rest =>
        rcases parts.unique (.followed first isPort.colon_not_mem rest) with ⟨rfl, rfl⟩
        exact ⟨port.toNat, bound, isPort⟩
  · intro numeral
    by_cases colon : ':' ∈ host
    · rcases HostParts.exists_of_mem colon with ⟨domain, text, parts⟩
      rcases numeral domain text parts with ⟨value, bound, isPort⟩
      have small : value < UInt16.size := Nat.lt_succ_of_le bound
      rw [← UInt16.toNat_ofNat_of_lt' small] at isPort
      exact ⟨domain, UInt16.ofNat value, of_parts parts isPort⟩
    · exact ⟨host, 80, [], .portless colon⟩

/-- Nothing is dropped of a host with one colon or none, and of any other something is. -/
theorem dropped_eq_nil_iff (reading : HostReading host domain port dropped) :
    dropped = [] ↔ host.count ':' ≤ 1 := by
  cases reading with
  | portless noColon => simp [List.count_eq_zero.mpr noColon]
  | ported first isPort =>
      simp [List.count_eq_zero.mpr first, List.count_eq_zero.mpr isPort.colon_not_mem]
  | crowded first isPort rest =>
      simp [List.count_eq_zero.mpr first, List.count_eq_zero.mpr isPort.colon_not_mem]

end HostReading

namespace Request

variable {request : Request} {configuration : Configuration}

/-! ## Following new hosts -/

theorem reading_of_resolved {resolved : Request}
    (overwrites : configuration.overwriteDomainAndPort = true)
    (succeeds : request.resolveForwarding configuration = (resolved, .ok ()))
    (changed : resolved.host ≠ request.host) :
    ∃ dropped, HostReading resolved.host.toList resolved.domain.toList resolved.port dropped := by
  have resolution := resolveForwarding_resolution request configuration
  rw [succeeds] at resolution
  cases resolution with
  | ignored => exact absurd rfl changed
  | @followed client _ sent trusted following =>
      rcases following.of_ok rfl with ⟨frame, named, _⟩
      have host : resolved.host = (request.acceptForwarding configuration client).host :=
        (congrArg Request.host frame :)
      rw [host] at changed ⊢
      exact HostReading.of_named (named ⟨overwrites, changed⟩)

theorem malformed_iff_no_reading
    (changes : request.forwarding.ChangesHost configuration) :
    request.forwarding.HasMalformedPort configuration ↔
      ¬∃ domain port dropped,
        HostReading (request.forwarding.settledHost configuration).toList domain port dropped := by
  simp only [HostReading.exists_iff, Forwarding.HasMalformedPort, Classical.not_forall,
    exists_prop]
  exact and_iff_right changes

theorem resolves_to_malformed_iff (accepted : ¬request.forwarding.IsRefused configuration) :
    (∃ fault, (request.resolveForwarding configuration).2 =
        .error (.malformedPort (request.forwarding.settledHost configuration) fault)) ↔
      request.forwarding.HasMalformedPort configuration := by
  have resolution := resolveForwarding_resolution request configuration
  constructor
  · rintro ⟨fault, fails⟩
    rcases resolution.of_error fails with ⟨_, refused⟩ | ⟨other, _, _, faulty⟩
    · exact absurd refused accepted
    · exact faulty.malformed
  · intro malformed
    cases outcome : (request.resolveForwarding configuration).2 with
    | ok value => exact absurd malformed (resolution.of_ok outcome).2
    | error error =>
        rcases resolution.of_error outcome with ⟨_, refused⟩ | ⟨fault, same, _⟩
        · exact absurd refused accepted
        · exact ⟨fault, congrArg Except.error same⟩

/-- Where domain and port follow a new host, they tell all of it if it has one colon or none: it is
the domain, with port 80, or the domain, a colon and the port's numeral. Of a host with more colons
they drop what stands behind the second one. A new host is refused exactly if it has no port where
one should be. -/
theorem followed_host_reading (request : Request) (configuration : Configuration)
    (overwrites : configuration.overwriteDomainAndPort = true) :
    (∀ resolved, request.resolveForwarding configuration = (resolved, .ok ()) →
      resolved.host ≠ request.host →
      ∃ dropped,
        HostReading resolved.host.toList resolved.domain.toList resolved.port dropped ∧
        (dropped = [] ↔ resolved.host.toList.count ':' ≤ 1)) ∧
    (¬request.forwarding.IsRefused configuration →
      request.forwarding.settledHost configuration ≠ request.host →
      ((∃ fault, (request.resolveForwarding configuration).2 =
          .error (.malformedPort (request.forwarding.settledHost configuration) fault)) ↔
        ¬∃ domain port dropped,
          HostReading (request.forwarding.settledHost configuration).toList domain port
            dropped)) := by
  constructor
  · intro resolved succeeds changed
    rcases reading_of_resolved overwrites succeeds changed with ⟨dropped, reading⟩
    exact ⟨dropped, reading, reading.dropped_eq_nil_iff⟩
  · intro accepted changes
    rw [resolves_to_malformed_iff accepted]
    exact malformed_iff_no_reading ⟨overwrites, changes⟩

/-- Settings that let domain and port follow the host that any proxy tells. -/
def followsAll : Configuration where
  forwardedSupport := some "all"
  overwriteDomainAndPort := true

/-- A request that a proxy has passed on for this host. -/
def passedOnFor (host : String) : Request :=
  let headers := Headers.ofPairs
    [("X-Forwarded-For", "203.0.113.7"), ("X-Forwarded-Host", host)]
  ofRaw { headers } followsAll

theorem resolveForwarding_crowded :
    ∃ resolved, (passedOnFor "example.com:8443:9000").resolveForwarding followsAll =
        (resolved, .ok ()) ∧
      resolved.host = "example.com:8443:9000" ∧ resolved.domain = "example.com" ∧
      resolved.host ≠ (passedOnFor "example.com:8443:9000").host := by
  refine ⟨_, Prod.ext rfl ?_, ?_⟩
  · rfl
  · decide +kernel

/-- Of a host with two colons the text behind the second is dropped. A bracketed address is
refused, since no port stands between its first two colons. -/
theorem followed_host_reading_crowded :
    (∃ resolved dropped,
      (passedOnFor "example.com:8443:9000").resolveForwarding followsAll = (resolved, .ok ()) ∧
      HostReading resolved.host.toList resolved.domain.toList resolved.port dropped ∧
      dropped ≠ []) ∧
    ∃ fault, ((passedOnFor "[::1]:8443").resolveForwarding followsAll).2 =
      .error (.malformedPort "[::1]:8443" fault) := by
  constructor
  · rcases resolveForwarding_crowded with ⟨resolved, succeeds, host, _, changed⟩
    rcases (followed_host_reading _ followsAll rfl).1 resolved succeeds changed
      with ⟨dropped, reading, whole⟩
    refine ⟨resolved, dropped, succeeds, reading, ?_⟩
    intro nothing
    rw [host] at whole
    exact absurd (whole.mp nothing) (by decide +kernel)
  · have accepted : ¬(passedOnFor "[::1]:8443").forwarding.IsRefused followsAll := by
      intro refused
      rcases refused with ⟨_, addresses, trust, _⟩
      cases trust
    have settled :
        (passedOnFor "[::1]:8443").forwarding.settledHost followsAll = "[::1]:8443" := by
      decide +kernel
    have changes : "[::1]:8443" ≠ (passedOnFor "[::1]:8443").host := by decide +kernel
    have unread : ¬∃ domain port dropped,
        HostReading "[::1]:8443".toList domain port dropped := by
      rw [HostReading.exists_iff]
      intro allPorts
      have parts : HostParts ("[".toList ++ ':' :: ([] ++ ':' :: "1]:8443".toList)) "[".toList [] :=
        .followed (by decide) (by decide) _
      exact (Port.exists_read_eq_error_iff []).mp ⟨.empty, rfl⟩ (allPorts _ _ parts)
    have refusal := (followed_host_reading (passedOnFor "[::1]:8443") followsAll rfl).2 accepted
    rw [settled] at refusal
    exact (refusal changes).mpr unread

/-- Domain and port can follow a new host and drop part of it. -/
theorem not_all_followed_hosts_are_whole :
    ¬∀ (request : Request) (configuration : Configuration) (resolved : Request),
      configuration.overwriteDomainAndPort = true →
      request.resolveForwarding configuration = (resolved, .ok ()) →
      resolved.host ≠ request.host →
      (':' ∉ resolved.host.toList ∧ resolved.domain = resolved.host ∧ resolved.port = 80) ∨
        ∃ numeral, Port.Numeral numeral resolved.port.toNat ∧
          resolved.host.toList = resolved.domain.toList ++ ':' :: numeral := by
  intro all
  rcases resolveForwarding_crowded with ⟨resolved, succeeds, host, domain, changed⟩
  rcases all _ followsAll resolved rfl succeeds changed
    with ⟨noColon, _⟩ | ⟨numeral, isPort, shape⟩
  · rw [host] at noColon
    exact noColon (by decide +kernel)
  · rw [host, domain] at shape
    have aligned : "example.com:".toList ++ "8443:9000".toList =
        "example.com:".toList ++ numeral := shape
    rw [← List.append_cancel_left aligned] at isPort
    exact isPort.colon_not_mem (by decide)

end Request

end HttpExchange
