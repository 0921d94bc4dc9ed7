import HttpExchange.Proofs.HostPort
import HttpExchange.Request.Forwarding

/-! What can come of resolving the forwarding headers of a request. `Resolution` lists the
outcomes with all that has to hold for each of them, so that a fact about resolved requests is a
case analysis over this list. -/

namespace HttpExchange

/-! ## Address lists -/

namespace Text

inductive AddressCharacter (character : Char) : Prop
  | white (isWhite : isWhiteSpace character = true)
  | digit (isDigit : isDecimalDigit character = true)
  | lower (fromA : 'a' ≤ character) (toF : character ≤ 'f')
  | upper (fromA : 'A' ≤ character) (toF : character ≤ 'F')
  | mark (isMark : character ∈ [',', '.', ':', '/'])

theorem isAddressCharacter_iff (character : Char) :
    isAddressCharacter character = true ↔ AddressCharacter character := by
  simp only [isAddressCharacter, isHexLetter, Bool.or_eq_true, Bool.and_eq_true, beq_iff_eq,
    decide_eq_true_eq]
  constructor
  · intro accepted
    rcases accepted with ((((((white | digit) | lower | upper) | comma) | point) | colon) | slash)
    · exact .white white
    · exact .digit digit
    · exact .lower lower.1 lower.2
    · exact .upper upper.1 upper.2
    · exact .mark (by simp [comma])
    · exact .mark (by simp [point])
    · exact .mark (by simp [colon])
    · exact .mark (by simp [slash])
  · intro accepted
    cases accepted with
    | white isWhite => simp [isWhite]
    | digit isDigit => simp [isDigit]
    | lower fromA toF => simp [fromA, toF]
    | upper fromA toF => simp [fromA, toF]
    | mark isMark =>
        simp only [List.mem_cons, List.not_mem_nil, or_false] at isMark
        rcases isMark with rfl | rfl | rfl | rfl <;> simp

def IsAddressList (text : String) : Prop :=
  ∀ character ∈ text.toList, AddressCharacter character

theorem all_isAddressCharacter_iff (text : String) :
    text.toList.all isAddressCharacter = true ↔ IsAddressList text := by
  simp only [List.all_eq_true, isAddressCharacter_iff, IsAddressList]

end Text

/-! ## The terms of forwarding -/

/-- All that decides whether forwarding headers are followed, and to which host: the first values
of `X-Forwarded-For` and `X-Forwarded-Host`, and the host and the address that the transport has
seen. -/
structure Forwarding where
  client : Option String
  wantedHost : Option String
  host : String
  address : String

def RawRequest.forwarding (raw : RawRequest) : Forwarding where
  client := raw.headers.value? "x-forwarded-for"
  wantedHost := raw.headers.value? "x-forwarded-host"
  host := raw.host
  address := raw.remoteAddress

def Request.forwarding (request : Request) : Forwarding where
  client := request.headers.value? "x-forwarded-for"
  wantedHost := request.headers.value? "x-forwarded-host"
  host := request.host
  address := request.remoteAddress

namespace Forwarding

variable (forwarding : Forwarding) (configuration : Configuration)

/-- Forwarding headers count beside a client's address, where proxies can be trusted at all. -/
def Applies : Prop :=
  forwarding.client.isSome = true ∧ configuration.proxyTrust ≠ .disabled

instance : Decidable (forwarding.Applies configuration) :=
  inferInstanceAs (Decidable (_ ∧ _))

/-- The host that the request is for: where forwarding headers count, the configured one before
the one asked for in a header. -/
def settledHost : String :=
  if forwarding.Applies configuration then
    (configuration.forwardedHost.or forwarding.wantedHost).getD forwarding.host
  else forwarding.host

/-- Forwarding headers count, and an address that is not on the allow-list has sent them. -/
def IsRefused : Prop :=
  forwarding.Applies configuration ∧
    ∃ addresses, configuration.proxyTrust = .only addresses ∧ forwarding.address ∉ addresses

/-- Domain and port have to follow a host that is not the one seen by the transport. -/
def ChangesHost : Prop :=
  configuration.overwriteDomainAndPort = true ∧
    forwarding.settledHost configuration ≠ forwarding.host

/-- The host to follow has a colon, and what is behind it is not a port. -/
def HasMalformedPort : Prop :=
  forwarding.ChangesHost configuration ∧
    ∃ domain port, HostParts (forwarding.settledHost configuration).toList domain port ∧
      ¬∃ value ≤ 65535, Port.Numeral port value

def HasPortFault (fault : PortFault) : Prop :=
  forwarding.ChangesHost configuration ∧
    ∃ domain port, HostParts (forwarding.settledHost configuration).toList domain port ∧
      Port.read port = .error fault

/-- The client's address is `value`, and that is not an address list. -/
def SendsUnacceptable (value : String) : Prop :=
  forwarding.client = some value ∧ ¬Text.IsAddressList value

variable {forwarding configuration}

theorem HasPortFault.malformed {fault : PortFault}
    (faulty : forwarding.HasPortFault configuration fault) :
    forwarding.HasMalformedPort configuration := by
  rcases faulty with ⟨changes, domain, port, parts, read⟩
  exact ⟨changes, domain, port, parts, (Port.exists_read_eq_error_iff port).mp ⟨fault, read⟩⟩

theorem HasMalformedPort.exists_fault (malformed : forwarding.HasMalformedPort configuration) :
    ∃ fault, forwarding.HasPortFault configuration fault := by
  rcases malformed with ⟨changes, domain, port, parts, noNumeral⟩
  rcases (Port.exists_read_eq_error_iff port).mpr noNumeral with ⟨fault, read⟩
  exact ⟨fault, changes, domain, port, parts, read⟩

theorem HasPortFault.unique {fault other : PortFault}
    (faulty : forwarding.HasPortFault configuration fault)
    (otherFaulty : forwarding.HasPortFault configuration other) : fault = other := by
  rcases faulty with ⟨_, domain, port, parts, read⟩
  rcases otherFaulty with ⟨_, otherDomain, otherPort, otherParts, otherRead⟩
  rcases parts.unique otherParts with ⟨rfl, rfl⟩
  cases read.symm.trans otherRead
  rfl

end Forwarding

/-! ## Following a host -/

namespace Request

/-- All that can come of letting domain and port follow a host that was `formerHost`. -/
inductive HostFollowing (configuration : Configuration) (formerHost : String)
    (request : Request) : Request × Except Error Unit → Prop
  | kept
      (unchanged : ¬(configuration.overwriteDomainAndPort = true ∧ request.host ≠ formerHost)) :
      HostFollowing configuration formerHost request (request, .ok ())
  | portless
      (changed : configuration.overwriteDomainAndPort = true ∧ request.host ≠ formerHost)
      (noColon : ':' ∉ request.host.toList) :
      HostFollowing configuration formerHost request
        ({ request with domain := request.host, port := 80 }, .ok ())
  | ported {domain port : List Char} {number : UInt16}
      (changed : configuration.overwriteDomainAndPort = true ∧ request.host ≠ formerHost)
      (parts : HostParts request.host.toList domain port) (read : Port.read port = .ok number) :
      HostFollowing configuration formerHost request
        ({ request with domain := String.ofList domain, port := number }, .ok ())
  | malformed {domain port : List Char} {fault : PortFault}
      (changed : configuration.overwriteDomainAndPort = true ∧ request.host ≠ formerHost)
      (parts : HostParts request.host.toList domain port)
      (faulty : Port.read port = .error fault) :
      HostFollowing configuration formerHost request
        (request, .error (.malformedPort request.host fault))

theorem followChangedHost_following (request : Request) (configuration : Configuration)
    (formerHost : String) :
    HostFollowing configuration formerHost request
      (request.followChangedHost configuration formerHost) := by
  by_cases changed : configuration.overwriteDomainAndPort = true ∧ request.host ≠ formerHost
  · have follows : request.followChangedHost configuration formerHost = request.followHost := by
      simp [followChangedHost, changed]
    rw [follows, followHost]
    by_cases colon : ':' ∈ request.host.toList
    · rcases HostParts.exists_of_mem colon with ⟨domain, port, parts⟩
      rcases parts.splitOn_eq with ⟨rest, split⟩
      simp only [split]
      cases read : Port.read port with
      | ok number => exact .ported changed parts read
      | error fault => exact .malformed changed parts read
    · simp only [List.splitOn_eq_singleton colon]
      exact .portless changed colon
  · have stays : request.followChangedHost configuration formerHost = (request, .ok ()) := by
      rw [followChangedHost, if_neg (by simpa using changed)]
    rw [stays]
    exact .kept changed

theorem HostFollowing.of_ok {configuration : Configuration} {formerHost : String}
    {request : Request} {outcome : Request × Except Error Unit}
    (following : HostFollowing configuration formerHost request outcome)
    (succeeds : outcome.2 = .ok ()) :
    outcome.1 =
        { request with domain := outcome.1.domain, port := outcome.1.port } ∧
      (configuration.overwriteDomainAndPort = true ∧ request.host ≠ formerHost →
        NamedByHost request.host outcome.1.domain outcome.1.port) ∧
      (¬(configuration.overwriteDomainAndPort = true ∧ request.host ≠ formerHost) →
        outcome.1.domain = request.domain ∧ outcome.1.port = request.port) := by
  cases following with
  | kept unchanged => exact ⟨rfl, fun changed => absurd changed unchanged, fun _ => ⟨rfl, rfl⟩⟩
  | portless changed noColon =>
      exact ⟨rfl, fun _ => .of_no_colon noColon, fun unchanged => absurd changed unchanged⟩
  | ported changed parts read =>
      exact ⟨rfl, fun _ => .of_parts parts read, fun unchanged => absurd changed unchanged⟩
  | malformed => cases succeeds

theorem HostFollowing.eq_with_place {configuration : Configuration} {formerHost : String}
    {request : Request} {outcome : Request × Except Error Unit}
    (following : HostFollowing configuration formerHost request outcome) :
    outcome.1 = { request with domain := outcome.1.domain, port := outcome.1.port } := by
  cases following <;> rfl

theorem HostFollowing.of_same_host {configuration : Configuration} {request : Request}
    {outcome : Request × Except Error Unit}
    (following : HostFollowing configuration request.host request outcome) :
    outcome = (request, .ok ()) := by
  cases following with
  | kept => rfl
  | portless changed => exact absurd rfl changed.2
  | ported changed => exact absurd rfl changed.2
  | malformed changed => exact absurd rfl changed.2

/-- A change in parts of a request that following its host neither reads nor writes. -/
structure LeavesHost (change : Request → Request) : Prop where
  host : ∀ request, (change request).host = request.host
  place : ∀ request domain port,
    change { request with domain, port } =
      { change request with host := request.host, domain, port }

theorem LeavesHost.followChangedHost {change : Request → Request} (leaves : LeavesHost change)
    (request : Request) (configuration : Configuration) (formerHost : String) :
    (change request).followChangedHost configuration formerHost =
      (change (request.followChangedHost configuration formerHost).1,
        (request.followChangedHost configuration formerHost).2) := by
  simp only [Request.followChangedHost, followHost, leaves.host]
  split
  · split
    · split
      · exact Prod.ext (leaves.place request _ _).symm rfl
      · rfl
    · exact Prod.ext (leaves.place request _ _).symm rfl
  · rfl

/-! ## Resolving forwarding headers -/

inductive Resolution (configuration : Configuration) (request : Request) :
    Request × Except Error Unit → Prop
  | ignored (ignores : ¬request.forwarding.Applies configuration) :
      Resolution configuration request (request, .ok ())
  | refused (refuses : request.forwarding.IsRefused configuration) :
      Resolution configuration request
        (request, .error (.untrustedProxy request.remoteAddress))
  | followed {client : String} {outcome : Request × Except Error Unit}
      (sent : request.forwarding.client = some client)
      (trusted : configuration.proxyTrust.accepts request.remoteAddress = true)
      (following : HostFollowing configuration request.host
        (request.acceptForwarding configuration client) outcome) :
      Resolution configuration request outcome

theorem resolveForwarding_resolution (request : Request) (configuration : Configuration) :
    Resolution configuration request (request.resolveForwarding configuration) := by
  have unchanged : request.followChangedHost configuration request.host = (request, .ok ()) := by
    simp [followChangedHost]
  cases sent : request.headers.value? "x-forwarded-for" with
  | none =>
      have ignores : ¬request.forwarding.Applies configuration := by
        simp [Forwarding.Applies, forwarding, sent]
      simp only [resolveForwarding, sent, unchanged]
      exact .ignored ignores
  | some client =>
      cases trust : configuration.proxyTrust with
      | disabled =>
          simp only [resolveForwarding, sent, trust, unchanged]
          exact .ignored fun applies => applies.2 trust
      | all =>
          simp only [resolveForwarding, sent, trust, ProxyTrust.accepts, if_true]
          exact .followed sent (by rw [trust]; rfl) (followChangedHost_following _ _ _)
      | only addresses =>
          by_cases listed : request.remoteAddress ∈ addresses
          · have trusted : (ProxyTrust.only addresses).accepts request.remoteAddress = true :=
              decide_eq_true listed
            simp only [resolveForwarding, sent, trust, trusted, if_true]
            exact .followed sent (by rw [trust, trusted]) (followChangedHost_following _ _ _)
          · have stranger : (ProxyTrust.only addresses).accepts request.remoteAddress = false :=
              decide_eq_false listed
            have applies : request.forwarding.Applies configuration :=
              ⟨Option.isSome_of_eq_some sent, by simp [trust]⟩
            simp only [resolveForwarding, sent, trust, stranger, Bool.false_eq_true, if_false]
            exact .refused ⟨applies, addresses, trust, listed⟩

theorem applies_of_trusted {request : Request} {configuration : Configuration} {client : String}
    (sent : request.forwarding.client = some client)
    (trusted : configuration.proxyTrust.accepts request.remoteAddress = true) :
    request.forwarding.Applies configuration := by
  refine ⟨Option.isSome_of_eq_some sent, fun disabled => ?_⟩
  rw [disabled] at trusted
  cases trusted

theorem not_isRefused_of_trusted {request : Request} {configuration : Configuration}
    (trusted : configuration.proxyTrust.accepts request.remoteAddress = true) :
    ¬request.forwarding.IsRefused configuration := by
  intro refused
  rcases refused with ⟨_, addresses, trust, stranger⟩
  rw [trust] at trusted
  exact stranger (of_decide_eq_true trusted)

theorem settledHost_of_not_applies {request : Request} {configuration : Configuration}
    (ignores : ¬request.forwarding.Applies configuration) :
    request.forwarding.settledHost configuration = request.host :=
  if_neg ignores

theorem host_acceptForwarding {request : Request} {configuration : Configuration}
    (applies : request.forwarding.Applies configuration) (client : String) :
    (request.acceptForwarding configuration client).host =
      request.forwarding.settledHost configuration :=
  (if_pos applies).symm

/-- A change that leaves the host, and makes no difference to what is accepted from whom, makes
none to what is resolved. -/
theorem LeavesHost.resolveForwarding {change : Request → Request} (leaves : LeavesHost change)
    {request : Request} {configuration : Configuration}
    (client : (change request).headers.value? "x-forwarded-for" =
      request.headers.value? "x-forwarded-for")
    (address : (change request).remoteAddress = request.remoteAddress)
    (accepted : ∀ client, (change request).acceptForwarding configuration client =
      change (request.acceptForwarding configuration client)) :
    (change request).resolveForwarding configuration =
      (change (request.resolveForwarding configuration).1,
        (request.resolveForwarding configuration).2) := by
  have following := leaves.followChangedHost request configuration request.host
  simp only [Request.resolveForwarding, client, address, accepted, leaves.host]
  cases request.headers.value? "x-forwarded-for" with
  | none => exact following
  | some sender =>
      cases configuration.proxyTrust with
      | disabled => exact following
      | _ =>
          dsimp only
          split
          · exact leaves.followChangedHost _ configuration request.host
          · rfl

namespace Resolution

variable {configuration : Configuration} {request : Request}
  {outcome : Request × Except Error Unit}

/-- Resolving changes the identity of a request at most. -/
theorem eq_with_identity (resolution : Resolution configuration request outcome) :
    outcome.1 =
      { request with
        host := outcome.1.host
        domain := outcome.1.domain
        port := outcome.1.port
        remoteAddress := outcome.1.remoteAddress
        secure := outcome.1.secure } := by
  cases resolution with
  | ignored => rfl
  | refused => rfl
  | followed sent trusted following => cases following <;> rfl

theorem headers_eq (resolution : Resolution configuration request outcome) :
    outcome.1.headers = request.headers :=
  (congrArg Request.headers resolution.eq_with_identity :)

theorem of_ok (resolution : Resolution configuration request outcome)
    (succeeds : outcome.2 = .ok ()) :
    ¬request.forwarding.IsRefused configuration ∧
      ¬request.forwarding.HasMalformedPort configuration := by
  cases resolution with
  | ignored ignores =>
      refine ⟨fun refuses => ignores refuses.1, fun malformed => ?_⟩
      exact malformed.1.2 (settledHost_of_not_applies ignores)
  | refused => cases succeeds
  | @followed client _ sent trusted following =>
      refine ⟨not_isRefused_of_trusted trusted, ?_⟩
      intro malformed
      rcases malformed with ⟨changes, domain, port, parts, noNumeral⟩
      rw [Forwarding.ChangesHost] at changes
      rw [← host_acceptForwarding (applies_of_trusted sent trusted) client] at changes parts
      cases following with
      | kept unchanged => exact unchanged changes
      | portless changed noColon => exact noColon parts.mem
      | ported changed others read =>
          rcases parts.unique others with ⟨rfl, rfl⟩
          rcases (Port.exists_read_eq_error_iff port).mpr noNumeral with ⟨fault, faulty⟩
          cases read.symm.trans faulty
      | malformed => cases succeeds

theorem of_error {error : Error} (resolution : Resolution configuration request outcome)
    (fails : outcome.2 = .error error) :
    (error = .untrustedProxy request.remoteAddress ∧
        request.forwarding.IsRefused configuration) ∨
      ∃ fault, error = .malformedPort (request.forwarding.settledHost configuration) fault ∧
        ¬request.forwarding.IsRefused configuration ∧
        request.forwarding.HasPortFault configuration fault := by
  cases resolution with
  | ignored => cases fails
  | refused refuses =>
      cases fails
      exact .inl ⟨rfl, refuses⟩
  | followed sent trusted following =>
      cases following with
      | kept => cases fails
      | portless => cases fails
      | ported => cases fails
      | malformed changed parts faulty =>
          cases fails
          rw [host_acceptForwarding (applies_of_trusted sent trusted)] at changed parts ⊢
          exact .inr ⟨_, rfl, not_isRefused_of_trusted trusted, changed, _, _, parts, faulty⟩

theorem refuses_iff (resolution : Resolution configuration request outcome) :
    outcome.2 = .error (.untrustedProxy request.remoteAddress) ↔
      request.forwarding.IsRefused configuration := by
  constructor
  · intro fails
    rcases resolution.of_error fails with ⟨_, refused⟩ | ⟨_, malformed, _⟩
    · exact refused
    · cases malformed
  · intro refused
    cases resolution with
    | ignored ignores => exact absurd refused.1 ignores
    | refused => rfl
    | followed sent trusted => exact absurd refused (not_isRefused_of_trusted trusted)

end Resolution

end Request

end HttpExchange
