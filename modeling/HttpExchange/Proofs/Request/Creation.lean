import HttpExchange.Proofs.Request.Forwarding
import HttpExchange.Request.Creation

/-! The derivation of a request: what its later steps keep, what a derived request is, and
exactly which failures there are. -/

namespace HttpExchange

/-! ## Steps behind forwarding -/

namespace Request

theorem resolveFormat_eq (request : Request) :
    request.resolveFormat =
      { request with
        format := request.format.or (Format.negotiate? (request.headers.value? "accept")) } := by
  rcases request with ⟨⟩
  rename_i format _ _ _ _ _ _ _ _ _ _
  cases format <;> rfl

/-- The credentials that a request ends up with: those of its header, or else its own. -/
def credentials (request : Request) : Credentials :=
  (request.headers.value? "authorization" >>= Credentials.ofAuthorization?).getD
    { user := request.user, password := request.password }

theorem authorize_eq (request : Request) :
    request.authorize =
      { request with
        user := request.credentials.user, password := request.credentials.password } := by
  unfold authorize credentials
  cases request.headers.value? "authorization" >>= Credentials.ofAuthorization? <;> rfl

theorem headers_resolveFormat (request : Request) :
    request.resolveFormat.headers = request.headers := by
  rw [resolveFormat_eq]

theorem headers_authorize (request : Request) : request.authorize.headers = request.headers := by
  rw [authorize_eq]

theorem checkForwardedFor_eq (request : Request) :
    request.checkForwardedFor =
      match request.forwarding.client with
      | none => .ok ()
      | some value =>
          if value.toList.all Text.isAddressCharacter then .ok ()
          else .error (.unacceptableForwardedFor value) := by
  simp only [checkForwardedFor, forwarding, Headers.value?]
  cases request.headers.field? "x-forwarded-for" <;> rfl

theorem not_sendsUnacceptable_of_check {request : Request}
    (passes : request.checkForwardedFor = .ok ()) (value : String) :
    ¬request.forwarding.SendsUnacceptable value := by
  intro sends
  rcases sends with ⟨sent, unacceptable⟩
  rw [← Text.all_isAddressCharacter_iff] at unacceptable
  simp only [checkForwardedFor_eq, sent, if_neg unacceptable] at passes
  cases passes

theorem sendsUnacceptable_of_check {request : Request} {error : Error}
    (fails : request.checkForwardedFor = .error error) :
    ∃ value, error = .unacceptableForwardedFor value ∧
      request.forwarding.SendsUnacceptable value := by
  rw [checkForwardedFor_eq] at fails
  cases sent : request.forwarding.client with
  | none =>
      rw [sent] at fails
      cases fails
  | some value =>
      simp only [sent] at fails
      by_cases acceptable : value.toList.all Text.isAddressCharacter = true
      · rw [if_pos acceptable] at fails
        cases fails
      · rw [if_neg acceptable] at fails
        cases fails
        rw [Text.all_isAddressCharacter_iff] at acceptable
        exact ⟨value, rfl, sent, acceptable⟩

/-! ## Derived requests and failures -/

theorem sendsUnacceptable_derived {raw : RawRequest} {configuration : Configuration}
    {outcome : Request × Except Error Unit}
    (resolution : Resolution configuration (ofRaw raw configuration) outcome) (value : String) :
    outcome.1.resolveFormat.authorize.forwarding.SendsUnacceptable value ↔
      raw.forwarding.SendsUnacceptable value := by
  have sameHeaders : outcome.1.resolveFormat.authorize.headers = raw.headers := by
    rw [headers_authorize, headers_resolveFormat]
    exact resolution.headers_eq
  simp only [Forwarding.SendsUnacceptable, forwarding, RawRequest.forwarding, sameHeaders]

/-- A derived request comes from a resolution that succeeds, and names its client, if any, by an
address list. -/
theorem create_eq_ok {raw : RawRequest} {configuration : Configuration} {request : Request}
    (created : create raw configuration = .ok request) :
    ∃ resolved,
      Resolution configuration (ofRaw raw configuration) (resolved, .ok ()) ∧
      request = resolved.resolveFormat.authorize ∧
      ∀ value, ¬raw.forwarding.SendsUnacceptable value := by
  have resolution := resolveForwarding_resolution (ofRaw raw configuration) configuration
  unfold create at created
  generalize (ofRaw raw configuration).resolveForwarding configuration = outcome
    at created resolution
  rcases outcome with ⟨resolved, error | ⟨⟩⟩
  · cases created
  · cases checked : resolved.resolveFormat.authorize.checkForwardedFor with
    | error error =>
        simp only [checked] at created
        cases created
    | ok passed =>
        simp only [checked] at created
        cases created
        refine ⟨resolved, resolution, rfl, fun value sends => ?_⟩
        apply not_sendsUnacceptable_of_check checked value
        exact (sendsUnacceptable_derived resolution value).mpr sends

end Request

/-- The failures of deriving a request, in the order in which they are looked for. -/
inductive Forwarding.Failure (forwarding : Forwarding) (configuration : Configuration) :
    Error → Prop
  | refused (refuses : forwarding.IsRefused configuration) :
      Failure forwarding configuration (.untrustedProxy forwarding.address)
  | malformed {fault : PortFault} (accepted : ¬forwarding.IsRefused configuration)
      (faulty : forwarding.HasPortFault configuration fault) :
      Failure forwarding configuration
        (.malformedPort (forwarding.settledHost configuration) fault)
  | unacceptable {value : String} (accepted : ¬forwarding.IsRefused configuration)
      (wellFormed : ¬forwarding.HasMalformedPort configuration)
      (sends : forwarding.SendsUnacceptable value) :
      Failure forwarding configuration (.unacceptableForwardedFor value)

namespace Request

variable {raw : RawRequest} {configuration : Configuration}

theorem create_eq_error {error : Error} (fails : create raw configuration = .error error) :
    raw.forwarding.Failure configuration error := by
  have resolution := resolveForwarding_resolution (ofRaw raw configuration) configuration
  unfold create at fails
  generalize (ofRaw raw configuration).resolveForwarding configuration = outcome
    at fails resolution
  rcases outcome with ⟨resolved, fault | ⟨⟩⟩
  · cases fails
    rcases resolution.of_error rfl with ⟨rfl, refuses⟩ | ⟨fault, rfl, accepted, faulty⟩
    · exact .refused refuses
    · exact .malformed accepted faulty
  · rcases resolution.of_ok rfl with ⟨accepted, wellFormed⟩
    cases checked : resolved.resolveFormat.authorize.checkForwardedFor with
    | ok passed =>
        simp only [checked] at fails
        cases fails
    | error fault =>
        simp only [checked] at fails
        cases fails
        rcases sendsUnacceptable_of_check checked with ⟨value, rfl, sends⟩
        exact .unacceptable accepted wellFormed
          ((sendsUnacceptable_derived resolution value).mp sends)

end Request

theorem Forwarding.Failure.unique {forwarding : Forwarding} {configuration : Configuration}
    {error other : Error} (failure : forwarding.Failure configuration error)
    (otherFailure : forwarding.Failure configuration other) : error = other := by
  cases failure with
  | refused refuses =>
      cases otherFailure with
      | refused => rfl
      | malformed accepted => exact absurd refuses accepted
      | unacceptable accepted => exact absurd refuses accepted
  | malformed accepted faulty =>
      cases otherFailure with
      | refused refuses => exact absurd refuses accepted
      | malformed _ otherFaulty => rw [faulty.unique otherFaulty]
      | unacceptable _ wellFormed => exact absurd faulty.malformed wellFormed
  | unacceptable accepted wellFormed sends =>
      cases otherFailure with
      | refused refuses => exact absurd refuses accepted
      | malformed _ faulty => exact absurd faulty.malformed wellFormed
      | unacceptable _ _ otherSends => rw [Option.some.inj (sends.1.symm.trans otherSends.1)]

theorem Forwarding.not_failure {forwarding : Forwarding} {configuration : Configuration}
    (accepted : ¬forwarding.IsRefused configuration)
    (wellFormed : ¬forwarding.HasMalformedPort configuration)
    (acceptable : ∀ value, ¬forwarding.SendsUnacceptable value) (error : Error) :
    ¬forwarding.Failure configuration error := by
  intro failure
  cases failure with
  | refused refuses => exact accepted refuses
  | malformed _ faulty => exact wellFormed faulty.malformed
  | unacceptable _ _ sends => exact acceptable _ sends

namespace Request

variable {raw : RawRequest} {configuration : Configuration}

theorem faultless_of_ok {request : Request} (created : create raw configuration = .ok request) :
    ¬raw.forwarding.IsRefused configuration ∧ ¬raw.forwarding.HasMalformedPort configuration ∧
      ∀ value, ¬raw.forwarding.SendsUnacceptable value := by
  rcases create_eq_ok created with ⟨resolved, resolution, _, acceptable⟩
  rcases resolution.of_ok rfl with ⟨accepted, wellFormed⟩
  exact ⟨accepted, wellFormed, acceptable⟩

theorem create_eq_error_iff {error : Error} :
    create raw configuration = .error error ↔ raw.forwarding.Failure configuration error := by
  constructor
  · exact create_eq_error
  · intro failure
    cases outcome : create raw configuration with
    | error other => rw [(create_eq_error outcome).unique failure]
    | ok request =>
        rcases faultless_of_ok outcome with ⟨accepted, wellFormed, acceptable⟩
        exact absurd failure (Forwarding.not_failure accepted wellFormed acceptable error)

/-- Deriving a request fails in three ways only, each of which has an exact condition that the
ones before it come first to. The first values of two header fields and the host and address of
the transport decide; nothing else in the request can make the derivation fail or succeed. -/
theorem create_failure_partition (raw : RawRequest) (configuration : Configuration) :
    (∀ address, create raw configuration = .error (.untrustedProxy address) ↔
      address = raw.remoteAddress ∧ raw.forwarding.IsRefused configuration) ∧
    (∀ host, (∃ fault, create raw configuration = .error (.malformedPort host fault)) ↔
      host = raw.forwarding.settledHost configuration ∧
        ¬raw.forwarding.IsRefused configuration ∧
        raw.forwarding.HasMalformedPort configuration) ∧
    (∀ value, create raw configuration = .error (.unacceptableForwardedFor value) ↔
      ¬raw.forwarding.IsRefused configuration ∧
        ¬raw.forwarding.HasMalformedPort configuration ∧
        raw.forwarding.SendsUnacceptable value) ∧
    ((∃ request, create raw configuration = .ok request) ↔
      ¬raw.forwarding.IsRefused configuration ∧
        ¬raw.forwarding.HasMalformedPort configuration ∧
        ∀ value, ¬raw.forwarding.SendsUnacceptable value) ∧
    ∀ other : RawRequest, other.forwarding = raw.forwarding →
      ∀ error, create other configuration = .error error ↔
        create raw configuration = .error error := by
  refine ⟨fun address => ?_, fun host => ?_, fun value => ?_, ?_, fun other same error => ?_⟩
  · rw [create_eq_error_iff]
    constructor
    · intro failure
      cases failure with
      | refused refuses => exact ⟨rfl, refuses⟩
    · intro conditions
      rcases conditions with ⟨rfl, refuses⟩
      exact .refused refuses
  · simp only [create_eq_error_iff]
    constructor
    · intro fails
      rcases fails with ⟨fault, failure⟩
      cases failure with
      | malformed accepted faulty =>
          exact ⟨rfl, accepted, faulty.malformed⟩
    · intro conditions
      rcases conditions with ⟨rfl, accepted, malformed⟩
      rcases malformed.exists_fault with ⟨fault, faulty⟩
      exact ⟨fault, .malformed accepted faulty⟩
  · rw [create_eq_error_iff]
    constructor
    · intro failure
      cases failure with
      | unacceptable accepted wellFormed sends => exact ⟨accepted, wellFormed, sends⟩
    · intro conditions
      rcases conditions with ⟨accepted, wellFormed, sends⟩
      exact .unacceptable accepted wellFormed sends
  · constructor
    · intro succeeds
      rcases succeeds with ⟨request, created⟩
      exact faultless_of_ok created
    · intro conditions
      rcases conditions with ⟨accepted, wellFormed, acceptable⟩
      cases outcome : create raw configuration with
      | ok request => exact ⟨request, rfl⟩
      | error error =>
          have failure := create_eq_error outcome
          exact absurd failure (Forwarding.not_failure accepted wellFormed acceptable error)
  · rw [create_eq_error_iff, create_eq_error_iff, same]

/-- A request with every fault there is. -/
def faulty : RawRequest where
  remoteAddress := "10.6.6.6"
  headers := Headers.ofPairs
    [("X-Forwarded-For", "somebody"), ("X-Forwarded-Host", "example.com:eighty")]

/-- As the settings let go of one fault after the other, the next one shows. -/
theorem create_failure_partition_faulty :
    create faulty { forwardedSupport := some "10.0.0.1", overwriteDomainAndPort := true } =
      .error (.untrustedProxy "10.6.6.6") ∧
    (∃ fault, create faulty { forwardedSupport := some "all", overwriteDomainAndPort := true } =
      .error (.malformedPort "example.com:eighty" fault)) ∧
    create faulty { forwardedSupport := some "all" } =
      .error (.unacceptableForwardedFor "somebody") ∧
    create { faulty with method := "POST", secure := true } { forwardedSupport := some "all" } =
      .error (.unacceptableForwardedFor "somebody") := by
  have sent : faulty.forwarding.client = some "somebody" := by decide +kernel
  have unacceptable : ¬Text.IsAddressList "somebody" := by
    rw [← Text.all_isAddressCharacter_iff]
    decide +kernel
  have accepted : ∀ overwrite, ¬faulty.forwarding.IsRefused
      { forwardedSupport := some "all", overwriteDomainAndPort := overwrite } := by
    intro overwrite refused
    rcases refused with ⟨_, addresses, trust, _⟩
    cases trust
  have notOverwritten : ¬faulty.forwarding.HasMalformedPort
      { forwardedSupport := some "all" } := by
    intro malformed
    rcases malformed with ⟨⟨overwritten, _⟩, _⟩
    cases overwritten
  have parts : HostParts ("example.com".toList ++ ':' :: "eighty".toList)
      "example.com".toList "eighty".toList :=
    .last (by decide +kernel) (by decide +kernel)
  refine ⟨?_, ?_, ?_, ?_⟩
  · apply ((create_failure_partition faulty _).1 "10.6.6.6").mpr
    exact ⟨rfl, ⟨by decide +kernel, by decide +kernel⟩, ["10.0.0.1"], by decide +kernel,
      by decide +kernel⟩
  · apply ((create_failure_partition faulty _).2.1 "example.com:eighty").mpr
    refine ⟨by decide +kernel, accepted true, ⟨rfl, by decide +kernel⟩, _, _, parts, ?_⟩
    exact (Port.exists_read_eq_error_iff _).mp ⟨.invalidDigit, rfl⟩
  · apply ((create_failure_partition faulty _).2.2.1 "somebody").mpr
    exact ⟨accepted false, notOverwritten, sent, unacceptable⟩
  · rw [(create_failure_partition faulty _).2.2.2.2 { faulty with method := "POST", secure := true }
      rfl]
    apply ((create_failure_partition faulty _).2.2.1 "somebody").mpr
    exact ⟨accepted false, notOverwritten, sent, unacceptable⟩

end Request

end HttpExchange
