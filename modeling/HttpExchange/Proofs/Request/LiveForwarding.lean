import HttpExchange.Proofs.Request.FollowedHost
import HttpExchange.Proofs.Request.Identity
import HttpExchange.Request.Operation

/-! Resolving the forwarding headers of a live request, in place and perhaps more than once: what
it may change, what a failure leaves changed, that security is only ever raised, and that a
second time there is nothing left to change. -/

namespace HttpExchange.Request

variable {request : Request} {configuration : Configuration}

/-! ## One resolution -/

/-- The resolved request has taken over what a trusted proxy tells: its client's address, the host
that the client wants, and that the client's hop was secure. What has been secure before stays
so. -/
structure TakesForwarding (request : Request) (configuration : Configuration)
    (resolved : Request) : Prop where
  trusted : configuration.proxyTrust.accepts request.remoteAddress = true
  client : request.headers.value? "x-forwarded-for" = some resolved.remoteAddress
  host : resolved.host = (configuration.forwardedHost.or
    (request.headers.value? "x-forwarded-host")).getD request.host
  secure : resolved.secure = true ↔ request.secure = true ∨
    Text.Says configuration.forwardedProto "https" ∨
    Text.Says (request.headers.value? "x-forwarded-proto") "https" ∨
    Text.Says (request.headers.value? "x-forwarded-ssl") "on" ∨
    Text.Says (request.headers.value? "front-end-https") "on"

/-- The resolved request has domain and port from before. -/
def KeepsPlace (request resolved : Request) : Prop :=
  resolved.domain = request.domain ∧ resolved.port = request.port

theorem takesForwarding_of_followed {client : String} {outcome : Request × Except Error Unit}
    (sent : request.forwarding.client = some client)
    (trusted : configuration.proxyTrust.accepts request.remoteAddress = true)
    (following : HostFollowing configuration request.host
      (request.acceptForwarding configuration client) outcome) :
    request.TakesForwarding configuration outcome.1 := by
  rw [following.eq_with_place]
  refine ⟨trusted, sent, rfl, ?_⟩
  rw [acceptForwarding, Bool.or_eq_true, forwardedSecurely_iff]

theorem Resolution.of_failure {error : Error} {outcome : Request × Except Error Unit}
    (resolution : Resolution configuration request outcome) (fails : outcome.2 = .error error) :
    error = .untrustedProxy request.remoteAddress ∧ outcome.1 = request ∨
      ∃ fault, error = .malformedPort outcome.1.host fault ∧
        request.TakesForwarding configuration outcome.1 ∧ request.KeepsPlace outcome.1 := by
  cases resolution with
  | ignored => cases fails
  | refused refuses =>
      cases fails
      exact .inl ⟨rfl, rfl⟩
  | followed sent trusted following =>
      have takes := takesForwarding_of_followed sent trusted following
      cases following with
      | kept => cases fails
      | portless => cases fails
      | ported => cases fails
      | malformed changed parts faulty =>
          cases fails
          exact .inr ⟨_, rfl, takes, rfl, rfl⟩

theorem Resolution.of_success {outcome : Request × Except Error Unit}
    (resolution : Resolution configuration request outcome) (succeeds : outcome.2 = .ok ()) :
    (outcome.1 = request ∨ request.TakesForwarding configuration outcome.1) ∧
    (configuration.overwriteDomainAndPort = true ∧ outcome.1.host ≠ request.host →
      NamedByHost outcome.1.host outcome.1.domain outcome.1.port) ∧
    (¬(configuration.overwriteDomainAndPort = true ∧ outcome.1.host ≠ request.host) →
      request.KeepsPlace outcome.1) := by
  cases resolution with
  | ignored => exact ⟨.inl rfl, fun changed => absurd rfl changed.2, fun _ => ⟨rfl, rfl⟩⟩
  | refused => cases succeeds
  | @followed client _ sent trusted following =>
      rcases following.of_ok succeeds with ⟨frame, changed, unchanged⟩
      have host : outcome.1.host = (request.acceptForwarding configuration client).host :=
        (congrArg Request.host frame :)
      refine ⟨.inr (takesForwarding_of_followed sent trusted following), ?_, ?_⟩
      · rw [host]
        exact changed
      · rw [host]
        exact unchanged

/-! ## The second time -/

/-- What has been taken over from forwarding headers is there when they are looked at again. -/
theorem acceptForwarding_acceptForwarding (request : Request) (configuration : Configuration)
    (client : String) :
    (request.acceptForwarding configuration client).acceptForwarding configuration client =
      request.acceptForwarding configuration client := by
  have host : (request.acceptForwarding configuration client).forwardedHost configuration =
      request.forwardedHost configuration := by
    rw [forwardedHost, forwardedHost, acceptForwarding, forwardedHost]
    cases configuration.forwardedHost.or (request.headers.value? "x-forwarded-host") <;> rfl
  have security : (request.acceptForwarding configuration client).forwardedSecurely
      configuration = request.forwardedSecurely configuration := rfl
  rw [acceptForwarding, host, security, acceptForwarding]
  dsimp only
  rw [Bool.or_assoc, Bool.or_self]

theorem acceptForwarding_of_followed {client : String} {outcome : Request × Except Error Unit}
    (following : HostFollowing configuration request.host
      (request.acceptForwarding configuration client) outcome) :
    outcome.1.acceptForwarding configuration client = outcome.1 := by
  rw [following.eq_with_place]
  have again := acceptForwarding_acceptForwarding request configuration client
  exact congrArg
    (fun accepted : Request =>
      { accepted with domain := outcome.1.domain, port := outcome.1.port }) again

/-- A resolution that could be followed once more has already taken over all there is. -/
theorem Resolution.acceptForwarding_eq {client : String} {outcome : Request × Except Error Unit}
    (resolution : Resolution configuration request outcome)
    (sent : outcome.1.forwarding.client = some client)
    (trusted : configuration.proxyTrust.accepts outcome.1.remoteAddress = true) :
    outcome.1.acceptForwarding configuration client = outcome.1 := by
  have sameClient : outcome.1.forwarding.client = request.forwarding.client := by
    rw [forwarding, forwarding, resolution.headers_eq]
  cases resolution with
  | ignored ignores => exact absurd (applies_of_trusted sent trusted) ignores
  | refused refuses => exact absurd refuses (not_isRefused_of_trusted trusted)
  | followed sentBefore _ following =>
      cases sentBefore.symm.trans (sameClient.symm.trans sent)
      exact acceptForwarding_of_followed following

/-- Resolved once, a request stays as it is when it is resolved again, whatever either time
answers: the second time may refuse the address that the first has written. -/
theorem resolveForwarding_twice (request : Request) (configuration : Configuration) :
    ((request.resolveForwarding configuration).1.resolveForwarding configuration).1 =
      (request.resolveForwarding configuration).1 := by
  have first := resolveForwarding_resolution request configuration
  generalize request.resolveForwarding configuration = outcome at first ⊢
  have second := resolveForwarding_resolution outcome.1 configuration
  generalize outcome.1.resolveForwarding configuration = again at second ⊢
  cases second with
  | ignored => rfl
  | refused => rfl
  | followed sent trusted following =>
      rw [first.acceptForwarding_eq sent trusted] at following
      rw [following.of_same_host]

/-! ## Runs -/

theorem secure_resolveForwarding (secure : request.secure = true)
    (configuration : Configuration) :
    (request.resolveForwarding configuration).1.secure = true := by
  have resolution := resolveForwarding_resolution request configuration
  generalize request.resolveForwarding configuration = outcome at resolution ⊢
  cases resolution with
  | ignored => exact secure
  | refused => exact secure
  | followed sent trusted following =>
      exact (takesForwarding_of_followed sent trusted following).secure.mpr (.inl secure)

/-- No operation makes a secure request insecure but the one that is told to. -/
theorem secure_perform (secure : request.secure = true) {operation : Operation}
    (raises : operation ≠ .setSecure false) : (request.perform operation).1.secure = true := by
  cases operation with
  | resolveFormat =>
      rw [perform, resolveFormat_eq]
      exact secure
  | resolveForwarding configuration => exact secure_resolveForwarding secure configuration
  | readBody =>
      rw [perform, readBody, takeBody]
      cases request.body <;> exact secure
  | setSecure value =>
      cases value with
      | false => exact absurd rfl raises
      | true => rfl
  | addToAttribute name amount =>
      rw [perform]
      cases request.attributes.add? name amount <;> exact secure
  | _ => exact secure

theorem secure_performAll {operations : List Operation}
    (raise : .setSecure false ∉ operations) (secure : request.secure = true) :
    (request.performAll operations).1.secure = true := by
  induction operations generalizing request with
  | nil => exact secure
  | cons operation later induction =>
      rw [List.mem_cons, not_or] at raise
      exact induction raise.2 (secure_perform secure (Ne.symm raise.1))

/-- Resolving forwarding headers changes a live request in its identity at most. A sender who is
refused leaves it as it was. A new host whose port is malformed leaves domain and port as they were
and all else that the proxy has told taken over. On success domain and port both follow the host,
if the settings ask for it and the host is new, or both stay. Resolving it once more changes
nothing, and no run that resolves it, among operations of any kind but the one that says so, makes
a secure request insecure. -/
theorem resolving_settles_identity (request : Request) (configuration : Configuration) :
    ∃ resolved outcome, request.resolveForwarding configuration = (resolved, outcome) ∧
      resolved =
        { request with
          host := resolved.host
          domain := resolved.domain
          port := resolved.port
          remoteAddress := resolved.remoteAddress
          secure := resolved.secure } ∧
      (∀ error, outcome = .error error →
        error = .untrustedProxy request.remoteAddress ∧ resolved = request ∨
          ∃ fault, error = .malformedPort resolved.host fault ∧
            request.TakesForwarding configuration resolved ∧ request.KeepsPlace resolved) ∧
      (outcome = .ok () →
        (resolved = request ∨ request.TakesForwarding configuration resolved) ∧
        (configuration.overwriteDomainAndPort = true ∧ resolved.host ≠ request.host →
          NamedByHost resolved.host resolved.domain resolved.port) ∧
        (¬(configuration.overwriteDomainAndPort = true ∧ resolved.host ≠ request.host) →
          request.KeepsPlace resolved)) ∧
      (resolved.resolveForwarding configuration).1 = resolved ∧
      ∀ operations, .setSecure false ∉ operations → request.secure = true →
        (request.performAll operations).1.secure = true := by
  have resolution := resolveForwarding_resolution request configuration
  exact ⟨_, _, rfl, resolution.eq_with_identity, fun error => resolution.of_failure,
    resolution.of_success, resolveForwarding_twice request configuration,
    fun operations raise => secure_performAll raise⟩

/-- A port in words is a failure that leaves the host with it, and the client, taken over. With a
port in digits domain and port follow, and the request stays secure while it goes on. -/
theorem resolving_settles_identity_ports :
    (∃ resolved fault, (passedOnFor "example.com:eighty").resolveForwarding followsAll =
        (resolved, .error (.malformedPort "example.com:eighty" fault)) ∧
      resolved.remoteAddress = "203.0.113.7" ∧ resolved.domain = "localhost" ∧
      resolved.port = 80 ∧ (resolved.resolveForwarding followsAll).1 = resolved) ∧
    (∃ resolved, (passedOnFor "example.com:8443").resolveForwarding followsAll =
        (resolved, .ok ()) ∧
      NamedByHost resolved.host resolved.domain resolved.port) ∧
    ({ passedOnFor "example.com:eighty" with secure := true }.performAll
      [.resolveForwarding followsAll, .takeBody, .resolveForwarding {}]).1.secure = true := by
  refine ⟨?_, ?_, ?_⟩
  · rcases resolving_settles_identity (passedOnFor "example.com:eighty") followsAll with
      ⟨resolved, outcome, resolves, _, failing, _, again, _⟩
    have fails : outcome = .error (.malformedPort "example.com:eighty" .invalidDigit) :=
      (congrArg Prod.snd resolves).symm
    rcases failing _ fails with ⟨refused, _⟩ | ⟨fault, same, takes, domain, port⟩
    · cases refused
    · have client : some "203.0.113.7" = some resolved.remoteAddress := takes.client
      exact ⟨resolved, _, fails ▸ resolves, (Option.some.inj client).symm, domain, port, again⟩
  · rcases resolving_settles_identity (passedOnFor "example.com:8443") followsAll with
      ⟨resolved, outcome, resolves, _, _, succeeding, _, _⟩
    have succeeds : outcome = .ok () := (congrArg Prod.snd resolves).symm
    have changed : resolved.host ≠ (passedOnFor "example.com:8443").host := by
      rw [← congrArg (fun done => done.1.host) resolves]
      decide +kernel
    exact ⟨resolved, succeeds ▸ resolves, (succeeding succeeds).2.1 ⟨rfl, changed⟩⟩
  · rcases resolving_settles_identity
      { passedOnFor "example.com:eighty" with secure := true } followsAll with
      ⟨_, _, _, _, _, _, _, staysSecure⟩
    exact staysSecure _ (by decide +kernel) rfl

end HttpExchange.Request
