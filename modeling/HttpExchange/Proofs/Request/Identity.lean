import HttpExchange.Proofs.Request.Creation

/-! The identity of a request: who sent it, for which host, and how securely. Forwarding headers
change it only behind a trusted hop, and then to exactly what they and the settings say. -/

namespace HttpExchange

structure Identity where
  host : String
  domain : String
  port : UInt16
  remoteAddress : String
  secure : Bool
deriving DecidableEq

def RawRequest.identity (raw : RawRequest) : Identity where
  host := raw.host
  domain := raw.domain
  port := raw.port
  remoteAddress := raw.remoteAddress
  secure := raw.secure

def Request.identity (request : Request) : Identity where
  host := request.host
  domain := request.domain
  port := request.port
  remoteAddress := request.remoteAddress
  secure := request.secure

/-! ## Header fields that do not matter -/

namespace Headers

/-- Two collections that differ at most in the fields of some names, which are lower-case. -/
def AgreeOutside (names : List String) (left right : Headers) : Prop :=
  ∀ name, foldName name ∉ names → left.field? name = right.field? name

theorem AgreeOutside.value?_eq {names : List String} {left right : Headers}
    (agree : left.AgreeOutside names right) {name : String} (outside : foldName name ∉ names) :
    left.value? name = right.value? name := by
  rw [value?, value?, agree name outside]

theorem agreeOutside_set {names : List String} {name : String} (listed : foldName name ∈ names)
    (headers : Headers) (value : String) : headers.AgreeOutside names (headers.set name value) := by
  intro other outside
  have apart : foldName name ≠ foldName other := by
    intro same
    exact outside (same ▸ listed)
  rw [field?_set, if_neg apart]

end Headers

/-- The fields by which a proxy tells host and security of the request that it forwards. They are
nothing without the client's address in `X-Forwarded-For`. -/
def forwardingMarkers : List String :=
  ["x-forwarded-host", "x-forwarded-proto", "x-forwarded-ssl", "front-end-https"]

theorem ProxyTrust.accepts_iff {trust : ProxyTrust} {address : String} :
    trust.accepts address = true ↔
      trust = .all ∨ ∃ addresses, trust = .only addresses ∧ address ∈ addresses := by
  cases trust <;> simp [accepts]

/-- A text is there and is this word, in any letter case. -/
def Text.Says (text? : Option String) (word : String) : Prop :=
  ∃ text, text? = some text ∧ sameLetters text.toList word.toList = true

namespace Request

variable {request : Request} {headers : Headers}

theorem ofRaw_withHeaders (raw : RawRequest) (configuration : Configuration) (headers : Headers) :
    ofRaw { raw with headers } configuration = { ofRaw raw configuration with headers } := by
  simp only [ofRaw]

theorem resolveFormat_withHeaders (agree : request.headers.AgreeOutside forwardingMarkers headers) :
    { request with headers }.resolveFormat = { request.resolveFormat with headers } := by
  have outside : foldName "accept" ∉ forwardingMarkers := by decide
  simp only [resolveFormat_eq, agree.value?_eq outside]

theorem authorize_withHeaders (agree : request.headers.AgreeOutside forwardingMarkers headers) :
    { request with headers }.authorize = { request.authorize with headers } := by
  have outside : foldName "authorization" ∉ forwardingMarkers := by decide
  simp only [authorize_eq, credentials, agree.value?_eq outside]

theorem checkForwardedFor_withHeaders
    (agree : request.headers.AgreeOutside forwardingMarkers headers) :
    { request with headers }.checkForwardedFor = request.checkForwardedFor := by
  have outside : foldName "x-forwarded-for" ∉ forwardingMarkers := by decide
  simp only [checkForwardedFor, agree _ outside]

/-! ## Requests that are not forwarded -/

theorem resolveForwarding_of_not_applies {configuration : Configuration}
    (ignores : ¬request.forwarding.Applies configuration) :
    request.resolveForwarding configuration = (request, .ok ()) := by
  have resolution := resolveForwarding_resolution request configuration
  generalize request.resolveForwarding configuration = outcome at resolution ⊢
  cases resolution with
  | ignored => rfl
  | refused refuses => exact absurd refuses.1 ignores
  | followed sent trusted => exact absurd (applies_of_trusted sent trusted) ignores

theorem create_of_not_applies {raw : RawRequest} {configuration : Configuration}
    (ignores : ¬raw.forwarding.Applies configuration) :
    create raw configuration =
      ((ofRaw raw configuration).resolveFormat.authorize.checkForwardedFor).map
        fun _ => (ofRaw raw configuration).resolveFormat.authorize := by
  have resolved : (ofRaw raw configuration).resolveForwarding configuration =
      (ofRaw raw configuration, .ok ()) :=
    resolveForwarding_of_not_applies ignores
  simp only [create, resolved]
  cases (ofRaw raw configuration).resolveFormat.authorize.checkForwardedFor <;> rfl

/-- Where forwarding headers do not count, the markers of a proxy reach nothing but the header
fields of the request. -/
theorem create_withHeaders {raw : RawRequest} {configuration : Configuration}
    (ignores : ¬raw.forwarding.Applies configuration)
    (agree : raw.headers.AgreeOutside forwardingMarkers headers) :
    create { raw with headers } configuration =
      (create raw configuration).map fun request => { request with headers } := by
  have outside : foldName "x-forwarded-for" ∉ forwardingMarkers := by decide
  have sameClient : ({ raw with headers } : RawRequest).forwarding.client =
      raw.forwarding.client := (agree.value?_eq outside).symm
  have otherIgnores : ¬({ raw with headers } : RawRequest).forwarding.Applies configuration := by
    rw [Forwarding.Applies, sameClient]
    exact ignores
  have formatAgrees : (ofRaw raw configuration).resolveFormat.headers.AgreeOutside
      forwardingMarkers headers := by
    rw [headers_resolveFormat]
    exact agree
  have derivedAgrees : (ofRaw raw configuration).resolveFormat.authorize.headers.AgreeOutside
      forwardingMarkers headers := by
    rw [headers_authorize]
    exact formatAgrees
  have derived : (ofRaw { raw with headers } configuration).resolveFormat.authorize =
      { (ofRaw raw configuration).resolveFormat.authorize with headers } := by
    rw [ofRaw_withHeaders, resolveFormat_withHeaders agree, authorize_withHeaders formatAgrees]
  rw [create_of_not_applies ignores, create_of_not_applies otherIgnores, derived,
    checkForwardedFor_withHeaders derivedAgrees]
  cases (ofRaw raw configuration).resolveFormat.authorize.checkForwardedFor <;> rfl

/-! ## Identity -/

theorem identity_derived (request : Request) :
    request.resolveFormat.authorize.identity = request.identity := by
  rw [authorize_eq, resolveFormat_eq]
  rfl

theorem identity_of_not_applies {raw : RawRequest} {configuration : Configuration}
    (ignores : ¬raw.forwarding.Applies configuration)
    (created : create raw configuration = .ok request) : request.identity = raw.identity := by
  rcases create_eq_ok created with ⟨resolved, resolution, rfl, _⟩
  rw [identity_derived]
  cases resolution with
  | ignored => rfl
  | followed sent trusted => exact absurd (applies_of_trusted sent trusted) ignores

theorem exists_create_of_any {raw : RawRequest} {configuration : Configuration}
    {property : Request → Bool}
    (derives : (create raw configuration).toOption.any property = true) :
    ∃ request, create raw configuration = .ok request ∧ property request = true := by
  cases created : create raw configuration with
  | error fault =>
      rw [created] at derives
      cases derives
  | ok request =>
      rw [created] at derives
      exact ⟨request, rfl, derives⟩

/-- Only a trusted hop has a say in the identity of a request. Without the client's address in
`X-Forwarded-For`, or where no proxy is trusted, identity is what the transport has seen, and the
markers of a proxy change nothing but the header fields that carry them. Conversely, an identity
that is not the transport's has come from a hop that is trusted, by name or with all others. -/
theorem identity_only_from_trusted_hop (raw : RawRequest) (configuration : Configuration) :
    (configuration.proxyTrust = .disabled ∨ raw.headers.has "x-forwarded-for" = false →
      (∀ request, create raw configuration = .ok request → request.identity = raw.identity) ∧
      ∀ headers, raw.headers.AgreeOutside forwardingMarkers headers →
        create { raw with headers } configuration =
          (create raw configuration).map fun request => { request with headers }) ∧
    ∀ request, create raw configuration = .ok request → request.identity ≠ raw.identity →
      raw.headers.has "x-forwarded-for" = true ∧
        (configuration.proxyTrust = .all ∨
          ∃ addresses, configuration.proxyTrust = .only addresses ∧
            raw.remoteAddress ∈ addresses) := by
  constructor
  · intro withoutTrust
    have ignores : ¬raw.forwarding.Applies configuration := by
      intro applies
      rcases applies with ⟨sent, trusting⟩
      rcases withoutTrust with disabled | absent
      · exact trusting disabled
      · rw [Headers.has_eq_isSome_value?] at absent
        exact absurd sent (by rw [RawRequest.forwarding, absent]; decide)
    exact ⟨fun request => identity_of_not_applies ignores,
      fun headers => create_withHeaders ignores⟩
  · intro request created changed
    rcases create_eq_ok created with ⟨resolved, resolution, rfl, _⟩
    rw [identity_derived] at changed
    cases resolution with
    | ignored => exact absurd rfl changed
    | followed sent trusted =>
        refine ⟨?_, ProxyTrust.accepts_iff.mp trusted⟩
        rw [Headers.has_eq_isSome_value?]
        exact Option.isSome_of_eq_some sent

/-- A request that has come over a proxy, by TLS and for another host than the proxy's own. -/
def overProxy : RawRequest where
  remoteAddress := "10.0.0.1"
  headers := Headers.ofPairs
    [("X-Forwarded-For", "203.0.113.7"), ("X-Forwarded-Host", "example.com:8443"),
      ("X-Forwarded-Ssl", "on")]

/-- A request that asks for another host without a word about a client. -/
def asksForHost : RawRequest where
  headers := Headers.set KeyedList.empty "X-Forwarded-Host" "example.com"

def twoProxies : Configuration where
  forwardedSupport := some "10.0.0.1, 10.0.0.2"
  overwriteDomainAndPort := true

/-- Without the client's address a request keeps its identity, and a host asked for changes
nothing. With it, the proxy that has changed the identity is on the list. -/
theorem identity_only_from_trusted_hop_overProxy :
    (∃ request, create {} twoProxies = .ok request ∧
      request.identity = RawRequest.identity {} ∧
      create asksForHost twoProxies = .ok { request with headers := asksForHost.headers }) ∧
    ∃ request, create overProxy twoProxies = .ok request ∧
      request.identity ≠ overProxy.identity ∧
      ∃ addresses, twoProxies.proxyTrust = .only addresses ∧ "10.0.0.1" ∈ addresses := by
  constructor
  · have succeeds : (create {} twoProxies).toOption.any (fun _ => true) = true := by
      decide +kernel
    rcases exists_create_of_any succeeds with ⟨request, created, _⟩
    rcases identity_only_from_trusted_hop {} twoProxies with ⟨direct, _⟩
    rcases direct (.inr (by decide +kernel)) with ⟨kept, changesNothing⟩
    have marker : foldName "X-Forwarded-Host" ∈ forwardingMarkers := by decide +kernel
    have asking := changesNothing asksForHost.headers
      (Headers.agreeOutside_set marker KeyedList.empty "example.com")
    rw [created] at asking
    exact ⟨request, created, kept request created, asking⟩
  · have succeeds : (create overProxy twoProxies).toOption.any
        (fun request => decide (request.identity ≠ overProxy.identity)) = true := by
      decide +kernel
    rcases exists_create_of_any succeeds with ⟨request, created, changes⟩
    have changed := of_decide_eq_true changes
    rcases identity_only_from_trusted_hop overProxy twoProxies with ⟨_, fromTrustedHop⟩
    rcases (fromTrustedHop request created changed).2 with all | listed
    · exact absurd all (by decide +kernel)
    · exact ⟨request, created, changed, listed⟩

/-! ## The forwarded identity -/

theorem forwardedSecurely_iff (request : Request) (configuration : Configuration) :
    request.forwardedSecurely configuration = true ↔
      Text.Says configuration.forwardedProto "https" ∨
        Text.Says (request.headers.value? "x-forwarded-proto") "https" ∨
        Text.Says (request.headers.value? "x-forwarded-ssl") "on" ∨
        Text.Says (request.headers.value? "front-end-https") "on" := by
  have saysHeader : ∀ name word, request.headerIs name word = true ↔
      Text.Says (request.headers.value? name) word := by
    intro name word
    cases sent : request.headers.value? name <;> simp [headerIs, Text.Says, sent]
  cases proto : configuration.forwardedProto <;>
    simp [forwardedSecurely, proto, saysHeader, Text.Says, or_assoc]

/-- The identity of a request whose forwarding headers are followed is exactly what they, the
settings and the transport say. -/
theorem create_derives_forwarded_identity (raw : RawRequest) (configuration : Configuration)
    (client : String) (request : Request)
    (sent : raw.headers.value? "x-forwarded-for" = some client)
    (trusting : configuration.proxyTrust ≠ .disabled)
    (created : create raw configuration = .ok request) :
    request.remoteAddress = client ∧ Text.IsAddressList request.remoteAddress ∧
    request.host = (configuration.forwardedHost.or
      (raw.headers.value? "x-forwarded-host")).getD raw.host ∧
    (request.secure = true ↔ raw.secure = true ∨
      Text.Says configuration.forwardedProto "https" ∨
      Text.Says (raw.headers.value? "x-forwarded-proto") "https" ∨
      Text.Says (raw.headers.value? "x-forwarded-ssl") "on" ∨
      Text.Says (raw.headers.value? "front-end-https") "on") ∧
    (configuration.overwriteDomainAndPort = true ∧ request.host ≠ raw.host →
      NamedByHost request.host request.domain request.port) ∧
    (¬(configuration.overwriteDomainAndPort = true ∧ request.host ≠ raw.host) →
      request.domain = raw.domain ∧ request.port = raw.port) := by
  rcases create_eq_ok created with ⟨resolved, resolution, derived, acceptable⟩
  have identity : request.identity = resolved.identity := derived ▸ identity_derived resolved
  cases resolution with
  | ignored ignores => exact absurd ⟨Option.isSome_of_eq_some sent, trusting⟩ ignores
  | followed present trusted following =>
      cases present.symm.trans sent
      rcases following.of_ok rfl with ⟨frame, changed, unchanged⟩
      have address : request.remoteAddress = client :=
        (congrArg Identity.remoteAddress identity).trans (congrArg Request.remoteAddress frame)
      have host : request.host = (configuration.forwardedHost.or
          (raw.headers.value? "x-forwarded-host")).getD raw.host :=
        (congrArg Identity.host identity).trans (congrArg Request.host frame)
      have secure : request.secure =
          (raw.secure || (ofRaw raw configuration).forwardedSecurely configuration) :=
        (congrArg Identity.secure identity).trans (congrArg Request.secure frame)
      have domain : request.domain = resolved.domain := congrArg Identity.domain identity
      have port : request.port = resolved.port := congrArg Identity.port identity
      refine ⟨address, ?_, host, ?_, ?_, ?_⟩
      · rw [address]
        exact Classical.byContradiction fun unacceptable => acceptable client ⟨sent, unacceptable⟩
      · rw [secure, Bool.or_eq_true, forwardedSecurely_iff]
        rfl
      · rw [host, domain, port]
        exact changed
      · rw [host, domain, port]
        exact unchanged

/-- The host and port that the proxy tells are those of the request, which is secure. -/
theorem create_derives_forwarded_identity_overProxy :
    ∃ request, create overProxy twoProxies = .ok request ∧
      request.identity = ⟨"example.com:8443", "example.com", 8443, "203.0.113.7", true⟩ := by
  have succeeds : (create overProxy twoProxies).toOption.any (fun _ => true) = true := by
    decide +kernel
  rcases exists_create_of_any succeeds with ⟨request, created, _⟩
  rcases create_derives_forwarded_identity overProxy twoProxies "203.0.113.7" request
    (by decide +kernel) (by decide +kernel) created with ⟨address, _, host, secure, named, _⟩
  have settled : request.host = "example.com:8443" := by
    rw [host]
    decide +kernel
  have encrypted : request.secure = true :=
    secure.mpr (.inr (.inr (.inr (.inl ⟨"on", by decide +kernel, by decide⟩))))
  have asked : "example.com:8443" ≠ overProxy.host := by decide +kernel
  have parts : HostParts ("example.com".toList ++ ':' :: "8443".toList)
      "example.com".toList "8443".toList :=
    .last (by decide +kernel) (by decide +kernel)
  rw [settled] at named
  rcases (named ⟨rfl, asked⟩).1 _ _ parts with ⟨domain, numeral⟩
  have port : Except.ok 8443 = Except.ok request.port :=
    (Port.read_eq_ok_iff "8443".toList request.port).mpr numeral
  refine ⟨request, created, ?_⟩
  rw [Request.identity, settled, String.toList_inj.mp domain, ← Except.ok.inj port, address,
    encrypted]

end Request

end HttpExchange
