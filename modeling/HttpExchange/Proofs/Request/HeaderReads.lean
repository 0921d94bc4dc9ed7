import HttpExchange.Proofs.HeaderHistory
import HttpExchange.Proofs.Request.Identity

/-! What deriving a request reads of its header fields: the first values of seven names, each for
what is derived from it and for nothing else. A value behind the first one is not looked at, by
the check of forwarded addresses neither. -/

namespace HttpExchange

/-- The fields from which forwarding is resolved. -/
def forwardingNames : List String :=
  "x-forwarded-for" :: forwardingMarkers

/-- The fields from which a request is derived. -/
def derivingNames : List String :=
  "accept" :: "authorization" :: forwardingNames

namespace Headers

/-- Two collections whose fields of these names have the same first values. Fields of other names
do not matter for it, nor values behind the first, nor how names are spelled. -/
def SameFirst (names : List String) (left right : Headers) : Prop :=
  ∀ name ∈ names, left.value? name = right.value? name

instance (names : List String) (left right : Headers) : Decidable (SameFirst names left right) :=
  inferInstanceAs (Decidable (∀ name ∈ names, _))

/-- Two collections with the same values under the same names, up to the letter case of names. -/
def Respells (left right : Headers) : Prop :=
  ∀ name, (left.field? name).map Header.values = (right.field? name).map Header.values

theorem SameFirst.mono {names fewer : List String} {left right : Headers}
    (same : left.SameFirst names right) (subset : fewer ⊆ names) : left.SameFirst fewer right :=
  fun name member => same name (subset member)

theorem AgreeOutside.sameFirst {names apart : List String} {left right : Headers}
    (agree : left.AgreeOutside apart right)
    (outside : ∀ name ∈ names, foldName name ∉ apart) : left.SameFirst names right :=
  fun name member => agree.value?_eq (outside name member)

theorem value?_eq_bind_head? (headers : Headers) (name : String) :
    headers.value? name = ((headers.field? name).map Header.values).bind List.head? := by
  rw [value?]
  cases headers.field? name with
  | none => rfl
  | some header => simp [Header.value, List.head?_eq_some_head header.values_ne_nil]

theorem Respells.value?_eq {left right : Headers} (respells : left.Respells right)
    (name : String) : left.value? name = right.value? name := by
  rw [value?_eq_bind_head?, value?_eq_bind_head?, respells name]

theorem Respells.sameFirst {left right : Headers} (respells : left.Respells right)
    (names : List String) : left.SameFirst names right :=
  fun name _ => respells.value?_eq name

theorem values_of_added (field : Option Header) (name value : String) :
    ((field.map fun header => header.append value).getD (Header.single name value)).values =
      (field.map Header.values).getD [] ++ [value] := by
  cases field <;> rfl

theorem Respells.add {left right : Headers} (respells : left.Respells right) {name other : String}
    (sameName : foldName name = foldName other) (value : String) :
    (left.add name value).Respells (right.add other value) := by
  intro wanted
  have before := respells wanted
  rw [field?, field?] at before ⊢
  rw [find?_add, find?_add, ← sameName]
  by_cases found : foldName name = foldName wanted
  · rw [if_pos found, if_pos found, Option.map_some, Option.map_some, values_of_added,
      values_of_added, before]
  · rw [if_neg found, if_neg found]
    exact before

/-- Fields collected from names and values that differ in the letter case of names only. -/
theorem respells_ofPairs {left right : List (String × String)}
    (respelled : List.Forall₂ (fun pair other =>
      foldName pair.1 = foldName other.1 ∧ pair.2 = other.2) left right) :
    (ofPairs left).Respells (ofPairs right) := by
  have gathers : ∀ {headers others : Headers}, headers.Respells others →
      Respells (left.foldl (fun headers pair => headers.add pair.1 pair.2) headers)
        (right.foldl (fun headers pair => headers.add pair.1 pair.2) others) := by
    induction respelled with
    | nil => exact fun respells => respells
    | @cons pair other _ _ same _ induction =>
        intro headers others respells
        rw [List.foldl_cons, List.foldl_cons, same.2]
        exact induction (respells.add same.1 other.2)
  exact gathers fun _ => rfl

end Headers

namespace Request

variable {request : Request} {configuration : Configuration} {headers : Headers}

/-! ## Steps with other header fields -/

theorem headerIs_withHeaders {name : String}
    (same : request.headers.value? name = headers.value? name) (expected : String) :
    { request with headers }.headerIs name expected = request.headerIs name expected := by
  simp only [headerIs, same]

theorem acceptForwarding_withHeaders (same : request.headers.SameFirst forwardingNames headers)
    (client : String) :
    { request with headers }.acceptForwarding configuration client =
      { request.acceptForwarding configuration client with headers } := by
  have host := same "x-forwarded-host" (by decide)
  have proto := headerIs_withHeaders (same "x-forwarded-proto" (by decide)) "https"
  have encrypted := headerIs_withHeaders (same "x-forwarded-ssl" (by decide)) "on"
  have frontEnd := headerIs_withHeaders (same "front-end-https" (by decide)) "on"
  simp only [acceptForwarding, forwardedHost, forwardedSecurely, host, proto, encrypted, frontEnd]

theorem resolveForwarding_withHeaders (configuration : Configuration)
    (same : request.headers.SameFirst forwardingNames headers) :
    { request with headers }.resolveForwarding configuration =
      ({ (request.resolveForwarding configuration).1 with headers },
        (request.resolveForwarding configuration).2) := by
  have leaves : LeavesHost fun request => { request with headers } :=
    ⟨fun _ => rfl, fun _ _ _ => rfl⟩
  exact leaves.resolveForwarding (same "x-forwarded-for" (by decide)).symm rfl
    (acceptForwarding_withHeaders same)

/-! ## What is derived from header fields alone -/

def sentCredentials (headers : Headers) : Credentials :=
  (headers.value? "authorization" >>= Credentials.ofAuthorization?).getD Credentials.none

/-- The request with these header fields, and with all that is read off them whoever has sent the
request. -/
def reread (request : Request) (headers : Headers) : Request :=
  { request with
    headers
    format := Format.negotiate? (headers.value? "accept")
    user := (sentCredentials headers).user
    password := (sentCredentials headers).password }

theorem derive_of_plain {headers : Headers} (request : Request) (noFormat : request.format = none)
    (noUser : request.user = none) (noPassword : request.password = none) :
    { request with headers }.resolveFormat.authorize = request.reread headers := by
  rw [authorize_eq, resolveFormat_eq]
  simp only [credentials, reread, sentCredentials, noFormat, noUser, noPassword, Option.none_or]
  rfl

theorem checkForwardedFor_congr {other : Request}
    (same : request.headers.value? "x-forwarded-for" = other.headers.value? "x-forwarded-for") :
    request.checkForwardedFor = other.checkForwardedFor := by
  simp only [checkForwardedFor_eq, forwarding, same]

/-- With other header fields that forwarding resolves alike, a request is derived alike but for
what is read off the fields alone. -/
theorem create_eq_map_reread {raw : RawRequest} (configuration : Configuration)
    (same : raw.headers.SameFirst forwardingNames headers) :
    create { raw with headers } configuration =
      (create raw configuration).map fun request => request.reread headers := by
  have resolution := resolveForwarding_resolution (ofRaw raw configuration) configuration
  have sameOfRaw : (ofRaw raw configuration).headers.SameFirst forwardingNames headers := same
  have resolves := resolveForwarding_withHeaders configuration sameOfRaw
  simp only [create, ofRaw_withHeaders, resolves]
  generalize (ofRaw raw configuration).resolveForwarding configuration = outcome at resolution ⊢
  rcases outcome with ⟨resolved, error | ⟨⟩⟩
  · rfl
  · -- Both derivations go on from `resolved`, one with `headers` and one with the fields it has.
    have frame : resolved = _ := resolution.eq_with_identity
    have noFormat : resolved.format = none := congrArg Request.format frame
    have noUser : resolved.user = none := congrArg Request.user frame
    have noPassword : resolved.password = none := congrArg Request.password frame
    have derived : { resolved with headers }.resolveFormat.authorize = resolved.reread headers :=
      derive_of_plain resolved noFormat noUser noPassword
    have own : resolved.resolveFormat.authorize = resolved.reread resolved.headers :=
      derive_of_plain resolved noFormat noUser noPassword
    have kept : resolved.headers = raw.headers := resolution.headers_eq
    have checked : (resolved.reread headers).checkForwardedFor =
        (resolved.reread resolved.headers).checkForwardedFor := by
      apply checkForwardedFor_congr
      rw [reread, reread, kept, same "x-forwarded-for" (by decide)]
    simp only [derived, own, checked]
    cases (resolved.reread resolved.headers).checkForwardedFor <;> rfl

theorem reread_of_created {raw : RawRequest} (created : create raw configuration = .ok request) :
    request.reread raw.headers = request := by
  have same : raw.headers.SameFirst forwardingNames raw.headers := fun _ _ => rfl
  have own := create_eq_map_reread configuration same
  rw [created] at own
  exact (Except.ok.inj own).symm

theorem headers_of_created {raw : RawRequest} (created : create raw configuration = .ok request) :
    request.headers = raw.headers :=
  (congrArg Request.headers (reread_of_created created)).symm

theorem create_eq_map {raw : RawRequest} {change : Request → Request}
    (same : raw.headers.SameFirst forwardingNames headers)
    (rereads : ∀ request, request.reread raw.headers = request →
      request.reread headers = change request) :
    create { raw with headers } configuration = (create raw configuration).map change := by
  rw [create_eq_map_reread configuration same]
  cases created : create raw configuration with
  | error error => rfl
  | ok request =>
      rw [Except.map, Except.map, rereads request (reread_of_created created)]

theorem create_of_sameFirst {raw : RawRequest} (configuration : Configuration)
    (same : raw.headers.SameFirst derivingNames headers) :
    create { raw with headers } configuration =
      (create raw configuration).map fun request => { request with headers } := by
  have accept := same "accept" (by decide)
  have authorization := same "authorization" (by decide)
  apply create_eq_map (same.mono (by decide))
  intro request own
  rw [reread, sentCredentials, ← accept, ← authorization]
  exact congrArg (fun own : Request => { own with headers }) own

/-! ## Reads of the derivation and of the queries -/

/-- Two requests that answer alike what a handler asks about their header fields. -/
structure AnswersAlike (left right : Request) : Prop where
  isModified : ∀ tag lastModified,
    left.headers.isModified tag lastModified = right.headers.isModified tag lastModified
  isAjax : left.isAjax = right.isAjax
  languages : left.languages = right.languages
  formatOrHtml : left.formatOrHtml = right.formatOrHtml

theorem answersAlike_of_respells (respells : request.headers.Respells headers) :
    request.AnswersAlike { request with headers } where
  isModified tag lastModified := by
    simp only [Headers.isModified, respells.value?_eq]
  isAjax := by
    simp only [Request.isAjax, respells.value?_eq]
  languages := by
    simp only [Request.languages, respells.value?_eq]
  formatOrHtml := rfl

/-- Each part of a request is derived from header fields of its own. Fields with other names,
values behind the first of a name and the spelling of names make no difference to the derivation,
whether it succeeds or fails. A change of `Authorization` reaches user and password at most, and
one of `Accept` the format. Spelling makes no difference to what a handler is answered either. -/
theorem create_reads_only_its_headers (raw : RawRequest) (configuration : Configuration)
    (headers : Headers) :
    (raw.headers.SameFirst derivingNames headers →
      create { raw with headers } configuration =
        (create raw configuration).map fun request => { request with headers }) ∧
    (raw.headers.AgreeOutside ["authorization"] headers → ∃ user password,
      create { raw with headers } configuration =
        (create raw configuration).map fun request => { request with headers, user, password }) ∧
    (raw.headers.AgreeOutside ["accept"] headers → ∃ format,
      create { raw with headers } configuration =
        (create raw configuration).map fun request => { request with headers, format }) ∧
    (raw.headers.Respells headers → ∀ request, create raw configuration = .ok request →
      ∃ other, create { raw with headers } configuration = .ok other ∧
        request.AnswersAlike other) ∧
    ∀ request : Request, request.headers.Respells headers →
      request.AnswersAlike { request with headers } := by
  refine ⟨create_of_sameFirst configuration, fun agree => ?_, fun agree => ?_,
    fun respells request created => ?_, fun request => answersAlike_of_respells⟩
  · refine ⟨(sentCredentials headers).user, (sentCredentials headers).password, ?_⟩
    apply create_eq_map (agree.sameFirst (by decide))
    intro request own
    have accept : raw.headers.value? "accept" = headers.value? "accept" :=
      agree.value?_eq (by decide)
    have format : Format.negotiate? (headers.value? "accept") = request.format :=
      accept ▸ congrArg Request.format own
    rw [reread, format]
  · refine ⟨Format.negotiate? (headers.value? "accept"), ?_⟩
    apply create_eq_map (agree.sameFirst (by decide))
    intro request own
    have authorization : raw.headers.value? "authorization" = headers.value? "authorization" :=
      agree.value?_eq (by decide)
    have credentials : sentCredentials headers = sentCredentials raw.headers := by
      rw [sentCredentials, sentCredentials, authorization]
    have user : (sentCredentials headers).user = request.user :=
      credentials ▸ congrArg Request.user own
    have password : (sentCredentials headers).password = request.password :=
      credentials ▸ congrArg Request.password own
    rw [reread, user, password]
  · have other := create_of_sameFirst configuration (respells.sameFirst derivingNames)
    have kept := headers_of_created created
    rw [created] at other
    exact ⟨_, other, answersAlike_of_respells (kept ▸ respells)⟩

/-- The fields of `overProxy`, the client followed by another value, and a field besides. -/
def overProxyTwice : Headers :=
  Headers.ofPairs
    [("X-FORWARDED-FOR", "203.0.113.7"), ("x-forwarded-for", "192.0.2.1"),
      ("X-Forwarded-Host", "example.com:8443"), ("X-Forwarded-Ssl", "on"), ("Range", "bytes=0-9")]

/-- The fields of `overProxy`, with their names spelled otherwise. -/
def overProxyRespelled : Headers :=
  Headers.ofPairs
    [("x-forwarded-for", "203.0.113.7"), ("X-FORWARDED-HOST", "example.com:8443"),
      ("x-Forwarded-ssl", "on")]

/-- Other fields, an authorization, an accepted type and another spelling each reach no further
than they may. -/
theorem create_reads_only_its_headers_overProxy :
    create { overProxy with headers := overProxyTwice } twoProxies =
      (create overProxy twoProxies).map
        (fun request => { request with headers := overProxyTwice }) ∧
    (∃ user password,
      create { overProxy with
          headers := overProxy.headers.set "Authorization" "Basic dTpw" } twoProxies =
        (create overProxy twoProxies).map fun request =>
          { request with
            headers := overProxy.headers.set "Authorization" "Basic dTpw", user, password }) ∧
    (∃ format,
      create { overProxy with
          headers := overProxy.headers.set "Accept" "application/json" } twoProxies =
        (create overProxy twoProxies).map fun request =>
          { request with
            headers := overProxy.headers.set "Accept" "application/json", format }) ∧
    ∃ request other,
      create overProxy twoProxies = .ok request ∧
      create { overProxy with headers := overProxyRespelled } twoProxies = .ok other ∧
      request.AnswersAlike other ∧
      request.AnswersAlike { request with headers := overProxyRespelled } := by
  refine ⟨?_, ?_, ?_, ?_⟩
  · apply (create_reads_only_its_headers overProxy twoProxies overProxyTwice).1
    decide +kernel
  · rcases create_reads_only_its_headers overProxy twoProxies
      (overProxy.headers.set "Authorization" "Basic dTpw") with ⟨_, authorized, _⟩
    exact authorized (Headers.agreeOutside_set (by decide +kernel) _ _)
  · rcases create_reads_only_its_headers overProxy twoProxies
      (overProxy.headers.set "Accept" "application/json") with ⟨_, _, accepted, _⟩
    exact accepted (Headers.agreeOutside_set (by decide +kernel) _ _)
  · have succeeds : (create overProxy twoProxies).toOption.any (fun _ => true) = true := by
      decide +kernel
    rcases exists_create_of_any succeeds with ⟨request, created, _⟩
    have respells : overProxy.headers.Respells overProxyRespelled :=
      Headers.respells_ofPairs (.cons ⟨by decide +kernel, rfl⟩
        (.cons ⟨by decide +kernel, rfl⟩ (.cons ⟨by decide +kernel, rfl⟩ .nil)))
    rcases create_reads_only_its_headers overProxy twoProxies overProxyRespelled
      with ⟨_, _, _, respelled, answers⟩
    rcases respelled respells request created with ⟨other, otherCreated, alike⟩
    have kept := headers_of_created created
    exact ⟨request, other, created, otherCreated, alike, answers request (kept ▸ respells)⟩

/-! ## The forwarding chain -/

/-- The first value of `X-Forwarded-For` is an address list in every request that is derived. The
check goes no further: the whole chain is made of address lists exactly if the values behind the
first happen to be, and any values there are derived alike. -/
theorem created_forwarding_chain (raw : RawRequest) (configuration : Configuration)
    (request : Request) (created : create raw configuration = .ok request) (header : Header)
    (member : header ∈ request.headers.entries) (named : header.key = "x-forwarded-for") :
    Text.IsAddressList header.value ∧
    ((∀ value ∈ header.values, Text.IsAddressList value) ↔
      ∀ value ∈ header.values.tail, Text.IsAddressList value) ∧
    ∀ headers, raw.headers.SameFirst derivingNames headers →
      create { raw with headers } configuration = .ok { request with headers } := by
  rcases create_eq_ok created with ⟨_, _, _, acceptable⟩
  have found : request.headers.field? "x-forwarded-for" = some header :=
    (KeyedList.find?_eq_some_iff ..).mpr ⟨member, named⟩
  have sent : raw.forwarding.client = some header.value := by
    rw [headers_of_created created] at found
    rw [RawRequest.forwarding, Headers.value?, found, Option.map_some]
  have first : Text.IsAddressList header.value :=
    Classical.byContradiction fun unacceptable => acceptable _ ⟨sent, unacceptable⟩
  refine ⟨first, ?_, ?_⟩
  · have values := List.cons_head_tail header.values_ne_nil
    rw [← values, List.forall_mem_cons, List.tail_cons]
    exact and_iff_right first
  · intro headers same
    rw [create_of_sameFirst configuration same, created]
    rfl

/-- A client's address, and a value behind it that no address is written like. -/
def smuggled : RawRequest where
  headers := Headers.ofPairs [("X-Forwarded-For", "203.0.113.7"), ("X-Forwarded-For", "<script>")]

theorem created_smuggled :
    ∃ request header, create smuggled {} = .ok request ∧ header ∈ request.headers.entries ∧
      header.key = "x-forwarded-for" ∧ header.values = ["203.0.113.7", "<script>"] := by
  have succeeds : (create smuggled {}).toOption.any (fun request =>
      request.headers.field? "x-forwarded-for" ==
        some { name := "X-Forwarded-For", values := ["203.0.113.7", "<script>"] }) = true := by
    decide +kernel
  rcases exists_create_of_any succeeds with ⟨request, created, found⟩
  rcases (KeyedList.find?_eq_some_iff ..).mp (beq_iff_eq.mp found) with ⟨member, named⟩
  exact ⟨request, _, created, member, named, rfl⟩

theorem not_isAddressList_script : ¬Text.IsAddressList "<script>" := by
  rw [← Text.all_isAddressCharacter_iff]
  decide +kernel

/-- The value in front is an address list and the one behind it is not, and without that one the
request is the same. -/
theorem created_forwarding_chain_smuggled :
    ∃ request header, create smuggled {} = .ok request ∧ header ∈ request.headers.entries ∧
      Text.IsAddressList header.value ∧ (¬∀ value ∈ header.values, Text.IsAddressList value) ∧
      create { headers := Headers.set KeyedList.empty "x-forwarded-for" "203.0.113.7" } {} =
        .ok { request with
          headers := Headers.set KeyedList.empty "x-forwarded-for" "203.0.113.7" } := by
  rcases created_smuggled with ⟨request, header, created, member, named, values⟩
  rcases created_forwarding_chain smuggled {} request created header member named
    with ⟨first, rest, derivedAlike⟩
  refine ⟨request, header, created, member, first, ?_, derivedAlike _ (by decide +kernel)⟩
  rw [rest, values]
  exact fun acceptable => not_isAddressList_script (acceptable "<script>" (by simp))

/-- A value that is no address list can be in the chain of a request that is derived. -/
theorem not_all_forwarded_values_isAddressList :
    ¬∀ (raw : RawRequest) (configuration : Configuration) (request : Request),
      create raw configuration = .ok request → ∀ header ∈ request.headers.entries,
        header.key = "x-forwarded-for" → ∀ value ∈ header.values, Text.IsAddressList value := by
  intro all
  rcases created_smuggled with ⟨request, header, created, member, named, values⟩
  apply not_isAddressList_script
  exact all smuggled {} request created header member named "<script>" (by simp [values])

end Request

end HttpExchange
