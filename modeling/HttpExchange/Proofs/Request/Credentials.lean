import HttpExchange.Proofs.Base64
import HttpExchange.Proofs.Request.HeaderReads
import HttpExchange.Proofs.Utf8

/-! Basic credentials of a derived request: exactly the user and the password that its
`Authorization` header sends, and none of them where the header is malformed in any way. -/

namespace HttpExchange

/-! ## Sent credentials -/

namespace Credentials

/-- An `Authorization` value sends this user and this password: behind `Basic ` stand octets in
Base64, with or without white space around them, and read as text they are the user, a colon, the
first one, and the password. -/
inductive Sends (value : String) : (user password : List Char) → Prop
  | basic {encoded user password : List Char} {octets : Bytes}
      (scheme : value.toList = "Basic ".toList ++ encoded)
      (canonical : Text.trim encoded = Base64.encode octets)
      (parts : Utf8.decodeLenient octets = user ++ ':' :: password)
      (first : ':' ∉ user) : Sends value user password

theorem ofAuthorization?_eq_some_iff {value : String} {credentials : Credentials} :
    ofAuthorization? value = some credentials ↔
      ∃ user password, Sends value user password ∧
        credentials = { user := nonempty? user, password := nonempty? password } := by
  simp only [ofAuthorization?, Option.bind_eq_bind, Option.bind_eq_some_iff,
    Text.after?_eq_some_iff, Base64.decode?_eq_some_iff, Prod.exists, Option.pure_def,
    Option.some.injEq]
  constructor
  · intro sent
    rcases sent with ⟨encoded, scheme, octets, canonical, user, password, cut, rfl⟩
    rcases Text.cut?_eq_some cut with ⟨parts, first⟩
    exact ⟨user, password, .basic scheme canonical parts first, rfl⟩
  · intro sent
    rcases sent with ⟨user, password, ⟨scheme, canonical, parts, first⟩, rfl⟩
    exact ⟨_, scheme, _, canonical, user, password, parts ▸ Text.cut?_append_cons first password, rfl⟩

/-- A text, where an empty one counts as none. -/
def shown (text : List Char) : Option String :=
  if text = [] then .none else some (String.ofList text)

theorem nonempty?_eq_shown (text : List Char) : nonempty? text = shown text := by
  cases text <;> rfl

theorem shown_toList {text : String} (nonempty : text ≠ "") : shown text.toList = some text := by
  have filled : text.toList ≠ [] := by simpa using nonempty
  rw [shown, if_neg filled, String.ofList_toList]

/-- The value by which clients send a user and a password. -/
def basicValue (user password : String) : String :=
  "Basic " ++ String.ofList (Base64.encode (Utf8.encode (user ++ ":" ++ password).toList))

theorem sends_basicValue {user : String} (password : String) (colonless : ':' ∉ user.toList) :
    Sends (basicValue user password) user.toList password.toList := by
  have scheme : (basicValue user password).toList =
      "Basic ".toList ++ Base64.encode (Utf8.encode (user ++ ":" ++ password).toList) := by
    simp only [basicValue, String.toList_append, String.toList_ofList]
  refine .basic scheme (Base64.trim_encode _) ?_ colonless
  rw [Utf8.decodeLenient_encode, String.toList_append, String.toList_append, List.append_assoc]
  rfl

end Credentials

namespace Request

variable {raw : RawRequest} {configuration : Configuration} {request : Request} {headers : Headers}

theorem credentials_of_created (created : create raw configuration = .ok request) :
    request.user = (sentCredentials raw.headers).user ∧
      request.password = (sentCredentials raw.headers).password := by
  have own := reread_of_created created
  exact ⟨(congrArg Request.user own).symm, (congrArg Request.password own).symm⟩

theorem value?_authorization (headers : Headers) :
    headers.value? "authorization" = headers.value? "Authorization" :=
  headers.value?_congr (by decide)

theorem sentCredentials_of_sends {value : String} {user password : List Char}
    (sent : headers.value? "Authorization" = some value)
    (sends : Credentials.Sends value user password) :
    sentCredentials headers =
      { user := Credentials.shown user, password := Credentials.shown password } := by
  have read := Credentials.ofAuthorization?_eq_some_iff.mpr ⟨user, password, sends, rfl⟩
  rw [sentCredentials, value?_authorization, sent, Option.bind_eq_bind, Option.bind_some, read,
    Option.getD_some, Credentials.nonempty?_eq_shown, Credentials.nonempty?_eq_shown]

theorem sentCredentials_of_not_sends
    (unsent : ∀ value, headers.value? "Authorization" = some value →
      ∀ user password, ¬Credentials.Sends value user password) :
    sentCredentials headers = Credentials.none := by
  have unread : (headers.value? "Authorization").bind Credentials.ofAuthorization? = none := by
    rw [Option.bind_eq_none_iff]
    intro value sent
    rw [Option.eq_none_iff_forall_ne_some]
    intro credentials read
    rcases Credentials.ofAuthorization?_eq_some_iff.mp read with ⟨user, password, sends, _⟩
    exact unsent value sent user password sends
  rw [sentCredentials, value?_authorization, Option.bind_eq_bind, unread, Option.getD_none]

/-- A derived request has exactly the credentials that its first `Authorization` value sends: the
user before the first colon and the password behind it, each unset if it is empty, and neither if
the value sends none or there is no value. What a client sends as Basic credentials, in whatever
characters, arrives as it was. -/
theorem create_decodes_basic_credentials (raw : RawRequest) (configuration : Configuration)
    (request : Request) (created : create raw configuration = .ok request) :
    (∀ value user password, raw.headers.value? "Authorization" = some value →
      Credentials.Sends value user password →
        request.user = Credentials.shown user ∧
        request.password = Credentials.shown password) ∧
    ((∀ value, raw.headers.value? "Authorization" = some value →
      ∀ user password, ¬Credentials.Sends value user password) →
        request.user = none ∧ request.password = none) ∧
    ∀ user password : String, user ≠ "" → ':' ∉ user.toList → password ≠ "" →
      raw.headers.value? "Authorization" = some (Credentials.basicValue user password) →
        request.user = some user ∧ request.password = some password := by
  rcases credentials_of_created created with ⟨userRead, passwordRead⟩
  rw [userRead, passwordRead]
  refine ⟨fun value user password sent sends => ?_, fun unsent => ?_,
    fun user password someUser colonless somePassword sent => ?_⟩
  · rw [sentCredentials_of_sends sent sends]
    exact ⟨rfl, rfl⟩
  · rw [sentCredentials_of_not_sends unsent]
    exact ⟨rfl, rfl⟩
  · rw [sentCredentials_of_sends sent (Credentials.sends_basicValue password colonless)]
    exact ⟨Credentials.shown_toList someUser, Credentials.shown_toList somePassword⟩

/-- A user with a colon in the password, and characters that take up to four octets. -/
def signedIn : RawRequest where
  headers := Headers.ofPairs
    [("AUTHORIZATION", Credentials.basicValue "zoë" "p:ß😀"), ("Authorization", "Bearer x")]

/-- A value from which the padding is missing. -/
def unpadded : RawRequest where
  headers := Headers.ofPairs [("Authorization", "Basic dTpwd")]

theorem create_decodes_basic_credentials_signedIn :
    (∃ request, create signedIn {} = .ok request ∧
      request.user = some "zoë" ∧ request.password = some "p:ß😀") ∧
    ∃ request, create unpadded {} = .ok request ∧
      request.user = none ∧ request.password = none := by
  have succeeds : ∀ raw ∈ [signedIn, unpadded],
      (create raw {}).toOption.any (fun _ => true) = true := by decide +kernel
  constructor
  · rcases exists_create_of_any (succeeds signedIn (by simp)) with ⟨request, created, _⟩
    rcases create_decodes_basic_credentials signedIn {} request created with ⟨_, _, arrives⟩
    exact ⟨request, created,
      arrives "zoë" "p:ß😀" (by decide) (by decide) (by decide) (by decide +kernel)⟩
  · rcases exists_create_of_any (succeeds unpadded (by simp)) with ⟨request, created, _⟩
    rcases create_decodes_basic_credentials unpadded {} request created with ⟨_, unset, _⟩
    refine ⟨request, created, unset ?_⟩
    have sent : unpadded.headers.value? "Authorization" = some "Basic dTpwd" := by decide +kernel
    have unread : Credentials.ofAuthorization? "Basic dTpwd" = none := by decide +kernel
    intro value present user password sends
    cases sent.symm.trans present
    have read := Credentials.ofAuthorization?_eq_some_iff.mpr ⟨user, password, sends, rfl⟩
    cases unread.symm.trans read

end Request

end HttpExchange
