import HttpExchange.Charset
import HttpExchange.ChunkStream
import HttpExchange.Configuration
import HttpExchange.CookieJar
import HttpExchange.Freshness
/-!
Responses while handlers fill them: status, headers, cookies, and a body that is buffered,
streamed in chunks, or sent by the transport itself. Every operation answers with the response
that it leaves behind, also where it fails.
-/

namespace HttpExchange

/-- Content that the transport sends in place of the buffered body. -/
inductive Direct
  | file (path : String)
  | stream
deriving DecidableEq, Repr

structure Response where
  status : Status
  contentType : Option String
  headers : Headers
  cookies : CookieJar
  /-- The buffered body. -/
  out : Bytes
  direct : Option Direct
  /-- The charset in which text is written. -/
  encoding : String
  stream : ChunkStream
deriving DecidableEq

inductive ValidatorFailure
  | refused (error : Error)
  /-- The instant is one that no date can show. -/
  | dateOutOfRange
deriving DecidableEq, Repr

namespace Response

/-- An empty response with the defaults of the settings. -/
def new (configuration : Configuration) : Response where
  status := Status.ok
  contentType := none
  headers := KeyedList.empty
  cookies := CookieJar.withDefaultDomain configuration.defaultCookieDomain
  out := []
  direct := none
  encoding := configuration.defaultEncoding
  stream := {}

def chunked (response : Response) : Bool :=
  response.stream.started

def setHeader (response : Response) (name value : String) : Response :=
  { response with headers := response.headers.set name value }

def setContentTypeIfNotSet (response : Response) (contentType : String) : Response :=
  { response with contentType := response.contentType.or (some contentType) }

def setCookie (response : Response) (request : CookieRequest) : Response :=
  { response with cookies := response.cookies.set request }

/-- Sets a cookie that lives for a duration such as `3d`. -/
def setCookieFor (response : Response) (name value duration : String) :
    Response × Except Error Unit :=
  match CookieRequest.expiresIn { name, value } duration with
  | .ok request => (response.setCookie request, .ok ())
  | .error error => (response, .error error)

def expireCookie (response : Response) (name path : String) : Response :=
  { response with cookies := response.cookies.expire name path }

/-- Lets clients keep the response for a duration such as `3h`. -/
def cacheFor (response : Response) (duration : String) : Response × Except Error Unit :=
  match Duration.parse duration with
  | .ok seconds =>
      (response.setHeader "Cache-Control" ("max-age=" ++ toString seconds.toNat), .ok ())
  | .error error => (response, .error error)

/-- Lets clients keep the response, and publishes the validators with which they ask whether
it has changed since. -/
def cacheForValidated (response : Response) (tag duration : String) (lastModified : Instant) :
    Response × Except ValidatorFailure Unit :=
  match response.cacheFor duration with
  | (response, .error error) => (response, .error (.refused error))
  | (response, .ok ()) =>
      match HttpDate.ofInstant? lastModified with
      | some date => ((response.setHeader "Last-Modified" date).setHeader "Etag" tag, .ok ())
      | none => (response, .error .dateOutOfRange)

/-- Allows requests from other origins: from `origin`, with these methods if any are given, and
with the client's credentials if `credentials` says so. -/
def allowOrigin (response : Response) (origin : String) (methods : Option String)
    (credentials : Bool) : Response :=
  let response := response.setHeader "Access-Control-Allow-Origin" origin
  let response := match methods with
    | some methods => response.setHeader "Access-Control-Allow-Methods" methods
    | none => response
  if credentials then response.setHeader "Access-Control-Allow-Credentials" "true"
  else response

/-- Writes text behind the buffered body, in the response's charset. -/
def print (response : Response) (text : String) : Response × Except Error Unit :=
  match Charset.encodeAs response.encoding text with
  | .ok octets => ({ response with out := response.out ++ octets }, .ok ())
  | .error error => (response, .error error)

def reset (response : Response) : Response :=
  { response with out := [] }

def registerSink (response : Response) : Response :=
  { response with stream := response.stream.register }

def writeChunk (response : Response) (chunk : Chunk) : Response × Except Error Unit :=
  match response.stream.write chunk with
  | (stream, outcome) => ({ response with stream := stream }, outcome)

/-! Each of these changes one part of a response, also where it fails. -/

theorem setCookieFor_eq_withCookies (response : Response) (name value duration : String) :
    ∃ cookies, (response.setCookieFor name value duration).1 = { response with cookies } := by
  rw [setCookieFor]
  split
  · exact ⟨_, rfl⟩
  · exact ⟨response.cookies, rfl⟩

theorem cacheFor_eq_withHeaders (response : Response) (duration : String) :
    ∃ headers, (response.cacheFor duration).1 = { response with headers } := by
  rw [cacheFor]
  split
  · exact ⟨_, rfl⟩
  · exact ⟨response.headers, rfl⟩

theorem cacheForValidated_eq_withHeaders (response : Response) (tag duration : String)
    (lastModified : Instant) :
    ∃ headers,
      (response.cacheForValidated tag duration lastModified).1 = { response with headers } := by
  have cached := response.cacheFor_eq_withHeaders duration
  rw [cacheForValidated]
  generalize response.cacheFor duration = outcome at cached ⊢
  rcases cached with ⟨headers, shape⟩
  rcases outcome with ⟨cached, error | ⟨⟩⟩
  · exact ⟨headers, shape⟩
  · cases shape
    cases HttpDate.ofInstant? lastModified with
    | none => exact ⟨headers, rfl⟩
    | some date => exact ⟨_, rfl⟩

theorem allowOrigin_eq_withHeaders (response : Response) (origin : String)
    (methods : Option String) (credentials : Bool) :
    ∃ headers, response.allowOrigin origin methods credentials = { response with headers } := by
  cases methods <;> cases credentials <;> exact ⟨_, rfl⟩

theorem print_eq_withOut (response : Response) (text : String) :
    ∃ out, (response.print text).1 = { response with out } := by
  rw [print]
  split
  · exact ⟨_, rfl⟩
  · exact ⟨response.out, rfl⟩

theorem print_of_known {response : Response} {charset : Charset}
    (known : Charset.ofName? response.encoding = some charset) (text : String) :
    response.print text =
      ({ response with out := response.out ++ charset.encode text }, .ok ()) := by
  simp only [print, Charset.encodeAs, known]

theorem print_of_unknown {response : Response}
    (unknown : Charset.ofName? response.encoding = none) (text : String) :
    response.print text = (response, .error (.unknownCharset response.encoding)) := by
  simp only [print, Charset.encodeAs, unknown]

end Response

end HttpExchange
