import HttpExchange.CookieJar.Operation
import HttpExchange.Headers.Operation
import HttpExchange.Response.Head
/-!
The operations on a response as data, with what each answers.
-/

namespace HttpExchange.Response

inductive Operation
  | headers (operation : Headers.Operation)
  | cookies (operation : CookieJar.Operation)
  | header (name : String)
  | setHeader (name value : String)
  | setContentTypeIfNotSet (contentType : String)
  | setContentType (contentType : Option String)
  | setStatus (status : Status)
  | setEncoding (encoding : String)
  | setCookie (request : CookieRequest)
  | setCookieFor (name value duration : String)
  | expireCookie (name path : String)
  | cacheFor (duration : String)
  | cacheForValidated (tag duration : String) (lastModified : Instant)
  | allowOrigin (origin : String) (methods : Option String) (credentials : Bool)
  | print (text : String)
  | reset
  | registerSink
  | writeChunk (chunk : Chunk)
  | setDirect (direct : Option Direct)
deriving DecidableEq

inductive Reply
  | done
  | headers (reply : Headers.Reply)
  | cookies (reply : CookieJar.Reply)
  | text (value : Option String)
  | outcome (outcome : Except Error Unit)
  | validators (outcome : Except ValidatorFailure Unit)

private def reported (result : Response × Except Error Unit) : Response × Reply :=
  (result.1, .outcome result.2)

def perform (response : Response) : Operation → Response × Reply
  | .headers operation =>
      let (headers, reply) := response.headers.perform operation
      ({ response with headers }, .headers reply)
  | .cookies operation =>
      let (cookies, reply) := response.cookies.perform operation
      ({ response with cookies }, .cookies reply)
  | .header name => (response, .text (response.headers.value? name))
  | .setHeader name value => (response.setHeader name value, .done)
  | .setContentTypeIfNotSet contentType =>
      (response.setContentTypeIfNotSet contentType, .done)
  | .setContentType contentType => ({ response with contentType }, .done)
  | .setStatus status => ({ response with status }, .done)
  | .setEncoding encoding => ({ response with encoding }, .done)
  | .setCookie request => (response.setCookie request, .done)
  | .setCookieFor name value duration => reported (response.setCookieFor name value duration)
  | .expireCookie name path => (response.expireCookie name path, .done)
  | .cacheFor duration => reported (response.cacheFor duration)
  | .cacheForValidated tag duration lastModified =>
      let (response, outcome) := response.cacheForValidated tag duration lastModified
      (response, .validators outcome)
  | .allowOrigin origin methods credentials =>
      (response.allowOrigin origin methods credentials, .done)
  | .print text => reported (response.print text)
  | .reset => (response.reset, .done)
  | .registerSink => (response.registerSink, .done)
  | .writeChunk chunk => reported (response.writeChunk chunk)
  | .setDirect direct => ({ response with direct }, .done)

def performAll (response : Response) : List Operation → Response × List Reply
  | [] => (response, [])
  | operation :: operations =>
      let (response, reply) := response.perform operation
      let (response, replies) := response.performAll operations
      (response, reply :: replies)

/-- Said once, as comparing the two sides otherwise runs the encoder. -/
theorem perform_print (response : Response) (text : String) :
    (response.perform (.print text)).1 = (response.print text).1 := by
  rw [perform, reported]

/-! ## What operations are about -/

inductive Part
  | status
  | contentType
  | headers
  | cookies
  | out
  | direct
  | encoding
  | stream
deriving DecidableEq

/-- The part of a response that the operation is about. -/
def Operation.part : Operation → Part
  | .headers _ => .headers
  | .cookies _ => .cookies
  | .header _ => .headers
  | .setHeader _ _ => .headers
  | .setContentTypeIfNotSet _ => .contentType
  | .setContentType _ => .contentType
  | .setStatus _ => .status
  | .setEncoding _ => .encoding
  | .setCookie _ => .cookies
  | .setCookieFor _ _ _ => .cookies
  | .expireCookie _ _ => .cookies
  | .cacheFor _ => .headers
  | .cacheForValidated _ _ _ => .headers
  | .allowOrigin _ _ _ => .headers
  | .print _ => .out
  | .reset => .out
  | .registerSink => .stream
  | .writeChunk _ => .stream
  | .setDirect _ => .direct

/-- Two responses that are the same outside one part. -/
inductive DiffersIn (before : Response) : Part → Response → Prop
  | status (status : Status) : DiffersIn before .status { before with status }
  | contentType (contentType : Option String) :
      DiffersIn before .contentType { before with contentType }
  | headers (headers : Headers) : DiffersIn before .headers { before with headers }
  | cookies (cookies : CookieJar) : DiffersIn before .cookies { before with cookies }
  | out (out : Bytes) : DiffersIn before .out { before with out }
  | direct (direct : Option Direct) : DiffersIn before .direct { before with direct }
  | encoding (encoding : String) : DiffersIn before .encoding { before with encoding }
  | stream (stream : ChunkStream) : DiffersIn before .stream { before with stream }

namespace DiffersIn

variable {before after : Response} {part : Part}

theorem headers_eq (differs : before.DiffersIn part after) (apart : part ≠ .headers) :
    after.headers = before.headers := by
  cases differs with
  | headers => exact absurd rfl apart
  | _ => rfl

theorem out_eq (differs : before.DiffersIn part after) (apart : part ≠ .out) :
    after.out = before.out := by
  cases differs with
  | out => exact absurd rfl apart
  | _ => rfl

theorem encoding_eq (differs : before.DiffersIn part after) (apart : part ≠ .encoding) :
    after.encoding = before.encoding := by
  cases differs with
  | encoding => exact absurd rfl apart
  | _ => rfl

theorem stream_eq (differs : before.DiffersIn part after) (apart : part ≠ .stream) :
    after.stream = before.stream := by
  cases differs with
  | stream => exact absurd rfl apart
  | _ => rfl

end DiffersIn

/-- An operation changes nothing outside the part that it is about, whether it succeeds or fails. -/
theorem perform_differsIn (response : Response) (operation : Operation) :
    response.DiffersIn operation.part (response.perform operation).1 := by
  cases operation with
  | headers operation => exact .headers _
  | cookies operation => exact .cookies _
  | header name => exact .headers response.headers
  | setHeader name value => exact .headers _
  | setContentTypeIfNotSet contentType => exact .contentType _
  | setContentType contentType => exact .contentType _
  | setStatus status => exact .status _
  | setEncoding encoding => exact .encoding _
  | setCookie request => exact .cookies _
  | setCookieFor name value duration =>
      rcases response.setCookieFor_eq_withCookies name value duration with ⟨cookies, shape⟩
      rw [perform, reported, shape]
      exact .cookies cookies
  | expireCookie name path => exact .cookies _
  | cacheFor duration =>
      rcases response.cacheFor_eq_withHeaders duration with ⟨headers, shape⟩
      rw [perform, reported, shape]
      exact .headers headers
  | cacheForValidated tag duration lastModified =>
      rcases response.cacheForValidated_eq_withHeaders tag duration lastModified with
        ⟨headers, shape⟩
      rw [perform, shape]
      exact .headers headers
  | allowOrigin origin methods credentials =>
      rcases response.allowOrigin_eq_withHeaders origin methods credentials with
        ⟨headers, shape⟩
      rw [perform, shape]
      exact .headers headers
  | print text =>
      rcases response.print_eq_withOut text with ⟨out, shape⟩
      rw [perform_print, shape]
      exact .out out
  | reset => exact .out []
  | registerSink => exact .stream _
  | writeChunk chunk => exact .stream _
  | setDirect direct => exact .direct _

end HttpExchange.Response
