import HttpExchange.Bytes.Base64
import HttpExchange.Bytes.Utf8
import HttpExchange.Request
/-!
Basic credentials: user and password in the `Authorization` header.
-/

namespace HttpExchange

/-- User and password, where an empty one counts as none. -/
structure Credentials where
  user : Option String
  password : Option String
deriving DecidableEq, Repr

namespace Credentials

def none : Credentials where
  user := .none
  password := .none

def nonempty? : List Char → Option String
  | [] => .none
  | text => some (String.ofList text)

/-- The credentials of an `Authorization` value: behind `Basic `, in Base64, the user, a colon
and the password, which may hold colons of its own. -/
def ofAuthorization? (value : String) : Option Credentials := do
  let encoded ← Text.after? "Basic ".toList value.toList
  let octets ← Base64.decode? (Text.trim encoded)
  let (user, password) ← Text.cut? ':' (Utf8.decodeLenient octets)
  return { user := nonempty? user, password := nonempty? password }

end Credentials

namespace Request

/-- Takes user and password from the `Authorization` header, if it has any to give. -/
def authorize (request : Request) : Request :=
  match request.headers.value? "authorization" >>= Credentials.ofAuthorization? with
  | some credentials =>
      { request with user := credentials.user, password := credentials.password }
  | none => request

end Request

end HttpExchange
