import HttpExchange.Request.Credentials
import HttpExchange.Request.Forwarding
/-!
The derivation of a request from what the transport hands over. Steps follow in a fixed order,
and the first that fails leaves no request.
-/

namespace HttpExchange.Request

/-- Checks that the `X-Forwarded-For` header holds an address list. -/
def checkForwardedFor (request : Request) : Except Error Unit :=
  Header.checkForwardedFor (request.headers.field? "x-forwarded-for")

/-- Derives a request: content type, trust in proxies, format and credentials, and at last the
check of the addresses that were forwarded. -/
def create (raw : RawRequest) (configuration : Configuration) : Except Error Request :=
  match (ofRaw raw configuration).resolveForwarding configuration with
  | (_, .error error) => .error error
  | (request, .ok ()) =>
      let derived := request.resolveFormat.authorize
      match derived.checkForwardedFor with
      | .ok () => .ok derived
      | .error error => .error error

end HttpExchange.Request
