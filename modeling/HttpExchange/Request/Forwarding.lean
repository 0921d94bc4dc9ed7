import HttpExchange.Port
import HttpExchange.Request
/-!
Trust in forwarding headers. Behind a proxy the transport sees the proxy: its address, the host
that it asked for and whether that hop was secure. A trusted proxy tells the client's values in
forwarding headers; from any other sender those headers are refused.
-/

namespace HttpExchange

namespace Text

/-- The characters of an address list: digits, hexadecimal letters, the marks of addresses and
networks, and what separates them. -/
def isAddressCharacter (character : Char) : Bool :=
  isWhiteSpace character || isDecimalDigit character || isHexLetter character ||
    character == ',' || character == '.' || character == ':' || character == '/'

end Text

/-- Checks that the first value of an `X-Forwarded-For` field is an address list. -/
def Header.checkForwardedFor : Option Header → Except Error Unit
  | none => .ok ()
  | some header =>
      if header.value.toList.all Text.isAddressCharacter then .ok ()
      else .error (.unacceptableForwardedFor header.value)

namespace Request

/-- Whether the first value of a header is `expected`, in any letter case. -/
def headerIs (request : Request) (name expected : String) : Bool :=
  match request.headers.value? name with
  | some value => Text.sameLetters value.toList expected.toList
  | none => false

/-- Whether the settings or a forwarding header say that the client's hop was secure. -/
def forwardedSecurely (request : Request) (configuration : Configuration) : Bool :=
  (match configuration.forwardedProto with
    | some proto => Text.sameLetters proto.toList "https".toList
    | none => false) ||
  request.headerIs "x-forwarded-proto" "https" ||
  request.headerIs "x-forwarded-ssl" "on" ||
  request.headerIs "front-end-https" "on"

/-- The host that a forwarded request is meant for. -/
def forwardedHost (request : Request) (configuration : Configuration) : String :=
  (configuration.forwardedHost.or (request.headers.value? "x-forwarded-host")).getD request.host

/-- Takes host, security and client address from the forwarding headers. -/
def acceptForwarding (request : Request) (configuration : Configuration)
    (forwardedFor : String) : Request :=
  { request with
    secure := request.secure || request.forwardedSecurely configuration
    host := request.forwardedHost configuration
    remoteAddress := forwardedFor }

/-- Lets domain and port follow the host. A port behind the host's first colon must be a port
number; without a colon the port is 80. -/
def followHost (request : Request) : Request × Except Error Unit :=
  match (request.host.toList.splitOn ':') with
  | domain :: port :: _ =>
      match Port.read port with
      | .ok port => ({ request with domain := String.ofList domain, port := port }, .ok ())
      | .error fault => (request, .error (.malformedPort request.host fault))
  | _ => ({ request with domain := request.host, port := 80 }, .ok ())

/-- Lets domain and port follow the host if the settings ask for it and the host is no longer
`formerHost`. -/
def followChangedHost (request : Request) (configuration : Configuration) (formerHost : String) :
    Request × Except Error Unit :=
  if configuration.overwriteDomainAndPort && request.host != formerHost then request.followHost
  else (request, .ok ())

/-- Derives the client's address, host and security from forwarding headers. They count only
with an `X-Forwarded-For` header and where proxies can be trusted at all, and then only from a
trusted one. What is derived before a failure stays. -/
def resolveForwarding (request : Request) (configuration : Configuration) :
    Request × Except Error Unit :=
  match request.headers.value? "x-forwarded-for", configuration.proxyTrust with
  | none, _ => request.followChangedHost configuration request.host
  | some _, .disabled => request.followChangedHost configuration request.host
  | some forwardedFor, trust =>
      if trust.accepts request.remoteAddress then
        (request.acceptForwarding configuration forwardedFor).followChangedHost configuration
          request.host
      else (request, .error (.untrustedProxy request.remoteAddress))

end Request

end HttpExchange
