import HttpExchange.Text.Character
import HttpExchange.Text.Trim
/-!
The settings of an application, and the trust in proxies that they express.
-/

namespace HttpExchange

structure Configuration where
  /-- The proxies that may send forwarding headers: `ALL`, or addresses between commas and
  white space. Without it forwarding headers mean nothing. -/
  forwardedSupport : Option String := none
  /-- The host of every forwarded request. -/
  forwardedHost : Option String := none
  /-- `https` makes every forwarded request secure. -/
  forwardedProto : Option String := none
  /-- Whether domain and port follow a host that forwarding has changed. -/
  overwriteDomainAndPort : Bool := false
  /-- The domain of cookies that are set without one. -/
  defaultCookieDomain : Option String := none
  /-- The charset of requests that name none, and of responses. -/
  defaultEncoding : String := "utf-8"
deriving DecidableEq, Repr

/-- The proxies whose forwarding headers are taken for true. -/
inductive ProxyTrust
  | disabled
  | all
  | only (addresses : List String)
deriving DecidableEq, Repr

namespace ProxyTrust

def isSeparator (character : Char) : Bool :=
  character == ',' || Text.isWhiteSpace character

/-- The addresses of an allow-list: its longest runs without separators. -/
def addresses (text : String) : List String :=
  ((text.toList.splitOnP isSeparator).filter fun address => !address.isEmpty).map String.ofList

def ofSetting : Option String → ProxyTrust
  | none => .disabled
  | some text =>
      if Text.sameLetters (Text.trim text.toList) "all".toList then .all
      else .only (addresses text)

/-- Whether a proxy of this address is trusted, where any is. -/
def accepts (trust : ProxyTrust) (address : String) : Bool :=
  match trust with
  | .disabled => false
  | .all => true
  | .only addresses => address ∈ addresses

end ProxyTrust

def Configuration.proxyTrust (configuration : Configuration) : ProxyTrust :=
  .ofSetting configuration.forwardedSupport

end HttpExchange
