import HttpExchange.Port
import HttpExchange.Status
import HttpExchange.Text.Quoted
/-!
What can go wrong while a request is derived or a response is built, with the text that is
shown for it and the status that the transport answers with when it is not handled.
-/

namespace HttpExchange

inductive Error
  /-- An `X-Forwarded-For` value with a character that no address list has. -/
  | unacceptableForwardedFor (value : String)
  /-- Forwarding headers from an address that is not on the allow-list. -/
  | untrustedProxy (address : String)
  /-- A forwarded host whose port is not a port number. -/
  | malformedPort (host : String) (fault : PortFault)
  | unsupportedOperation (operation : String)
  /-- Output in a charset that is not known. -/
  | unknownCharset (name : String)
  | malformedDuration (text : String)
deriving DecidableEq, Repr

namespace Error

def message : Error → String
  | .unacceptableForwardedFor value => "unacceptable X-Forwarded-For format: " ++ value
  | .untrustedProxy address => "this proxy request is not authorized: " ++ address
  | .malformedPort host _ => "invalid port in forwarded host " ++ Text.quoted host
  | .unsupportedOperation operation => "unsupported operation: " ++ operation
  | .unknownCharset name => "encoding problem: cannot encode output as " ++ Text.quoted name
  | .malformedDuration text => "invalid duration " ++ Text.quoted text

/-- The status that tells the client whose fault it was. -/
def status : Error → Status
  | .unacceptableForwardedFor _ => Status.badRequest
  | .malformedPort _ _ => Status.badRequest
  | .untrustedProxy _ => Status.forbidden
  | _ => Status.internalError

def cause : Error → Option String
  | .malformedPort _ fault => some fault.message
  | _ => none

end Error

end HttpExchange
