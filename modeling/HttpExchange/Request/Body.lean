import HttpExchange.Bytes
/-!
Request bodies: what the transport delivers when the body is read.
-/

namespace HttpExchange

/-- A stream of octets that comes in pieces and may break off. -/
structure Body where
  pieces : List Bytes
  /-- The text of the failure in which the stream ends, if it does not end well. -/
  failure : Option String := none
deriving DecidableEq, Repr

namespace Body

def read (body : Body) : Except String Bytes :=
  match body.failure with
  | none => .ok body.pieces.flatten
  | some failure => .error failure

end Body

end HttpExchange
