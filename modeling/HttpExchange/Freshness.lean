import HttpExchange.Headers
import HttpExchange.HttpDate
import HttpExchange.Instant
/-!
Conditional requests: whether the copy that a client has is still fresh.
-/

namespace HttpExchange

namespace HttpDate

/-- The date of an instant, if there is one: the instant lies from 1970 to 9999. -/
def ofInstant? (instant : Instant) : Option String :=
  if 0 ≤ instant.seconds ∧ instant.seconds < secondCount then
    some (String.ofList (write instant.seconds.toNat))
  else none

end HttpDate

namespace Headers

/-- Whether the client's copy must be made anew. It is fresh only if the request names both
the entity tag, which must be `tag`, and a date, which must not be before `lastModified`.
Dates hold whole seconds, so `lastModified` is compared without its part of a second. -/
def isModified (headers : Headers) (tag : String) (lastModified : Instant) : Bool :=
  match headers.value? "if-none-match", headers.value? "if-modified-since" with
  | some clientTag, some clientDate =>
      if clientTag = tag then
        match HttpDate.read? clientDate.toList with
        | some seconds => decide (Instant.ofSeconds seconds < lastModified.wholeSecond)
        | none => true
      else true
  | _, _ => true

end Headers

end HttpExchange
