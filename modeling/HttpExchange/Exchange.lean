import HttpExchange.ActionResult
import HttpExchange.Request.Creation
/-!
Exchanges: a request with the response that is being built for it.
-/

namespace HttpExchange

structure Exchange where
  request : Request
  response : Response
deriving DecidableEq

namespace Exchange

def describe (exchange : Exchange) : String :=
  "Exchange \x7b request: " ++ exchange.request.display ++ ", status: " ++
    exchange.response.status.text ++ ", .. \x7d"

/-- The exchange of a plain request for a path, under the settings as they are by default. -/
def ofPath (path : String) : Exchange where
  request := (Request.ofRaw { path } {}).resolveFormat
  response := Response.new {}

theorem create_plain (path : String) :
    Request.create { path } {} = .ok (ofPath path).request := by
  rfl

end Exchange

end HttpExchange
