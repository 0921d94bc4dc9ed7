import HttpExchange.Request.Operation
import HttpExchange.Response.Operation
import HttpExchange.Worker
/-!
Operations on the exchange that a worker is handling.
-/

namespace HttpExchange.Exchange

inductive Operation (State : Type)
  | request (operation : Request.Operation)
  | response (operation : Response.Operation)
  /-- Writes a handler's result onto the response. -/
  | render (result : ActionResult) (context : RenderContext State)

inductive Reply
  | request (reply : Request.Reply)
  | response (reply : Response.Reply)
  | rendered (outcome : Except Error Unit)

/-- Carries out one operation on the bound exchange. There is no answer if none is bound or it
is lent. -/
def perform {State : Type} : Operation State → Worker State (Option Reply)
  | .request operation => Worker.withRequest fun request =>
      let (request, reply) := request.perform operation
      (request, .request reply)
  | .response operation => Worker.withResponse fun response =>
      let (response, reply) := response.perform operation
      (response, .response reply)
  | .render result context => Worker.withCurrent fun slot (exchange, state) =>
      let (response, outcome, state) :=
        result.apply exchange.request exchange.response context state
      (.returned (.rendered outcome), slot, { exchange with response }, state)

/-- Carries out operations on the bound exchange in order, also behind one that fails. -/
def performAll {State : Type} : List (Operation State) → Worker State (List (Option Reply))
  | [] => pure []
  | operation :: operations => do
      let reply ← perform operation
      let replies ← performAll operations
      return reply :: replies

end HttpExchange.Exchange
