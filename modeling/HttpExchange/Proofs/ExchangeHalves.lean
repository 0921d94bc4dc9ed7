import HttpExchange.Exchange.Operation
import HttpExchange.Proofs.HandlerResults

/-! The two halves of an exchange. Operations on the bound exchange do what they do on one that is
not bound; those on the request and those on the response do not meet, in whatever order they come;
and a handler's result, which is written on the response, sees three things of the request. -/

namespace HttpExchange

/-! ## Results and requests -/

/-- What the result of a handler sees of a request. -/
structure Look where
  format : Format
  isAjax : Bool
  line : String
deriving DecidableEq

def Request.look (request : Request) : Look where
  format := request.formatOrHtml
  isAjax := request.isAjax
  line := request.display

namespace ActionResult

variable {State : Type}

/-- Two requests that look alike make no difference to what a result writes and answers. -/
theorem apply_congr {left right : Request} (alike : left.look = right.look)
    (result : ActionResult) (response : Response) (context : RenderContext State)
    (state : State) :
    result.apply left response context state = result.apply right response context state := by
  have format : errorFormat left = errorFormat right :=
    errorFormat_congr (congrArg Look.format alike) (congrArg Look.isAjax alike)
  have line : left.display = right.display := congrArg Look.line alike
  have text : result.text left context.templates state =
      result.text right context.templates state := by
    cases result with
    | error status reason =>
        rw [ActionResult.text, ActionResult.text, errorBinding, errorBinding, format, line]
    | xml document => rfl
  have dress : result.dress left response context.mime =
      result.dress right response context.mime := by
    cases result with
    | error status reason => rw [ActionResult.dress, ActionResult.dress, format]
    | xml document => rfl
  rw [apply_eq_print, apply_eq_print, text, dress]

end ActionResult

namespace Exchange

variable {State : Type}

/-! ## Exchanges that are not bound -/

/-- Carries out one operation on an exchange at hand. -/
def performUnbound (exchange : Exchange) (state : State) :
    Operation State → Exchange × Reply × State
  | .request operation =>
      let (request, reply) := exchange.request.perform operation
      ({ exchange with request }, .request reply, state)
  | .response operation =>
      let (response, reply) := exchange.response.perform operation
      ({ exchange with response }, .response reply, state)
  | .render result context =>
      let (response, outcome, state) :=
        result.apply exchange.request exchange.response context state
      ({ exchange with response }, .rendered outcome, state)

def performAllUnbound (exchange : Exchange) (state : State) :
    List (Operation State) → Exchange × List Reply × State
  | [] => (exchange, [], state)
  | operation :: operations =>
      let (exchange, reply, state) := exchange.performUnbound state operation
      let (exchange, replies, state) := exchange.performAllUnbound state operations
      (exchange, reply :: replies, state)

/-- Operations on the bound exchange leave in the slot what they make of it. -/
theorem perform_bound (exchange : Exchange) (state : State) (operation : Operation State) :
    perform operation (.bound exchange) state =
      let (final, reply, after) := exchange.performUnbound state operation
      (.returned (some reply), .bound final, after) := by
  cases operation with
  | request operation => rfl
  | response operation => rfl
  | render result context => rfl

theorem performAll_bound (exchange : Exchange) (state : State)
    (operations : List (Operation State)) :
    performAll operations (.bound exchange) state =
      let (final, replies, after) := exchange.performAllUnbound state operations
      (.returned (replies.map some), .bound final, after) := by
  induction operations generalizing exchange state with
  | nil => rfl
  | cons operation operations induction =>
      rw [performAll, Worker.bind_of_returned (perform_bound exchange state operation),
        Worker.bind_of_returned (induction _ _)]
      rfl

/-! ## The request's half -/

def Operation.request? : Operation State → Option Request.Operation
  | .request operation => some operation
  | .response _ => none
  | .render _ _ => none

def Reply.request? : Reply → Option Request.Reply
  | .request reply => some reply
  | .response _ => none
  | .rendered _ => none

/-- The request goes through its own operations alone, whatever is done to the response and
rendered on it in between. -/
theorem performAllUnbound_request (exchange : Exchange) (state : State)
    (operations : List (Operation State)) :
    let (final, replies, _) := exchange.performAllUnbound state operations
    exchange.request.performAll (operations.filterMap Operation.request?) =
      (final.request, replies.filterMap Reply.request?) := by
  induction operations generalizing exchange state with
  | nil => rfl
  | cons operation operations induction =>
      have later := induction (exchange.performUnbound state operation).1
        (exchange.performUnbound state operation).2.2
      cases operation with
      | request operation =>
          exact congrArg
            (fun done => (done.1, (exchange.request.perform operation).2 :: done.2)) later
      | response operation => exact later
      | render result context => exact later

/-! ## Interleavings -/

inductive Half
  | request
  | response
deriving DecidableEq

/-- A list that takes the next entry now of the one and now of the other half, as the turns say. -/
inductive Interleaves {Left Right Whole : Type} (ofRequest : Left → Whole)
    (ofResponse : Right → Whole) :
    List Half → List Left → List Right → List Whole → Prop
  | nil : Interleaves ofRequest ofResponse [] [] [] []
  | request {turns left right whole} (entry : Left)
      (rest : Interleaves ofRequest ofResponse turns left right whole) :
      Interleaves ofRequest ofResponse (.request :: turns) (entry :: left) right
        (ofRequest entry :: whole)
  | response {turns left right whole} (entry : Right)
      (rest : Interleaves ofRequest ofResponse turns left right whole) :
      Interleaves ofRequest ofResponse (.response :: turns) left (entry :: right)
        (ofResponse entry :: whole)

theorem Interleaves.unique {Left Right Whole : Type} {ofRequest : Left → Whole}
    {ofResponse : Right → Whole} {turns : List Half} {left : List Left} {right : List Right}
    {whole other : List Whole}
    (interleaves : Interleaves ofRequest ofResponse turns left right whole)
    (also : Interleaves ofRequest ofResponse turns left right other) : whole = other := by
  induction interleaves generalizing other with
  | nil =>
      cases also with
      | nil => rfl
  | request entry rest induction =>
      cases also with
      | request entry others => rw [induction others]
  | response entry rest induction =>
      cases also with
      | response entry others => rw [induction others]

/-- Each half comes out of an interleaving as if it had been alone, and the replies are those of
the two halves by the same turns. -/
theorem performAllUnbound_of_interleaves {turns : List Half} {requests : List Request.Operation}
    {responses : List Response.Operation} {operations : List (Operation State)}
    (interleaves : Interleaves .request .response turns requests responses operations)
    (exchange : Exchange) (state : State) :
    ∃ replies,
      exchange.performAllUnbound state operations =
        ({ request := (exchange.request.performAll requests).1
           response := (exchange.response.performAll responses).1 }, replies, state) ∧
      Interleaves .request .response turns (exchange.request.performAll requests).2
        (exchange.response.performAll responses).2 replies := by
  induction interleaves generalizing exchange with
  | nil => exact ⟨[], rfl, .nil⟩
  | request operation rest induction =>
      rcases induction { exchange with request := (exchange.request.perform operation).1 } with
        ⟨replies, runs, answers⟩
      refine ⟨.request (exchange.request.perform operation).2 :: replies, ?_, .request _ answers⟩
      rw [performAllUnbound, performUnbound]
      exact congrArg (fun done => (done.1, _ :: done.2.1, done.2.2)) runs
  | response operation rest induction =>
      rcases induction { exchange with response := (exchange.response.perform operation).1 } with
        ⟨replies, runs, answers⟩
      refine ⟨.response (exchange.response.perform operation).2 :: replies, ?_,
        .response _ answers⟩
      rw [performAllUnbound, performUnbound]
      exact congrArg (fun done => (done.1, _ :: done.2.1, done.2.2)) runs

/-! ## Scopes -/

/-- In a scope operations answer and leave what they answer and leave on an exchange at hand. The
request goes through its own operations alone, with others and with results in between, and so do
both halves in an interleaving. A result does not tell apart two requests that look alike. -/
theorem scope_performs_halves_apart :
    (∀ exchange (state : State) operations previous,
      Worker.scope exchange (performAll operations) (.holding previous) state =
        let (final, replies, after) := exchange.performAllUnbound state operations
        (.returned (.ok (final, replies.map some)), .holding previous, after)) ∧
    (∀ (exchange : Exchange) (state : State) operations,
      let (final, replies, _) := exchange.performAllUnbound state operations
      exchange.request.performAll (operations.filterMap Operation.request?) =
        (final.request, replies.filterMap Reply.request?)) ∧
    (∀ turns requests responses (operations : List (Operation State)),
      Interleaves .request .response turns requests responses operations →
      ∀ (exchange : Exchange) (state : State), ∃ replies,
        exchange.performAllUnbound state operations =
          ({ request := (exchange.request.performAll requests).1
             response := (exchange.response.performAll responses).1 }, replies, state) ∧
        Interleaves .request .response turns (exchange.request.performAll requests).2
          (exchange.response.performAll responses).2 replies) ∧
    ∀ left right : Request, left.look = right.look →
      ∀ (result : ActionResult) response (context : RenderContext State) state,
        result.apply left response context state = result.apply right response context state := by
  refine ⟨?_, performAllUnbound_request, ?_, ?_⟩
  · intro exchange state operations previous
    exact Worker.scope_of_run (performAll_bound exchange state operations) previous
  · intro turns requests responses operations interleaves
    exact performAllUnbound_of_interleaves interleaves
  · intro left right alike
    exact ActionResult.apply_congr alike

/-- An attribute that is missing and a lifetime that is refused, with operations behind them. -/
def alternating : List (Operation Unit) :=
  [.request (.setPath "/login"), .response (.cacheFor "soon"), .response (.setStatus 302),
    .request (.addToAttribute "visits" 1), .request (.setSecure true)]

theorem scope_performs_halves_apart_alternating :
    let exchange := ofPath "/account"
    Worker.scope exchange (performAll alternating) .vacant () =
      (.returned (.ok (
        { request := { exchange.request with path := "/login", secure := true }
          response := { exchange.response with status := 302 } },
        [some (.request .done), some (.response (.outcome (.error (.malformedDuration "soon")))),
          some (.response .done), some (.request .missing), some (.request .done)])),
        .vacant, ()) ∧
    ∀ (result : ActionResult) (context : RenderContext Unit),
      result.apply { exchange.request with secure := true } exchange.response context () =
        result.apply exchange.request exchange.response context () := by
  intro exchange
  rcases @scope_performs_halves_apart Unit with ⟨scopes, _, interleavings, alike⟩
  have missing : exchange.request.attributes.add? "visits" 1 = none := rfl
  clear_value exchange
  have parsed : Duration.parse "soon" = .error (.malformedDuration "soon") := by cbv
  have requested : exchange.request.performAll
      [.setPath "/login", .addToAttribute "visits" 1, .setSecure true] =
        ({ exchange.request with path := "/login", secure := true }, [.done, .missing, .done]) := by
    simp only [Request.performAll, Request.perform, missing]
  have answered : exchange.response.performAll [.cacheFor "soon", .setStatus 302] =
      ({ exchange.response with status := 302 },
        [.outcome (.error (.malformedDuration "soon")), .done]) := by
    rw [Response.performAll, Response.perform, Response.cacheFor, parsed]
    rfl
  have interleaves : Interleaves Operation.request Operation.response
      [.request, .response, .response, .request, .request]
      [.setPath "/login", .addToAttribute "visits" 1, .setSecure true]
      [.cacheFor "soon", .setStatus 302] alternating :=
    .request _ (.response _ (.response _ (.request _ (.request _ .nil))))
  have secured : Request.look { exchange.request with secure := true } = exchange.request.look :=
    rfl
  refine ⟨?_, fun result context => alike _ _ secured result exchange.response context ()⟩
  rcases interleavings _ _ _ _ interleaves exchange () with ⟨replies, runs, answers⟩
  have ends := scopes exchange () alternating none
  rw [runs, requested, answered] at ends
  rw [requested, answered] at answers
  have inOrder := answers.unique
    (.request _ (.response _ (.response _ (.request _ (.request _ .nil)))))
  rw [inOrder] at ends
  exact ends

end Exchange

end HttpExchange
