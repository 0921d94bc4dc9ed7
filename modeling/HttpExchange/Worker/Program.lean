import HttpExchange.Worker
/-!
Programs on a worker: nested uses of its slot, where what comes next may depend on what the slot
has answered, and work of the program's own in between.
-/

namespace HttpExchange

/-- What a body can borrow: the bound exchange, or one half of it. -/
inductive Loan
  | whole
  | requestOnly
  | responseOnly
deriving DecidableEq, Repr

namespace Loan

abbrev Item : Loan → Type
  | .whole => Exchange
  | .requestOnly => Request
  | .responseOnly => Response

def take : (loan : Loan) → Exchange → loan.Item
  | .whole, exchange => exchange
  | .requestOnly, exchange => exchange.request
  | .responseOnly, exchange => exchange.response

def giveBack : (loan : Loan) → Exchange → loan.Item → Exchange
  | .whole, _, exchange => exchange
  | .requestOnly, exchange, request => { exchange with request }
  | .responseOnly, exchange, response => { exchange with response }

end Loan

namespace Worker

variable {State α : Type}

/-- Work that leaves the slot alone. -/
def act (step : State → Ending α × State) : Worker State α := fun slot state =>
  match step state with
  | (ending, state) => (ending, slot, state)

/-- Lends the bound exchange or a half of it to a body, which may use the worker otherwise. -/
def borrow (loan : Loan) (body : Worker (loan.Item × State) α) : Worker State (Option α) :=
  withCurrent fun slot (exchange, state) =>
    match body slot (loan.take exchange, state) with
    | (ending, slot, item, state) => (ending, slot, loan.giveBack exchange item, state)

theorem withCurrent_eq_borrow (body : Worker (Exchange × State) α) :
    withCurrent body = borrow .whole body := rfl

theorem withRequest_eq_borrow (change : Request → Request × α) :
    (withRequest change : Worker State (Option α)) =
      borrow .requestOnly (act fun (request, state) =>
        let (request, value) := change request
        (.returned value, request, state)) := rfl

theorem withResponse_eq_borrow (change : Response → Response × α) :
    (withResponse change : Worker State (Option α)) =
      borrow .responseOnly (act fun (response, state) =>
        let (response, value) := change response
        (.returned value, response, state)) := rfl

theorem borrow_of_run {loan : Loan} {exchange : Exchange} {body : Worker (loan.Item × State) α}
    {state after : State} {ending : Ending α} {slot : Slot} {item : loan.Item}
    (runs : body .lent (loan.take exchange, state) = (ending, slot, item, after)) :
    borrow loan body (.bound exchange) state =
      (ending.map some, .bound (loan.giveBack exchange item), after) := by
  simp only [borrow, withCurrent, runs]

end Worker

/-- A program that sees and changes a `State` of its own and ends with an `α`. A body that
borrows has what is lent beside the state that is around it. -/
inductive Program : Type → Type → Type 1
  /-- Work that leaves the slot alone. It may panic. -/
  | act {State α : Type} (step : State → Ending α × State) : Program State α
  | sequence {State α β : Type} (first : Program State α) (next : α → Program State β) :
      Program State β
  | isBound {State : Type} : Program State Bool
  /-- Binds an exchange while a body runs. -/
  | scope {State α : Type} (exchange : Exchange) (body : Program State α) :
      Program State (Except Exchange (Exchange × α))
  /-- Borrows the bound exchange or a half of it while a body runs. -/
  | borrow {State α : Type} (loan : Loan) (body : Program (loan.Item × State) α) :
      Program State (Option α)
  /-- Runs a body and stops a panic. -/
  | attempt {State α : Type} (body : Program State α) : Program State (Ending α)

def Program.run : {State α : Type} → Program State α → Worker State α
  | _, _, .act step => Worker.act step
  | _, _, .sequence first next => first.run >>= fun value => (next value).run
  | _, _, .isBound => Worker.isBound
  | _, _, .scope exchange body => Worker.scope exchange body.run
  | _, _, .borrow loan body => Worker.borrow loan body.run
  | _, _, .attempt body => Worker.attempt body.run

end HttpExchange
