import HttpExchange.Exchange
/-!
The exchange that a worker is handling. Each worker has a slot for it. `scope` binds an exchange
to the slot while a body runs, whichever way the body ends, and `withCurrent` lends the bound
exchange to a body. While the exchange is lent the slot has nothing to give: it can neither be
lent again nor be bound.
-/

namespace HttpExchange

inductive Slot
  | vacant
  | bound (exchange : Exchange)
  /-- The exchange is in the hands of a body that borrows it. -/
  | lent
deriving DecidableEq

namespace Slot

/-- The slot of an exchange that may be there. -/
def holding : Option Exchange → Slot
  | none => .vacant
  | some exchange => .bound exchange

/-- Whether a worker is handling an exchange. A lent one counts. -/
def isBound : Slot → Bool
  | .vacant => false
  | .bound _ => true
  | .lent => true

end Slot

/-- How a piece of work ends: with a value, or by a panic that unwinds it. -/
inductive Ending (α : Type)
  | returned (value : α)
  | panicked
deriving DecidableEq, Repr

namespace Ending

def map {α β : Type} (transform : α → β) : Ending α → Ending β
  | .returned value => .returned (transform value)
  | .panicked => .panicked

def hasPanicked {α : Type} : Ending α → Bool
  | .returned _ => false
  | .panicked => true

end Ending

/-- Work on a worker's thread. It sees the slot, and `State` is what else it can see and
change. A panic keeps what was done before it. -/
def Worker (State α : Type) : Type :=
  Slot → State → Ending α × Slot × State

namespace Worker

variable {State α β : Type}

protected def pure (value : α) : Worker State α := fun slot state =>
  (.returned value, slot, state)

protected def bind (first : Worker State α) (next : α → Worker State β) : Worker State β :=
  fun slot state =>
    match first slot state with
    | (.returned value, slot, state) => next value slot state
    | (.panicked, slot, state) => (.panicked, slot, state)

instance : Monad (Worker State) where
  pure := Worker.pure
  bind := Worker.bind

def panic : Worker State α := fun slot state =>
  (.panicked, slot, state)

def getState : Worker State State := fun slot state =>
  (.returned state, slot, state)

def modifyState (change : State → State) : Worker State Unit := fun slot state =>
  (.returned (), slot, change state)

def isBound : Worker State Bool := fun slot state =>
  (.returned slot.isBound, slot, state)

/-- Runs a body and stops a panic. -/
def attempt (body : Worker State α) : Worker State (Ending α) := fun slot state =>
  match body slot state with
  | (ending, slot, state) => (.returned ending, slot, state)

/-- What a binding keeps until it ends: the exchange that was bound before, if there was one. -/
structure Binding where
  previous : Option Exchange
deriving DecidableEq

namespace Binding

/-- Binds an exchange. A lent slot refuses it, and the exchange comes back. -/
def enter (exchange : Exchange) : Worker State (Except Exchange Binding) := fun slot state =>
  match slot with
  | .vacant => (.returned (.ok { previous := none }), .bound exchange, state)
  | .bound previous => (.returned (.ok { previous := some previous }), .bound exchange, state)
  | .lent => (.returned (.error exchange), .lent, state)

/-- Ends the binding of a body that has returned, and gives out the exchange that it had. -/
def leave (binding : Binding) : Worker State Exchange := fun slot state =>
  match slot with
  | .bound exchange => (.returned exchange, .holding binding.previous, state)
  | .vacant => (.panicked, .holding binding.previous, state)
  | .lent => (.panicked, .lent, state)

/-- Ends the binding of a body that is unwound. The exchange that it had is lost. -/
def drop (binding : Binding) : Worker State Unit := fun slot state =>
  match slot with
  | .lent => (.panicked, .lent, state)
  | _ => (.returned (), .holding binding.previous, state)

end Binding

/-- Binds an exchange while a body runs, and hands it back with the body's value. Afterwards
the slot holds what it held before, also when the body panics. From inside a body that borrows
the exchange the binding is refused: the body does not run, and the exchange comes back. -/
def scope (exchange : Exchange) (body : Worker State α) :
    Worker State (Except Exchange (Exchange × α)) := do
  match ← Binding.enter exchange with
  | .error exchange => return .error exchange
  | .ok binding =>
      match ← attempt body with
      | .returned value => return .ok (← binding.leave, value)
      | .panicked =>
          binding.drop
          panic

/-- Lends the bound exchange to a body, which may change it and use the worker otherwise. There
is no answer if nothing is bound or the exchange is lent already. -/
def withCurrent (body : Worker (Exchange × State) α) : Worker State (Option α) :=
  fun slot state =>
    match slot with
    | .bound exchange =>
        match body .lent (exchange, state) with
        | (ending, _, exchange, state) => (ending.map some, .bound exchange, state)
    | slot => (.returned none, slot, state)

/-- Changes the bound exchange and takes a value from it. -/
def withExchange (change : Exchange → Exchange × α) : Worker State (Option α) :=
  withCurrent fun slot (exchange, state) =>
    let (exchange, value) := change exchange
    (.returned value, slot, exchange, state)

def withRequest (change : Request → Request × α) : Worker State (Option α) :=
  withExchange fun exchange =>
    let (request, value) := change exchange.request
    ({ exchange with request }, value)

def withResponse (change : Response → Response × α) : Worker State (Option α) :=
  withExchange fun exchange =>
    let (response, value) := change exchange.response
    ({ exchange with response }, value)

theorem bind_of_returned {first : Worker State α} {slot after : Slot} {state middle : State}
    {value : α} (runs : first slot state = (.returned value, after, middle))
    (next : α → Worker State β) : (first >>= next) slot state = next value after middle := by
  change Worker.bind first next slot state = _
  rw [Worker.bind, runs]

theorem bind_of_panicked {first : Worker State α} {slot after : Slot} {state middle : State}
    (runs : first slot state = (.panicked, after, middle)) (next : α → Worker State β) :
    (first >>= next) slot state = (.panicked, after, middle) := by
  change Worker.bind first next slot state = _
  rw [Worker.bind, runs]

theorem scope_lent (exchange : Exchange) (body : Worker State α) (state : State) :
    scope exchange body .lent state = (.returned (.error exchange), .lent, state) := rfl

/-- A slot that is not lent is the same behind a scope as before it, whichever way the body ends
that leaves its own exchange bound. -/
theorem scope_of_run {exchange final : Exchange} {body : Worker State α} {state after : State}
    {ending : Ending α} (runs : body (.bound exchange) state = (ending, .bound final, after))
    (previous : Option Exchange) :
    scope exchange body (.holding previous) state =
      (ending.map fun value => .ok (final, value), .holding previous, after) := by
  have entered : Binding.enter exchange (.holding previous) state =
      (.returned (.ok { previous }), .bound exchange, state) := by
    cases previous <;> rfl
  have attempted : attempt body (.bound exchange) state =
      (.returned ending, .bound final, after) := by
    rw [attempt, runs]
  rw [scope, bind_of_returned entered]
  dsimp only
  rw [bind_of_returned attempted]
  cases ending <;> rfl

/-- Runs a body on a worker of its own, whose slot starts vacant, and waits for its end. -/
def spawn (body : Worker State α) : Worker State (Ending α) := fun slot state =>
  match body .vacant state with
  | (ending, _, state) => (.returned ending, slot, state)

end Worker

end HttpExchange
