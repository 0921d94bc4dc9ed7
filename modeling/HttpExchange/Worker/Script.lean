import HttpExchange.Worker
/-!
Scripts: nested uses of a worker's slot as data, with the events that running one leaves.
-/

namespace HttpExchange

inductive Script
  | done
  /-- One script after another. -/
  | sequence (first second : Script)
  | isBound
  /-- Takes a text from the bound exchange. -/
  | inspect (label : String) (view : Exchange → String)
  /-- Changes the bound exchange. -/
  | change (label : String) (edit : Exchange → Exchange)
  /-- Binds an exchange while a script runs. -/
  | scope (exchange : Exchange) (body : Script)
  /-- Borrows the bound exchange, changes it, and runs a script meanwhile. -/
  | borrow (edit : Exchange → Exchange) (body : Script)
  | panic
  /-- Runs a script and stops a panic. -/
  | attempt (body : Script)
  /-- Runs a script on a worker of its own. -/
  | spawn (body : Script)

namespace Script

/-- What a running script leaves behind, in the order in which it happens. -/
inductive Event
  | isBound (bound : Bool)
  | inspected (label : String) (text : Option String)
  | changed (label : String) (ran : Bool)
  | entering (path : String)
  | left (exchange : Exchange)
  /-- The binding was refused, and the exchange came back as it was. -/
  | refused (exchange : Exchange)
  | borrowed (path : String)
  | returned (ran : Bool)
  | panicked
  | caught (panic : Bool)
  | joined (panic : Bool)
deriving DecidableEq

/-- Scripts run with their events as state. -/
abbrev Run := Worker (List Event) Unit

def emit (event : Event) : Run :=
  Worker.modifyState (· ++ [event])

def run : Script → Run
  | .done => pure ()
  | .sequence first second => do
      first.run
      second.run
  | .isBound => do
      emit (.isBound (← Worker.isBound))
  | .inspect label view => do
      emit (.inspected label (← Worker.withExchange fun exchange => (exchange, view exchange)))
  | .change label edit => do
      let ran ← Worker.withExchange fun exchange => (edit exchange, ())
      emit (.changed label ran.isSome)
  | .scope exchange body => do
      emit (.entering exchange.request.path)
      match ← Worker.scope exchange body.run with
      | .ok (exchange, ()) => emit (.left exchange)
      | .error exchange => emit (.refused exchange)
  | .borrow edit body => do
      let ran ← Worker.withCurrent fun slot (exchange, events) =>
        let (ending, slot, events) :=
          body.run slot (events ++ [.borrowed exchange.request.path])
        (ending, slot, edit exchange, events)
      emit (.returned ran.isSome)
  | .panic => do
      emit .panicked
      Worker.panic
  | .attempt body => do
      emit (.caught (← Worker.attempt body.run).hasPanicked)
  | .spawn body => do
      emit (.joined (← Worker.spawn body.run).hasPanicked)

end Script

end HttpExchange
