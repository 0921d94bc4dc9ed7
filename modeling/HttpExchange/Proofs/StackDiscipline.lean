import HttpExchange.Worker.Program

/-! A worker's slot as a stack of scopes. `Place.Runs` states the rules by the scopes and the
borrowing body that stand around a piece of a program in its text; the slot, which keeps no stack
and puts back one exchange at a time, follows them on every run. -/

namespace HttpExchange

/-! ## Places in a program -/

abbrev Change := Exchange → Exchange

def Exchange.changed (exchange : Exchange) (changes : List Change) : Exchange :=
  changes.foldl (fun exchange change => change exchange) exchange

/-- Where a piece of a program stands: which exchanges the scopes around it have bound, innermost
first and each as it is by now, and whether a body around it borrows the innermost one. -/
inductive Place
  | outside
  | within (innermost : Exchange) (outer : List Exchange)
  | borrowing (innermost : Exchange) (outer : List Exchange)

namespace Place

def scopes : Place → List Exchange
  | .outside => []
  | .within innermost outer => innermost :: outer
  | .borrowing innermost outer => innermost :: outer

def isBorrowing : Place → Bool
  | .borrowing _ _ => true
  | _ => false

/-- The same place when changes have been made to the innermost exchange. -/
def after : Place → List Change → Place
  | .within innermost outer, changes => .within (innermost.changed changes) outer
  | place, _ => place

/-- What a worker's slot has to hold at the place. -/
def slot : Place → Slot
  | .outside => .vacant
  | .within innermost _ => .bound innermost
  | .borrowing _ _ => .lent

@[simp] theorem after_nil (place : Place) : place.after [] = place := by
  cases place <;> rfl

theorem after_append (place : Place) (first second : List Change) :
    place.after (first ++ second) = (place.after first).after second := by
  cases place with
  | within innermost outer => simp [after, Exchange.changed]
  | outside => rfl
  | borrowing innermost outer => rfl

theorem slot_eq_holding {place : Place} (free : place.isBorrowing = false) :
    place.slot = .holding place.scopes.head? := by
  cases place with
  | borrowing => cases free
  | outside => rfl
  | within innermost outer => rfl

theorem slot_eq_lent {place : Place} (lent : place.isBorrowing = true) : place.slot = .lent := by
  cases place with
  | borrowing innermost outer => rfl
  | outside => cases lent
  | within => cases lent

theorem isBound_slot (place : Place) : place.slot.isBound = !place.scopes.isEmpty := by
  cases place <;> rfl

/-! ## The rules -/

/-- The rules of the stack: run at a place and in a state, a program ends in this way, leaves this
state behind, and has made these changes to the innermost exchange of the place. -/
inductive Runs : {State α : Type} → Place → State → Program State α → Ending α → List Change →
    State → Prop
  | act {State α : Type} {place : Place} {state : State} (step : State → Ending α × State) :
      Runs place state (.act step) (step state).1 [] (step state).2
  | sequence {State α β : Type} {place : Place} {state middle final : State}
      {program : Program State α} {next : α → Program State β} {value : α} {ending : Ending β}
      {changes later : List Change}
      (first : Runs place state program (.returned value) changes middle)
      (second : Runs (place.after changes) middle (next value) ending later final) :
      Runs place state (.sequence program next) ending (changes ++ later) final
  /-- A panic unwinds what would come next. -/
  | unwind {State α β : Type} {place : Place} {state final : State}
      {program : Program State α} {next : α → Program State β} {changes : List Change}
      (first : Runs place state program .panicked changes final) :
      Runs place state (.sequence program next) .panicked changes final
  | attempt {State α : Type} {place : Place} {state final : State} {body : Program State α}
      {ending : Ending α} {changes : List Change}
      (runs : Runs place state body ending changes final) :
      Runs place state (.attempt body) (.returned ending) changes final
  /-- An exchange is bound exactly where a scope is around. -/
  | isBound {State : Type} {place : Place} {state : State} :
      Runs place state .isBound (.returned (!place.scopes.isEmpty)) [] state
  /-- A scope puts its exchange on top for as long as its body runs. Whether the body returns or
  panics, what was there before is untouched; and what a returning body gives back is the
  exchange with the changes that were made while it was the innermost one. -/
  | scope {State α : Type} {place : Place} {state final : State} {exchange : Exchange}
      {body : Program State α} {ending : Ending α} {changes : List Change}
      (free : place.isBorrowing = false)
      (runs : Runs (.within exchange place.scopes) state body ending changes final) :
      Runs place state (.scope exchange body)
        (ending.map fun value => .ok (exchange.changed changes, value)) [] final
  /-- While the innermost exchange is borrowed a scope gives back its own, and no body runs. -/
  | refuse {State α : Type} {place : Place} {state : State} {exchange : Exchange}
      {body : Program State α} (lent : place.isBorrowing = true) :
      Runs place state (.scope exchange body) (.returned (.error exchange)) [] state
  /-- A body borrows from the innermost exchange, which nothing else can change meanwhile. What it
  makes of the loan stays, also when it panics. -/
  | borrow {State α : Type} {innermost : Exchange} {outer : List Exchange} {state final : State}
      {loan : Loan} {item : loan.Item} {body : Program (loan.Item × State) α} {ending : Ending α}
      (runs : Runs (.borrowing innermost outer) (loan.take innermost, state) body ending []
        (item, final)) :
      Runs (.within innermost outer) state (.borrow loan body) (ending.map some)
        [fun exchange => loan.giveBack exchange item] final
  /-- There is nothing to borrow outside all scopes. -/
  | nothing {State α : Type} {state : State} {loan : Loan}
      {body : Program (loan.Item × State) α} :
      Runs .outside state (.borrow loan body) (.returned none) [] state
  /-- What is borrowed already cannot be borrowed again. -/
  | decline {State α : Type} {place : Place} {state : State} {loan : Loan}
      {body : Program (loan.Item × State) α} (lent : place.isBorrowing = true) :
      Runs place state (.borrow loan body) (.returned none) [] state

end Place

namespace Program

variable {State α : Type}

/-- The rules leave no program without a run, wherever it stands; and they let nothing but the
body that borrows an exchange change it. -/
theorem exists_runs (program : Program State α) (place : Place) (state : State) :
    ∃ ending changes final, place.Runs state program ending changes final ∧
      (place.isBorrowing = true → changes = []) := by
  induction program generalizing place with
  | act step => exact ⟨_, _, _, .act step, fun _ => rfl⟩
  | sequence first next firstRuns nextRuns =>
      rcases firstRuns place state with ⟨value | _, changes, middle, runs, still⟩
      · rcases nextRuns value (place.after changes) middle with
          ⟨ending, later, final, rest, stillLater⟩
        refine ⟨_, _, _, .sequence runs rest, fun lent => ?_⟩
        rw [still lent] at stillLater ⊢
        exact stillLater (by rw [Place.after_nil, lent])
      · exact ⟨_, _, _, .unwind runs, still⟩
  | isBound => exact ⟨_, _, _, .isBound, fun _ => rfl⟩
  | scope exchange body bodyRuns =>
      cases lent : place.isBorrowing with
      | true => exact ⟨_, _, _, .refuse lent, fun _ => rfl⟩
      | false =>
          rcases bodyRuns (.within exchange place.scopes) state with ⟨_, _, _, runs, _⟩
          exact ⟨_, _, _, .scope lent runs, fun _ => rfl⟩
  | borrow loan body bodyRuns =>
      cases place with
      | outside => exact ⟨_, _, _, .nothing, fun _ => rfl⟩
      | borrowing innermost outer => exact ⟨_, _, _, .decline rfl, fun _ => rfl⟩
      | within innermost outer =>
          rcases bodyRuns (.borrowing innermost outer) (loan.take innermost, state) with
            ⟨ending, changes, ⟨item, final⟩, runs, still⟩
          rw [still rfl] at runs
          exact ⟨_, _, _, .borrow runs, fun lent => by cases lent⟩
  | attempt body bodyRuns =>
      rcases bodyRuns place state with ⟨_, _, _, runs, still⟩
      exact ⟨_, _, _, .attempt runs, still⟩

/-- What the rules say of a program at a place is what it does on a slot that holds what the place
asks for; and behind it the slot holds what the place asks for then. -/
theorem run_of_runs {program : Program State α} {place : Place} {state final : State}
    {ending : Ending α} {changes : List Change}
    (runs : place.Runs state program ending changes final) :
    program.run place.slot state = (ending, (place.after changes).slot, final) := by
  induction runs with
  | act step =>
      rw [Place.after_nil]
      rfl
  | sequence _ _ first second =>
      rw [run, Worker.bind_of_returned first, second, Place.after_append]
  | unwind _ first => rw [run, Worker.bind_of_panicked first]
  | attempt _ body => rw [run, Worker.attempt, body]
  | isBound => rw [run, Worker.isBound, Place.isBound_slot, Place.after_nil]
  | scope free _ body =>
      rw [run, Place.after_nil, Place.slot_eq_holding free, Worker.scope_of_run body]
  | refuse lent => rw [run, Place.after_nil, Place.slot_eq_lent lent, Worker.scope_lent]
  | borrow _ body => exact Worker.borrow_of_run body
  | nothing => rfl
  | decline lent =>
      rw [run, Place.after_nil, Place.slot_eq_lent lent]
      rfl

/-- A worker's slot obeys the discipline of a stack. Every program, at every place in the text of
scopes and borrowing bodies, has a run by the rules; what the rules say is what it does; and a
program that starts with nothing bound leaves nothing bound. -/
theorem run_obeys_stack_discipline (program : Program State α) (place : Place) (state : State) :
    (∃ ending changes final, place.Runs state program ending changes final) ∧
    (∀ ending changes final, place.Runs state program ending changes final →
      program.run place.slot state = (ending, (place.after changes).slot, final)) ∧
    ∃ ending final, program.run .vacant state = (ending, .vacant, final) := by
  refine ⟨?_, fun _ _ _ => run_of_runs, ?_⟩
  · rcases program.exists_runs place state with ⟨ending, changes, final, runs, _⟩
    exact ⟨ending, changes, final, runs⟩
  · rcases program.exists_runs .outside state with ⟨ending, changes, final, runs, _⟩
    exact ⟨ending, final, run_of_runs runs⟩

/-- Borrows, and panics after a change. -/
def breakOff : Program Unit (Option Unit) :=
  .borrow .requestOnly <| .act fun (request, state) =>
    (.panicked, { request with path := "/lost" }, state)

/-- Borrows, tries to bind another exchange meanwhile, and notes the status of a failure. -/
def bindLate : Program Unit (Option Bool) :=
  .borrow .responseOnly <|
    .sequence (.scope (Exchange.ofPath "/late") .isBound) fun bound =>
      .act fun (response, state) => (.returned bound.isOk, { response with status := 404 }, state)

/-- In the scope of one exchange, the scope of another one that is left by a panic. -/
def interrupted : Program Unit (Except Exchange (Exchange × Option Bool)) :=
  .scope (Exchange.ofPath "/outer") <|
    .sequence (.attempt (.scope (Exchange.ofPath "/inner") breakOff)) fun _ => bindLate

/-- The outer exchange comes back with the status that was set while it was the innermost one and
with nothing of what befell the inner one; and the late one was refused. -/
theorem run_obeys_stack_discipline_interrupted :
    let outer := Exchange.ofPath "/outer"
    interrupted.run .vacant () =
      (.returned (.ok ({ outer with response := { outer.response with status := 404 } },
        some false)), .vacant, ()) := by
  intro outer
  have caught : (Place.within outer []).Runs ()
      (.attempt (.scope (Exchange.ofPath "/inner") breakOff)) (.returned .panicked) [] () :=
    .attempt (.scope rfl (.borrow (.act _)))
  have refused : (Place.borrowing outer []).Runs (outer.response, ())
      (.sequence (.scope (Exchange.ofPath "/late") .isBound) fun bound =>
        .act fun (response, state) => (.returned bound.isOk, { response with status := 404 }, state))
      (.returned false) [] ({ outer.response with status := 404 }, ()) :=
    .sequence (.refuse rfl) (.act _)
  have late : (Place.within outer []).Runs () bindLate ((Ending.returned false).map some) _ () :=
    .borrow refused
  have body : (Place.within outer []).Runs ()
      (.sequence (.attempt (.scope (Exchange.ofPath "/inner") breakOff)) fun _ => bindLate)
      (.returned (some false)) _ () :=
    .sequence caught late
  have whole : Place.outside.Runs () interrupted _ [] () := .scope rfl body
  exact (run_obeys_stack_discipline interrupted .outside ()).2.1 _ _ _ whole

end Program

end HttpExchange
