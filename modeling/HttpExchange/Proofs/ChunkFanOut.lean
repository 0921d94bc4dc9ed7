import HttpExchange.Response.Operation

/-! Streamed bodies over whole runs: which sink has received which chunks, which writes fail, and
when a response counts as chunked. -/

namespace HttpExchange

/-! ## Streams -/

namespace ChunkStream

inductive Call
  | register
  | write (chunk : Chunk)
deriving DecidableEq

namespace Call

def chunk? : Call → Option Chunk
  | .register => none
  | .write chunk => some chunk

end Call

def perform (stream : ChunkStream) : Call → ChunkStream × Except Error Unit
  | .register => (stream.register, .ok ())
  | .write chunk => stream.write chunk

def performAll (stream : ChunkStream) : List Call → ChunkStream × List (Except Error Unit)
  | [] => (stream, [])
  | call :: calls =>
      let (stream, outcome) := stream.perform call
      let (stream, outcomes) := stream.performAll calls
      (stream, outcome :: outcomes)

/-- What the sinks that calls register have received, in the order of their registration: all
that is written after it. -/
def received : List Call → List (List Chunk)
  | [] => []
  | .register :: later => later.filterMap Call.chunk? :: received later
  | .write _ :: later => received later

theorem started_performAll (stream : ChunkStream) (calls : List Call) :
    (stream.performAll calls).1.started = true ↔
      stream.started = true ∨ ∃ chunk, .write chunk ∈ calls := by
  induction calls generalizing stream with
  | nil => simp [performAll]
  | cons call calls induction =>
      rw [performAll, induction]
      cases call with
      | register => simp [perform, register]
      | write chunk =>
          have started : (stream.write chunk).1.started = true := by
            rw [write]
            split <;> rfl
          simp [perform, started]

/-- A sink that is there receives all that is written, and a sink that is registered all that is
written from then on. -/
theorem sinks_performAll (stream : ChunkStream) (calls : List Call) :
    (stream.performAll calls).1.sinks =
      stream.sinks.map (· ++ calls.filterMap Call.chunk?) ++ received calls := by
  induction calls generalizing stream with
  | nil => simp [performAll, received]
  | cons call calls induction =>
      rw [performAll, induction]
      cases call with
      | register => simp [perform, register, received, Call.chunk?, List.filterMap_cons]
      | write chunk =>
          have sinks : (stream.write chunk).1.sinks = stream.sinks.map (· ++ [chunk]) := by
            rw [write, hasSinks]
            cases stream.sinks <;> rfl
          simp [perform, sinks, received, Call.chunk?]

theorem sinks_performAll_fresh (calls : List Call) :
    (performAll {} calls).1.sinks = received calls :=
  sinks_performAll {} calls

theorem hasSinks_iff_ne_nil (stream : ChunkStream) :
    stream.hasSinks = true ↔ stream.sinks ≠ [] := by
  simp [hasSinks]

theorem length_received (calls : List Call) : (received calls).length = calls.count .register := by
  induction calls with
  | nil => rfl
  | cons call calls induction => cases call <;> simp [received, induction]

theorem getElem?_received (earlier later : List Call) :
    (received (earlier ++ .register :: later))[earlier.count .register]? =
      some (later.filterMap Call.chunk?) := by
  induction earlier with
  | nil => rfl
  | cons call earlier induction => cases call <;> simpa [received] using induction

theorem received_append {earlier : List Call} (unregistered : .register ∉ earlier)
    (later : List Call) : received (earlier ++ later) = received later := by
  induction earlier with
  | nil => rfl
  | cons call earlier induction =>
      rw [List.mem_cons, not_or] at unregistered
      cases call with
      | register => exact absurd rfl unregistered.1
      | write chunk => exact induction unregistered.2

theorem outcome_performAll (stream : ChunkStream) (earlier : List Call) (call : Call)
    (later : List Call) :
    (stream.performAll (earlier ++ call :: later)).2[earlier.length]? =
      some ((stream.performAll earlier).1.perform call).2 := by
  induction earlier generalizing stream with
  | nil => rfl
  | cons first earlier induction => exact induction _

/-- What writing a chunk answers, with or without a sink that was registered before. -/
def writeAnswer (registered : Prop) [Decidable registered] : Except Error Unit :=
  if registered then .ok ()
  else .error (.unsupportedOperation "transport does not support chunked responses")

theorem write_performAll (earlier : List Call) (chunk : Chunk) :
    ((performAll {} earlier).1.write chunk).2 = writeAnswer (.register ∈ earlier) := by
  have taken : (performAll {} earlier).1.hasSinks = true ↔ .register ∈ earlier := by
    rw [hasSinks_iff_ne_nil, sinks_performAll_fresh, ← List.length_pos_iff, length_received,
      List.count_pos_iff]
  rw [write, writeAnswer]
  by_cases registered : .register ∈ earlier
  · rw [if_pos (taken.mpr registered), if_pos registered]
  · rw [if_neg fun sinks => registered (taken.mp sinks), if_neg registered]
    rfl

/-- A stream that calls, made in order on a fresh one, have left. -/
structure FansOut (stream : ChunkStream) (calls : List Call) : Prop where
  sinks : stream.sinks.length = calls.count .register
  receives : ∀ earlier later, calls = earlier ++ .register :: later →
    stream.sinks[earlier.count .register]? = some (later.filterMap Call.chunk?)
  /-- What is written before any registration reaches no sink, also none that comes later. -/
  loses : ∀ earlier chunk later, calls = earlier ++ .write chunk :: later →
    .register ∉ earlier → stream.sinks = (performAll {} later).1.sinks
  started : stream.started = true ↔ ∃ chunk, .write chunk ∈ calls

theorem fansOut_performAll (calls : List Call) : (performAll {} calls).1.FansOut calls where
  sinks := by rw [sinks_performAll_fresh, length_received]
  receives := by
    intro earlier later split
    rw [sinks_performAll_fresh, split, getElem?_received]
  loses := by
    intro earlier chunk later split unregistered
    rw [sinks_performAll_fresh, sinks_performAll_fresh, split, received_append unregistered]
    rfl
  started := by
    rw [started_performAll]
    simp

end ChunkStream

/-! ## Responses -/

namespace Response

/-- What the operation does to the stream of a response, if anything. -/
def Operation.call? : Operation → Option ChunkStream.Call
  | .registerSink => some .register
  | .writeChunk chunk => some (.write chunk)
  | _ => none

/-- Only registering a sink and writing a chunk touch the stream of a response. -/
theorem stream_perform (response : Response) (operation : Operation) :
    (response.perform operation).1.stream =
      match operation.call? with
      | some call => (response.stream.perform call).1
      | none => response.stream := by
  have kept := (response.perform_differsIn operation).stream_eq
  cases operation with
  | registerSink => rfl
  | writeChunk chunk => rfl
  | _ => exact kept nofun

theorem stream_performAll (response : Response) (operations : List Operation) :
    (response.performAll operations).1.stream =
      (response.stream.performAll (operations.filterMap Operation.call?)).1 := by
  induction operations generalizing response with
  | nil => rfl
  | cons operation operations induction =>
      have step := response.stream_perform operation
      rw [performAll, induction, step, List.filterMap_cons]
      cases operation.call? <;> rfl

theorem reply_performAll (response : Response) (earlier : List Operation) (operation : Operation)
    (later : List Operation) :
    (response.performAll (earlier ++ operation :: later)).2[earlier.length]? =
      some ((response.performAll earlier).1.perform operation).2 := by
  induction earlier generalizing response with
  | nil => rfl
  | cons first earlier induction => exact induction _

theorem register_mem_calls_iff (operations : List Operation) :
    .register ∈ operations.filterMap Operation.call? ↔ .registerSink ∈ operations := by
  rw [List.mem_filterMap]
  constructor
  · rintro ⟨operation, member, call⟩
    cases operation <;> cases call
    exact member
  · intro member
    exact ⟨.registerSink, member, rfl⟩

theorem write_mem_calls_iff (operations : List Operation) (chunk : Chunk) :
    .write chunk ∈ operations.filterMap Operation.call? ↔ .writeChunk chunk ∈ operations := by
  rw [List.mem_filterMap]
  constructor
  · rintro ⟨operation, member, call⟩
    cases operation <;> cases call
    exact member
  · intro member
    exact ⟨.writeChunk chunk, member, rfl⟩

/-- No operation takes back that a response is chunked. -/
theorem chunked_perform {response : Response} (started : response.chunked = true)
    (operation : Operation) : (response.perform operation).1.chunked = true := by
  rw [chunked, stream_perform]
  cases operation.call? with
  | none => exact started
  | some call => exact (ChunkStream.started_performAll response.stream [call]).mpr (.inl started)

theorem writeChunk_performAll (configuration : Configuration) (earlier : List Operation)
    (chunk : Chunk) :
    (((new configuration).performAll earlier).1.perform (.writeChunk chunk)).2 =
      .outcome (ChunkStream.writeAnswer (.registerSink ∈ earlier)) := by
  have answer := ChunkStream.write_performAll (earlier.filterMap Operation.call?) chunk
  have stream : ((new configuration).performAll earlier).1.stream =
      (ChunkStream.performAll {} (earlier.filterMap Operation.call?)).1 :=
    stream_performAll _ _
  rw [← stream] at answer
  simp only [ChunkStream.writeAnswer, register_mem_calls_iff] at answer ⊢
  exact congrArg Reply.outcome answer

/-- Chunks reach every sink from its registration on, each once and in order, both on a stream of
its own and on a response that is filled in other ways at the same time. Writing fails as long as
no sink was registered, and a response is chunked from the first attempt on. -/
theorem chunks_fan_out :
    (∀ calls, (({} : ChunkStream).performAll calls).1.FansOut calls ∧
      ∀ earlier chunk later, calls = earlier ++ .write chunk :: later →
        (({} : ChunkStream).performAll calls).2[earlier.length]? =
          some (ChunkStream.writeAnswer (.register ∈ earlier))) ∧
    (∀ configuration operations,
      ((new configuration).performAll operations).1.stream.FansOut
        (operations.filterMap Operation.call?) ∧
      (∀ earlier chunk later, operations = earlier ++ .writeChunk chunk :: later →
        ((new configuration).performAll operations).2[earlier.length]? =
          some (.outcome (ChunkStream.writeAnswer (.registerSink ∈ earlier)))) ∧
      (((new configuration).performAll operations).1.chunked = true ↔
        ∃ chunk, .writeChunk chunk ∈ operations)) ∧
    ∀ (response : Response) operation, response.chunked = true →
      (response.perform operation).1.chunked = true := by
  refine ⟨fun calls => ⟨ChunkStream.fansOut_performAll calls, ?_⟩,
    fun configuration operations => ?_, fun response operation started => ?_⟩
  · intro earlier chunk later split
    rw [split, ChunkStream.outcome_performAll]
    exact congrArg some (ChunkStream.write_performAll earlier chunk)
  · have stream := (new configuration).stream_performAll
    have fansOut : ((new configuration).performAll operations).1.stream.FansOut
        (operations.filterMap Operation.call?) :=
      stream operations ▸ ChunkStream.fansOut_performAll _
    refine ⟨fansOut, ?_, ?_⟩
    · intro earlier chunk later split
      rw [split, reply_performAll, writeChunk_performAll]
    · rw [chunked, fansOut.started]
      simp only [write_mem_calls_iff]
  · exact chunked_perform started operation

/-- A chunk without a sink, and one sink before and one behind the next chunk. -/
def lateSink : List Operation :=
  [.writeChunk (.text "lost"), .registerSink, .writeChunk (.text "one"), .reset, .registerSink,
    .writeChunk (.octets [116, 119, 111])]

theorem chunks_fan_out_lateSink :
    ∃ response replies, (new {}).performAll lateSink = (response, replies) ∧
      response.stream.sinks[0]? = some [.text "one", .octets [116, 119, 111]] ∧
      response.stream.sinks[1]? = some [.octets [116, 119, 111]] ∧
      replies[0]? = some (.outcome (.error ChunkStream.noSink)) ∧
      replies[2]? = some (.outcome (.ok ())) ∧ response.chunked = true := by
  rcases chunks_fan_out.2.1 {} lateSink with ⟨fansOut, answers, chunked⟩
  refine ⟨_, _, rfl, ?_, ?_, ?_, ?_, ?_⟩
  · exact fansOut.receives [.write (.text "lost")] _ rfl
  · exact fansOut.receives [.write (.text "lost"), .register, .write (.text "one")] _ rfl
  · exact answers [] (.text "lost") _ rfl
  · exact answers [.writeChunk (.text "lost"), .registerSink] (.text "one") _ rfl
  · exact chunked.mpr ⟨.text "lost", by decide⟩

end Response

end HttpExchange
