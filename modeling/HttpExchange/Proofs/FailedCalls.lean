import HttpExchange.Proofs.Durations
import HttpExchange.Proofs.HandlerResults
import HttpExchange.Proofs.Revalidation

/-! Calls on a response that fail: when they do, with what error, and what they leave behind. Most
of them check everything before they write anything; a chunk that no sink takes and a result that
cannot be printed leave a known part of their work. -/

namespace HttpExchange

namespace Duration

/-- The text is a duration, and its seconds fit. -/
def Accepts (text : String) : Prop :=
  ∃ seconds, parse text = .ok seconds

theorem parse_of_not_accepts {text : String} (refused : ¬Accepts text) :
    parse text = .error (.malformedDuration text) := by
  cases parsed : parse text with
  | ok seconds => exact absurd ⟨seconds, parsed⟩ refused
  | error error => rw [eq_of_parse_eq_error parsed]

end Duration

namespace Response

/-- A call that fails exactly under this condition, and then with this error and with these
remains of the response. -/
structure FailsOnly {Failure : Type} (call : Response × Except Failure Unit) (condition : Prop)
    (error : Failure) (remains : Response) : Prop where
  fails_iff : (∃ failure, call.2 = .error failure) ↔ condition
  leaves : ∀ failure, call.2 = .error failure → failure = error ∧ call.1 = remains

theorem FailsOnly.of_cases {Failure : Type} {call : Response × Except Failure Unit}
    {condition : Prop} {error : Failure} {remains : Response}
    (fails : condition → call = (remains, .error error))
    (succeeds : ¬condition → call.2 = .ok ()) : FailsOnly call condition error remains := by
  by_cases faulty : condition
  · rw [fails faulty]
    refine ⟨⟨fun _ => faulty, fun _ => ⟨error, rfl⟩⟩, fun failure failed => ?_⟩
    cases failed
    exact ⟨rfl, rfl⟩
  · have ended := succeeds faulty
    refine ⟨⟨fun failed => ?_, fun holds => absurd holds faulty⟩, fun failure failed => ?_⟩
    · rcases failed with ⟨failure, failed⟩
      cases ended.symm.trans failed
    · cases ended.symm.trans failed

theorem FailsOnly.call_eq {Failure : Type} {call : Response × Except Failure Unit}
    {condition : Prop} {error : Failure} {remains : Response}
    (failsOnly : FailsOnly call condition error remains) (holds : condition) :
    call = (remains, .error error) := by
  rcases failsOnly.fails_iff.mpr holds with ⟨failure, failed⟩
  rcases failsOnly.leaves failure failed with ⟨rfl, left⟩
  exact Prod.ext left failed

variable (response : Response)

theorem print_failsOnly (text : String) :
    FailsOnly (response.print text) (¬Charset.isSupported response.encoding = true)
      (.unknownCharset response.encoding) response := by
  apply FailsOnly.of_cases
  · intro unsupported
    exact print_of_unknown (Charset.ofName?_of_not_isSupported unsupported) text
  · intro supported
    rcases (Charset.isSupported_iff _).mp (Decidable.not_not.mp supported) with ⟨charset, known⟩
    rw [print_of_known known]

theorem setCookieFor_failsOnly (name value duration : String) :
    FailsOnly (response.setCookieFor name value duration) (¬Duration.Accepts duration)
      (.malformedDuration duration) response := by
  apply FailsOnly.of_cases
  · intro refused
    rw [setCookieFor, CookieRequest.expiresIn, Duration.parse_of_not_accepts refused]
  · intro accepted
    rcases Classical.not_not.mp accepted with ⟨seconds, parsed⟩
    rw [setCookieFor, CookieRequest.expiresIn, parsed]

theorem cacheFor_failsOnly (duration : String) :
    FailsOnly (response.cacheFor duration) (¬Duration.Accepts duration)
      (.malformedDuration duration) response := by
  apply FailsOnly.of_cases
  · intro refused
    rw [cacheFor, Duration.parse_of_not_accepts refused]
  · intro accepted
    rcases Classical.not_not.mp accepted with ⟨seconds, parsed⟩
    rw [cacheFor, parsed]

theorem cacheForValidated_failsOnly (tag duration : String) {lastModified : Instant}
    (from1970 : 0 ≤ lastModified.seconds) (to9999 : lastModified.seconds < HttpDate.secondCount) :
    FailsOnly (response.cacheForValidated tag duration lastModified) (¬Duration.Accepts duration)
      (.refused (.malformedDuration duration)) response := by
  apply FailsOnly.of_cases
  · intro refused
    rw [cacheForValidated, cacheFor, Duration.parse_of_not_accepts refused]
  · intro accepted
    rcases Classical.not_not.mp accepted with ⟨seconds, parsed⟩
    rcases HttpDate.ofInstant?_eq_some from1970 to9999 with ⟨date, shown, _⟩
    rw [cacheForValidated_ok parsed shown]

theorem writeChunk_failsOnly (chunk : Chunk) :
    FailsOnly (response.writeChunk chunk) (response.stream.sinks = []) ChunkStream.noSink
      { response with stream := { response.stream with started := true } } := by
  apply FailsOnly.of_cases
  · intro none
    have unheard : ¬response.stream.hasSinks = true := by simp [ChunkStream.hasSinks, none]
    rw [writeChunk, ChunkStream.write, if_neg unheard]
  · intro some
    have heard : response.stream.hasSinks = true := by simp [ChunkStream.hasSinks, some]
    rw [writeChunk, ChunkStream.write, if_pos heard]

/-- Writing a result fails where printing does, and leaves the response as it was dressed. -/
theorem apply_failsOnly {State : Type} (result : ActionResult) (request : Request)
    (context : RenderContext State) (state : State) :
    FailsOnly ((result.apply request response context state).map id Prod.fst)
      (¬Charset.isSupported response.encoding = true) (.unknownCharset response.encoding)
      (result.dress request response context.mime) := by
  apply FailsOnly.of_cases
  · intro unsupported
    rw [ActionResult.apply_of_unknown (Charset.ofName?_of_not_isSupported unsupported)]
    rfl
  · intro supported
    rcases (Charset.isSupported_iff _).mp (Decidable.not_not.mp supported) with ⟨charset, known⟩
    rw [ActionResult.apply_of_known known]
    rfl

/-- Calls that fail leave nothing half done. Printing and setting cookies and lifetimes write
nothing at all unless they succeed; a chunk that no sink takes only starts the stream; and a result
whose text cannot be printed has set what it says about itself, status and content type of an error
page or the content type of a document that had none, and nothing else. -/
theorem failed_calls_leave_nothing_half_done :
    (∀ text, FailsOnly (response.print text) (¬Charset.isSupported response.encoding = true)
      (.unknownCharset response.encoding) response) ∧
    (∀ name value duration, FailsOnly (response.setCookieFor name value duration)
      (¬Duration.Accepts duration) (.malformedDuration duration) response) ∧
    (∀ duration, FailsOnly (response.cacheFor duration) (¬Duration.Accepts duration)
      (.malformedDuration duration) response) ∧
    (∀ tag duration (lastModified : Instant), 0 ≤ lastModified.seconds →
      lastModified.seconds < HttpDate.secondCount →
      FailsOnly (response.cacheForValidated tag duration lastModified)
        (¬Duration.Accepts duration) (.refused (.malformedDuration duration)) response) ∧
    (∀ chunk, FailsOnly (response.writeChunk chunk) (response.stream.sinks = [])
      ChunkStream.noSink
      { response with stream := { response.stream with started := true } }) ∧
    ∀ (State : Type) request (context : RenderContext State) state,
      (∀ status reason, ∃ contentType,
        FailsOnly (((ActionResult.error status reason).apply request response context state).map
            id Prod.fst)
          (¬Charset.isSupported response.encoding = true) (.unknownCharset response.encoding)
          { response with status, contentType := some contentType }) ∧
      ∀ document,
        FailsOnly (((ActionResult.xml document).apply request response context state).map
            id Prod.fst)
          (¬Charset.isSupported response.encoding = true) (.unknownCharset response.encoding)
          { response with contentType := response.contentType.or (some "text/xml") } := by
  refine ⟨response.print_failsOnly, response.setCookieFor_failsOnly, response.cacheFor_failsOnly,
    ?_, response.writeChunk_failsOnly, ?_⟩
  · intro tag duration lastModified
    exact response.cacheForValidated_failsOnly tag duration
  · intro State request context state
    constructor
    · intro status reason
      exact ⟨_, response.apply_failsOnly (.error status reason) request context state⟩
    · intro document
      exact response.apply_failsOnly (.xml document) request context state

/-- A response in an encoding that is not known, with a cookie, a field and some text, and without
a sink. -/
def unprintable : Response :=
  { new {} with
    headers := Headers.ofPairs [("Via", "one")]
    cookies := CookieJar.ofList [{ name := "sid", value := "1" }]
    out := [110, 111]
    encoding := "EBCDIC-FR" }

theorem failed_calls_leave_nothing_half_done_unprintable :
    unprintable.print "x" = (unprintable, .error (.unknownCharset "EBCDIC-FR")) ∧
    unprintable.setCookieFor "sid" "2" "soon" =
      (unprintable, .error (.malformedDuration "soon")) ∧
    unprintable.cacheForValidated "\"v1\"" "soon" ⟨1709210096, 250000000⟩ =
      (unprintable, .error (.refused (.malformedDuration "soon"))) ∧
    unprintable.writeChunk (.text "x") =
      ({ unprintable with stream := { started := true } }, .error ChunkStream.noSink) ∧
    ((ActionResult.xml "<ok/>").apply (.ofRaw {} {}) unprintable
        { templates := .noTemplates, mime := MimeType.builtin } ()).map id Prod.fst =
      ({ unprintable with contentType := some "text/xml" },
        .error (.unknownCharset "EBCDIC-FR")) := by
  rcases failed_calls_leave_nothing_half_done unprintable with
    ⟨prints, cookies, _, validators, chunks, results⟩
  have unsupported : ¬Charset.isSupported unprintable.encoding = true := by decide +kernel
  have parsed : Duration.parse "soon" = .error (.malformedDuration "soon") := by cbv
  have refused : ¬Duration.Accepts "soon" := by
    intro accepted
    rcases accepted with ⟨seconds, accepted⟩
    cases parsed.symm.trans accepted
  refine ⟨(prints "x").call_eq unsupported, (cookies "sid" "2" "soon").call_eq refused, ?_,
    (chunks (.text "x")).call_eq rfl, ((results Unit _ _ ()).2 "<ok/>").call_eq unsupported⟩
  exact (validators "\"v1\"" "soon" _ (by decide) (by decide)).call_eq refused

end Response

end HttpExchange
