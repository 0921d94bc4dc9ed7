import HttpExchange.Proofs.Charsets
import HttpExchange.Proofs.ResponseHead
import HttpExchange.Response.Operation
import Mathlib.Algebra.GroupWithZero.Nat

/-! The buffered body over whole runs. It holds what was printed since the last reset, each text in
the charset that the response named when it was printed, and the length that a head announces is
the one that those texts have in their charsets. -/

namespace HttpExchange.Response

/-! ## Prints -/

/-- A text that was printed, with the charset of that time. -/
structure Print where
  charset : Charset
  text : String
deriving DecidableEq

namespace Print

def octets (print : Print) : Bytes :=
  print.charset.encode print.text

def width (print : Print) : Nat :=
  print.charset.width print.text

theorem length_flatMap_octets (prints : List Print) :
    (prints.flatMap octets).length = (prints.map width).sum := by
  have widths : (fun print => (octets print).length) = width := by
    funext print
    exact Charset.length_encode print.charset print.text
  rw [List.length_flatMap, widths]

end Print

namespace Operation

/-- What the operation prints on a response with this encoding. Under the name of no charset
nothing is printed. -/
def prints (encoding : String) : Operation → List Print
  | .print text => (Charset.ofName? encoding).toList.map fun charset => { charset, text }
  | _ => []

/-- The encoding that the operation leaves to the next one. -/
def encodingAfter (encoding : String) : Operation → String
  | .setEncoding encoding => encoding
  | _ => encoding

end Operation

/-- What operations print and no later one resets, in order, on a response that starts with this
encoding. -/
def lastingPrints (encoding : String) : List Operation → List Print
  | [] => []
  | operation :: later =>
      (if .reset ∈ later then [] else operation.prints encoding) ++
        lastingPrints (operation.encodingAfter encoding) later

/-! ## Steps and runs -/

theorem encoding_perform (response : Response) (operation : Operation) :
    (response.perform operation).1.encoding = operation.encodingAfter response.encoding := by
  have kept := (response.perform_differsIn operation).encoding_eq
  cases operation with
  | setEncoding encoding => rfl
  | _ => exact kept nofun

theorem out_print (response : Response) (text : String) :
    (response.print text).1.out =
      response.out ++ ((Operation.print text).prints response.encoding).flatMap Print.octets := by
  rw [Operation.prints]
  cases known : Charset.ofName? response.encoding with
  | none =>
      rw [print_of_unknown known]
      exact (List.append_nil _).symm
  | some charset =>
      rw [print_of_known known]
      exact congrArg (response.out ++ ·) (List.append_nil _).symm

/-- Only printing and resetting change the buffered body. -/
theorem out_perform (response : Response) (operation : Operation) :
    (response.perform operation).1.out =
      if operation = .reset then []
      else response.out ++ (operation.prints response.encoding).flatMap Print.octets := by
  have kept := (response.perform_differsIn operation).out_eq
  cases operation with
  | print text =>
      rw [if_neg nofun, perform_print]
      exact response.out_print text
  | reset => rfl
  | _ =>
      rw [if_neg nofun, kept nofun]
      exact (List.append_nil _).symm

/-- A run adds its lasting prints to the body, which it has emptied before if it has reset it. -/
theorem out_performAll (response : Response) (operations : List Operation) :
    (response.performAll operations).1.out =
      (if .reset ∈ operations then [] else response.out) ++
        (lastingPrints response.encoding operations).flatMap Print.octets := by
  induction operations generalizing response with
  | nil => simp [performAll, lastingPrints]
  | cons operation later induction =>
      rw [performAll, induction, encoding_perform, out_perform, lastingPrints,
        List.flatMap_append, ← List.append_assoc]
      congr 1
      by_cases resets : .reset ∈ later
      · simp [resets]
      · by_cases now : operation = .reset
        · simp [resets, now, Operation.prints]
        · simp [resets, now, Ne.symm now]

/-- The body of a response holds these prints, and the head says its length by them. -/
structure Buffers (response : Response) (prints : List Print) : Prop where
  out : response.out = prints.flatMap Print.octets
  framingLines : response.framingLines =
    lineIf (response.chunked = true ∧ ¬response.headers.Names "Transfer-Encoding")
      "Transfer-Encoding: chunked" ++
    lineIf (¬response.chunked = true ∧ response.direct = none ∧
      ¬response.headers.Names "Content-Length")
      ("Content-Length: " ++ toString (prints.map Print.width).sum)

/-- After any run from a new response, the body is what was printed since the last reset, and its
announced length is the sum of the widths of those texts. A print under the name of no charset adds
nothing to it, and no operation but printing and resetting changes it. -/
theorem body_is_lasting_prints :
    (∀ configuration operations, ((new configuration).performAll operations).1.Buffers
      (lastingPrints configuration.defaultEncoding operations)) ∧
    (∀ (response : Response) text, ¬Charset.isSupported response.encoding = true →
      (response.perform (.print text)).1.out = response.out) ∧
    ∀ (response : Response) operation, (∀ text, operation ≠ .print text) → operation ≠ .reset →
      (response.perform operation).1.out = response.out := by
  refine ⟨fun configuration operations => ?_, fun response text unsupported => ?_,
    fun response operation printsNot resetsNot => ?_⟩
  · have out := (new configuration).out_performAll operations
    have empty : (if .reset ∈ operations then [] else (new configuration).out) = [] := ite_self _
    rw [empty, List.nil_append] at out
    refine ⟨out, ?_⟩
    rw [framingLines_eq, out, Print.length_flatMap_octets]
    rfl
  · rw [out_perform, if_neg nofun, Operation.prints, Charset.ofName?_of_not_isSupported unsupported]
    exact List.append_nil _
  · have silent : operation.prints response.encoding = [] := by
      cases operation with
      | print text => exact absurd rfl (printsNot text)
      | _ => rfl
    rw [out_perform, if_neg resetsNot, silent]
    exact List.append_nil _

/-- Text that is reset, text in two charsets, a lifetime that is refused, and text in a charset that
is not known. -/
def reprinted : List Operation :=
  [.print "lost", .reset, .print "né", .cacheFor "soon", .setEncoding " Latin1 ", .print "é€",
    .registerSink, .setEncoding "EBCDIC-FR", .print "unknown"]

theorem body_is_lasting_prints_reprinted :
    ∃ response, ((new {}).performAll reprinted).1 = response ∧
      response.out = [0x6E, 0xC3, 0xA9, 0xE9, 0x3F] ∧
      response.framingLines = ["Content-Length: 5"] ∧
      (response.perform (.print "more")).1.out = response.out ∧
      (response.perform (.setStatus 404)).1.out = response.out := by
  rcases body_is_lasting_prints with ⟨buffers, unsupported, others⟩
  have prints : lastingPrints "utf-8" reprinted = [⟨.utf8, "né"⟩, ⟨.latin1, "é€"⟩] := by
    decide +kernel
  refine ⟨_, rfl, ?_, ?_, ?_, ?_⟩
  · rw [(buffers {} reprinted).out, prints]
    decide
  · rw [(buffers {} reprinted).framingLines, prints]
    decide +kernel
  · exact unsupported _ "more" (by decide +kernel)
  · exact others _ (.setStatus 404) nofun nofun

end HttpExchange.Response
