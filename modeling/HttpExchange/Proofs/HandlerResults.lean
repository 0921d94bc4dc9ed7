import HttpExchange.ActionResult
import HttpExchange.Proofs.ContentTypes

/-! Results of handlers, on the response that they are written to. Every result comes to printing
one text on a response that it has dressed before; and the charset that an error page announces is
the one that the page is written in. -/

namespace HttpExchange

/-! ## Announced charsets -/

theorem ContentType.parse_withCharset {media name : String} {charset : Charset}
    (whole : ';' ∉ media.toList) (known : Charset.ofName? name = some charset) :
    parse (media ++ "; charset=" ++ name) =
      { mediaType := String.ofList (Text.lower (Text.trim media.toList))
        charset := some (String.ofList (Text.trim name.toList)) } := by
  have shown : ¬Text.IsBlank name.toList := by
    rw [Text.isBlank_iff_trim_eq_nil]
    exact Charset.trim_ne_nil_of_ofName? known
  exact parse_plain whole (fun _ => Charset.not_mem_of_ofName? known) shown

namespace ActionResult

variable {State : Type}

/-! ## Writing a result -/

/-- The text of an error page: what the engine has rendered, or the reason alone. -/
def pageText (reason : String) : Except RenderError String → String
  | .ok text => text
  | .error _ => reason

/-- The text that a result prints, and what asking the engine for it has left. -/
def text (result : ActionResult) (request : Request) (templates : TemplateLoader State)
    (state : State) : String × State :=
  match result with
  | .error status reason =>
      let format := errorFormat request
      let (rendered, state) := templates.render (errorTemplate status format)
        (errorBinding status reason format request) state
      (pageText reason rendered, state)
  | .xml document => (document, state)

theorem text_error (status : Status) (reason : String) (request : Request)
    (templates : TemplateLoader State) (state : State) :
    (error status reason).text request templates state =
      let rendering := templates.render (errorTemplate status (errorFormat request))
        (errorBinding status reason (errorFormat request) request) state
      (pageText reason rendering.1, rendering.2) := rfl

/-- The response with the status and the content type that a result gives it. -/
def dress (result : ActionResult) (request : Request) (response : Response)
    (mime : MimeType.Resolver) : Response :=
  match result with
  | .error status _ =>
      { response with
        status := status
        contentType := some (pageContentType mime (errorFormat request) response.encoding) }
  | .xml _ => response.setContentTypeIfNotSet "text/xml"

/-- To write a result is to print its text on the response that it has dressed. -/
theorem apply_eq_print (result : ActionResult) (request : Request) (response : Response)
    (context : RenderContext State) (state : State) :
    result.apply request response context state =
      let (text, after) := result.text request context.templates state
      let (written, outcome) := (result.dress request response context.mime).print text
      (written, outcome, after) := by
  cases result with
  | error status reason =>
      rcases rendering : context.templates.render (errorTemplate status (errorFormat request))
        (errorBinding status reason (errorFormat request) request) state with ⟨rendered, after⟩
      cases rendered <;> simp only [apply, text, dress, rendering, pageText]
  | xml document => simp only [apply, text, dress]

theorem encoding_dress (result : ActionResult) (request : Request) (response : Response)
    (mime : MimeType.Resolver) :
    (result.dress request response mime).encoding = response.encoding := by
  cases result <;> rfl

theorem out_dress (result : ActionResult) (request : Request) (response : Response)
    (mime : MimeType.Resolver) : (result.dress request response mime).out = response.out := by
  cases result <;> rfl

theorem apply_of_known {response : Response} {charset : Charset}
    (known : Charset.ofName? response.encoding = some charset) (result : ActionResult)
    (request : Request) (context : RenderContext State) (state : State) :
    result.apply request response context state =
      let (text, after) := result.text request context.templates state
      ({ result.dress request response context.mime with
          out := response.out ++ charset.encode text }, .ok (), after) := by
  have dressed := result.encoding_dress request response context.mime
  rw [apply_eq_print]
  dsimp only
  rw [Response.print_of_known (dressed ▸ known), out_dress]

theorem apply_of_unknown {response : Response}
    (unknown : Charset.ofName? response.encoding = none) (result : ActionResult)
    (request : Request) (context : RenderContext State) (state : State) :
    result.apply request response context state =
      (result.dress request response context.mime, .error (.unknownCharset response.encoding),
        (result.text request context.templates state).2) := by
  have dressed := result.encoding_dress request response context.mime
  rw [apply_eq_print]
  dsimp only
  rw [Response.print_of_unknown (dressed ▸ unknown), dressed]

theorem errorFormat_congr {left right : Request}
    (format : left.formatOrHtml = right.formatOrHtml) (isAjax : left.isAjax = right.isAjax) :
    errorFormat left = errorFormat right := by
  rw [errorFormat, errorFormat, format, isAjax]

theorem pageContentType_of_text {mime : MimeType.Resolver} {format : Format} {media : String}
    (resolved : mime format.token = some media) (textual : "text/".toList <+: media.toList)
    (encoding : String) :
    pageContentType mime format encoding = media ++ "; charset=" ++ encoding := by
  rw [pageContentType, resolved, Option.getD_some,
    if_pos (List.isPrefixOf_iff_prefix.mpr textual)]

/-- Under a known encoding an error page is written in the charset that its content type announces,
whatever the spelling of the encoding: whoever takes the content type apart gets the media type and
the name of a charset, and what the page adds to the body is its text in that charset. -/
theorem error_page_in_announced_charset (status : Status) (reason : String) (request : Request)
    (response : Response) (context : RenderContext State) (state : State) (media : String)
    (supported : Charset.isSupported response.encoding = true)
    (resolved : context.mime (errorFormat request).token = some media)
    (textual : "text/".toList <+: media.toList) (whole : ';' ∉ media.toList) :
    let rendering := context.templates.render (errorTemplate status (errorFormat request))
      (errorBinding status reason (errorFormat request) request) state
    ∃ page contentType charset octets,
      (error status reason).apply request response context state = (page, .ok (), rendering.2) ∧
      page.contentType = some contentType ∧
      ContentType.parse contentType =
        { mediaType := String.ofList (Text.lower (Text.trim media.toList))
          charset := some charset } ∧
      Charset.encodeAs charset (pageText reason rendering.1) = .ok octets ∧
      page.out = response.out ++ octets := by
  intro rendering
  rcases (Charset.isSupported_iff _).mp supported with ⟨charset, known⟩
  have written := apply_of_known known (error status reason) request context state
  have announced := pageContentType_of_text resolved textual response.encoding
  have parsed := ContentType.parse_withCharset whole known
  refine ⟨_, _, _, charset.encode (pageText reason rendering.1), written, rfl,
    announced ▸ parsed, ?_, rfl⟩
  rw [Charset.encodeAs, Charset.ofName?_trim, known]

/-- An engine that has a template for every path and counts its calls, and a media type in an
unusual spelling. -/
def echoing : RenderContext Nat where
  templates := { render := fun path _ calls => (.ok ("né " ++ path), calls + 1) }
  mime := fun _ => some "text/HTML "

/-- A response that has something in its body and an encoding in an unusual spelling. -/
def latinResponse : Response :=
  { Response.new {} with encoding := "\tLatin-1 ", out := [0x2D] }

theorem error_page_in_announced_charset_latin :
    ∃ page contentType charset octets,
      (error 404 "No route").apply (.ofRaw {} {}) latinResponse echoing 0 = (page, .ok (), 1) ∧
      page.contentType = some contentType ∧
      ContentType.parse contentType = { mediaType := "text/html", charset := some charset } ∧
      Charset.encodeAs charset "né errors/404.html" = .ok octets ∧
      page.out = [0x2D] ++ octets := by
  have supported : Charset.isSupported latinResponse.encoding = true := by decide +kernel
  have template : "né " ++ errorTemplate 404 (errorFormat (.ofRaw {} {})) =
      "né errors/404.html" := by decide +kernel
  have media : String.ofList (Text.lower (Text.trim "text/HTML ".toList)) = "text/html" := by
    decide +kernel
  have written := error_page_in_announced_charset 404 "No route" (.ofRaw {} {}) latinResponse
    echoing 0 "text/HTML " supported rfl (by decide) (by decide)
  rw [← media, ← template]
  exact written

end ActionResult

end HttpExchange
