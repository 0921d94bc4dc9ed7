import HttpExchange.Proofs.ExchangeHalves

/-! Error pages: a handler's error always comes to a page, whatever the template engine and the
table of content types answer. The engine is asked once, for a template that the status, the
format and the sender's kind settle, and what it cannot render is made up for by the reason. -/

namespace HttpExchange

variable {State : Type}

/-! ## What an engine is asked -/

structure Question where
  path : String
  binding : Binding
deriving DecidableEq

/-- The same engine, which notes what it is asked. -/
def TemplateLoader.noting (loader : TemplateLoader State) :
    TemplateLoader (State × List Question) where
  render path binding memory :=
    let (rendered, after) := loader.render path binding memory.1
    (rendered, after, memory.2 ++ [{ path, binding }])

def RenderContext.noting (context : RenderContext State) :
    RenderContext (State × List Question) where
  templates := context.templates.noting
  mime := context.mime

namespace ActionResult

def questions (result : ActionResult) (request : Request) : List Question :=
  match result with
  | .error status reason =>
      let format := errorFormat request
      [{ path := errorTemplate status format
         binding := errorBinding status reason format request }]
  | .xml _ => []

/-- An engine that takes notes makes no difference to what is written, and has noted the
questions of the result in the end. -/
theorem apply_noting (result : ActionResult) (request : Request) (response : Response)
    (context : RenderContext State) (state : State) (asked : List Question) :
    result.apply request response context.noting (state, asked) =
      let done := result.apply request response context state
      (done.1, done.2.1, done.2.2, asked ++ result.questions request) := by
  have text : result.text request context.noting.templates (state, asked) =
      ((result.text request context.templates state).1,
        (result.text request context.templates state).2, asked ++ result.questions request) := by
    cases result with
    | error status reason => rfl
    | xml document => rw [questions, List.append_nil]; rfl
  have mime : context.noting.mime = context.mime := rfl
  rw [apply_eq_print, apply_eq_print, text, mime]

/-! ## Formats -/

/-- The format of an error page: the request's own, or HTML where none is settled, but text for a
script that would get HTML. -/
inductive PageFormat (request : Request) : Format → Prop
  | forScript (isAjax : request.isAjax = true) (page : request.format.getD .html = .html) :
      PageFormat request .txt
  | own {format : Format} (settled : request.format.getD .html = format)
      (fits : ¬(request.isAjax = true ∧ format = .html)) : PageFormat request format

theorem pageFormat_errorFormat (request : Request) :
    PageFormat request (errorFormat request) := by
  by_cases page : request.isAjax = true ∧ request.format.getD .html = .html
  · have script : errorFormat request = .txt := by simp [errorFormat, Request.formatOrHtml, page]
    exact script ▸ .forScript page.1 page.2
  · have own : errorFormat request = request.format.getD .html := by
      simp [errorFormat, Request.formatOrHtml, page]
    exact own ▸ .own rfl page

theorem PageFormat.ne_html {request : Request} {format : Format}
    (isFormat : PageFormat request format) (isAjax : request.isAjax = true) : format ≠ .html := by
  cases isFormat with
  | forScript => exact nofun
  | own settled fits => exact fun html => fits ⟨isAjax, html⟩

/-! ## Pages -/

/-- A page with this text and of this media type, written on a response: status, content type and
body are the page's, and all else stays. -/
structure IsErrorPage (response : Response) (status : Status) (media text : String)
    (page : Response) : Prop where
  frame : page =
    { response with status := status, contentType := page.contentType, out := page.out }
  textual : "text/".toList <+: media.toList →
    page.contentType = some (media ++ "; charset=" ++ response.encoding)
  plain : ¬"text/".toList <+: media.toList → page.contentType = some media
  body : ∃ octets, Charset.encodeAs response.encoding text = .ok octets ∧
    page.out = response.out ++ octets

theorem isErrorPage_dress {response : Response} {charset : Charset}
    (known : Charset.ofName? response.encoding = some charset) (status : Status)
    (reason text : String) (request : Request) (mime : MimeType.Resolver) :
    IsErrorPage response status
      ((mime (errorFormat request).token).getD "application/octet-stream") text
      { (error status reason).dress request response mime with
        out := response.out ++ charset.encode text } := by
  refine ⟨rfl, fun textual => ?_, fun plain => ?_, charset.encode text, ?_, rfl⟩
  · rw [dress, pageContentType, if_pos (List.isPrefixOf_iff_prefix.mpr textual)]
  · rw [dress, pageContentType, if_neg (plain ∘ List.isPrefixOf_iff_prefix.mp)]
  · rw [Charset.encodeAs, known]

/-- On a response with a known encoding, an error always comes to a page. The engine is asked once,
for the template of status and format, and the page is what it has rendered, or else the reason;
the media type is that of the format, or octets without one. The request is as it was, and nothing
in it but its format and whether a script has sent it makes a difference to the template. -/
theorem error_page_always_written (status : Status) (reason : String) (request : Request)
    (response : Response) (context : RenderContext State) (state : State)
    (supported : Charset.isSupported response.encoding = true) :
    ∃ format page,
      let path := "errors/" ++ status.text ++ "." ++ format.token
      let binding := [("status", status.text), ("reason", reason), ("format", format.token),
        ("request", request.display)]
      let (rendered, after) := context.templates.render path binding state
      PageFormat request format ∧ (request.isAjax = true → format ≠ .html) ∧
      IsErrorPage response status ((context.mime format.token).getD "application/octet-stream")
        (pageText reason rendered) page ∧
      (error status reason).apply request response context state = (page, .ok (), after) ∧
      (∀ asked, (error status reason).apply request response context.noting (state, asked) =
        (page, .ok (), after, asked ++ [{ path, binding }])) ∧
      Exchange.perform (.render (error status reason) context) (.bound { request, response })
          state =
        (.returned (some (.rendered (.ok ()))), .bound { request, response := page }, after) ∧
      ∀ other : Request, other.format = request.format → other.isAjax = request.isAjax →
        ∀ otherReason otherResponse, (((error status otherReason).apply other otherResponse
          context.noting (state, [])).2.2.2).map Question.path = [path] := by
  rcases (Charset.isSupported_iff _).mp supported with ⟨charset, known⟩
  have written := apply_of_known known (error status reason) request context state
  rw [text_error] at written
  refine ⟨errorFormat request, _, pageFormat_errorFormat request,
    (pageFormat_errorFormat request).ne_html, isErrorPage_dress known status reason _ request _,
    written, fun asked => ?_, ?_, fun other format isAjax otherReason otherResponse => ?_⟩
  · rw [apply_noting, written]
    rfl
  · rw [Exchange.perform_bound, Exchange.performUnbound, written]
    rfl
  · have sameFormat : errorFormat other = errorFormat request :=
      errorFormat_congr (by rw [Request.formatOrHtml, Request.formatOrHtml, format]) isAjax
    rw [apply_noting, List.nil_append, questions, List.map_singleton, sameFormat]
    rfl

/-- A request that a script of a page has sent, in no format that is known. -/
def sentByScript : Request :=
  { Request.ofRaw { path := "/a", queryString := "x=1" } {} with
    headers := Headers.ofPairs [("X-Requested-With", "XMLHttpRequest")] }

/-- An engine whose templates are all broken, and which counts its calls. -/
def broken : RenderContext Nat where
  templates := { render := fun _ _ calls => (.error (.failed "unclosed tag"), calls + 1) }
  mime := MimeType.builtin

theorem error_page_always_written_sentByScript :
    ∃ page, (error 404 "né").apply sentByScript latinResponse broken 0 = (page, .ok (), 1) ∧
      (error 404 "né").apply sentByScript latinResponse broken.noting (0, []) =
        (page, .ok (), 1,
          [{ path := "errors/404.txt"
             binding := [("status", "404"), ("reason", "né"), ("format", "txt"),
               ("request", "GET /a?x=1")] }]) ∧
      page.contentType = some "text/plain; charset=\tLatin-1 " ∧
      page.out = [0x2D, 0x6E, 0xE9] := by
  have supported : Charset.isSupported latinResponse.encoding = true := by decide +kernel
  have isAjax : sentByScript.isAjax = true := by decide +kernel
  rcases error_page_always_written 404 "né" sentByScript latinResponse broken 0 supported with
    ⟨format, page, isFormat, _, isPage, written, noted, _⟩
  have text : format = .txt := by
    cases isFormat with
    | forScript => rfl
    | own settled fits => exact absurd ⟨isAjax, settled.symm⟩ fits
  cases text
  have path : "errors/" ++ Status.text 404 ++ "." ++ Format.txt.token = "errors/404.txt" := by
    decide +kernel
  have status : Status.text 404 = "404" := by decide +kernel
  have line : sentByScript.display = "GET /a?x=1" := by decide +kernel
  have asked := noted []
  rw [path, status, line] at asked
  rcases isPage.body with ⟨octets, encoded, out⟩
  have latin : Charset.encodeAs latinResponse.encoding "né" = .ok [0x6E, 0xE9] := by
    decide +kernel
  cases latin.symm.trans encoded
  exact ⟨page, written, asked, isPage.textual (by decide +kernel), out⟩

end ActionResult

end HttpExchange
