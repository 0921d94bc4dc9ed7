import HttpExchange.MimeType
import HttpExchange.Request
import HttpExchange.Response
import HttpExchange.Template
/-!
What handlers answer with: results that write themselves onto the response.
-/

namespace HttpExchange

inductive ActionResult
  /-- An error page from a template, or the bare reason if no template can be rendered. -/
  | error (status : Status) (reason : String)
  /-- An XML document. -/
  | xml (document : String)
deriving DecidableEq, Repr

structure RenderContext (State : Type) where
  templates : TemplateLoader State
  mime : MimeType.Resolver

namespace ActionResult

/-- The error of a handler that names no status. -/
def failure (reason : String) : ActionResult :=
  .error Status.internalError reason

/-- The format of an error page: scripts get text where a page would be HTML. -/
def errorFormat (request : Request) : Format :=
  if request.isAjax && request.formatOrHtml == .html then .txt else request.formatOrHtml

/-- The content type of a page. Text names its charset. -/
def pageContentType (mime : MimeType.Resolver) (format : Format) (encoding : String) : String :=
  let contentType := (mime format.token).getD "application/octet-stream"
  if "text/".toList.isPrefixOf contentType.toList then
    contentType ++ "; charset=" ++ encoding
  else contentType

def errorTemplate (status : Status) (format : Format) : String :=
  "errors/" ++ status.text ++ "." ++ format.token

def errorBinding (status : Status) (reason : String) (format : Format) (request : Request) :
    Binding :=
  [("status", status.text), ("reason", reason), ("format", format.token),
    ("request", request.display)]

/-- Writes a result onto the response. The engine is asked at most once, and an error page that
it cannot render is the reason alone. -/
def apply {State : Type} (result : ActionResult) (request : Request) (response : Response)
    (context : RenderContext State) (state : State) : Response × Except Error Unit × State :=
  match result with
  | .error status reason =>
      let format := errorFormat request
      let page := { response with
        status := status
        contentType := some (pageContentType context.mime format response.encoding) }
      let (rendered, state) := context.templates.render (errorTemplate status format)
        (errorBinding status reason format request) state
      let body := match rendered with
        | .ok text => text
        | .error _ => reason
      let (response, outcome) := page.print body
      (response, outcome, state)
  | .xml document =>
      let (response, outcome) := (response.setContentTypeIfNotSet "text/xml").print document
      (response, outcome, state)

end ActionResult

end HttpExchange
