import HttpExchange.Text.Search
/-!
The formats that a response can be rendered in, and how the `Accept` value of a request
chooses one.
-/

namespace HttpExchange

inductive Format
  | html
  | xml
  | txt
  | json
deriving DecidableEq, Repr

namespace Format

def token : Format → String
  | .html => "html"
  | .xml => "xml"
  | .txt => "txt"
  | .json => "json"

def ofToken? : String → Option Format
  | "html" => some .html
  | "xml" => some .xml
  | "txt" => some .txt
  | "json" => some .json
  | _ => none

/-- The media type names by which an `Accept` value asks for a format. -/
def mediaNames : Format → List String
  | .html => ["application/xhtml", "text/html"]
  | .xml => ["application/xml", "text/xml"]
  | .txt => ["text/plain"]
  | .json => ["application/json", "text/javascript"]

def isNamedIn (format : Format) (accept : List Char) : Bool :=
  format.mediaNames.any fun name => Text.occurs name.toList accept

def wildcard : List Char := "*/*".toList

/-- The format that an `Accept` value asks for: the first named one of HTML, XML, text and
JSON. A wildcard at the start asks for HTML before all others, one at the end after them. -/
def ofAccept? (accept : List Char) : Option Format :=
  if html.isNamedIn accept || wildcard.isPrefixOf accept then some .html
  else if xml.isNamedIn accept then some .xml
  else if txt.isNamedIn accept then some .txt
  else if json.isNamedIn accept then some .json
  else if wildcard.isSuffixOf accept then some .html
  else none

/-- The format for an optional `Accept` value; without one it is HTML. -/
def negotiate? : Option String → Option Format
  | none => some .html
  | some accept => ofAccept? accept.toList

end Format

end HttpExchange
