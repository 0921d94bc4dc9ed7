/-!
The content types of common web files, by the part of their name after the last full stop.
-/

namespace HttpExchange.MimeType

def ofExtension? : String → Option String
  | "htm" | "html" => some "text/html"
  | "css" => some "text/css"
  | "js" => some "application/javascript"
  | "png" => some "image/png"
  | "jpg" | "jpeg" => some "image/jpeg"
  | "gif" => some "image/gif"
  | "svg" => some "image/svg+xml"
  | "json" => some "application/json"
  | "xml" => some "text/xml"
  | "txt" => some "text/plain"
  | "pdf" => some "application/pdf"
  | _ => none

/-- The text after the last full stop, or all of it when there is none. -/
def extension (path : String) : String :=
  String.ofList (path.toList.reverse.takeWhile (· != '.')).reverse

def ofPath? (path : String) : Option String :=
  ofExtension? (extension path)

/-- A source of content types for the short names of formats. -/
abbrev Resolver := String → Option String

def builtin : Resolver := fun format =>
  ofPath? ("xx." ++ format)

end HttpExchange.MimeType
