import HttpExchange.Response
/-!
The head of a response: status line, header fields and cookies, each on a line of its own, and
the empty line that ends it.
-/

namespace HttpExchange.Response

def statusLine (response : Response) : String :=
  "HTTP/1.1 " ++ response.status.text ++ " " ++ response.status.reason

/-- The content type, unless a header names it. -/
def contentTypeLines (response : Response) : List String :=
  match response.contentType with
  | some contentType =>
      if response.headers.has "Content-Type" then [] else ["Content-Type: " ++ contentType]
  | none => []

/-- How the body is delimited, unless a header names it: by chunks once one was written, and
by its length if it is the buffered one. -/
def framingLines (response : Response) : List String :=
  if response.chunked then
    if response.headers.has "Transfer-Encoding" then [] else ["Transfer-Encoding: chunked"]
  else if response.direct.isNone && !response.headers.has "Content-Length" then
    ["Content-Length: " ++ toString response.out.length]
  else []

/-- The cookies that are sent: on an error only those that are kept on errors. -/
def sentCookies (response : Response) : List Cookie :=
  response.cookies.cookies.entries.filter fun cookie =>
    !response.status.isError || cookie.sendOnError

def cookieLines (response : Response) : List String :=
  response.sentCookies.map fun cookie => "Set-Cookie: " ++ cookie.render

def headLines (response : Response) : List String :=
  [response.statusLine] ++ response.contentTypeLines ++ response.framingLines ++
    response.headers.lines ++ response.cookieLines

def head (response : Response) : String :=
  Headers.joinLines response.headLines ++ "\r\n"

end HttpExchange.Response
