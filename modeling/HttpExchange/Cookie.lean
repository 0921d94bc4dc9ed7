import HttpExchange.Error
/-!
Cookies and the `Set-Cookie` values that carry them.
-/

namespace HttpExchange

structure Cookie where
  name : String
  value : String
  domain : Option String := none
  path : String := "/"
  /-- Seconds to live; a cookie without them lives as long as the session. -/
  maxAge : Option Int64 := none
  secure : Bool := false
  httpOnly : Bool := false
  /-- Whether error responses keep the cookie. -/
  sendOnError : Bool := false
deriving DecidableEq

namespace Cookie

def attributes (cookie : Cookie) : List String :=
  ["Path=" ++ cookie.path] ++
  (cookie.domain.map fun domain => "Domain=" ++ domain).toList ++
  (cookie.maxAge.map fun seconds => "Max-Age=" ++ toString seconds.toInt).toList ++
  (if cookie.secure then ["Secure"] else []) ++
  (if cookie.httpOnly then ["HttpOnly"] else [])

def render (cookie : Cookie) : String :=
  cookie.name ++ "=" ++ cookie.value ++
    cookie.attributes.foldr (fun part text => "; " ++ part ++ text) ""

end Cookie

end HttpExchange
