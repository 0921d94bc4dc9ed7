import HttpExchange.CookieJar
/-!
The operations on a cookie jar as data, with what each answers.
-/

namespace HttpExchange.CookieJar

inductive Operation
  | set (request : CookieRequest)
  | insert (cookie : Cookie)
  | expire (name path : String)
  | setSendOnError (name : String) (kept : Bool)
  /-- Starts over with these cookies and without a default domain. -/
  | collect (cookies : List Cookie)
  | get (name : String)
  | contains (name : String)
  | size
  | defaultDomain
deriving DecidableEq

inductive Reply
  | done
  | missing
  | cookie (cookie : Option Cookie)
  | text (value : Option String)
  | truth (value : Bool)
  | size (count : Nat)
deriving DecidableEq

def perform (jar : CookieJar) : Operation → CookieJar × Reply
  | .set request => (jar.set request, .done)
  | .insert cookie => (jar.insert cookie, .done)
  | .expire name path => (jar.expire name path, .done)
  | .setSendOnError name kept =>
      (jar.setSendOnError name kept, if jar.cookies.contains name then .done else .missing)
  | .collect cookies => (ofList cookies, .done)
  | .get name => (jar, .cookie (jar.get? name))
  | .contains name => (jar, .truth (jar.cookies.contains name))
  | .size => (jar, .size jar.cookies.size)
  | .defaultDomain => (jar, .text jar.defaultDomain)

def performAll (jar : CookieJar) (operations : List Operation) : CookieJar :=
  operations.foldl (fun jar operation => (jar.perform operation).1) jar

end HttpExchange.CookieJar
