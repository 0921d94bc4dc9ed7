import HttpExchange.CookieJar
import HttpExchange.Configuration
import HttpExchange.ContentType
import HttpExchange.Format
import HttpExchange.Freshness
import HttpExchange.Language
import HttpExchange.Method
import HttpExchange.Request.Attributes
import HttpExchange.Request.Body
/-!
Requests: the fields that the transport takes from the wire, and the request that handlers see.
-/

namespace HttpExchange

/-- A request as the transport hands it over, before anything is derived. -/
structure RawRequest where
  remoteAddress : String := "127.0.0.1"
  method : String := "GET"
  path : String := "/"
  queryString : String := ""
  contentType : Option String := none
  body : Option Body := none
  url : String := path
  host : String := "localhost"
  isLoopback : Bool := true
  port : UInt16 := 80
  domain : String := "localhost"
  secure : Bool := false
  headers : Headers := KeyedList.empty
  cookies : CookieJar := CookieJar.empty
deriving DecidableEq

structure Request where
  host : String
  path : String
  queryString : String
  url : String
  method : Method
  domain : String
  remoteAddress : String
  contentType : String
  /-- The charset of the body. -/
  encoding : String
  format : Option Format
  port : UInt16
  secure : Bool
  headers : Headers
  cookies : CookieJar
  body : Option Body
  attributes : Attributes
  user : Option String
  password : Option String
  isLoopback : Bool
  route : Route
deriving DecidableEq

namespace Request

/-- The request of the transport's fields, with its content type taken apart and nothing else
derived. -/
def ofRaw (raw : RawRequest) (configuration : Configuration) : Request :=
  let contentType := ContentType.ofHeader raw.contentType
  { host := raw.host
    path := raw.path
    queryString := raw.queryString
    url := raw.url
    method := Method.parse raw.method
    domain := raw.domain
    remoteAddress := raw.remoteAddress
    contentType := contentType.mediaType
    encoding := contentType.charset.getD configuration.defaultEncoding
    format := none
    port := raw.port
    secure := raw.secure
    headers := raw.headers
    cookies := raw.cookies
    body := raw.body
    attributes := KeyedList.empty
    user := none
    password := none
    isLoopback := raw.isLoopback
    route := {} }

/-- Settles the format by the `Accept` header unless it is settled. -/
def resolveFormat (request : Request) : Request :=
  match request.format with
  | some _ => request
  | none => { request with format := Format.negotiate? (request.headers.value? "accept") }

/-- The format to render with: HTML where none is settled. -/
def formatOrHtml (request : Request) : Format :=
  request.format.getD .html

/-- Whether a script of a page sent the request. -/
def isAjax (request : Request) : Bool :=
  request.headers.value? "x-requested-with" == some "XMLHttpRequest"

/-- Scheme, domain and port, where the port is left out if it is a usual one. -/
def base (request : Request) : String :=
  let scheme := if request.secure then "https" else "http"
  let address := scheme ++ "://" ++ request.domain
  if request.port == 80 || request.port == 443 then address
  else address ++ ":" ++ toString request.port.toNat

def display (request : Request) : String :=
  let line := request.method.text ++ " " ++ request.path
  if request.queryString.isEmpty then line else line ++ "?" ++ request.queryString

def languages (request : Request) : List String :=
  Language.accepted (request.headers.value? "accept-language")

/-- Sets a header under the lower-case form of its name. -/
def setHeader (request : Request) (name value : String) : Request :=
  { request with headers := request.headers.set (foldName name) value }

def setCookie (request : Request) (name value : String) : Request :=
  { request with cookies := request.cookies.insert { name, value } }

def hasBody (request : Request) : Bool :=
  request.body.isSome

/-- Hands the body out, so that the request has none from then on. -/
def takeBody (request : Request) : Request × Option Body :=
  ({ request with body := none }, request.body)

/-- Reads the body, which is handed out by that even if it breaks off. Without a body there is
nothing to read and nothing to fail. -/
def readBody (request : Request) : Request × Except String Bytes :=
  match request.takeBody with
  | (request, some body) => (request, body.read)
  | (request, none) => (request, .ok [])

end Request

end HttpExchange
