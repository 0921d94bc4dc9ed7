/-!
Status codes. Handlers may answer with any code, so a code is a plain number; the reason
phrases are those of the codes that the exchange itself produces.
-/

namespace HttpExchange

abbrev Status := UInt16

namespace Status

def ok : Status := 200
def badRequest : Status := 400
def forbidden : Status := 403
def internalError : Status := 500

def isSuccess (status : Status) : Bool :=
  status / 100 == 2

def isRedirect (status : Status) : Bool :=
  status / 100 == 3

def isError (status : Status) : Bool :=
  status / 100 == 4 || status / 100 == 5

/-- The reason phrase of a code, empty for a code without one. -/
def reason (status : Status) : String :=
  match status.toNat with
  | 200 => "OK"
  | 201 => "Created"
  | 202 => "Accepted"
  | 203 => "Non-Authoritative Information"
  | 204 => "No Content"
  | 301 => "Moved Permanently"
  | 302 => "Found"
  | 303 => "See Other"
  | 304 => "Not Modified"
  | 400 => "Bad Request"
  | 401 => "Unauthorized"
  | 402 => "Payment Required"
  | 403 => "Forbidden"
  | 404 => "Not Found"
  | 500 => "Internal Server Error"
  | 501 => "Not Implemented"
  | 502 => "Bad Gateway"
  | 503 => "Service Unavailable"
  | _ => ""

def text (status : Status) : String :=
  toString status.toNat

end Status

end HttpExchange
