import HttpExchange.Text.Quoted
import HttpExchange.Text.Trim
/-!
Request methods. The nine standard ones have constructors of their own; any other token is
kept in upper case.
-/

namespace HttpExchange

inductive Method
  | get
  | head
  | post
  | put
  | patch
  | delete
  | connect
  | options
  | trace
  | other (token : String)
deriving DecidableEq, Repr

namespace Method

def text : Method → String
  | .get => "GET"
  | .head => "HEAD"
  | .post => "POST"
  | .put => "PUT"
  | .patch => "PATCH"
  | .delete => "DELETE"
  | .connect => "CONNECT"
  | .options => "OPTIONS"
  | .trace => "TRACE"
  | .other token => token

/-- The method of a token, in any letter case and with white space around it. -/
def parse (token : String) : Method :=
  match String.ofList (Text.upper (Text.trim token.toList)) with
  | "GET" => .get
  | "HEAD" => .head
  | "POST" => .post
  | "PUT" => .put
  | "PATCH" => .patch
  | "DELETE" => .delete
  | "TRACE" => .trace
  | "OPTIONS" => .options
  | "CONNECT" => .connect
  | token => .other token

def describe : Method → String
  | .get => "Get"
  | .head => "Head"
  | .post => "Post"
  | .put => "Put"
  | .patch => "Patch"
  | .delete => "Delete"
  | .connect => "Connect"
  | .options => "Options"
  | .trace => "Trace"
  | .other token => "Other(" ++ Text.quoted token ++ ")"

end Method

end HttpExchange
