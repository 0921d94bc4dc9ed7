import HttpExchange.CookieJar.Operation
import HttpExchange.Headers.Operation
import HttpExchange.Request.Creation
/-!
The operations on a request as data, with what each answers.
-/

namespace HttpExchange.Request

inductive Operation
  | headers (operation : Headers.Operation)
  | cookies (operation : CookieJar.Operation)
  | setHeader (name value : String)
  | setCookie (name value : String)
  | resolveFormat
  | setFormat (format : Option Format)
  | formatOrHtml
  | isAjax
  | languages
  | isModified (tag : String) (lastModified : Instant)
  | resolveForwarding (configuration : Configuration)
  | checkForwardedFor
  | takeBody
  | readBody
  | setHost (value : String)
  | setDomain (value : String)
  | setPath (value : String)
  | setQueryString (value : String)
  | setRemoteAddress (value : String)
  | setMethod (token : String)
  | setPort (value : UInt16)
  | setSecure (value : Bool)
  | setAttribute (name : String) (value : AttributeValue)
  | getAttribute (name : String)
  | addToAttribute (name : String) (amount : Int64)
  | removeAttribute (name : String)
  | hasAttribute (name : String)
  /-- Adds parameters to the route, settles on an action if one is given, and starts over if
  asked to. -/
  | route (parameters : List RouteParameter) (action : Option String) (reset : Bool)
deriving DecidableEq

inductive Reply
  | done
  | headers (reply : Headers.Reply)
  | cookies (reply : CookieJar.Reply)
  | format (format : Format)
  | truth (value : Bool)
  | texts (values : List String)
  | checked (outcome : Except Error Unit)
  | body (outcome : Except String Bytes)
  | attribute (value : Option AttributeValue)
  | missing
  | route (route : Route)

def perform (request : Request) : Operation → Request × Reply
  | .headers operation =>
      let (headers, reply) := request.headers.perform operation
      ({ request with headers }, .headers reply)
  | .cookies operation =>
      let (cookies, reply) := request.cookies.perform operation
      ({ request with cookies }, .cookies reply)
  | .setHeader name value => (request.setHeader name value, .done)
  | .setCookie name value => (request.setCookie name value, .done)
  | .resolveFormat => (request.resolveFormat, .done)
  | .setFormat format => ({ request with format }, .done)
  | .formatOrHtml => (request, .format request.formatOrHtml)
  | .isAjax => (request, .truth request.isAjax)
  | .languages => (request, .texts request.languages)
  | .isModified tag lastModified =>
      (request, .truth (request.headers.isModified tag lastModified))
  | .resolveForwarding configuration =>
      let (request, outcome) := request.resolveForwarding configuration
      (request, .checked outcome)
  | .checkForwardedFor => (request, .checked request.checkForwardedFor)
  | .takeBody =>
      let (request, body) := request.takeBody
      (request, .truth body.isSome)
  | .readBody =>
      let (request, outcome) := request.readBody
      (request, .body outcome)
  | .setHost host => ({ request with host }, .done)
  | .setDomain domain => ({ request with domain }, .done)
  | .setPath path => ({ request with path }, .done)
  | .setQueryString queryString => ({ request with queryString }, .done)
  | .setRemoteAddress remoteAddress => ({ request with remoteAddress }, .done)
  | .setMethod token => ({ request with method := Method.parse token }, .done)
  | .setPort port => ({ request with port }, .done)
  | .setSecure secure => ({ request with secure }, .done)
  | .setAttribute name value =>
      ({ request with attributes := request.attributes.set name value }, .done)
  | .getAttribute name => (request, .attribute (request.attributes.value? name))
  | .addToAttribute name amount =>
      match request.attributes.add? name amount with
      | some attributes => ({ request with attributes }, .done)
      | none => (request, .missing)
  | .removeAttribute name =>
      ({ request with attributes := request.attributes.erase name },
        .truth (request.attributes.contains name))
  | .hasAttribute name => (request, .truth (request.attributes.contains name))
  | .route parameters action reset =>
      let route := request.route.addParameters parameters
      let route := match action with
        | some action => route.resolve action
        | none => route
      let route := if reset then {} else route
      ({ request with route }, .route route)

def performAll (request : Request) : List Operation → Request × List Reply
  | [] => (request, [])
  | operation :: operations =>
      let (request, reply) := request.perform operation
      let (request, replies) := request.performAll operations
      (request, reply :: replies)

end HttpExchange.Request
