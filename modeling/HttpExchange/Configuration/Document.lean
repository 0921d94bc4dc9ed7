import HttpExchange.Bytes.Utf8
import HttpExchange.Configuration
import HttpExchange.Toml.Document
/-!
Settings from a TOML document. Keys that name no setting are left aside.
-/

namespace HttpExchange.Configuration

/-- The text under a key: none if the key is missing. A value of another kind is refused. -/
def textSetting? (entries : Toml.Entries) (key : String) : Option (Option String) :=
  match entries.lookup key with
  | none => some none
  | some (.text value) => some (some value)
  | some _ => none

/-- The truth value under a key: none if the key is missing. A value of another kind is
refused. -/
def truthSetting? (entries : Toml.Entries) (key : String) : Option (Option Bool) :=
  match entries.lookup key with
  | none => some none
  | some (.boolean value) => some (some value)
  | some _ => none

/-- The settings of a document, if it is well formed and every setting has its kind of value.
Missing settings have their defaults. -/
def ofDocument? (document : String) : Option Configuration := do
  let entries ← Toml.read? document
  let forwardedSupport ← textSetting? entries "forwarded_support"
  let forwardedHost ← textSetting? entries "forwarded_host"
  let forwardedProto ← textSetting? entries "forwarded_proto"
  let overwrite ← truthSetting? entries "forwarded_overwrite_domain_and_port"
  let defaultCookieDomain ← textSetting? entries "default_cookie_domain"
  let encoding ← textSetting? entries "default_web_encoding"
  let standard : Configuration := {}
  some {
    forwardedSupport, forwardedHost, forwardedProto, defaultCookieDomain
    overwriteDomainAndPort := overwrite.getD standard.overwriteDomainAndPort
    defaultEncoding := encoding.getD standard.defaultEncoding }

/-- The settings of a file's contents, or the default ones if there is no file or it cannot be
read as a document. -/
def ofFile (contents : Option Bytes) : Configuration :=
  ((contents.bind Utf8.decode?).bind fun text => ofDocument? (String.ofList text)).getD {}

end HttpExchange.Configuration
