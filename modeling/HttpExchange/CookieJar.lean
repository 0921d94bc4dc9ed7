import HttpExchange.Cookie
import HttpExchange.Duration
import HttpExchange.KeyedList
/-!
Cookie jars: one cookie for each name. A cookie's slot on the client is its name, path and
domain. Setting a cookie whose slot is the one in the jar changes value, lifetime and `Secure`,
and keeps what the slot was opened with; setting any other cookie opens a new slot in the place
of the old one.
-/

namespace HttpExchange

structure CookieRequest where
  name : String
  value : String
  domain : Option String := none
  path : String := "/"
  maxAge : Option Int64 := none
  secure : Bool := false
  httpOnly : Bool := false
deriving DecidableEq

/-- A number of seconds as a cookie's lifetime, which ends at the largest signed number. -/
def lifetime (seconds : UInt64) : Int64 :=
  Int64.ofNat (min seconds.toNat (Nat.pow 2 63 - 1))

namespace CookieRequest

def expiresIn (request : CookieRequest) (duration : String) : Except Error CookieRequest :=
  match Duration.parse duration with
  | .ok seconds => .ok { request with maxAge := some (lifetime seconds) }
  | .error error => .error error

/-- The cookie that opens a slot, with the jar's domain where none is asked for. -/
def opening (request : CookieRequest) (defaultDomain : Option String) : Cookie where
  name := request.name
  value := request.value
  domain := request.domain.or defaultDomain
  path := request.path
  maxAge := request.maxAge
  secure := request.secure
  httpOnly := request.httpOnly

/-- Whether the request means the slot that the cookie has. The domain is compared as asked
for, so a slot that took the jar's domain is meant only by naming that domain. -/
def continues (request : CookieRequest) (stored : Cookie) : Bool :=
  stored.path == request.path && stored.domain == request.domain

/-- The cookie of the same slot with the requested value, lifetime and `Secure`. -/
def renew (request : CookieRequest) (stored : Cookie) : Cookie :=
  { stored with value := request.value, maxAge := request.maxAge, secure := request.secure }

@[simp] theorem name_renew (request : CookieRequest) (stored : Cookie) :
    (request.renew stored).name = stored.name := rfl

end CookieRequest

structure CookieJar where
  cookies : KeyedList Cookie.name
  /-- The domain of cookies that are set without one. -/
  defaultDomain : Option String
deriving DecidableEq

namespace CookieJar

def withDefaultDomain (defaultDomain : Option String) : CookieJar where
  cookies := KeyedList.empty
  defaultDomain := defaultDomain

def empty : CookieJar := withDefaultDomain none

instance : Inhabited CookieJar := ⟨empty⟩

def get? (jar : CookieJar) (name : String) : Option Cookie :=
  jar.cookies.find? name

def insert (jar : CookieJar) (cookie : Cookie) : CookieJar :=
  { jar with cookies := jar.cookies.put cookie }

/-- Sets a cookie: renews the slot in the jar if it is the one that is meant, and opens a new
slot under the name otherwise. -/
def set (jar : CookieJar) (request : CookieRequest) : CookieJar :=
  match jar.get? request.name with
  | some stored =>
      if request.continues stored then
        { jar with cookies := jar.cookies.update request.name request.renew fun _ => rfl }
      else jar.insert (request.opening jar.defaultDomain)
  | none => jar.insert (request.opening jar.defaultDomain)

def expire (jar : CookieJar) (name path : String) : CookieJar :=
  jar.set { name := name, value := "", path := path, maxAge := some 0 }

def setSendOnError (jar : CookieJar) (name : String) (kept : Bool) : CookieJar :=
  { jar with
    cookies := jar.cookies.update name (fun cookie => { cookie with sendOnError := kept })
      fun _ => rfl }

/-- A jar of cookies without a default domain; of several with one name the last stays. -/
def ofList (cookies : List Cookie) : CookieJar where
  cookies := KeyedList.empty.putAll cookies
  defaultDomain := none

end CookieJar

end HttpExchange
