import HttpExchange.Proofs.CookieHistory

/-! Letting the cookies of a jar expire: what the jar tells the client, and of which of the client's
cookies. -/

namespace HttpExchange

/-- What a client tells its cookies apart by: name, path and domain. -/
def Cookie.slot (cookie : Cookie) : String × String × Option String :=
  (cookie.name, cookie.path, cookie.domain)

/-- The cookie that setting one leaves under the name of a stored cookie. -/
def CookieRequest.placed (request : CookieRequest) (stored : Cookie)
    (defaultDomain : Option String) : Cookie :=
  if request.continues stored then request.renew stored else request.opening defaultDomain

namespace CookieJar

section Setting

variable {jar : CookieJar} {request : CookieRequest} {stored : Cookie}

theorem not_continues_of_get? (found : jar.get? request.name = some stored)
    (otherwise : ¬(stored.path = request.path ∧ stored.domain = request.domain)) (other : Cookie)
    (foundOther : jar.get? request.name = some other) :
    ¬(other.path = request.path ∧ other.domain = request.domain) := by
  rw [found] at foundOther
  cases foundOther
  exact otherwise

/-- Setting a cookie whose name is in the jar changes the entry of that name and no other, and
leaves all of them where they are. -/
theorem entries_set_of_get? (found : jar.get? request.name = some stored) :
    (jar.set request).cookies.entries = jar.cookies.entries.map fun other =>
      if other.name = request.name then request.placed stored jar.defaultDomain else other := by
  by_cases same : stored.path = request.path ∧ stored.domain = request.domain
  · rw [set_of_continues found same, CookieRequest.placed, if_pos (continues_iff.mpr same)]
    exact KeyedList.entries_update_of_find? found request.renew request.name_renew
  · have present : request.name ∈ jar.cookies.keys :=
      (KeyedList.mem_keys_iff _ _).mpr ⟨stored, found⟩
    rw [set_of_opens (not_continues_of_get? found same), CookieRequest.placed,
      if_neg fun continues => same (continues_iff.mp continues)]
    exact KeyedList.entries_put_of_mem present

theorem get?_set_of_get? (found : jar.get? request.name = some stored) :
    (jar.set request).get? request.name = some (request.placed stored jar.defaultDomain) := by
  by_cases same : stored.path = request.path ∧ stored.domain = request.domain
  · rw [get?_set_of_continues found same, CookieRequest.placed,
      if_pos (continues_iff.mpr same)]
  · rw [get?_set_of_opens (not_continues_of_get? found same), CookieRequest.placed,
      if_neg fun continues => same (continues_iff.mp continues)]

end Setting

/-- The request by which a cookie expires. It names no domain. -/
def expiry (name path : String) : CookieRequest where
  name := name
  value := ""
  path := path
  maxAge := some 0

/-- A cookie without a domain stays in its slot when it expires, and any other is put in the one
of the jar's domain. -/
theorem placed_expiry (cookie : Cookie) (defaultDomain : Option String) :
    (expiry cookie.name cookie.path).placed cookie defaultDomain =
      if cookie.domain = none then
        { cookie with value := "", maxAge := some 0, secure := false }
      else
        { name := cookie.name, value := "", path := cookie.path, domain := defaultDomain,
          maxAge := some 0 } := by
  rw [CookieRequest.placed]
  by_cases undomained : cookie.domain = none
  · rw [if_pos undomained, if_pos (continues_iff.mpr ⟨rfl, undomained⟩)]
    rfl
  · rw [if_neg undomained, if_neg fun continues => undomained (continues_iff.mp continues).2]
    rfl

/-- A cookie that expires is replaced in the jar by one without a value and with no time to live,
and no other cookie changes. The new one is in the slot of the old one exactly if that one had no
domain or the jar's. A cookie of any other domain is one that the client keeps, as what it is told
is of the jar's domain. -/
theorem expire_keeps_slot_iff (jar : CookieJar) (cookie : Cookie)
    (stored : cookie ∈ jar.cookies.entries) :
    ∃ expired : Cookie,
      (jar.expire cookie.name cookie.path).get? cookie.name = some expired ∧
      expired.value = "" ∧ expired.maxAge = some 0 ∧
      expired.name = cookie.name ∧ expired.path = cookie.path ∧
      expired.domain = (if cookie.domain = none then none else jar.defaultDomain) ∧
      (expired.slot = cookie.slot ↔
        cookie.domain = none ∨ cookie.domain = jar.defaultDomain) ∧
      (jar.expire cookie.name cookie.path).cookies.entries =
        (jar.cookies.entries.map fun other =>
          if other.name = cookie.name then expired else other) ∧
      (jar.expire cookie.name cookie.path).defaultDomain = jar.defaultDomain := by
  have found : jar.get? (expiry cookie.name cookie.path).name = some cookie :=
    (KeyedList.find?_eq_some_iff _ _ _).mpr ⟨stored, rfl⟩
  have entries := entries_set_of_get? found
  have entry := get?_set_of_get? found
  have keptDomain := defaultDomain_apply jar (.set (expiry cookie.name cookie.path))
  rw [placed_expiry] at entries entry
  by_cases undomained : cookie.domain = none
  · rw [if_pos undomained] at entries entry
    refine ⟨_, entry, rfl, rfl, rfl, rfl, ?_, ?_, entries, keptDomain⟩
    · rw [if_pos undomained]
      exact undomained
    · exact iff_of_true rfl (.inl undomained)
  · rw [if_neg undomained] at entries entry
    refine ⟨_, entry, rfl, rfl, rfl, rfl, ?_, ?_, entries, keptDomain⟩
    · rw [if_neg undomained]
    · rw [or_iff_right undomained]
      constructor
      · intro same
        exact (congrArg (·.2.2) same).symm
      · intro same
        exact congrArg (fun domain => (cookie.name, cookie.path, domain)) same.symm

/-- A cookie of one shop among those of a site. -/
def session : Cookie where
  name := "sid"
  value := "1"
  domain := some "shop.example.com"
  httpOnly := true

/-- A cookie of the whole site. -/
def theme : Cookie where
  name := "theme"
  value := "dark"
  domain := some ".example.com"
  secure := true

/-- A cookie of the host that sends it. -/
def seen : Cookie where
  name := "seen"
  value := "yes"
  path := "/news"

def siteJar : CookieJar where
  cookies := KeyedList.empty.putAll [session, theme, seen]
  defaultDomain := some ".example.com"

/-- The client keeps the session that was to expire, and gives up the other two. -/
theorem expire_keeps_slot_iff_siteJar :
    (∃ expired, (siteJar.expire "sid" "/").get? "sid" = some expired ∧
      expired.slot ≠ session.slot) ∧
    (∃ expired, (siteJar.expire "theme" "/").get? "theme" = some expired ∧
      expired.slot = theme.slot) ∧
    ∃ expired, (siteJar.expire "seen" "/news").get? "seen" = some expired ∧
      expired.slot = seen.slot := by
  refine ⟨?_, ?_, ?_⟩
  · rcases expire_keeps_slot_iff siteJar session (by decide +kernel)
      with ⟨expired, found, _, _, _, _, _, slot, _⟩
    refine ⟨expired, found, fun same => ?_⟩
    rcases slot.mp same with undomained | shared
    · cases undomained
    · exact absurd shared (by decide +kernel)
  · rcases expire_keeps_slot_iff siteJar theme (by decide +kernel)
      with ⟨expired, found, _, _, _, _, _, slot, _⟩
    exact ⟨expired, found, slot.mpr (.inr rfl)⟩
  · rcases expire_keeps_slot_iff siteJar seen (by decide +kernel)
      with ⟨expired, found, _, _, _, _, _, slot, _⟩
    exact ⟨expired, found, slot.mpr (.inl rfl)⟩

/-- A cookie that expires can be replaced by one in another slot. -/
theorem not_all_expired_cookies_keep_slot :
    ¬∀ (jar : CookieJar) (cookie : Cookie), cookie ∈ jar.cookies.entries →
      ∃ expired, (jar.expire cookie.name cookie.path).get? cookie.name = some expired ∧
        expired.value = "" ∧ expired.maxAge = some 0 ∧ expired.slot = cookie.slot ∧
        ∀ name, name ≠ cookie.name →
          (jar.expire cookie.name cookie.path).get? name = jar.get? name := by
  intro all
  rcases all (ofList [session]) session (by decide +kernel) with ⟨expired, found, _, _, slot, _⟩
  have told : ((ofList [session]).expire "sid" "/").get? "sid" =
      some { name := "sid", value := "", maxAge := some 0 } := by decide +kernel
  cases told.symm.trans found
  cases slot

end CookieJar

end HttpExchange
