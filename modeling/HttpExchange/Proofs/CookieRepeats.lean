import HttpExchange.Proofs.CookieExpiry

/-! Doing the same to a jar twice in a row. What the first time leaves is what the second time would
leave, though the second time can take another way to it: a slot that was opened is renewed, or one
that took the jar's domain is opened again. -/

namespace HttpExchange

/-- The cookie that setting one leaves under its name, where `found` was there before. -/
def CookieRequest.settled (request : CookieRequest) (found : Option Cookie)
    (defaultDomain : Option String) : Cookie :=
  match found with
  | some stored => request.placed stored defaultDomain
  | none => request.opening defaultDomain

namespace CookieRequest

variable (request : CookieRequest) (defaultDomain : Option String)

theorem renew_renew (stored : Cookie) :
    request.renew (request.renew stored) = request.renew stored := rfl

/-- A slot that was opened is renewed to what it is, or is opened once more. -/
theorem placed_opening :
    request.placed (request.opening defaultDomain) defaultDomain =
      request.opening defaultDomain := by
  rw [placed]
  split <;> rfl

theorem placed_placed (stored : Cookie) :
    request.placed (request.placed stored defaultDomain) defaultDomain =
      request.placed stored defaultDomain := by
  by_cases continuing : request.continues stored = true
  · -- Renewing keeps path and domain, so the second time renews as well.
    have again : request.continues (request.renew stored) = true := continuing
    rw [placed, placed, if_pos continuing, if_pos again, renew_renew]
  · have opened : request.placed stored defaultDomain = request.opening defaultDomain :=
      if_neg continuing
    rw [opened, placed_opening]

theorem settled_settled (found : Option Cookie) :
    request.settled (some (request.settled found defaultDomain)) defaultDomain =
      request.settled found defaultDomain := by
  cases found with
  | none => exact request.placed_opening defaultDomain
  | some stored => exact request.placed_placed defaultDomain stored

theorem gives_settled (found : Option Cookie) :
    (CookieJar.Change.set request).Gives (request.settled found defaultDomain) := by
  cases found with
  | none => exact ⟨rfl, rfl, rfl, rfl⟩
  | some stored =>
      by_cases continuing : request.continues stored = true
      · have renewed : request.settled (some stored) defaultDomain = request.renew stored :=
          if_pos continuing
        rw [renewed]
        exact ⟨rfl, rfl, rfl, (CookieJar.continues_iff.mp continuing).1⟩
      · have opened : request.settled (some stored) defaultDomain =
            request.opening defaultDomain := if_neg continuing
        rw [opened]
        exact ⟨rfl, rfl, rfl, rfl⟩

end CookieRequest

namespace CookieJar

/-! ## Single cookies -/

section Setting

variable (jar : CookieJar) (request : CookieRequest)

/-- Setting a cookie changes what is found under its name, and under no other. -/
theorem get?_set (name : String) :
    (jar.set request).get? name =
      if request.name = name then
        some (request.settled (jar.get? request.name) jar.defaultDomain)
      else jar.get? name := by
  by_cases named : request.name = name
  · subst named
    rw [if_pos rfl]
    cases found : jar.get? request.name with
    | none => exact get?_set_of_opens fun stored present => nomatch found.symm.trans present
    | some stored => exact get?_set_of_get? found
  · rw [if_neg named, get?_set_of_other named]

theorem mem_keys_set : request.name ∈ (jar.set request).cookies.keys :=
  (KeyedList.mem_keys_iff _ _).mpr ⟨_, (jar.get?_set request request.name).trans (if_pos rfl)⟩

theorem defaultDomain_set : (jar.set request).defaultDomain = jar.defaultDomain :=
  defaultDomain_apply jar (.set request)

theorem set_set : (jar.set request).set request = jar.set request := by
  have cookies : ((jar.set request).set request).cookies = (jar.set request).cookies := by
    apply KeyedList.ext_find?
    · rw [keys_set, if_pos (jar.mem_keys_set request)]
    · intro name
      have first := jar.get?_set request
      have second := (jar.set request).get?_set request name
      rw [defaultDomain_set, first request.name, if_pos rfl, CookieRequest.settled_settled,
        first name] at second
      refine second.trans (Eq.trans ?_ (first name).symm)
      split <;> rfl
  exact congrArg₂ mk cookies (defaultDomain_set (jar.set request) request)

theorem expire_expire (name path : String) :
    (jar.expire name path).expire name path = jar.expire name path :=
  jar.set_set (expiry name path)

end Setting

/-! ## Operations and runs -/

theorem perform_perform (jar : CookieJar) (operation : Operation) :
    ((jar.perform operation).1.perform operation).1 = (jar.perform operation).1 := by
  cases operation with
  | set request => exact jar.set_set request
  | insert cookie => exact congrArg (mk · jar.defaultDomain) (jar.cookies.put_put cookie)
  | expire name path => exact jar.expire_expire name path
  | setSendOnError name kept =>
      have marked := jar.cookies.update_update name ({ · with sendOnError := kept }) (fun _ => rfl)
        fun _ => rfl
      exact congrArg (mk · jar.defaultDomain) marked
  | collect cookies => rfl
  | get name => rfl
  | contains name => rfl
  | size => rfl
  | defaultDomain => rfl

theorem performAll_append (jar : CookieJar) (earlier later : List Operation) :
    jar.performAll (earlier ++ later) = (jar.performAll earlier).performAll later :=
  List.foldl_append

/-- Setting a cookie twice leaves the jar that setting it once leaves, with the same cookies in
every respect, in the same order and under the same default domain, and so does letting one expire;
and the cookie that is there is the one that was asked for. So an operation that is repeated at once
can be left out of any run. -/
theorem repeating_changes_nothing (jar : CookieJar) :
    (∀ request : CookieRequest, (jar.set request).set request = jar.set request ∧
      ∃ cookie, ((jar.set request).set request).get? request.name = some cookie ∧
        (Change.set request).Gives cookie) ∧
    (∀ name path, (jar.expire name path).expire name path = jar.expire name path ∧
      ∃ cookie, ((jar.expire name path).expire name path).get? name = some cookie ∧
        cookie.value = "" ∧ cookie.maxAge = some 0 ∧ cookie.path = path) ∧
    ∀ earlier operation later,
      jar.performAll (earlier ++ operation :: operation :: later) =
        jar.performAll (earlier ++ operation :: later) := by
  have settled : ∀ request : CookieRequest,
      ∃ cookie, ((jar.set request).set request).get? request.name = some cookie ∧
        (Change.set request).Gives cookie := by
    intro request
    rw [set_set, get?_set, if_pos rfl]
    exact ⟨_, rfl, request.gives_settled _ _⟩
  refine ⟨fun request => ⟨jar.set_set request, settled request⟩, fun name path => ?_,
    fun earlier operation later => ?_⟩
  · rcases settled (expiry name path) with
      ⟨cookie, found, value, maxAge, _, samePath⟩
    exact ⟨jar.expire_expire name path, cookie, found, value, maxAge, samePath⟩
  · rw [performAll_append, performAll_append]
    generalize jar.performAll earlier = reached
    calc
      reached.performAll (operation :: operation :: later)
        = ((reached.perform operation).1.perform operation).1.performAll later := rfl
      _ = (reached.perform operation).1.performAll later := by rw [perform_perform]
      _ = reached.performAll (operation :: later) := rfl

/-- A jar with a shared domain, and a marked session in it. -/
def sharedJar : CookieJar :=
  (withDefaultDomain (some ".example.com")).performAll
    [.set { name := "sid", value := "0", domain := some ".example.com", secure := true },
      .setSendOnError "sid" true]

/-- A session for whatever domain the jar has. -/
def freshSession : CookieRequest where
  name := "sid"
  value := "1"
  httpOnly := true

def openedSession : Cookie where
  name := "sid"
  value := "1"
  domain := some ".example.com"
  httpOnly := true

/-- A theme for the domain that is shared. -/
def sharedTheme : CookieRequest where
  name := "theme"
  value := "dark"
  domain := some ".example.com"

def openedTheme : Cookie where
  name := "theme"
  value := "dark"
  domain := some ".example.com"

/-- The session is opened both times, since it takes the jar's domain without naming it, and loses
`Secure` and its mark; the theme is opened the first time and renewed the second. -/
theorem repeating_changes_nothing_sharedJar :
    ((sharedJar.set freshSession).get? "sid" = some openedSession ∧
      freshSession.continues openedSession = false ∧
      ((sharedJar.set freshSession).set freshSession).get? "sid" = some openedSession) ∧
    (sharedJar.get? "theme" = none ∧
      (sharedJar.set sharedTheme).get? "theme" = some openedTheme ∧
      sharedTheme.continues openedTheme = true ∧
      ((sharedJar.set sharedTheme).set sharedTheme).get? "theme" = some openedTheme) ∧
    ((sharedJar.expire "sid" "/").expire "sid" "/").cookies.keys = ["sid"] := by
  have repeating := repeating_changes_nothing sharedJar
  have session := (repeating.1 freshSession).1
  have theme := (repeating.1 sharedTheme).1
  have expired := (repeating.2.1 "sid" "/").1
  have openedFirst : (sharedJar.set freshSession).get? "sid" = some openedSession := by
    decide +kernel
  have themeFirst : (sharedJar.set sharedTheme).get? "theme" = some openedTheme := by
    decide +kernel
  rw [session, theme, expired]
  exact ⟨⟨openedFirst, rfl, openedFirst⟩, ⟨by decide +kernel, themeFirst, rfl, themeFirst⟩,
    by decide +kernel⟩

end CookieJar

end HttpExchange
