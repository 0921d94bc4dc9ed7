import HttpExchange.CookieJar.Operation
import Mathlib.Data.List.Induction

/-! Cookies of a jar after any run of operations. Which cookies there are, what they hold and
which slot they are in follow from the changes of the run alone. -/

namespace HttpExchange.CookieJar

/-! ## Changes -/

/-- What an operation does to the cookies of a jar. Letting a cookie expire is setting it. -/
inductive Change
  | set (request : CookieRequest)
  | insert (cookie : Cookie)
  | mark (name : String) (kept : Bool)
deriving DecidableEq

namespace Change

/-- The name of the cookie that the change sets or inserts. -/
def written? : Change → Option String
  | .set request => some request.name
  | .insert cookie => some cookie.name
  | .mark _ _ => none

/-- What the change says about sending the cookie of this name on errors. -/
def mark? (name : String) : Change → Option Bool
  | .set _ => none
  | .insert _ => none
  | .mark other kept => if other = name then some kept else none

/-- The value, lifetime, `Secure` and path of the cookie are those of the change. -/
def Gives (cookie : Cookie) : Change → Prop
  | .set request => cookie.value = request.value ∧ cookie.maxAge = request.maxAge ∧
      cookie.secure = request.secure ∧ cookie.path = request.path
  | .insert given => cookie.value = given.value ∧ cookie.maxAge = given.maxAge ∧
      cookie.secure = given.secure ∧ cookie.path = given.path
  | .mark _ _ => False

/-- The change leaves a cookie of this name in its slot: what is set under the name has the path
of the slot, and its domain as asked for. -/
def Stays (stored : Cookie) : Change → Prop
  | .set request => request.name = stored.name →
      stored.path = request.path ∧ stored.domain = request.domain
  | .insert cookie => cookie.name ≠ stored.name
  | .mark _ _ => True

/-- The change opens a slot under the name, in which `opened` is then. -/
inductive Opens (jar : CookieJar) (name : String) : (change : Change) → (opened : Cookie) → Prop
  | set (request : CookieRequest) (named : request.name = name)
      (elsewhere : ∀ stored, jar.get? name = some stored →
        ¬(stored.path = request.path ∧ stored.domain = request.domain)) :
      Opens jar name (.set request)
        { name, value := request.value, domain := request.domain.or jar.defaultDomain,
          path := request.path, maxAge := request.maxAge, secure := request.secure,
          httpOnly := request.httpOnly, sendOnError := false }
  | insert (cookie : Cookie) (named : cookie.name = name) : Opens jar name (.insert cookie) cookie

/-- A cookie that stays in its slot, after the change. -/
def renewed (stored : Cookie) : Change → Cookie
  | .set request => if request.name = stored.name then request.renew stored else stored
  | .insert _ => stored
  | .mark name kept =>
      if name = stored.name then { stored with sendOnError := kept } else stored

end Change

def Operation.change? : Operation → Option Change
  | .set request => some (.set request)
  | .insert cookie => some (.insert cookie)
  | .expire name path => some (.set { name, value := "", path, maxAge := some 0 })
  | .setSendOnError name kept => some (.mark name kept)
  | _ => none

def apply (jar : CookieJar) : Change → CookieJar
  | .set request => jar.set request
  | .insert cookie => jar.insert cookie
  | .mark name kept => jar.setSendOnError name kept

/-- The jar that changes leave, made in order from a jar without cookies. -/
def ofChanges (defaultDomain : Option String) (changes : List Change) : CookieJar :=
  changes.foldl apply (withDefaultDomain defaultDomain)

theorem ofChanges_append_singleton (defaultDomain : Option String) (changes : List Change)
    (change : Change) :
    ofChanges defaultDomain (changes ++ [change]) =
      (ofChanges defaultDomain changes).apply change := by
  rw [ofChanges, List.foldl_append]
  rfl

theorem performAll_eq_foldl_apply (jar : CookieJar) {operations : List Operation}
    (collectsNothing : ∀ cookies, .collect cookies ∉ operations) :
    jar.performAll operations = (operations.filterMap Operation.change?).foldl apply jar := by
  induction operations generalizing jar with
  | nil => rfl
  | cons operation operations induction =>
      have rest : ∀ cookies, .collect cookies ∉ operations := fun cookies member =>
        collectsNothing cookies (List.mem_cons_of_mem _ member)
      cases operation with
      | collect cookies => exact absurd List.mem_cons_self (collectsNothing cookies)
      | _ => exact induction _ rest

/-! ## Single changes -/

section SingleChanges

variable {jar : CookieJar} {request : CookieRequest}

theorem name_of_get? {name : String} {cookie : Cookie} (found : jar.get? name = some cookie) :
    cookie.name = name :=
  ((KeyedList.find?_eq_some_iff _ _ _).mp found).2

theorem continues_iff {stored : Cookie} :
    request.continues stored = true ↔
      stored.path = request.path ∧ stored.domain = request.domain := by
  simp [CookieRequest.continues]

theorem set_of_continues {stored : Cookie} (found : jar.get? request.name = some stored)
    (same : stored.path = request.path ∧ stored.domain = request.domain) :
    jar.set request =
      { jar with
        cookies := jar.cookies.update request.name request.renew request.name_renew } := by
  rw [set, found]
  exact if_pos (continues_iff.mpr same)

theorem set_of_opens
    (elsewhere : ∀ stored, jar.get? request.name = some stored →
      ¬(stored.path = request.path ∧ stored.domain = request.domain)) :
    jar.set request = jar.insert (request.opening jar.defaultDomain) := by
  rw [set]
  cases found : jar.get? request.name with
  | none => rfl
  | some stored => exact if_neg fun same => elsewhere stored found (continues_iff.mp same)

theorem get?_insert (jar : CookieJar) (cookie : Cookie) (name : String) :
    (jar.insert cookie).get? name = if cookie.name = name then some cookie else jar.get? name :=
  KeyedList.find?_put jar.cookies cookie name

theorem get?_setSendOnError (jar : CookieJar) (marked name : String) (kept : Bool) :
    (jar.setSendOnError marked kept).get? name =
      if marked = name then (jar.get? name).map ({ · with sendOnError := kept })
      else jar.get? name :=
  KeyedList.find?_update jar.cookies marked name ({ · with sendOnError := kept }) fun _ => rfl

theorem get?_set_of_continues {stored : Cookie} (found : jar.get? request.name = some stored)
    (same : stored.path = request.path ∧ stored.domain = request.domain) :
    (jar.set request).get? request.name = some (request.renew stored) := by
  rw [set_of_continues found same, get?, KeyedList.find?_update, if_pos rfl]
  exact congrArg (Option.map request.renew) found

theorem get?_set_of_opens
    (elsewhere : ∀ stored, jar.get? request.name = some stored →
      ¬(stored.path = request.path ∧ stored.domain = request.domain)) :
    (jar.set request).get? request.name = some (request.opening jar.defaultDomain) := by
  rw [set_of_opens elsewhere, get?_insert]
  exact if_pos rfl

/-- Setting a cookie either continues the slot in the jar or opens one. -/
theorem set_cases (jar : CookieJar) (request : CookieRequest) :
    (∃ stored, jar.get? request.name = some stored ∧
      stored.path = request.path ∧ stored.domain = request.domain) ∨
    ∀ stored, jar.get? request.name = some stored →
      ¬(stored.path = request.path ∧ stored.domain = request.domain) := by
  by_cases continuing : ∃ stored, jar.get? request.name = some stored ∧
      stored.path = request.path ∧ stored.domain = request.domain
  · exact .inl continuing
  · exact .inr fun stored found same => continuing ⟨stored, found, same⟩

theorem get?_set_of_other {name : String} (other : request.name ≠ name) :
    (jar.set request).get? name = jar.get? name := by
  rcases set_cases jar request with ⟨stored, found, same⟩ | elsewhere
  · rw [set_of_continues found same, get?, KeyedList.find?_update, if_neg other]
    rfl
  · rw [set_of_opens elsewhere, get?_insert]
    exact if_neg other

theorem keys_set (jar : CookieJar) (request : CookieRequest) :
    (jar.set request).cookies.keys =
      if request.name ∈ jar.cookies.keys then jar.cookies.keys
      else jar.cookies.keys ++ [request.name] := by
  rcases set_cases jar request with ⟨stored, found, same⟩ | elsewhere
  · have present : request.name ∈ jar.cookies.keys :=
      (KeyedList.mem_keys_iff _ _).mpr ⟨stored, found⟩
    rw [set_of_continues found same, KeyedList.keys_update, if_pos present]
  · rw [set_of_opens elsewhere]
    exact KeyedList.keys_put _ _

theorem keys_apply_of_written {change : Change} {name : String}
    (written : change.written? = some name) :
    (jar.apply change).cookies.keys =
      if name ∈ jar.cookies.keys then jar.cookies.keys else jar.cookies.keys ++ [name] := by
  cases change with
  | set request =>
      cases written
      exact keys_set jar request
  | insert cookie =>
      cases written
      exact KeyedList.keys_put _ _
  | mark name kept => cases written

theorem keys_apply_of_not_written {change : Change} (written : change.written? = none) :
    (jar.apply change).cookies.keys = jar.cookies.keys := by
  cases change with
  | set request => cases written
  | insert cookie => cases written
  | mark name kept =>
      exact KeyedList.keys_update jar.cookies name ({ · with sendOnError := kept }) fun _ => rfl

theorem defaultDomain_apply (jar : CookieJar) (change : Change) :
    (jar.apply change).defaultDomain = jar.defaultDomain := by
  cases change with
  | set request =>
      rcases set_cases jar request with ⟨stored, found, same⟩ | elsewhere
      · rw [apply, set_of_continues found same]
      · rw [apply, set_of_opens elsewhere]
        rfl
  | insert cookie => rfl
  | mark name kept => rfl

/-- A change that does not name a cookie leaves it as it is. -/
theorem get?_apply_of_other {change : Change} {name : String}
    (notWritten : change.written? ≠ some name) (notMarked : change.mark? name = none) :
    (jar.apply change).get? name = jar.get? name := by
  cases change with
  | set request => exact get?_set_of_other fun same => notWritten (congrArg some same)
  | insert cookie =>
      rw [apply, get?_insert, if_neg fun same => notWritten (congrArg some same)]
  | mark marked kept =>
      have other : marked ≠ name := by
        intro same
        simp [Change.mark?, same] at notMarked
      rw [apply, get?_setSendOnError, if_neg other]

/-- What there is under a name after a change was put in a slot by it, or has stayed in the one
that it had. -/
theorem opens_or_stays {change : Change} {name : String} {cookie : Cookie}
    (found : (jar.apply change).get? name = some cookie) :
    Change.Opens jar name change cookie ∨
      ∃ stored, jar.get? name = some stored ∧ change.Stays stored ∧
        cookie = change.renewed stored := by
  cases change with
  | set request =>
      by_cases named : request.name = name
      · subst named
        rcases set_cases jar request with ⟨stored, foundStored, same⟩ | elsewhere
        · right
          refine ⟨stored, foundStored, fun _ => same, ?_⟩
          rw [apply, get?_set_of_continues foundStored same] at found
          rw [Change.renewed, if_pos (name_of_get? foundStored).symm]
          exact (Option.some.inj found).symm
        · left
          rw [apply, get?_set_of_opens elsewhere] at found
          cases found
          exact .set request rfl elsewhere
      · right
        rw [apply, get?_set_of_other named] at found
        have other : request.name ≠ cookie.name := name_of_get? found ▸ named
        exact ⟨cookie, found, fun same => absurd same other, (if_neg other).symm⟩
  | insert given =>
      rw [apply, get?_insert] at found
      by_cases named : given.name = name
      · rw [if_pos named] at found
        have same := Option.some.inj found
        subst same
        exact .inl (.insert given named)
      · rw [if_neg named] at found
        have other : given.name ≠ cookie.name := name_of_get? found ▸ named
        exact .inr ⟨cookie, found, other, rfl⟩
  | mark marked kept =>
      rw [apply, get?_setSendOnError] at found
      by_cases named : marked = name
      · rw [if_pos named, Option.map_eq_some_iff] at found
        rcases found with ⟨stored, foundStored, rfl⟩
        have own : marked = stored.name := named.trans (name_of_get? foundStored).symm
        exact .inr ⟨stored, foundStored, trivial, (if_pos own).symm⟩
      · rw [if_neg named] at found
        have other : marked ≠ cookie.name := name_of_get? found ▸ named
        exact .inr ⟨cookie, found, trivial, (if_neg other).symm⟩

end SingleChanges

/-! ## Runs -/

theorem defaultDomain_ofChanges (defaultDomain : Option String) (changes : List Change) :
    (ofChanges defaultDomain changes).defaultDomain = defaultDomain := by
  induction changes using List.reverseRecOn with
  | nil => rfl
  | append_singleton changes change induction =>
      rw [ofChanges_append_singleton, defaultDomain_apply, induction]

theorem eraseDups_append_singleton (names : List String) (name : String) :
    (names ++ [name]).eraseDups =
      if name ∈ names then names.eraseDups else names.eraseDups ++ [name] := by
  rw [List.eraseDups_append]
  by_cases present : name ∈ names <;> simp [List.removeAll, List.eraseDups_cons, present]

/-- The cookies stand in the order in which their names were first used. -/
theorem keys_ofChanges (defaultDomain : Option String) (changes : List Change) :
    (ofChanges defaultDomain changes).cookies.keys =
      (changes.filterMap Change.written?).eraseDups := by
  induction changes using List.reverseRecOn with
  | nil => rfl
  | append_singleton changes change induction =>
      rw [ofChanges_append_singleton, List.filterMap_append]
      cases written : change.written? with
      | none =>
          rw [keys_apply_of_not_written written, induction]
          simp [written]
      | some name =>
          rw [keys_apply_of_written written, induction]
          simp [written, eraseDups_append_singleton]

namespace Change

variable {jar : CookieJar} {change : Change} {stored opened : Cookie}

theorem Opens.written {name : String} (opens : Opens jar name change opened) :
    change.written? = some name := by
  cases opens with
  | set request named => exact congrArg some named
  | insert cookie named => exact congrArg some named

theorem Opens.gives {name : String} (opens : Opens jar name change opened) :
    change.Gives opened := by
  cases opens <;> exact ⟨rfl, rfl, rfl, rfl⟩

theorem Opens.name_eq {name : String} (opens : Opens jar name change opened) :
    opened.name = name := by
  cases opens with
  | set => rfl
  | insert cookie named => exact named

/-- A change moves no cookie that stays in its slot: path, domain and `HttpOnly` are kept. -/
theorem slot_renewed (change : Change) (stored : Cookie) :
    (change.renewed stored).name = stored.name ∧ (change.renewed stored).path = stored.path ∧
      (change.renewed stored).domain = stored.domain ∧
      (change.renewed stored).httpOnly = stored.httpOnly := by
  cases change with
  | set request =>
      rw [renewed]
      split <;> exact ⟨rfl, rfl, rfl, rfl⟩
  | insert cookie => exact ⟨rfl, rfl, rfl, rfl⟩
  | mark name kept =>
      rw [renewed]
      split <;> exact ⟨rfl, rfl, rfl, rfl⟩

theorem sendOnError_renewed (change : Change) (stored : Cookie) :
    (change.renewed stored).sendOnError =
      (change.mark? stored.name).getD stored.sendOnError := by
  cases change with
  | set request =>
      rw [renewed]
      split <;> rfl
  | insert cookie => rfl
  | mark name kept =>
      rw [renewed, mark?]
      split <;> rfl

theorem Stays.of_slot (stays : change.Stays stored) (name : stored.name = opened.name)
    (path : stored.path = opened.path) (domain : stored.domain = opened.domain) :
    change.Stays opened := by
  cases change with
  | set request =>
      intro named
      rw [← path, ← domain]
      exact stays (named.trans name.symm)
  | insert cookie =>
      intro same
      exact stays (same.trans name.symm)
  | mark name kept => trivial

theorem Stays.gives_renewed (stays : change.Stays stored)
    (written : change.written? = some stored.name) : change.Gives (change.renewed stored) := by
  cases change with
  | set request =>
      have named : request.name = stored.name := Option.some.inj written
      rw [renewed, if_pos named]
      exact ⟨rfl, rfl, rfl, (stays named).1⟩
  | insert cookie => exact absurd (Option.some.inj written) stays
  | mark name kept => cases written

theorem Gives.renewed {write : Change} (gives : write.Gives stored)
    (other : change.written? ≠ some stored.name) : write.Gives (change.renewed stored) := by
  cases change with
  | set request =>
      have apart : request.name ≠ stored.name := fun same => other (congrArg some same)
      rw [Change.renewed, if_neg apart]
      exact gives
  | insert cookie => exact gives
  | mark name kept =>
      rw [Change.renewed]
      split
      · cases write <;> exact gives
      · exact gives

end Change

/-- Value, lifetime, `Secure` and path of a cookie are those of the last change that has set or
inserted it. -/
theorem exists_last_write {defaultDomain : Option String} {changes : List Change} {name : String}
    {cookie : Cookie} (found : (ofChanges defaultDomain changes).get? name = some cookie) :
    ∃ write, (changes.filter (·.written? = some name)).getLast? = some write ∧
      write.Gives cookie := by
  induction changes using List.reverseRecOn generalizing cookie with
  | nil => cases found
  | append_singleton changes change induction =>
      rw [ofChanges_append_singleton] at found
      rw [List.filter_append, List.getLast?_append]
      rcases opens_or_stays found with opens | ⟨stored, foundStored, stays, rfl⟩
      · exact ⟨change, by simp [opens.written], opens.gives⟩
      · have named := name_of_get? foundStored
        by_cases written : change.written? = some name
        · exact ⟨change, by simp [written], stays.gives_renewed (named ▸ written)⟩
        · rcases induction foundStored with ⟨write, last, gives⟩
          exact ⟨write, by simp [written, last], gives.renewed (named ▸ written)⟩

/-- A cookie in the slot that a change to the jar has opened and that all later changes have left
it in. The last of these that marked it, if any, says whether errors keep it. -/
structure InSlot (jar : CookieJar) (opening : Change) (later : List Change)
    (opened cookie : Cookie) : Prop where
  opens : Change.Opens jar cookie.name opening opened
  stays : ∀ change ∈ later, change.Stays opened
  path : cookie.path = opened.path
  domain : cookie.domain = opened.domain
  httpOnly : cookie.httpOnly = opened.httpOnly
  sendOnError : cookie.sendOnError =
    (later.filterMap (Change.mark? cookie.name)).getLast?.getD opened.sendOnError

theorem InSlot.append_singleton {jar : CookieJar} {opening : Change} {later : List Change}
    {opened cookie : Cookie} (inSlot : InSlot jar opening later opened cookie) {change : Change}
    (stays : change.Stays cookie) :
    InSlot jar opening (later ++ [change]) opened (change.renewed cookie) := by
  rcases change.slot_renewed cookie with ⟨name, path, domain, httpOnly⟩
  refine ⟨name ▸ inSlot.opens, ?_, path.trans inSlot.path, domain.trans inSlot.domain,
    httpOnly.trans inSlot.httpOnly, ?_⟩
  · intro next member
    rcases List.mem_append.mp member with member | member
    · exact inSlot.stays next member
    · rw [List.mem_singleton.mp member]
      exact stays.of_slot inSlot.opens.name_eq.symm inSlot.path inSlot.domain
  · rw [Change.sendOnError_renewed, name, List.filterMap_append, List.getLast?_append,
      inSlot.sendOnError]
    cases marked : change.mark? cookie.name <;> simp [marked]

theorem exists_inSlot {defaultDomain : Option String} {changes : List Change} {name : String}
    {cookie : Cookie} (found : (ofChanges defaultDomain changes).get? name = some cookie) :
    ∃ earlier opening later opened, changes = earlier ++ opening :: later ∧
      InSlot (ofChanges defaultDomain earlier) opening later opened cookie := by
  induction changes using List.reverseRecOn generalizing cookie with
  | nil => cases found
  | append_singleton changes change induction =>
      rw [ofChanges_append_singleton] at found
      have named := name_of_get? found
      rcases opens_or_stays found with opens | ⟨stored, foundStored, stays, rfl⟩
      · refine ⟨changes, change, [], cookie, rfl, ?_⟩
        exact ⟨named ▸ opens, by simp, rfl, rfl, rfl, rfl⟩
      · rcases induction foundStored with ⟨earlier, opening, later, opened, rfl, inSlot⟩
        exact ⟨earlier, opening, later ++ [change], opened, by simp,
          inSlot.append_singleton stays⟩

/-! ## The slot rule -/

/-- A jar with a default domain has a cookie without a domain only if one was inserted. -/
theorem domain_ne_none {defaultDomain : Option String} (shared : defaultDomain ≠ none)
    {changes : List Change} {name : String}
    (domained : ∀ cookie, .insert cookie ∈ changes → cookie.name = name → cookie.domain ≠ none)
    {stored : Cookie} (found : (ofChanges defaultDomain changes).get? name = some stored) :
    stored.domain ≠ none := by
  rcases exists_inSlot found with ⟨earlier, opening, later, opened, rfl, inSlot⟩
  have named := name_of_get? found
  rw [inSlot.domain]
  cases inSlot.opens with
  | set request _ _ =>
      rw [defaultDomain_ofChanges]
      intro absent
      exact shared (Option.or_eq_none_iff.mp absent).2
  | insert cookie own => exact domained opened (by simp) (own.trans named)

theorem exists_get?_set_of_undomained {jar : CookieJar} (unshared : jar.defaultDomain = none)
    {request : CookieRequest} (undomained : request.domain = none) :
    ∃ stored, (jar.set request).get? request.name = some stored ∧
      stored.path = request.path ∧ stored.domain = none := by
  rcases set_cases jar request with ⟨stored, found, path, domain⟩ | elsewhere
  · exact ⟨_, get?_set_of_continues found ⟨path, domain⟩, path, domain.trans undomained⟩
  · refine ⟨_, get?_set_of_opens elsewhere, rfl, ?_⟩
    rw [CookieRequest.opening, undomained, unshared]
    rfl

/-- A jar that is what these changes, made in order to a jar without cookies, have left, and that
goes on in the same way. -/
structure FollowsSlotRule (jar : CookieJar) (defaultDomain : Option String)
    (changes : List Change) : Prop where
  domain : jar.defaultDomain = defaultDomain
  /-- There is one cookie for each name, and the names stand in the order of their first use. -/
  names : jar.cookies.keys = (changes.filterMap Change.written?).eraseDups
  distinct : jar.cookies.keys.Nodup
  name : ∀ name cookie, jar.get? name = some cookie → cookie.name = name
  lastWrite : ∀ name cookie, jar.get? name = some cookie →
    ∃ write, (changes.filter (·.written? = some name)).getLast? = some write ∧
      write.Gives cookie
  slot : ∀ name cookie, jar.get? name = some cookie →
    ∃ earlier opening later opened, changes = earlier ++ opening :: later ∧
      InSlot (ofChanges defaultDomain earlier) opening later opened cookie
  continues : ∀ request stored, jar.get? request.name = some stored →
    stored.path = request.path ∧ stored.domain = request.domain →
    (jar.set request).get? request.name =
      some { stored with
        value := request.value, maxAge := request.maxAge, secure := request.secure }
  opens : ∀ request, (∀ stored, jar.get? request.name = some stored →
      ¬(stored.path = request.path ∧ stored.domain = request.domain)) →
    (jar.set request).get? request.name =
      some { name := request.name, value := request.value,
             domain := request.domain.or defaultDomain, path := request.path,
             maxAge := request.maxAge, secure := request.secure, httpOnly := request.httpOnly,
             sendOnError := false }
  inserts : ∀ cookie, (jar.insert cookie).get? cookie.name = some cookie
  marks : ∀ name kept, (jar.setSendOnError name kept).get? name =
    (jar.get? name).map fun cookie => { cookie with sendOnError := kept }
  others : ∀ change name, change.written? ≠ some name → change.mark? name = none →
    (jar.apply change).get? name = jar.get? name
  keepsDomain : ∀ change, (jar.apply change).defaultDomain = defaultDomain
  /-- With a default domain, setting a cookie without a domain opens a slot each time, unless a
  cookie without a domain was inserted. -/
  opensAnew : defaultDomain ≠ none → ∀ request, request.domain = none →
    (∀ cookie, .insert cookie ∈ changes → cookie.name = request.name → cookie.domain ≠ none) →
    (jar.set request).get? request.name = some (request.opening defaultDomain)
  /-- Without one, setting the cookie again at the same path continues its slot. -/
  continuesAgain : defaultDomain = none → ∀ first second : CookieRequest,
    second.name = first.name → second.path = first.path → first.domain = none →
    second.domain = none →
    ((jar.set first).set second).get? second.name =
      ((jar.set first).get? first.name).map second.renew

theorem followsSlotRule_ofChanges (defaultDomain : Option String) (changes : List Change) :
    (ofChanges defaultDomain changes).FollowsSlotRule defaultDomain changes where
  domain := defaultDomain_ofChanges defaultDomain changes
  names := keys_ofChanges defaultDomain changes
  distinct := (ofChanges defaultDomain changes).cookies.distinct
  name _ _ := name_of_get?
  lastWrite _ _ := exists_last_write
  slot _ _ := exists_inSlot
  continues _ _ := get?_set_of_continues
  opens := by
    intro request elsewhere
    rw [get?_set_of_opens elsewhere, defaultDomain_ofChanges]
    rfl
  inserts cookie := (get?_insert _ cookie cookie.name).trans (if_pos rfl)
  marks name kept := (get?_setSendOnError _ name name kept).trans (if_pos rfl)
  others _ _ := get?_apply_of_other
  keepsDomain change := by rw [defaultDomain_apply, defaultDomain_ofChanges]
  opensAnew := by
    intro shared request undomained domained
    rw [get?_set_of_opens, defaultDomain_ofChanges]
    intro stored found same
    exact domain_ne_none shared domained found (same.2.trans undomained)
  continuesAgain := by
    intro unshared first second name path firstUndomained secondUndomained
    have unsharedJar := (defaultDomain_ofChanges defaultDomain changes).trans unshared
    rcases exists_get?_set_of_undomained unsharedJar firstUndomained with
      ⟨stored, found, storedPath, storedDomain⟩
    rw [found]
    rw [← name] at found
    exact get?_set_of_continues found
      ⟨storedPath.trans path.symm, storedDomain.trans secondUndomained.symm⟩

/-- A run of operations on a jar without cookies, which collects none, follows the slot rule. -/
theorem performAll_followsSlotRule (defaultDomain : Option String) (operations : List Operation)
    (collectsNothing : ∀ cookies, .collect cookies ∉ operations) :
    ((withDefaultDomain defaultDomain).performAll operations).FollowsSlotRule defaultDomain
      (operations.filterMap Operation.change?) := by
  rw [performAll_eq_foldl_apply _ collectsNothing]
  exact followsSlotRule_ofChanges defaultDomain _

/-- A session that is continued by naming the shared domain, marked, and then opened anew by not
naming it, with another cookie in between. -/
def sharedSession : List Operation :=
  [.set { name := "sid", value := "1", httpOnly := true },
    .set { name := "theme", value := "dark", domain := some "shop.example.com" },
    .set { name := "sid", value := "2", domain := some ".example.com" },
    .setSendOnError "sid" true,
    .expire "theme" "/",
    .set { name := "sid", value := "3" }]

theorem performAll_followsSlotRule_sharedSession :
    (∀ cookies, .collect cookies ∉ sharedSession) ∧
    ∃ jar, (withDefaultDomain (some ".example.com")).performAll sharedSession = jar ∧
      jar.FollowsSlotRule (some ".example.com") (sharedSession.filterMap Operation.change?) ∧
      jar.cookies.keys = ["sid", "theme"] := by
  have collectsNothing : ∀ cookies, .collect cookies ∉ sharedSession := by simp [sharedSession]
  have rule := performAll_followsSlotRule (some ".example.com") sharedSession collectsNothing
  exact ⟨collectsNothing, _, rfl, rule, rule.names.trans (by decide)⟩

end HttpExchange.CookieJar
