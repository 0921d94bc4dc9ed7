import HttpExchange.Proofs.CookieRepeats
import HttpExchange.Proofs.FailedCalls

/-! Two uses of a duration: for how long clients may keep a response, and for how long they keep a
cookie. The first is a header, which holds any number of seconds that a duration stands for. The
second is a signed number, which ends at half of that, and a longer duration is as long as it can
be: no number of seconds turns into one below zero, with which the cookie would be gone at once. -/

namespace HttpExchange

/-! ## Durations and what they stand for -/

namespace Duration

/-- White space around it aside, the text is made of groups that add up to these seconds, and the
seconds fit. -/
def StandsFor (text : String) (seconds : Nat) : Prop :=
  seconds ≤ Nat.pow 2 64 - 1 ∧
    ∃ groups, IsMadeOf (Text.trim text.toList) groups ∧ totalSeconds groups = seconds

variable {text : String} {seconds : Nat}

theorem standsFor_iff :
    StandsFor text seconds ↔ ∃ fitting, parse text = .ok fitting ∧ fitting.toNat = seconds := by
  constructor
  · intro stands
    rcases stands with ⟨small, groups, made, sum⟩
    have bounded : seconds ≤ (UInt64.ofNat (Nat.pow 2 64 - 1)).toNat := small
    rcases exists_toNat_eq bounded with ⟨fitting, same⟩
    exact ⟨fitting, (parse_eq_ok_iff text fitting).mpr ⟨groups, made, sum.trans same⟩, same.symm⟩
  · intro holds
    rcases holds with ⟨fitting, parsed, rfl⟩
    exact ⟨Nat.le_of_lt_succ fitting.toNat_lt, (parse_eq_ok_iff text fitting).mp parsed⟩

theorem accepts_iff : Accepts text ↔ ∃ seconds, StandsFor text seconds := by
  constructor
  · intro accepted
    rcases accepted with ⟨fitting, parsed⟩
    exact ⟨fitting.toNat, standsFor_iff.mpr ⟨fitting, parsed, rfl⟩⟩
  · intro stands
    rcases stands with ⟨seconds, stands⟩
    rcases standsFor_iff.mp stands with ⟨fitting, parsed, _⟩
    exact ⟨fitting, parsed⟩

end Duration

/-! ## Lifetimes of cookies -/

/-- The most seconds that a cookie can be given to live. -/
def longestLifetime : Nat :=
  Nat.pow 2 63 - 1

theorem toInt_lifetime (seconds : UInt64) :
    (lifetime seconds).toInt = (min seconds.toNat longestLifetime : Nat) := by
  apply Int64.toInt_ofNat_of_lt
  have capped : min seconds.toNat longestLifetime ≤ longestLifetime := Nat.min_le_right _ _
  exact Nat.lt_succ_of_le capped

theorem lifetime_nonneg (seconds : UInt64) : 0 ≤ lifetime seconds := by
  rw [Int64.le_iff_toInt_le, toInt_lifetime]
  exact Int.natCast_nonneg _

theorem lifetime_le_lifetime {shorter longer : UInt64} (ordered : shorter.toNat ≤ longer.toNat) :
    lifetime shorter ≤ lifetime longer := by
  rw [Int64.le_iff_toInt_le, toInt_lifetime, toInt_lifetime]
  exact Int.ofNat_le.mpr (by omega)

/-- A cookie that lives for a number of seconds says so behind path and domain, and before the
attributes that have no value. -/
theorem Cookie.render_of_maxAge {cookie : Cookie} {seconds : Int64}
    (lives : cookie.maxAge = some seconds) :
    cookie.render = cookie.name ++ "=" ++ cookie.value ++ "; Path=" ++ cookie.path ++
      (cookie.domain.elim "" fun domain => "; Domain=" ++ domain) ++
      "; Max-Age=" ++ toString seconds.toInt ++
      (if cookie.secure then "; Secure" else "") ++
      (if cookie.httpOnly then "; HttpOnly" else "") := by
  rw [← String.toList_inj]
  cases domain : cookie.domain <;> cases secure : cookie.secure <;>
    cases httpOnly : cookie.httpOnly <;>
    simp [render, attributes, lives, domain, secure, httpOnly]

theorem CookieRequest.expiresIn_eq_map (request : CookieRequest) (duration : String) :
    request.expiresIn duration = (Duration.parse duration).map fun seconds =>
      { request with maxAge := some (lifetime seconds) } := by
  rw [expiresIn]
  cases Duration.parse duration <;> rfl

/-! ## Both uses -/

namespace Response

/-- The response holds a cookie of this name and value that lives for these seconds, and the client
is told so. -/
def SendsCookie (response : Response) (name value : String) (seconds : Int64) : Prop :=
  ∃ cookie, response.cookies.get? name = some cookie ∧ cookie.name = name ∧
    cookie.value = value ∧ cookie.maxAge = some seconds ∧
    cookie.render = name ++ "=" ++ value ++ "; Path=/" ++
      (cookie.domain.elim "" fun domain => "; Domain=" ++ domain) ++
      "; Max-Age=" ++ toString seconds.toInt ++ (if cookie.httpOnly then "; HttpOnly" else "")

variable (response : Response)

theorem outcome_setCookieFor (name value duration : String) :
    (response.setCookieFor name value duration).2 =
      (Duration.parse duration).map fun _ => () := by
  rw [setCookieFor, CookieRequest.expiresIn_eq_map]
  cases Duration.parse duration <;> rfl

theorem outcome_cacheFor (duration : String) :
    (response.cacheFor duration).2 = (Duration.parse duration).map fun _ => () := by
  rw [cacheFor]
  cases Duration.parse duration <;> rfl

/-- Whatever was stored under the name, the cookie that is there afterwards is the one that was
asked for. -/
theorem sendsCookie_setCookie (name value : String) (seconds : Int64) :
    (response.setCookie { name, value, maxAge := some seconds }).SendsCookie name value seconds := by
  generalize asked : ({ name, value, maxAge := some seconds } : CookieRequest) = request
  have found := response.cookies.get?_set request request.name
  rw [if_pos rfl] at found
  have named := CookieJar.name_of_get? found
  rcases request.gives_settled response.cookies.defaultDomain (response.cookies.get? request.name)
    with ⟨sameValue, sameAge, sameSecure, samePath⟩
  subst asked
  refine ⟨_, found, named, sameValue, sameAge, ?_⟩
  rw [Cookie.render_of_maxAge sameAge, named, sameValue, sameSecure, samePath]
  simp [String.append_assoc]

theorem sendsCookie_setCookieFor (name value : String) {duration : String} {seconds : UInt64}
    (parsed : Duration.parse duration = .ok seconds) :
    (response.setCookieFor name value duration).1.SendsCookie name value (lifetime seconds) := by
  rw [setCookieFor, CookieRequest.expiresIn_eq_map, parsed]
  exact response.sendsCookie_setCookie name value (lifetime seconds)

/-- Giving a cookie a lifetime and letting clients keep a response accept the same durations, and
fail on all others with the same error and without a trace. Where a duration stands for a number of
seconds, the header holds just this number, and the cookie lives for as many seconds as the largest
signed number allows: never for less than none, for no less if the duration is longer, and for just
as long as the header says if the number is not beyond that. -/
theorem lifetimes_agree (response : Response) (request : CookieRequest)
    (name value duration : String) :
    (response.setCookieFor name value duration).2 = (response.cacheFor duration).2 ∧
    ((request.expiresIn duration).map fun _ => ()) = (response.cacheFor duration).2 ∧
    ((∀ seconds, ¬Duration.StandsFor duration seconds) →
      response.cacheFor duration = (response, .error (.malformedDuration duration)) ∧
      response.setCookieFor name value duration =
        (response, .error (.malformedDuration duration))) ∧
    ∀ seconds, Duration.StandsFor duration seconds →
      (response.cacheFor duration).2 = .ok () ∧
      (∀ wanted, (response.cacheFor duration).1.headers.field? wanted =
        if foldName "Cache-Control" = foldName wanted then
          some (.single "Cache-Control" ("max-age=" ++ toString seconds))
        else response.headers.field? wanted) ∧
      ∃ kept : Int64, kept.toInt = (min seconds longestLifetime : Nat) ∧ 0 ≤ kept ∧
        (seconds ≤ longestLifetime → toString kept.toInt = toString seconds) ∧
        request.expiresIn duration = .ok { request with maxAge := some kept } ∧
        (response.setCookieFor name value duration).1.SendsCookie name value kept ∧
        ∀ longer more, Duration.StandsFor longer more → seconds ≤ more →
          ∃ keptLonger,
            (response.setCookieFor name value longer).1.SendsCookie name value keptLonger ∧
            kept ≤ keptLonger := by
  have cached := response.outcome_cacheFor duration
  refine ⟨(response.outcome_setCookieFor name value duration).trans cached.symm, ?_, ?_, ?_⟩
  · rw [cached, CookieRequest.expiresIn_eq_map]
    cases Duration.parse duration <;> rfl
  · intro refused
    have unaccepted : ¬Duration.Accepts duration := fun accepted =>
      (Duration.accepts_iff.mp accepted).elim refused
    exact ⟨(response.cacheFor_failsOnly duration).call_eq unaccepted,
      (response.setCookieFor_failsOnly name value duration).call_eq unaccepted⟩
  · intro seconds stands
    rcases Duration.standsFor_iff.mp stands with ⟨fitting, parsed, rfl⟩
    have age := toInt_lifetime fitting
    refine ⟨by rw [cached, parsed]; rfl, fun wanted => ?_, lifetime fitting, age,
      lifetime_nonneg fitting, fun short => ?_, by rw [CookieRequest.expiresIn_eq_map, parsed]; rfl,
      response.sendsCookie_setCookieFor name value parsed, fun longer more standsLonger ordered => ?_⟩
    · rw [cacheFor, parsed]
      exact response.headers.field?_set "Cache-Control" _ wanted
    · rw [age, Nat.min_eq_left short]
      rfl
    · rcases Duration.standsFor_iff.mp standsLonger with ⟨fittingLonger, parsedLonger, rfl⟩
      exact ⟨_, response.sendsCookie_setCookieFor name value parsedLonger,
        lifetime_le_lifetime ordered⟩

/-- A response to a client that is signed in. -/
def signedIn : Response :=
  { new {} with cookies := CookieJar.ofList [{ name := "sid", value := "1", httpOnly := true }] }

/-- One second more than a cookie can be given to live. -/
def endless : String := "9223372036854775808s"

theorem standsFor_endless : Duration.StandsFor endless 9223372036854775808 := by
  refine ⟨by decide,
    [⟨"9223372036854775808".toList, .s, by decide, by simp⟩], ?_, by decide⟩
  have trimmed : Text.trim endless.toList = endless.toList := by decide
  rw [trimmed]
  exact ⟨by decide, by decide⟩

theorem lifetimes_agree_signedIn :
    (∃ kept keptLonger, kept.toInt = 5400 ∧ kept ≤ keptLonger ∧
      (signedIn.setCookieFor "sid" "2" " 1h30mn").1.SendsCookie "sid" "2" kept ∧
      (signedIn.setCookieFor "sid" "2" endless).1.SendsCookie "sid" "2" keptLonger) ∧
    (∃ kept, kept.toInt = 9223372036854775807 ∧
      (signedIn.setCookieFor "sid" "2" endless).1.SendsCookie "sid" "2" kept) ∧
    (signedIn.cacheFor endless).1.headers.field? "cache-control" =
      some (.single "Cache-Control" "max-age=9223372036854775808") ∧
    signedIn.setCookieFor "sid" "2" "1w" = (signedIn, .error (.malformedDuration "1w")) := by
  have stands : Duration.StandsFor " 1h30mn" 5400 := by
    refine ⟨by decide, [⟨['1'], .h, by decide, by simp⟩, ⟨['3', '0'], .mn, by decide, by simp⟩], ?_,
      by decide⟩
    have trimmed : Text.trim " 1h30mn".toList = "1h30mn".toList := by decide
    rw [trimmed]
    exact ⟨by decide, by decide⟩
  have refused : ∀ seconds, ¬Duration.StandsFor "1w" seconds := by
    intro seconds stands
    rcases stands with ⟨_, groups, made, _⟩
    rcases Duration.isWhole_iff_exists_group.mp (Duration.isWhole_iff.mpr ⟨groups, made⟩)
      with ⟨group, rest, member, _⟩
    have untried : Duration.groupsAt (Text.trim "1w".toList) = [] := by decide
    rw [untried] at member
    cases member
  have agree := lifetimes_agree signedIn { name := "sid", value := "2" } "sid" "2"
  rcases agree " 1h30mn" with ⟨_, _, _, lasts⟩
  rcases lasts 5400 stands with ⟨_, _, kept, age, _, _, _, sends, noShorter⟩
  rcases noShorter endless _ standsFor_endless (by decide) with ⟨keptLonger, sendsLonger, ordered⟩
  rcases agree endless with ⟨_, _, _, lastsLonger⟩
  rcases lastsLonger _ standsFor_endless with ⟨_, header, capped, cappedAge, _, _, _, sendsCapped, _⟩
  rcases agree "1w" with ⟨_, _, fails, _⟩
  exact ⟨⟨kept, keptLonger, age, ordered, sends, sendsLonger⟩, ⟨capped, cappedAge, sendsCapped⟩,
    (header "cache-control").trans (if_pos (by decide +kernel)), (fails refused).2⟩

end Response

end HttpExchange
