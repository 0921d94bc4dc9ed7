import HttpExchange.Proofs.HttpDate
import HttpExchange.Response
import Mathlib

/-! Revalidation: a response publishes a tag and a date, a client sends both back, and its copy
counts as fresh exactly while the tag is the same and the content has not changed in a later
second. Whatever a client sends, a copy that outlasts one change outlasts every earlier one. -/

namespace HttpExchange

/-! ## Seconds and instants -/

namespace Instant

/-- Leaving out the part of a second does not change the order to the seconds from 1970 on. -/
theorem ofSeconds_lt_wholeSecond_iff {seconds : Int} (from1970 : 0 ≤ seconds)
    (instant : Instant) :
    ofSeconds seconds < instant.wholeSecond ↔ seconds < instant.seconds := by
  by_cases after : 0 ≤ instant.seconds
  · rw [wholeSecond, if_pos after]
    constructor
    · intro earlier
      rcases earlier with earlier | ⟨_, inside⟩
      · exact earlier
      · exact absurd inside (Fin.not_lt_zero _)
    · exact fun earlier => .inl earlier
  · rw [wholeSecond, if_neg after]
    constructor
    · intro earlier
      rcases earlier with earlier | ⟨same, _⟩
      · exact earlier
      · exact absurd (same ▸ from1970) after
    · exact fun earlier => .inl earlier

/-- Instants in order, the same one twice included. -/
instance : LE Instant where
  le earlier later := ¬later < earlier

instance (earlier later : Instant) : Decidable (earlier ≤ later) :=
  inferInstanceAs (Decidable (¬_))

theorem seconds_le_of_le {earlier later : Instant} (ordered : earlier ≤ later) :
    earlier.seconds ≤ later.seconds :=
  Int.not_lt.mp fun before => ordered (.inl before)

end Instant

/-! ## Freshness -/

namespace Headers

/-- A copy is fresh exactly when its tag is the one in question and its date, which must be one
that can be read, is not before the second of the last change. -/
theorem isModified_eq_false_iff (headers : Headers) (tag : String) (lastModified : Instant) :
    headers.isModified tag lastModified = false ↔
      headers.value? "if-none-match" = some tag ∧
        ∃ date seconds, headers.value? "if-modified-since" = some date ∧
          HttpDate.read? date.toList = some seconds ∧ lastModified.seconds ≤ seconds := by
  unfold isModified
  cases headers.value? "if-none-match" with
  | none => simp
  | some clientTag =>
      cases headers.value? "if-modified-since" with
      | none => simp
      | some clientDate =>
          by_cases sameTag : clientTag = tag
          · cases readable : HttpDate.read? clientDate.toList with
            | none => simp [sameTag, readable]
            | some seconds =>
                have order := Instant.ofSeconds_lt_wholeSecond_iff
                  (Int.natCast_nonneg seconds) lastModified
                simp [sameTag, readable, order]
          · simp [sameTag]

/-- What makes a copy stale, whenever the content has last changed: a validator is missing, the tag
is another one, or the date cannot be read. -/
inductive IsAlwaysStale (headers : Headers) (tag : String) : Prop
  | untagged (missing : headers.value? "If-None-Match" = none)
  | undated (missing : headers.value? "If-Modified-Since" = none)
  | otherTag {clientTag : String} (sent : headers.value? "If-None-Match" = some clientTag)
      (differs : clientTag ≠ tag)
  | unreadable {date : String} (sent : headers.value? "If-Modified-Since" = some date)
      (unread : HttpDate.read? date.toList = none)

theorem isAlwaysStale_iff (headers : Headers) (tag : String) :
    headers.IsAlwaysStale tag ↔ ∀ lastModified, headers.isModified tag lastModified = true := by
  have tagName : foldName "If-None-Match" = foldName "if-none-match" := by decide
  have dateName : foldName "If-Modified-Since" = foldName "if-modified-since" := by decide
  have sentTag := headers.value?_congr tagName
  have sentDate := headers.value?_congr dateName
  constructor
  · intro stale lastModified
    rw [← Bool.not_eq_false, isModified_eq_false_iff, ← sentTag, ← sentDate]
    rintro ⟨sameTag, date, seconds, sent, read, _⟩
    cases stale with
    | untagged missing => cases missing.symm.trans sameTag
    | undated missing => cases missing.symm.trans sent
    | otherTag found differs => exact differs (Option.some.inj (found.symm.trans sameTag))
    | unreadable found unread =>
        cases found.symm.trans sent
        cases unread.symm.trans read
  · intro modified
    have stale := modified (.ofSeconds 0)
    rw [← Bool.not_eq_false, isModified_eq_false_iff, ← sentTag, ← sentDate] at stale
    cases foundTag : headers.value? "If-None-Match" with
    | none => exact .untagged foundTag
    | some clientTag =>
        cases foundDate : headers.value? "If-Modified-Since" with
        | none => exact .undated foundDate
        | some date =>
            by_cases sameTag : clientTag = tag
            · cases read : HttpDate.read? date.toList with
              | none => exact .unreadable foundDate read
              | some seconds =>
                  refine absurd ⟨sameTag ▸ foundTag, date, seconds, foundDate, read, ?_⟩ stale
                  exact Int.natCast_nonneg seconds
            · exact .otherTag foundTag sameTag

/-- A copy that is fresh for a change is fresh for every earlier one, before 1970 or after. -/
theorem freshness_is_monotone (headers : Headers) (tag : String) :
    (∀ earlier later : Instant, earlier ≤ later →
      headers.isModified tag later = false → headers.isModified tag earlier = false) ∧
    (∀ first second : Instant, first.seconds = second.seconds →
      headers.isModified tag first = headers.isModified tag second) ∧
    (headers.IsAlwaysStale tag ↔ ∀ lastModified, headers.isModified tag lastModified = true) := by
  refine ⟨fun earlier later ordered fresh => ?_, fun first second sameSecond => ?_,
    headers.isAlwaysStale_iff tag⟩
  · rw [isModified_eq_false_iff] at fresh ⊢
    rcases fresh with ⟨sameTag, date, seconds, sent, read, notBefore⟩
    exact ⟨sameTag, date, seconds, sent, read,
      (Instant.seconds_le_of_le ordered).trans notBefore⟩
  · rw [Bool.eq_iff_iff, ← Bool.not_eq_false, ← Bool.not_eq_false, isModified_eq_false_iff,
      isModified_eq_false_iff, sameSecond]

/-- A copy of the first second of 1970. -/
def epochCopy : Headers :=
  ofPairs [("If-None-Match", "\"v1\""), ("If-Modified-Since", "Thu, 01 Jan 1970 00:00:00 GMT")]

theorem freshness_is_monotone_epoch :
    epochCopy.isModified "\"v1\"" ⟨-1, 500000000⟩ = false ∧
    epochCopy.isModified "\"v1\"" ⟨0, 0⟩ = epochCopy.isModified "\"v1\"" ⟨0, 999999999⟩ ∧
    (∀ lastModified, epochCopy.isModified "\"v2\"" lastModified = true) ∧
    ¬epochCopy.IsAlwaysStale "\"v1\"" := by
  have fresh : epochCopy.isModified "\"v1\"" ⟨0, 999999999⟩ = false := by decide +kernel
  have ordered : (⟨-1, 500000000⟩ : Instant) ≤ ⟨0, 999999999⟩ := by decide
  rcases freshness_is_monotone epochCopy "\"v1\"" with ⟨monotone, sameSecond, stale⟩
  have sent : epochCopy.value? "If-None-Match" = some "\"v1\"" := by decide +kernel
  refine ⟨monotone _ _ ordered fresh, sameSecond _ _ rfl, ?_, fun always => ?_⟩
  · exact (freshness_is_monotone epochCopy "\"v2\"").2.2.mp (.otherTag sent (by decide))
  · cases fresh.symm.trans (stale.mp always _)

end Headers

/-! ## Published validators -/

namespace HttpDate

theorem ofInstant?_eq_some {instant : Instant} (from1970 : 0 ≤ instant.seconds)
    (to9999 : instant.seconds < secondCount) :
    ∃ date, ofInstant? instant = some date ∧
      read? date.toList = some instant.seconds.toNat := by
  have bound : instant.seconds.toNat < secondCount := by omega
  refine ⟨String.ofList (write instant.seconds.toNat), if_pos ⟨from1970, to9999⟩, ?_⟩
  rw [String.toList_ofList]
  exact read?_write bound

end HttpDate

namespace Response

theorem cacheForValidated_ok {response : Response} {tag duration date : String}
    {lastModified : Instant} {lifetime : UInt64} (accepted : Duration.parse duration = .ok lifetime)
    (shown : HttpDate.ofInstant? lastModified = some date) :
    response.cacheForValidated tag duration lastModified =
      (((response.setHeader "Cache-Control" ("max-age=" ++ toString lifetime.toNat)).setHeader
        "Last-Modified" date).setHeader "Etag" tag, .ok ()) := by
  simp only [cacheForValidated, cacheFor, accepted, shown]

theorem value?_setHeader (response : Response) (name value wanted : String) :
    (response.setHeader name value).headers.value? wanted =
      if foldName name = foldName wanted then some value
      else response.headers.value? wanted :=
  Headers.value?_set response.headers name value wanted

/-- The response announces a tag and a date with which clients revalidate exactly: whoever sends
both back has a fresh copy if and only if the tag is still the same and the content has changed
in no second after `second`. -/
def RevalidatesExactly (response : Response) (tag : String) (second : Int) : Prop :=
  ∃ date, response.headers.value? "Etag" = some tag ∧
    response.headers.value? "Last-Modified" = some date ∧
    ∀ headers : Headers, headers.value? "If-None-Match" = some tag →
      headers.value? "If-Modified-Since" = some date →
      ∀ (currentTag : String) (lastChange : Instant),
        headers.isModified currentTag lastChange = false ↔
          currentTag = tag ∧ lastChange.seconds ≤ second

/-- Publishing validators succeeds for every last change from 1970 to 9999, and they revalidate
exactly. -/
theorem cacheForValidated_revalidatesExactly (response : Response) (tag duration : String)
    (lastModified : Instant) (accepted : ∃ lifetime, Duration.parse duration = .ok lifetime)
    (from1970 : 0 ≤ lastModified.seconds)
    (to9999 : lastModified.seconds < HttpDate.secondCount) :
    ∃ published, response.cacheForValidated tag duration lastModified = (published, .ok ()) ∧
      published.RevalidatesExactly tag lastModified.seconds := by
  rcases accepted with ⟨lifetime, accepted⟩
  rcases HttpDate.ofInstant?_eq_some from1970 to9999 with ⟨date, shown, readable⟩
  refine ⟨_, cacheForValidated_ok accepted shown, date, ?_, ?_, ?_⟩
  · rw [value?_setHeader, if_pos rfl]
  · have apart : foldName "Etag" ≠ foldName "Last-Modified" := by decide
    rw [value?_setHeader, if_neg apart, value?_setHeader, if_pos rfl]
  · intro headers sentTag sentDate currentTag lastChange
    have tagName : foldName "If-None-Match" = foldName "if-none-match" := by decide
    have dateName : foldName "If-Modified-Since" = foldName "if-modified-since" := by decide
    rw [headers.value?_congr tagName] at sentTag
    rw [headers.value?_congr dateName] at sentDate
    rw [Headers.isModified_eq_false_iff, sentTag]
    constructor
    · intro fresh
      rcases fresh with ⟨sameTag, clientDate, seconds, sent, read, notBefore⟩
      cases sentDate.symm.trans sent
      cases readable.symm.trans read
      cases sameTag
      exact ⟨rfl, by omega⟩
    · intro same
      rcases same with ⟨rfl, notLater⟩
      exact ⟨rfl, date, _, sentDate, readable, by omega⟩

/-- A change a quarter of a second into 2024-02-29T12:34:56Z. -/
theorem cacheForValidated_revalidatesExactly_leapDay :
    ∃ published, (new {}).cacheForValidated "\"v1\"" "1h30mn" ⟨1709210096, 250000000⟩ =
        (published, .ok ()) ∧ published.RevalidatesExactly "\"v1\"" 1709210096 := by
  have accepted : Duration.parse "1h30mn" = .ok 5400 := by cbv
  exact cacheForValidated_revalidatesExactly (new {}) "\"v1\"" "1h30mn"
    ⟨1709210096, 250000000⟩ ⟨5400, accepted⟩ (by decide) (by decide)

end Response

end HttpExchange
