import HttpExchange.Proofs.HeaderHistory
import HttpExchange.Proofs.ResponseHead
import HttpExchange.Response.Operation

/-! How a head delimits the body of a response. What the response says about it on its own is never
contradictory; only header fields that were stored can make a head announce both a length and a
transfer encoding. -/

namespace HttpExchange

namespace Text

/-- The line is that of the header field `name`, in any letter case, as its reader takes it: by
what stands in front of the first colon. -/
def IsFieldLine (name : String) (line : List Char) : Prop :=
  lower (name.toList ++ [':']) <+: lower line

instance (name : String) (line : List Char) : Decidable (IsFieldLine name line) :=
  inferInstanceAs (Decidable (_ <+: _))

/-- A line whose beginning already tells it from the field is not a line of the field. -/
theorem not_isFieldLine_append {name : String} {front : List Char}
    (unmet : ¬lower (name.toList ++ [':']) <+: lower front)
    (apart : ¬lower front <+: lower (name.toList ++ [':'])) (rest : List Char) :
    ¬IsFieldLine name (front ++ rest) := by
  intro isField
  rw [IsFieldLine, lower_append front] at isField
  rcases List.prefix_or_prefix_of_prefix isField (List.prefix_append _ _) with within | within
  · exact unmet within
  · exact apart within

/-- Whether a line with a colon is that of a field is settled in front of the colon. -/
theorem IsFieldLine.of_append_colon {name : String} (plain : ':' ∉ lower name.toList)
    {front rest : List Char} (isField : IsFieldLine name (front ++ ':' :: rest)) :
    IsFieldLine name (front ++ [':']) := by
  have written : front ++ ':' :: rest = front ++ [':'] ++ rest := by simp
  rw [IsFieldLine, written, lower_append (front ++ [':'])] at isField
  rcases List.prefix_or_prefix_of_prefix isField (List.prefix_append _ _) with within | within
  · exact within
  · -- The colon of the line is either that behind the name or one of the name itself.
    rw [lower_append name.toList] at within
    rcases List.prefix_concat_iff.mp within with same | inside
    · rw [IsFieldLine, lower_append name.toList, same]
      exact List.prefix_refl _
    · exact absurd (inside.subset (by simp [lower])) plain

end Text

open Text

/-! ## Where names of fields come from -/

namespace Headers

/-- The name that the change spells, if it gives values to a field. -/
def Change.name? : Change → Option String
  | .replace header => some header.name
  | .add name _ => some name
  | .remove _ => none
  | .clear => none

theorem Leaves.exists_name {writes : List Change} {header : Header}
    (leaves : Leaves writes (some header)) :
    ∃ change ∈ writes, change.name? = some header.name := by
  cases leaves with
  | created name value added spelled filled =>
      exact ⟨.add name value, by simp [Change.additions], congrArg some spelled.symm⟩
  | replaced earlier replacement added spelled filled =>
      exact ⟨.replace replacement, by simp, congrArg some spelled.symm⟩

/-- A field has its name from one of the changes. -/
theorem exists_change_of_mem {changes : List Change} {header : Header}
    (member : header ∈ (ofChanges changes).entries) :
    ∃ change ∈ changes, change.name? = some header.name := by
  have leaves := leaves_find? changes header.name
  have found : (ofChanges changes).find? (foldName header.name) = some header :=
    (KeyedList.find?_eq_some_iff ..).mpr ⟨member, rfl⟩
  rw [found] at leaves
  rcases leaves.exists_name with ⟨change, lasting, names⟩
  have made : change ∈ changes.rtakeWhile fun change => !change.drops header.name :=
    (List.mem_filter.mp lasting).1
  exact ⟨change, (List.rtakeWhile_suffix _ _).subset made, names⟩

/-- A stored field is read as the field `name`. -/
def Shows (headers : Headers) (name : String) : Prop :=
  ∃ header ∈ headers.entries, IsFieldLine name (header.name.toList ++ [':'])

instance (headers : Headers) (name : String) : Decidable (headers.Shows name) :=
  inferInstanceAs (Decidable (∃ header ∈ headers.entries, _))

theorem shows_of_mem_lines {headers : Headers} {name line : String}
    (plain : ':' ∉ lower name.toList) (member : line ∈ headers.lines)
    (isField : IsFieldLine name line.toList) : headers.Shows name := by
  rcases List.mem_flatMap.mp member with ⟨header, stored, member⟩
  rcases List.mem_map.mp member with ⟨value, _, rfl⟩
  have written : (header.name ++ ": " ++ value).toList =
      header.name.toList ++ ':' :: ' ' :: value.toList := by
    simp
  rw [written] at isField
  exact ⟨header, stored, isField.of_append_colon plain⟩

end Headers

namespace Response

/-! ## Announcements -/

/-- The fields that delimit a body. -/
def framingNames : List String :=
  ["Content-Length", "Transfer-Encoding"]

/-- The reader of the head finds a line of this field. -/
def Announces (response : Response) (name : String) : Prop :=
  ∃ line ∈ splitLines response.head.toList, IsFieldLine name line

instance (response : Response) (name : String) : Decidable (response.Announces name) :=
  inferInstanceAs (Decidable (∃ line ∈ _, _))

/-- The lines that are not about the body start in a way of their own. -/
theorem not_isFieldLine_of_framing {name front : String} (framing : name ∈ framingNames)
    (starts : front ∈ ["HTTP/1.1 ", "Content-Type: ", "Set-Cookie: "]) (rest : String) :
    ¬IsFieldLine name (front ++ rest).toList := by
  have apart : ∀ name ∈ framingNames, ∀ front ∈ ["HTTP/1.1 ", "Content-Type: ", "Set-Cookie: "],
      ¬lower (name.toList ++ [':']) <+: lower front.toList ∧
        ¬lower front.toList <+: lower (name.toList ++ [':']) := by
    decide
  rcases apart name framing front starts with ⟨unmet, differs⟩
  rw [String.toList_append]
  exact not_isFieldLine_append unmet differs rest.toList

theorem not_isFieldLine_contentTypeLine {response : Response} {name line : String}
    (framing : name ∈ framingNames) (member : line ∈ response.contentTypeLines) :
    ¬IsFieldLine name line.toList := by
  unfold contentTypeLines at member
  split at member
  case h_1 contentType stored =>
    split at member
    case isTrue => cases member
    case isFalse =>
      rw [List.mem_singleton.mp member]
      exact not_isFieldLine_of_framing framing (by simp) contentType
  case h_2 => cases member

/-- What a head announces about its body, the response says on its own or a stored field does. -/
theorem Announces.framingLine_or_shows {response : Response} {name : String}
    (announces : response.Announces name) (unbroken : response.HasUnbrokenFields)
    (framing : name ∈ framingNames) :
    (∃ line ∈ response.framingLines, IsFieldLine name line.toList) ∨
      response.headers.Shows name := by
  rcases announces with ⟨line, member, isField⟩
  rw [splitLines_head unbroken, List.mem_append, List.mem_map] at member
  rcases member with ⟨line, member, rfl⟩ | member
  · simp only [headLines, List.mem_append, List.mem_singleton] at member
    rcases member with (((rfl | member) | member) | member) | member
    · rw [statusLine, String.append_assoc, String.append_assoc] at isField
      exact absurd isField (not_isFieldLine_of_framing framing (by simp) _)
    · exact absurd isField (not_isFieldLine_contentTypeLine framing member)
    · exact .inl ⟨line, member, isField⟩
    · have plain : ∀ name ∈ framingNames, ':' ∉ lower name.toList := by decide
      exact .inr (Headers.shows_of_mem_lines (plain name framing) member isField)
    · rcases List.mem_map.mp member with ⟨cookie, _, rfl⟩
      exact absurd isField (not_isFieldLine_of_framing framing (by simp) _)
  · have empty : line = [] := by simpa using member
    have named : ∀ name ∈ framingNames, ¬IsFieldLine name [] := by decide
    exact absurd (empty ▸ isField) (named name framing)

theorem framingLine_of_chunked {response : Response} (chunked : response.chunked = true)
    {line : String} (member : line ∈ response.framingLines) :
    line = "Transfer-Encoding: chunked" := by
  rw [framingLines, if_pos chunked] at member
  split at member
  · cases member
  · exact List.mem_singleton.mp member

theorem framingLine_of_not_chunked {response : Response} (whole : ¬response.chunked = true)
    {line : String} (member : line ∈ response.framingLines) :
    response.direct = none ∧ line = "Content-Length: " ++ toString response.out.length := by
  rw [framingLines, if_neg whole] at member
  split at member
  case isTrue buffered =>
    rw [Bool.and_eq_true, Option.isNone_iff_eq_none] at buffered
    exact ⟨buffered.1, List.mem_singleton.mp member⟩
  case isFalse => cases member

theorem Announces.shows_length {response : Response}
    (announces : response.Announces "Content-Length") (unbroken : response.HasUnbrokenFields) :
    ¬response.chunked = true ∧ response.direct = none ∨
      response.headers.Shows "Content-Length" := by
  rcases announces.framingLine_or_shows unbroken (by decide) with ⟨line, member, isField⟩ | shows
  · refine .inl ?_
    by_cases chunked : response.chunked = true
    · rw [framingLine_of_chunked chunked member] at isField
      exact absurd isField (by decide)
    · exact ⟨chunked, (framingLine_of_not_chunked chunked member).1⟩
  · exact .inr shows

theorem Announces.shows_encoding {response : Response}
    (announces : response.Announces "Transfer-Encoding") (unbroken : response.HasUnbrokenFields) :
    response.chunked = true ∨ response.headers.Shows "Transfer-Encoding" := by
  rcases announces.framingLine_or_shows unbroken (by decide) with ⟨line, member, isField⟩ | shows
  · refine .inl (Classical.byContradiction fun whole => ?_)
    rw [(framingLine_of_not_chunked whole member).2, String.toList_append] at isField
    exact not_isFieldLine_append (by decide) (by decide) _ isField
  · exact .inr shows

/-! ## Runs -/

/-- What caching for a duration does to header fields. -/
def cacheChanges (duration : String) : List Headers.Change :=
  match Duration.parse duration with
  | .ok seconds =>
      [.replace (.single "Cache-Control" ("max-age=" ++ toString seconds.toNat))]
  | .error _ => []

/-- What publishing validators does to header fields, where the duration is one. -/
def validatorChanges (tag duration : String) (lastModified : Instant) : List Headers.Change :=
  match Duration.parse duration, HttpDate.ofInstant? lastModified with
  | .ok _, some date => [.replace (.single "Last-Modified" date), .replace (.single "Etag" tag)]
  | _, _ => []

def originChanges (origin : String) (methods : Option String) (credentials : Bool) :
    List Headers.Change :=
  [.replace (.single "Access-Control-Allow-Origin" origin)] ++
  methods.toList.map (fun methods => .replace (.single "Access-Control-Allow-Methods" methods)) ++
  if credentials then [.replace (.single "Access-Control-Allow-Credentials" "true")] else []

/-- What the operation does to the header fields of a response. -/
def Operation.headerChanges : Operation → List Headers.Change
  | .headers operation => operation.changes
  | .setHeader name value => [.replace (.single name value)]
  | .cacheFor duration => cacheChanges duration
  | .cacheForValidated tag duration lastModified =>
      cacheChanges duration ++ validatorChanges tag duration lastModified
  | .allowOrigin origin methods credentials => originChanges origin methods credentials
  | _ => []

theorem headers_cacheFor (response : Response) (duration : String) :
    (response.cacheFor duration).1.headers =
      (cacheChanges duration).foldl Headers.apply response.headers := by
  rw [cacheFor, cacheChanges]
  cases Duration.parse duration <;> rfl

theorem headers_cacheForValidated (response : Response) (tag duration : String)
    (lastModified : Instant) :
    (response.cacheForValidated tag duration lastModified).1.headers =
      (cacheChanges duration ++ validatorChanges tag duration lastModified).foldl
        Headers.apply response.headers := by
  rw [cacheForValidated, cacheFor, cacheChanges, validatorChanges]
  cases Duration.parse duration with
  | error error => rfl
  | ok seconds => cases HttpDate.ofInstant? lastModified <;> rfl

theorem headers_allowOrigin (response : Response) (origin : String) (methods : Option String)
    (credentials : Bool) :
    (response.allowOrigin origin methods credentials).headers =
      (originChanges origin methods credentials).foldl Headers.apply response.headers := by
  cases methods <;> cases credentials <;> rfl

theorem headers_perform (response : Response) (operation : Operation) :
    (response.perform operation).1.headers =
      operation.headerChanges.foldl Headers.apply response.headers := by
  have kept := (response.perform_differsIn operation).headers_eq
  cases operation with
  | headers operation => exact Headers.perform_eq_foldl_apply response.headers operation
  | header name => rfl
  | setHeader name value => rfl
  | cacheFor duration => exact response.headers_cacheFor duration
  | cacheForValidated tag duration lastModified =>
      exact response.headers_cacheForValidated tag duration lastModified
  | allowOrigin origin methods credentials =>
      exact response.headers_allowOrigin origin methods credentials
  | _ => exact kept nofun

theorem headers_performAll (response : Response) (operations : List Operation) :
    (response.performAll operations).1.headers =
      (operations.flatMap Operation.headerChanges).foldl Headers.apply response.headers := by
  induction operations generalizing response with
  | nil => rfl
  | cons operation operations induction =>
      rw [List.flatMap_cons, List.foldl_append, ← headers_perform]
      exact induction _

/-- A run from a new response leaves the header fields that its own changes make. -/
theorem headers_of_run (configuration : Configuration) (operations : List Operation) :
    ((new configuration).performAll operations).1.headers =
      Headers.ofChanges (operations.flatMap Operation.headerChanges) :=
  headers_performAll (new configuration) operations

/-- The operation stores a field that is read as one about the body. -/
def Operation.StoresFraming (operation : Operation) : Prop :=
  ∃ change ∈ operation.headerChanges, ∃ stored, change.name? = some stored ∧
    ∃ name ∈ framingNames, IsFieldLine name (stored.toList ++ [':'])

theorem exists_storesFraming {configuration : Configuration} {operations : List Operation}
    {name : String} (framing : name ∈ framingNames)
    (shows : ((new configuration).performAll operations).1.headers.Shows name) :
    ∃ operation ∈ operations, operation.StoresFraming := by
  rw [headers_of_run] at shows
  rcases shows with ⟨header, member, isField⟩
  rcases Headers.exists_change_of_mem member with ⟨change, made, names⟩
  rcases List.mem_flatMap.mp made with ⟨operation, performed, made⟩
  exact ⟨operation, performed, change, made, header.name, names, name, framing, isField⟩

/-- No head announces two ways to delimit its body unless handlers have stored a field that says
so: a length where chunks are written or a stored encoding is, or an encoding where the response
tells the length of its buffer. -/
theorem both_framings_only_from_stored_fields (configuration : Configuration)
    (operations : List Operation) (response : Response)
    (reached : response = ((new configuration).performAll operations).1)
    (unbroken : response.HasUnbrokenFields) (length : response.Announces "Content-Length")
    (encoding : response.Announces "Transfer-Encoding") :
    (response.headers.Shows "Content-Length" ∧
        (response.chunked = true ∨ response.headers.Shows "Transfer-Encoding") ∨
      response.headers.Shows "Transfer-Encoding" ∧
        ¬response.chunked = true ∧ response.direct = none) ∧
    ∃ operation ∈ operations, operation.StoresFraming := by
  cases reached
  rcases length.shows_length unbroken with buffered | showsLength
  · rcases encoding.shows_encoding unbroken with chunked | showsEncoding
    · exact absurd chunked buffered.1
    · exact ⟨.inr ⟨showsEncoding, buffered⟩, exists_storesFraming (by decide) showsEncoding⟩
  · exact ⟨.inl ⟨showsLength, encoding.shows_encoding unbroken⟩,
      exists_storesFraming (by decide) showsLength⟩

/-- A buffered page, cached, whose handler has stored an encoding. -/
def encodedPage : List Operation :=
  [.print "page", .setHeader "transfer-encoding" "gzip", .cacheFor "1h"]

theorem both_framings_only_from_stored_fields_encodedPage :
    ((new {}).performAll encodedPage).1.HasUnbrokenFields ∧
    ((new {}).performAll encodedPage).1.Announces "Content-Length" ∧
    ((new {}).performAll encodedPage).1.Announces "Transfer-Encoding" ∧
    ∃ operation ∈ encodedPage, operation.StoresFraming := by
  have unbroken : ((new {}).performAll encodedPage).1.HasUnbrokenFields :=
    ⟨by decide +kernel, by decide +kernel, by decide +kernel⟩
  have length : ((new {}).performAll encodedPage).1.Announces "Content-Length" := by
    decide +kernel
  have encoding : ((new {}).performAll encodedPage).1.Announces "Transfer-Encoding" := by
    decide +kernel
  rcases both_framings_only_from_stored_fields {} encodedPage _ rfl unbroken length encoding
    with ⟨_, stores⟩
  exact ⟨unbroken, length, encoding, stores⟩

/-- Runs that make a head announce a length and an encoding: by an encoding, by a length and a
chunk, by both fields, and by a content type or a cookie that breaks its line. -/
def doublyFraming : List (List Operation) :=
  [[.setHeader "Transfer-Encoding" "chunked"],
    [.setHeader "content-length" "5", .registerSink, .writeChunk (.text "hello")],
    [.headers (.add "Content-Length" "5"), .setHeader "Transfer-Encoding" "chunked"],
    [.setContentType (some "text/html\r\nTransfer-Encoding: chunked")],
    [.setCookie { name := "sid", value := "1\r\nTransfer-Encoding: chunked" }]]

theorem announces_both_of_doublyFraming :
    ∀ operations ∈ doublyFraming,
      (∀ header ∈ ((new {}).performAll operations).1.headers.entries,
        IsUnbroken header.name ∧ ∀ value ∈ header.values, IsUnbroken value) ∧
      ((new {}).performAll operations).1.Announces "Content-Length" ∧
      ((new {}).performAll operations).1.Announces "Transfer-Encoding" := by
  decide +kernel

/-- A run with unbroken header fields can make a head announce both. -/
theorem not_all_heads_announce_one_framing :
    ¬∀ (configuration : Configuration) (operations : List Operation),
      (∀ header ∈ ((new configuration).performAll operations).1.headers.entries,
        IsUnbroken header.name ∧ ∀ value ∈ header.values, IsUnbroken value) →
      ¬(((new configuration).performAll operations).1.Announces "Content-Length" ∧
        ((new configuration).performAll operations).1.Announces "Transfer-Encoding") := by
  intro never
  have both := announces_both_of_doublyFraming [.setHeader "Transfer-Encoding" "chunked"]
    List.mem_cons_self
  exact never {} [.setHeader "Transfer-Encoding" "chunked"] both.1 both.2

end Response

end HttpExchange
