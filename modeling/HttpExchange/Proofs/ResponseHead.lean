import HttpExchange.Proofs.Lines
import HttpExchange.Response.Head

/-! The head of a response as its reader gets it: which lines it splits into, and that no field
can add another one or end the head early. -/

namespace HttpExchange

namespace Headers

/-- There is a field of this name in any letter case. -/
def Names (headers : Headers) (name : String) : Prop :=
  ∃ header ∈ headers.entries, Text.sameLetters header.name.toList name.toList = true

instance (headers : Headers) (name : String) : Decidable (headers.Names name) :=
  inferInstanceAs (Decidable (∃ header ∈ headers.entries, _))

theorem has_iff_names (headers : Headers) (name : String) :
    headers.has name = true ↔ headers.Names name := by
  rw [has, KeyedList.contains_iff, KeyedList.keys, List.mem_map]
  simp only [Names, Header.key, foldName, Text.sameLetters, String.ofList_inj, beq_iff_eq]

end Headers

namespace Response

open Text

def lineIf (condition : Prop) [Decidable condition] (line : String) : List String :=
  if condition then [line] else []

/-- The lines that a response owes to the reader of its head. -/
def owedLines (response : Response) : List String :=
  [response.statusLine] ++
  (response.contentType.toList.flatMap fun contentType =>
    lineIf (¬response.headers.Names "Content-Type") ("Content-Type: " ++ contentType)) ++
  lineIf (response.chunked = true ∧ ¬response.headers.Names "Transfer-Encoding")
    "Transfer-Encoding: chunked" ++
  lineIf (¬response.chunked = true ∧ response.direct = none ∧
      ¬response.headers.Names "Content-Length")
    ("Content-Length: " ++ toString response.out.length) ++
  (response.headers.entries.flatMap fun header =>
    header.values.map fun value => header.name ++ ": " ++ value) ++
  ((response.cookies.cookies.entries.filter fun cookie =>
    400 ≤ response.status.toNat ∧ response.status.toNat ≤ 599 → cookie.sendOnError).map
      fun cookie => "Set-Cookie: " ++ cookie.render) ++
  [""]

theorem lineIf_not {condition : Prop} [Decidable condition] (line : String) :
    lineIf (¬condition) line = if condition then [] else [line] :=
  ite_not ..

theorem isError_iff (status : Status) :
    status.isError = true ↔ 400 ≤ status.toNat ∧ status.toNat ≤ 599 := by
  simp only [Status.isError, Bool.or_eq_true, beq_iff_eq, ← UInt16.toNat_inj, UInt16.toNat_div,
    UInt16.reduceToNat]
  omega

theorem contentTypeLines_eq (response : Response) : response.contentTypeLines =
    response.contentType.toList.flatMap fun contentType =>
      lineIf (¬response.headers.Names "Content-Type") ("Content-Type: " ++ contentType) := by
  simp only [lineIf_not, ← Headers.has_iff_names]
  cases stored : response.contentType with
  | none =>
      rw [contentTypeLines, stored]
      rfl
  | some contentType =>
      rw [contentTypeLines, stored]
      exact (List.append_nil _).symm

theorem framingLines_eq (response : Response) : response.framingLines =
    lineIf (response.chunked = true ∧ ¬response.headers.Names "Transfer-Encoding")
      "Transfer-Encoding: chunked" ++
    lineIf (¬response.chunked = true ∧ response.direct = none ∧
      ¬response.headers.Names "Content-Length")
      ("Content-Length: " ++ toString response.out.length) := by
  simp only [lineIf, ← Headers.has_iff_names]
  cases chunked : response.chunked with
  | true =>
      cases named : response.headers.has "Transfer-Encoding" <;> simp [framingLines, chunked, named]
  | false => simp [framingLines, chunked]

theorem cookieLines_eq (response : Response) : response.cookieLines =
    (response.cookies.cookies.entries.filter fun cookie =>
      400 ≤ response.status.toNat ∧ response.status.toNat ≤ 599 → cookie.sendOnError).map
        fun cookie => "Set-Cookie: " ++ cookie.render := by
  have kept : ∀ cookie : Cookie, (!response.status.isError || cookie.sendOnError) =
      decide (400 ≤ response.status.toNat ∧ response.status.toNat ≤ 599 →
        cookie.sendOnError = true) := by
    intro cookie
    rw [Bool.eq_iff_iff, decide_eq_true_iff, ← isError_iff, Bool.or_eq_true, Bool.not_eq_true',
      ← Bool.not_eq_true, ← Decidable.imp_iff_not_or]
  rw [cookieLines, sentCookies]
  congr 1
  exact List.filter_congr fun cookie _ => kept cookie

theorem headLines_eq_owedLines (response : Response) :
    response.headLines ++ [""] = response.owedLines := by
  rw [headLines, owedLines, contentTypeLines_eq, framingLines_eq, cookieLines_eq]
  simp only [List.append_assoc]
  rfl

/-! ## Fields without line breaks -/

/-- No field that the head shows breaks a line. -/
structure HasUnbrokenFields (response : Response) : Prop where
  contentType : ∀ contentType ∈ response.contentType, IsUnbroken contentType
  headers : ∀ header ∈ response.headers.entries,
    IsUnbroken header.name ∧ ∀ value ∈ header.values, IsUnbroken value
  cookies : ∀ cookie ∈ response.cookies.cookies.entries, IsUnbroken cookie.render

theorem isUnbroken_reason (status : Status) : IsUnbroken status.reason := by
  unfold Status.reason
  split <;> decide

theorem isLine_statusLine (response : Response) : IsLine response.statusLine := by
  have version : IsLine "HTTP/1.1 " := by decide
  have code : IsLine ("HTTP/1.1 " ++ response.status.text) :=
    version.append_right (isUnbroken_toString _)
  exact (code.append_right (by decide)).append_right (isUnbroken_reason _)

theorem isLine_of_mem_contentTypeLines {response : Response}
    (unbroken : response.HasUnbrokenFields) {line : String}
    (member : line ∈ response.contentTypeLines) : IsLine line := by
  unfold contentTypeLines at member
  split at member
  case h_1 contentType stored =>
    split at member
    case isTrue => cases member
    case isFalse =>
      rw [List.mem_singleton.mp member]
      exact IsLine.append_right (by decide) (unbroken.contentType contentType stored)
  case h_2 => cases member

theorem isLine_of_mem_framingLines {response : Response} {line : String}
    (member : line ∈ response.framingLines) : IsLine line := by
  unfold framingLines at member
  split at member
  case isTrue =>
    split at member
    case isTrue => cases member
    case isFalse =>
      rw [List.mem_singleton.mp member]
      decide
  case isFalse =>
    split at member
    case isTrue =>
      rw [List.mem_singleton.mp member]
      exact IsLine.append_right (by decide) (isUnbroken_toString _)
    case isFalse => cases member

theorem isLine_of_mem_headerLines {response : Response} (unbroken : response.HasUnbrokenFields)
    {line : String} (member : line ∈ response.headers.lines) : IsLine line := by
  rcases List.mem_flatMap.mp member with ⟨header, stored, member⟩
  rcases List.mem_map.mp member with ⟨value, held, rfl⟩
  have fields := unbroken.headers header stored
  exact (IsLine.append_left fields.1 (by decide)).append_right (fields.2 value held)

theorem isLine_of_mem_cookieLines {response : Response} (unbroken : response.HasUnbrokenFields)
    {line : String} (member : line ∈ response.cookieLines) : IsLine line := by
  rcases List.mem_map.mp member with ⟨cookie, sent, rfl⟩
  exact IsLine.append_right (by decide) (unbroken.cookies cookie (List.mem_filter.mp sent).1)

theorem isLine_of_mem_headLines {response : Response} (unbroken : response.HasUnbrokenFields)
    {line : String} (member : line ∈ response.headLines) : IsLine line := by
  simp only [headLines, List.mem_append, List.mem_singleton] at member
  rcases member with (((rfl | member) | member) | member) | member
  · exact isLine_statusLine response
  · exact isLine_of_mem_contentTypeLines unbroken member
  · exact isLine_of_mem_framingLines member
  · exact isLine_of_mem_headerLines unbroken member
  · exact isLine_of_mem_cookieLines unbroken member

theorem splitLines_head {response : Response} (unbroken : response.HasUnbrokenFields) :
    splitLines response.head.toList = response.headLines.map String.toList ++ [[], []] := by
  rw [head, String.toList_append, Headers.splitLines_joinLines
    fun line member => (isLine_of_mem_headLines unbroken member).1]
  rfl

/-- The reader who splits the head at its line ends gets the owed lines and nothing else, and the
empty line that ends the head comes once, at its end. -/
theorem head_splits_into_owedLines (response : Response)
    (unbroken : response.HasUnbrokenFields) :
    splitLines response.head.toList = response.owedLines.map String.toList ++ [[]] ∧
    (∃ front, response.head = front ++ "\r\n\r\n") ∧
    ∀ front back, response.head = front ++ "\r\n\r\n" ++ back → back = "" := by
  refine ⟨?_, ?_, ?_⟩
  · rw [splitLines_head unbroken, ← headLines_eq_owedLines, List.map_append, List.append_assoc]
    rfl
  · have started : response.headLines ≠ [] := List.cons_ne_nil _ _
    rcases Headers.exists_joinLines_eq_append started with ⟨front, ends⟩
    refine ⟨front, ?_⟩
    rw [head, ends, String.append_assoc]
    rfl
  · intro front back shape
    have filled : [] ∉ response.headLines.map String.toList := by
      intro member
      rcases List.mem_map.mp member with ⟨line, member, empty⟩
      exact (isLine_of_mem_headLines unbroken member).2 (String.toList_eq_nil_iff.mp empty)
    have parts : response.head.toList =
        front.toList ++ lineEnd ++ (lineEnd ++ back.toList) := by
      rw [shape, String.toList_append, String.toList_append, List.append_assoc, List.append_assoc]
      rfl
    exact String.toList_eq_nil_iff.mp
      (emptyLine_only_at_end (splitLines_head unbroken) filled parts)

/-- An error page whose content type is named by a header in other letter case, with a repeated
header, a header without name and value, and one cookie that errors do not carry. -/
def missingPage : Response :=
  { new {} with
    status := 404
    contentType := some "text/html"
    headers := Headers.ofPairs
      [("content-TYPE", "text/plain"), ("Via", "one"), ("", ""), ("via", "two")]
    cookies := CookieJar.ofList
      [{ name := "sid", value := "1" }, { name := "seen", value := "", sendOnError := true }]
    out := [110, 111] }

theorem head_splits_into_owedLines_missingPage :
    missingPage.HasUnbrokenFields ∧
    splitLines missingPage.head.toList =
      ["HTTP/1.1 404 Not Found", "Content-Length: 2", "content-TYPE: text/plain", "Via: one",
        "Via: two", ": ", "Set-Cookie: seen=; Path=/", "", ""].map String.toList ∧
    ∀ front back, missingPage.head = front ++ "\r\n\r\n" ++ back → back = "" := by
  have unbroken : missingPage.HasUnbrokenFields :=
    ⟨by decide, by decide +kernel, by decide +kernel⟩
  have owed : missingPage.owedLines =
      ["HTTP/1.1 404 Not Found", "Content-Length: 2", "content-TYPE: text/plain", "Via: one",
        "Via: two", ": ", "Set-Cookie: seen=; Path=/", ""] := by decide +kernel
  rcases head_splits_into_owedLines missingPage unbroken with ⟨split, -, endsOnce⟩
  refine ⟨unbroken, ?_, endsOnce⟩
  rw [split, owed]
  rfl

end Response

end HttpExchange
