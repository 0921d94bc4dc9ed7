import HttpExchange.ContentType
import HttpExchange.Proofs.Charsets
import HttpExchange.Proofs.LetterCase

/-! Content types as they are written. However a charset parameter is spaced, spelled and quoted, it
is read as the charset that it names; and what reading gives is in a normal form, which is read as
itself when it is written out. -/

namespace HttpExchange.ContentType

open Text

/-! ## Parameters -/

/-- What a value stands between. -/
inductive Quoting
  | bare
  | double
  | single

def Quoting.around (name : List Char) : Quoting → List Char
  | .bare => name
  | .double => '"' :: (name ++ ['"'])
  | .single => '\'' :: (name ++ ['\''])

/-- The key of a charset parameter, in any letter case and with white space around it. -/
structure CharsetKey where
  before : List Char
  letters : List Char
  after : List Char
  before_blank : IsBlank before
  lower_letters : lower letters = "charset".toList
  after_blank : IsBlank after

def CharsetKey.text (key : CharsetKey) : List Char :=
  key.before ++ (key.letters ++ key.after)

/-- A parameter that names a charset: a key, and a value with white space around it, which may be
quoted. -/
structure CharsetParameter where
  key : CharsetKey
  before : List Char
  quoting : Quoting
  name : List Char
  after : List Char
  before_blank : IsBlank before
  name_unmarked : ∀ mark ∈ Charset.marks, mark ∉ name
  name_shown : ¬IsBlank name
  after_blank : IsBlank after

def CharsetParameter.text (parameter : CharsetParameter) : List Char :=
  parameter.key.text ++
    '=' :: (parameter.before ++ (parameter.quoting.around parameter.name ++ parameter.after))

/-- A charset parameter with one space before it and nothing else around its parts. -/
def CharsetParameter.plain (name : List Char) (unmarked : ∀ mark ∈ Charset.marks, mark ∉ name)
    (shown : ¬IsBlank name) : CharsetParameter where
  key :=
    { before := [' ']
      letters := "charset".toList
      after := []
      before_blank := by simp [IsBlank, isWhiteSpace]
      lower_letters := by decide
      after_blank := by simp [IsBlank] }
  before := []
  quoting := .bare
  name := name
  after := []
  before_blank := by simp [IsBlank]
  name_unmarked := unmarked
  name_shown := shown
  after_blank := by simp [IsBlank]

/-- The text has the key of a charset parameter before its first equals sign. -/
def HasCharsetKey (text : List Char) : Prop :=
  ∃ (key : CharsetKey) (value : List Char), text = key.text ++ '=' :: value

/-- What may follow a parameter: nothing, or a semicolon and anything else. -/
def EndsParameter (rest : List Char) : Prop :=
  rest = [] ∨ ∃ later, rest = ';' :: later

theorem CharsetKey.not_mem_text (key : CharsetKey) {mark : Char} (plain : mark.isAlpha = false)
    (visible : isWhiteSpace mark = false) : mark ∉ key.text := by
  have letters : mark ∉ key.letters := by
    rw [← mem_lower_iff plain, key.lower_letters]
    intro member
    have alphabetic : ∀ letter ∈ "charset".toList, letter.isAlpha = true := by simp
    cases plain.symm.trans (alphabetic mark member)
  simp only [text, List.mem_append, not_or]
  exact ⟨key.before_blank.not_mem visible, letters, key.after_blank.not_mem visible⟩

theorem CharsetKey.sameLetters_trim_text (key : CharsetKey) :
    sameLetters (trim key.text) "charset".toList = true := by
  have letters : lower (trim key.letters) = "charset".toList := by
    rw [← trim_lower, key.lower_letters]
    decide
  rw [text, trim_surrounded key.before_blank key.after_blank, sameLetters, letters]
  decide

theorem CharsetParameter.semicolon_not_mem_text (parameter : CharsetParameter) :
    ';' ∉ parameter.text := by
  have name : ';' ∉ parameter.quoting.around parameter.name := by
    have unmarked := parameter.name_unmarked ';' (by decide)
    cases parameter.quoting <;> simp [Quoting.around, unmarked]
  have key : ';' ∉ parameter.key.text := parameter.key.not_mem_text (by decide) (by decide)
  have before : ';' ∉ parameter.before := parameter.before_blank.not_mem (by decide)
  have after : ';' ∉ parameter.after := parameter.after_blank.not_mem (by decide)
  simp [text, key, before, name, after]

theorem HasCharsetKey.sameLetters_of_cut? {text key value : List Char} (named : HasCharsetKey text)
    (cut : cut? '=' text = some (key, value)) :
    sameLetters (trim key) "charset".toList = true := by
  rcases named with ⟨written, behind, rfl⟩
  have own : cut? '=' (written.text ++ '=' :: behind) = some (written.text, behind) :=
    cut?_append_cons (written.not_mem_text (by decide) (by decide)) behind
  have same : written.text = key := congrArg Prod.fst (Option.some.inj (own.symm.trans cut))
  exact same ▸ written.sameLetters_trim_text

/-! ## Quotes -/

theorem between?_eq_some_iff {mark : Char} {value inner : List Char} :
    between? mark value = some inner ↔ value = mark :: (inner ++ [mark]) := by
  cases value with
  | nil => simp [between?]
  | cons first rest =>
      by_cases same : first = mark
      · rw [between?, if_pos same, withoutLast?_eq_some_iff, same, List.cons_inj_right]
      · simp [between?, same]

theorem between?_of_not_mem {mark : Char} {value : List Char} (plain : mark ∉ value) :
    between? mark value = none := by
  cases found : between? mark value with
  | none => rfl
  | some inner =>
      rw [between?_eq_some_iff.mp found] at plain
      exact absurd List.mem_cons_self plain

theorem unquote_of_not_mem {value : List Char} (double : '"' ∉ value) (single : '\'' ∉ value) :
    unquote value = value := by
  rw [unquote, between?_of_not_mem double, between?_of_not_mem single]

/-- Unquoting takes a value as it is, or some part of it without the white space around that. -/
theorem unquote_cases (value : List Char) :
    unquote value = value ∨
      ∃ inner, unquote value = trim inner ∧ ∀ character ∈ inner, character ∈ value := by
  have inside : ∀ {mark inner}, between? mark value = some inner →
      ∀ character ∈ inner, character ∈ value := by
    intro mark inner found character member
    rw [between?_eq_some_iff.mp found]
    exact List.mem_cons_of_mem mark (List.mem_append_left [mark] member)
  rw [unquote]
  cases double : between? '"' value with
  | some inner => exact .inr ⟨inner, rfl, inside double⟩
  | none =>
      cases single : between? '\'' value with
      | some inner => exact .inr ⟨inner, rfl, inside single⟩
      | none => exact .inl rfl

theorem trim_unquote {value : List Char} (trimmed : trim value = value) :
    trim (unquote value) = unquote value := by
  rcases unquote_cases value with whole | ⟨inner, part, _⟩
  · rw [whole, trimmed]
  · rw [part, trim_trim]

theorem mem_of_mem_unquote {value : List Char} {character : Char}
    (member : character ∈ unquote value) : character ∈ value := by
  rcases unquote_cases value with whole | ⟨inner, part, inside⟩
  · exact whole ▸ member
  · exact inside character (mem_of_mem_trim (part ▸ member))

theorem trim_quoted {mark : Char} (visible : isWhiteSpace mark = false) (name : List Char) :
    trim (mark :: (name ++ [mark])) = mark :: (name ++ [mark]) :=
  trim_eq_self rfl visible (List.getLast?_concat (l := mark :: name)) visible

theorem unquote_trim_around (quoting : Quoting) {name : List Char} (double : '"' ∉ name)
    (single : '\'' ∉ name) : unquote (trim (quoting.around name)) = trim name := by
  cases quoting with
  | bare =>
      exact unquote_of_not_mem (fun member => double (mem_of_mem_trim member))
        fun member => single (mem_of_mem_trim member)
  | double =>
      have found : between? '"' ('"' :: (name ++ ['"'])) = some name :=
        between?_eq_some_iff.mpr rfl
      rw [Quoting.around, trim_quoted (by decide), unquote, found]
  | single =>
      have other : between? '"' ('\'' :: (name ++ ['\''])) = none := by
        rw [between?, if_neg (by decide)]
      have found : between? '\'' ('\'' :: (name ++ ['\''])) = some name :=
        between?_eq_some_iff.mpr rfl
      rw [Quoting.around, trim_quoted (by decide), unquote, other, found]

/-! ## Charsets of parameters -/

/-- A parameter that names a charset is read as that charset. -/
theorem charsetOf?_text (parameter : CharsetParameter) :
    charsetOf? parameter.text = some (String.ofList (trim parameter.name)) := by
  have cut : cut? '=' parameter.text = some (parameter.key.text, _) :=
    cut?_append_cons (parameter.key.not_mem_text (by decide) (by decide)) _
  have value := unquote_trim_around parameter.quoting
    (parameter.name_unmarked '"' (by decide)) (parameter.name_unmarked '\'' (by decide))
  simp only [charsetOf?, cut, parameter.key.sameLetters_trim_text, if_true,
    trim_surrounded parameter.before_blank parameter.after_blank, value]
  cases shown : trim parameter.name with
  | nil => exact absurd (isBlank_iff_trim_eq_nil.mpr shown) parameter.name_shown
  | cons first rest => rfl

/-- A charset is read only behind a key that names it, and is a part of the value that has no more
white space around it. -/
theorem of_charsetOf?_eq_some {parameter : List Char} {name : String}
    (read : charsetOf? parameter = some name) :
    HasCharsetKey parameter ∧ name.toList ≠ [] ∧ trim name.toList = name.toList ∧
      ∀ character ∈ name.toList, character ∈ parameter := by
  simp only [charsetOf?] at read
  split at read
  · cases read
  · rename_i key value cut
    rcases cut?_eq_some cut with ⟨rfl, _⟩
    split at read
    · rename_i named
      split at read
      · cases read
      · rename_i charset filled
        rw [← Option.some.inj read, String.toList_ofList]
        refine ⟨?_, filled, trim_unquote (trim_trim value), fun character member => ?_⟩
        · rcases exists_surrounding key with ⟨before, after, shape, blankBefore, blankAfter⟩
          have letters : lower (trim key) = "charset".toList :=
            (beq_iff_eq.mp named).trans (by decide)
          exact ⟨⟨before, trim key, after, blankBefore, letters, blankAfter⟩, value,
            congrArg (· ++ '=' :: value) shape⟩
        · have inside := mem_of_mem_trim (mem_of_mem_unquote member)
          exact List.mem_append_right key (List.mem_cons_of_mem '=' inside)
    · cases read

/-! ## Parts of a content type -/

theorem splitOn_ended {text rest : List Char} (whole : ';' ∉ text) (ends : EndsParameter rest) :
    ∃ others, (text ++ rest).splitOn ';' = text :: others := by
  rcases ends with rfl | ⟨later, rfl⟩
  · rw [List.append_nil, List.splitOn_eq_singleton whole]
    exact ⟨[], rfl⟩
  · exact ⟨_, List.splitOn_append_cons_self_of_not_mem whole later⟩

theorem parse_media {media : List Char} (whole : ';' ∉ media) :
    parse (String.ofList media) =
      { mediaType := String.ofList (lower (trim media)), charset := none } := by
  rw [parse, String.toList_ofList, List.splitOn_eq_singleton whole]
  rfl

/-- Only the media type and the first parameter are read. -/
theorem parse_parts {media first rest : List Char} (whole : ';' ∉ media) (alsoWhole : ';' ∉ first)
    (ends : EndsParameter rest) :
    parse (String.ofList (media ++ ';' :: (first ++ rest))) =
      { mediaType := String.ofList (lower (trim media)), charset := charsetOf? first } := by
  rcases splitOn_ended alsoWhole ends with ⟨others, split⟩
  rw [parse, String.toList_ofList, List.splitOn_append_cons_self_of_not_mem whole, split]
  rfl

/-- White space aside, a name without marks is read behind `; charset=` as the charset. -/
theorem parse_plain {media name : String} (whole : ';' ∉ media.toList)
    (unmarked : ∀ mark ∈ Charset.marks, mark ∉ name.toList) (shown : ¬IsBlank name.toList) :
    parse (media ++ "; charset=" ++ name) =
      { mediaType := String.ofList (lower (trim media.toList))
        charset := some (String.ofList (trim name.toList)) } := by
  have written : media ++ "; charset=" ++ name =
      String.ofList
        (media.toList ++ ';' :: ((CharsetParameter.plain name.toList unmarked shown).text ++ [])) := by
    apply String.toList_inj.mp
    simp [CharsetParameter.text, CharsetParameter.plain, CharsetKey.text, Quoting.around]
  rw [written, parse_parts whole (CharsetParameter.semicolon_not_mem_text _) (.inl rfl),
    charsetOf?_text, CharsetParameter.plain]

theorem exists_parts (raw : String) :
    (∃ media, raw = String.ofList media ∧ ';' ∉ media) ∨
      ∃ media first rest, raw = String.ofList (media ++ ';' :: (first ++ rest)) ∧
        ';' ∉ media ∧ ';' ∉ first ∧ EndsParameter rest := by
  by_cases marked : ';' ∈ raw.toList
  · right
    rcases List.eq_append_cons_of_mem marked with ⟨media, behind, shape, whole⟩
    by_cases further : ';' ∈ behind
    · rcases List.eq_append_cons_of_mem further with ⟨first, later, rfl, alsoWhole⟩
      exact ⟨media, first, ';' :: later, String.ext (by simp [shape]), whole, alsoWhole,
        .inr ⟨later, rfl⟩⟩
    · exact ⟨media, behind, [], String.ext (by simp [shape]), whole, further, .inl rfl⟩
  · exact .inl ⟨raw.toList, String.ofList_toList.symm, marked⟩

/-! ## Normal forms -/

/-- The content type has nothing left in it that reading takes off or changes. -/
structure IsNormal (contentType : ContentType) : Prop where
  media_trimmed : trim contentType.mediaType.toList = contentType.mediaType.toList
  media_lower : ∀ letter ∈ contentType.mediaType.toList, letter.isUpper = false
  media_whole : ';' ∉ contentType.mediaType.toList
  charset_filled : ∀ name ∈ contentType.charset, name.toList ≠ []
  charset_trimmed : ∀ name ∈ contentType.charset, trim name.toList = name.toList
  charset_whole : ∀ name ∈ contentType.charset, ';' ∉ name.toList

/-- The text of a content type, with its charset if it has one. -/
def render (contentType : ContentType) : String :=
  match contentType.charset with
  | some name => contentType.mediaType ++ "; charset=" ++ name
  | none => contentType.mediaType

theorem isNormal_of_parts {media : List Char} (whole : ';' ∉ media) {charset : Option String}
    (charsetOf : ∀ name ∈ charset,
      name.toList ≠ [] ∧ trim name.toList = name.toList ∧ ';' ∉ name.toList) :
    IsNormal { mediaType := String.ofList (lower (trim media)), charset } where
  media_trimmed := by rw [String.toList_ofList, trim_lower, trim_trim]
  media_lower := by
    rw [String.toList_ofList]
    exact fun letter => isUpper_of_mem_lower
  media_whole := by
    rw [String.toList_ofList, mem_lower_iff (by decide)]
    exact fun member => whole (mem_of_mem_trim member)
  charset_filled name member := (charsetOf name member).1
  charset_trimmed name member := (charsetOf name member).2.1
  charset_whole name member := (charsetOf name member).2.2

theorem isNormal_parse (raw : String) : (parse raw).IsNormal := by
  rcases exists_parts raw with
    ⟨media, rfl, whole⟩ | ⟨media, first, rest, rfl, whole, alsoWhole, ends⟩
  · rw [parse_media whole]
    exact isNormal_of_parts whole nofun
  · rw [parse_parts whole alsoWhole ends]
    apply isNormal_of_parts whole
    intro name read
    rcases of_charsetOf?_eq_some read with ⟨_, filled, trimmed, inside⟩
    exact ⟨filled, trimmed, fun member => alsoWhole (inside ';' member)⟩

theorem isNormal_ofHeader (raw : Option String) : (ofHeader raw).IsNormal := by
  cases raw with
  | none => exact isNormal_parse "text/html"
  | some raw => exact isNormal_parse raw

/-- A content type in normal form is read as itself, unless quotes are part of its charset. -/
theorem parse_render {contentType : ContentType} (normal : contentType.IsNormal)
    (unquoted : ∀ name ∈ contentType.charset, '"' ∉ name.toList ∧ '\'' ∉ name.toList) :
    parse contentType.render = contentType := by
  rcases contentType with ⟨media, charset⟩
  have kept : lower (trim media.toList) = media.toList :=
    (congrArg lower normal.media_trimmed).trans (lower_eq_self normal.media_lower)
  cases charset with
  | none =>
      have read := parse_media normal.media_whole
      rw [kept, String.ofList_toList] at read
      exact read
  | some name =>
      have unmarked : ∀ mark ∈ Charset.marks, mark ∉ name.toList := by
        simp [Charset.marks, normal.charset_whole name rfl, unquoted name rfl]
      have shown : ¬IsBlank name.toList := by
        rw [isBlank_iff_trim_eq_nil, normal.charset_trimmed name rfl]
        exact normal.charset_filled name rfl
      have read := parse_plain normal.media_whole unmarked shown
      rw [kept, normal.charset_trimmed name rfl, String.ofList_toList, String.ofList_toList] at read
      exact read

/-- Content types are read as they are written. A charset parameter that comes first is read as the
charset it names, in any letter case of its key, with any white space around its key and its value,
with either quotes around the name or none, and with anything behind it. What is read from any
header is in normal form and, if no quotes are left in its charset, is read again from what it is
written as. And no parameter but the first one counts. -/
theorem content_types_are_read_as_written :
    (∀ (media rest : List Char) (parameter : CharsetParameter), ';' ∉ media →
      EndsParameter rest →
      ofHeader (some (String.ofList (media ++ ';' :: (parameter.text ++ rest)))) =
        { mediaType := String.ofList (lower (trim media))
          charset := some (String.ofList (trim parameter.name)) }) ∧
    (∀ raw, (ofHeader raw).IsNormal ∧
      ((∀ name ∈ (ofHeader raw).charset, '"' ∉ name.toList ∧ '\'' ∉ name.toList) →
        ofHeader (some (ofHeader raw).render) = ofHeader raw)) ∧
    ∀ media first rest : List Char, ';' ∉ media → ';' ∉ first → EndsParameter rest →
      ¬HasCharsetKey first →
      (ofHeader (some (String.ofList (media ++ ';' :: (first ++ rest))))).charset = none := by
  refine ⟨fun media rest parameter whole ends => ?_, fun raw => ⟨isNormal_ofHeader raw, ?_⟩,
    fun media first rest whole alsoWhole ends unnamed => ?_⟩
  · exact (parse_parts whole parameter.semicolon_not_mem_text ends).trans
      (by rw [charsetOf?_text])
  · exact parse_render (isNormal_ofHeader raw)
  · rw [ofHeader, parse_parts whole alsoWhole ends]
    cases read : charsetOf? first with
    | none => rfl
    | some name => exact absurd (of_charsetOf?_eq_some read).1 unnamed

/-- A parameter with room around all its parts, an unusual key, quotes, and a name that holds an
equals sign. -/
def roomy : CharsetParameter where
  key :=
    { before := ['\t']
      letters := "ChArSeT".toList
      after := [' ']
      before_blank := by simp [IsBlank, isWhiteSpace]
      lower_letters := by decide
      after_blank := by simp [IsBlank, isWhiteSpace] }
  before := [' ']
  quoting := .single
  name := " UTF=8 ".toList
  after := ['\n']
  before_blank := by simp [IsBlank, isWhiteSpace]
  name_unmarked := by simp [Charset.marks]
  name_shown := by simp [IsBlank, isWhiteSpace]
  after_blank := by simp [IsBlank, isWhiteSpace]

theorem content_types_are_read_as_written_roomy :
    ofHeader (some "Text/HTML ;\tChArSeT = ' UTF=8 '\n; q=1; charset=x") =
      { mediaType := "text/html", charset := some "UTF=8" } ∧
    ofHeader (some "text/html; charset=UTF=8") =
      { mediaType := "text/html", charset := some "UTF=8" } ∧
    (ofHeader (some "multipart/form-data; boundary=x; charset=utf-8")).charset = none := by
  rcases content_types_are_read_as_written with ⟨written, normal, others⟩
  have spaced : ofHeader (some "Text/HTML ;\tChArSeT = ' UTF=8 '\n; q=1; charset=x") =
      { mediaType := "text/html", charset := some "UTF=8" } :=
    written "Text/HTML ".toList "; q=1; charset=x".toList roomy (by decide) (.inr ⟨_, rfl⟩)
  have again := (normal (some "Text/HTML ;\tChArSeT = ' UTF=8 '\n; q=1; charset=x")).2
  rw [spaced] at again
  have boundary : ¬HasCharsetKey " boundary=x".toList := by
    intro named
    have cut : cut? '=' " boundary=x".toList = some (" boundary".toList, ['x']) := by decide
    exact absurd (named.sameLetters_of_cut? cut) (by decide)
  exact ⟨spaced, again (by simp),
    others "multipart/form-data".toList " boundary=x".toList "; charset=utf-8".toList (by decide)
      (by decide) (.inr ⟨_, rfl⟩) boundary⟩

end HttpExchange.ContentType
