import HttpExchange.Charset
import HttpExchange.Proofs.LetterCase

/-! Names of charsets as people write them, and how much room text takes in each charset. A name is
known exactly if it is one of a charset's spellings, in any letter case and with white space around
it, and it has no mark in it that would end a header parameter or count as a quote. -/

namespace HttpExchange

namespace Charset

open Text

/-! ## Names -/

/-- The names of a charset, in lower case. -/
def spellings : Charset → List String
  | .utf8 => ["utf-8", "utf8"]
  | .latin1 => ["iso-8859-1", "iso8859-1", "latin1", "latin-1"]
  | .ascii => ["us-ascii", "ascii"]

theorem mem_spellings_of_ofName? {name : String} {charset : Charset}
    (known : ofName? name = some charset) :
    String.ofList (lower (trim name.toList)) ∈ charset.spellings := by
  unfold ofName? at known
  split at known <;> cases known <;> simp_all [spellings]

/-- The name is a spelling of the charset, in any letter case and with white space around it. -/
def IsNamedBy (charset : Charset) (name : String) : Prop :=
  ∃ before written after, name.toList = before ++ (written ++ after) ∧ IsBlank before ∧
    IsBlank after ∧ String.ofList (lower written) ∈ charset.spellings

theorem isWhiteSpace_of_mem_spelling {charset : Charset} {spelling : String}
    (spelled : spelling ∈ charset.spellings) :
    ∀ letter ∈ spelling.toList, isWhiteSpace letter = false := by
  revert spelling
  cases charset <;> simp [spellings, isWhiteSpace]

theorem ofName?_eq_some_iff {name : String} {charset : Charset} :
    ofName? name = some charset ↔ charset.IsNamedBy name := by
  constructor
  · intro known
    rcases exists_surrounding name.toList with ⟨before, after, shape, blankBefore, blankAfter⟩
    exact ⟨before, trim name.toList, after, shape, blankBefore, blankAfter,
      mem_spellings_of_ofName? known⟩
  · intro named
    rcases named with ⟨before, written, after, shape, blankBefore, blankAfter, spelled⟩
    have shown := isWhiteSpace_of_mem_spelling spelled
    rw [String.toList_ofList] at shown
    rw [ofName?, shape, trim_surrounded blankBefore blankAfter, ← trim_lower,
      trim_of_no_space shown]
    generalize String.ofList (lower written) = spelling at spelled
    cases charset <;> simp only [spellings, List.mem_cons, List.not_mem_nil, or_false] at spelled
    case utf8 => rcases spelled with rfl | rfl <;> rfl
    case latin1 => rcases spelled with rfl | rfl | rfl | rfl <;> rfl
    case ascii => rcases spelled with rfl | rfl <;> rfl

theorem ofName?_trim (name : String) :
    ofName? (String.ofList (trim name.toList)) = ofName? name := by
  rw [ofName?, ofName?, String.toList_ofList, trim_trim]

theorem isSupported_iff (name : String) :
    isSupported name = true ↔ ∃ charset, ofName? name = some charset :=
  Option.isSome_iff_exists

theorem ofName?_of_not_isSupported {name : String} (unsupported : ¬isSupported name = true) :
    ofName? name = none := by
  simpa [isSupported] using unsupported

/-- What ends a header parameter, and what quotes its value. -/
def marks : List Char :=
  [';', '"', '\'']

theorem not_mem_trim_of_ofName? {name : String} {charset : Charset}
    (known : ofName? name = some charset) {mark : Char} (isMark : mark ∈ marks) :
    mark ∉ trim name.toList := by
  intro member
  have plain : ∀ spelling ∈ charset.spellings, ∀ mark ∈ marks, mark ∉ spelling.toList := by
    cases charset <;> simp [marks, spellings]
  have letterless : ∀ mark ∈ marks, mark.isAlpha = false := by simp [marks]
  apply plain _ (mem_spellings_of_ofName? known) mark isMark
  rw [String.toList_ofList, mem_lower_iff (letterless mark isMark)]
  exact member

theorem not_mem_of_ofName? {name : String} {charset : Charset}
    (known : ofName? name = some charset) {mark : Char} (isMark : mark ∈ marks) :
    mark ∉ name.toList := by
  intro member
  have shown : ∀ mark ∈ marks, isWhiteSpace mark = false := by simp [marks, isWhiteSpace]
  rcases mem_trim_or_isWhiteSpace member with inside | space
  · exact not_mem_trim_of_ofName? known isMark inside
  · exact absurd space (by simp [shown mark isMark])

theorem trim_ne_nil_of_ofName? {name : String} {charset : Charset}
    (known : ofName? name = some charset) : trim name.toList ≠ [] := by
  intro empty
  have named := mem_spellings_of_ofName? known
  rw [empty] at named
  revert named
  cases charset <;> decide

/-! ## Widths -/

/-- How many octets a text takes: as many as UTF-8 needs, or one for each character. -/
def width : Charset → String → Nat
  | .utf8, text => text.utf8ByteSize
  | .latin1, text => text.length
  | .ascii, text => text.length

theorem length_encode (charset : Charset) (text : String) :
    (charset.encode text).length = charset.width text := by
  cases charset with
  | utf8 =>
      have octets : (text.toList.flatMap String.utf8EncodeChar).toByteArray = text.toByteArray :=
        String.utf8Encode_toList
      rw [width, String.utf8ByteSize, ← octets, List.size_toByteArray]
      rfl
  | latin1 => rw [encode, width, List.length_map, String.length_toList]
  | ascii => rw [encode, width, List.length_map, String.length_toList]

end Charset

end HttpExchange
