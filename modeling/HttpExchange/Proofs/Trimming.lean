import HttpExchange.Text.Search
import HttpExchange.Text.Trim
import Mathlib.Data.List.DropRight

/-! Taking off outer white space: nothing else is lost by it, doing it twice changes nothing more,
it takes off whatever white space is put around a text, and it may be left out before a text is cut,
if it is done to the part that remains. -/

namespace HttpExchange.Text

/-- Text that is nothing but white space. -/
def IsBlank (text : List Char) : Prop :=
  ∀ character ∈ text, isWhiteSpace character = true

theorem trimStart_eq_self_of_prefix {text front : List Char} (starts : front <+: trimStart text) :
    trimStart front = front := by
  rw [trimStart, List.dropWhile_eq_self_iff]
  intro filled
  have kept : trimStart (trimStart text) = trimStart text := List.dropWhile_idempotent _ _
  rw [trimStart, List.dropWhile_eq_self_iff] at kept
  rw [starts.getElem filled]
  exact kept (Nat.lt_of_lt_of_le filled starts.length_le)

/-- A text without its outer white space has no more of it to lose. -/
theorem trim_trim (text : List Char) : trim (trim text) = trim text := by
  have inside : trim text <+: trimStart text := List.rdropWhile_prefix isWhiteSpace _
  rw [trim, trimStart_eq_self_of_prefix inside]
  exact List.rdropWhile_idempotent isWhiteSpace (trimStart text)

/-- Only white space is taken off. -/
theorem mem_trim_or_isWhiteSpace {text : List Char} {character : Char}
    (member : character ∈ text) : character ∈ trim text ∨ isWhiteSpace character = true := by
  have start : text.takeWhile isWhiteSpace ++ trimStart text = text :=
    List.takeWhile_append_dropWhile
  have final : trim text ++ (trimStart text).rtakeWhile isWhiteSpace = trimStart text :=
    List.rdropWhile_append_rtakeWhile
  rw [← start, ← final, List.mem_append, List.mem_append] at member
  rcases member with space | shown | space
  · exact .inr (List.mem_takeWhile_imp space)
  · exact .inl shown
  · exact .inr (List.mem_rtakeWhile_imp space)

/-- A text without any white space is all that is left of it. -/
theorem trim_of_no_space {text : List Char}
    (shown : ∀ character ∈ text, isWhiteSpace character = false) : trim text = text := by
  cases starts : text.head? with
  | none => rw [List.head?_eq_none_iff.mp starts, trim_nil]
  | some first =>
      cases ends : text.getLast? with
      | none => rw [List.getLast?_eq_none_iff.mp ends, trim_nil]
      | some last =>
          exact trim_eq_self starts (shown first (List.mem_of_mem_head? starts)) ends
            (shown last (List.mem_of_mem_getLast? ends))

/-! ## Surrounding white space -/

theorem trimEnd_append_space {text space : List Char} (blank : IsBlank space) :
    trimEnd (text ++ space) = trimEnd text := by
  rw [trimEnd, trimEnd, List.reverse_append, List.dropWhile_append_of_pos]
  exact fun character member => blank character (List.mem_reverse.mp member)

theorem trim_of_isBlank {text : List Char} (blank : IsBlank text) : trim text = [] := by
  have gone : trimStart text = [] := List.dropWhile_eq_nil_iff.mpr blank
  rw [trim, gone]
  rfl

theorem isBlank_iff_trim_eq_nil {text : List Char} : IsBlank text ↔ trim text = [] := by
  constructor
  · exact trim_of_isBlank
  · intro gone character member
    rcases mem_trim_or_isWhiteSpace member with inside | space
    · rw [gone] at inside
      cases inside
    · exact space

/-- White space around a text is taken off with the text's own. -/
theorem trim_surrounded {before after : List Char} (blankBefore : IsBlank before)
    (blankAfter : IsBlank after) (text : List Char) :
    trim (before ++ (text ++ after)) = trim text := by
  have started : trimStart (before ++ (text ++ after)) = trimStart (text ++ after) :=
    List.dropWhile_append_of_pos blankBefore
  by_cases blank : IsBlank text
  · have all : IsBlank (text ++ after) := fun character member =>
      (List.mem_append.mp member).elim (blank character) (blankAfter character)
    rw [trim, started, ← trim, trim_of_isBlank all, trim_of_isBlank blank]
  · have shown : trimStart (text ++ after) = trimStart text ++ after := by
      rw [trimStart, List.dropWhile_append, if_neg]
      · rfl
      · rw [List.isEmpty_iff, List.dropWhile_eq_nil_iff]
        exact blank
    rw [trim, started, shown, trimEnd_append_space blankAfter, trim]

theorem exists_surrounding (text : List Char) :
    ∃ before after, text = before ++ (trim text ++ after) ∧ IsBlank before ∧ IsBlank after := by
  have start : text.takeWhile isWhiteSpace ++ trimStart text = text :=
    List.takeWhile_append_dropWhile
  have final : trim text ++ (trimStart text).rtakeWhile isWhiteSpace = trimStart text :=
    List.rdropWhile_append_rtakeWhile
  refine ⟨text.takeWhile isWhiteSpace, (trimStart text).rtakeWhile isWhiteSpace, ?_,
    fun character => List.mem_takeWhile_imp, fun character => List.mem_rtakeWhile_imp⟩
  rw [final, start]

theorem mem_of_mem_trim {text : List Char} {character : Char} (member : character ∈ trim text) :
    character ∈ text := by
  rcases exists_surrounding text with ⟨before, after, shape, _⟩
  rw [shape]
  exact List.mem_append_right _ (List.mem_append_left _ member)

/-! ## Cutting and trimming -/

theorem before_of_not_mem {mark : Char} {text : List Char} (absent : mark ∉ text) :
    before mark text = text := by
  rw [before, List.takeWhile_eq_self_iff]
  intro character member
  exact bne_iff_ne.mpr fun same => absent (same ▸ member)

theorem before_append_cons {mark : Char} {front : List Char} (absent : mark ∉ front)
    (rest : List Char) : before mark (front ++ mark :: rest) = front := by
  have kept : ∀ character ∈ front, (character != mark) = true :=
    fun character member => bne_iff_ne.mpr fun same => absent (same ▸ member)
  rw [before, List.takeWhile_append_of_pos kept, List.takeWhile_cons_of_neg (by simp),
    List.append_nil]

variable {mark : Char} (visible : isWhiteSpace mark = false)

include visible

theorem IsBlank.not_mem {space : List Char} (blank : IsBlank space) : mark ∉ space := by
  intro member
  cases (blank mark member).symm.trans visible

theorem trimStart_before (text : List Char) :
    trimStart (before mark text) = before mark (trimStart text) := by
  have parted : text.takeWhile isWhiteSpace ++ trimStart text = text :=
    List.takeWhile_append_dropWhile
  have blank : IsBlank (text.takeWhile isWhiteSpace) :=
    fun character member => List.mem_takeWhile_imp member
  have unmarked : ∀ character ∈ text.takeWhile isWhiteSpace, (character != mark) = true :=
    fun character member => bne_iff_ne.mpr fun same =>
      blank.not_mem visible (same ▸ member)
  have inside : before mark (trimStart text) <+: trimStart text := List.takeWhile_prefix _
  calc
    trimStart (before mark text)
      = trimStart (before mark (text.takeWhile isWhiteSpace ++ trimStart text)) := by rw [parted]
    _ = trimStart (text.takeWhile isWhiteSpace ++ before mark (trimStart text)) := by
      rw [before, List.takeWhile_append_of_pos unmarked, before]
    _ = trimStart (before mark (trimStart text)) := List.dropWhile_append_of_pos blank
    _ = before mark (trimStart text) := trimStart_eq_self_of_prefix inside

theorem trimEnd_before_trimEnd (text : List Char) :
    trimEnd (before mark (trimEnd text)) = trimEnd (before mark text) := by
  have parted : trimEnd text ++ text.rtakeWhile isWhiteSpace = text :=
    List.rdropWhile_append_rtakeWhile
  have blank : IsBlank (text.rtakeWhile isWhiteSpace) :=
    fun character member => List.mem_rtakeWhile_imp member
  generalize text.rtakeWhile isWhiteSpace = space at parted blank
  generalize trimEnd text = front at parted ⊢
  subst parted
  by_cases marked : mark ∈ front
  · rcases List.eq_append_cons_of_mem marked with ⟨start, rest, rfl, absent⟩
    rw [List.append_assoc, List.cons_append, before_append_cons absent, before_append_cons absent]
  · have unmarked : mark ∉ front ++ space := by
      rw [List.mem_append]
      exact not_or.mpr ⟨marked, blank.not_mem visible⟩
    rw [before_of_not_mem marked, before_of_not_mem unmarked, trimEnd_append_space blank]

/-- White space around a text makes no difference to the part before a mark, once that is
trimmed. -/
theorem trim_before_trim (text : List Char) :
    trim (before mark (trim text)) = trim (before mark text) := by
  have inside : trim text <+: trimStart text := List.rdropWhile_prefix isWhiteSpace _
  calc
    trim (before mark (trim text))
      = trimEnd (before mark (trim text)) := by
      rw [trim, trimStart_before visible, trimStart_eq_self_of_prefix inside]
    _ = trimEnd (before mark (trimStart text)) := trimEnd_before_trimEnd visible _
    _ = trim (before mark text) := by rw [trim, trimStart_before visible]

end HttpExchange.Text
