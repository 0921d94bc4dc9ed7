import HttpExchange.Text.Search

/-! Texts joined by a mark. A part that does not hold the mark is found in the joined text exactly
where it is found in one of the texts. -/

namespace HttpExchange.Text

theorem occurs_iff_isInfix {part text : List Char} : occurs part text = true ↔ part <:+: text := by
  induction text with
  | nil => rw [occurs, List.isEmpty_iff, List.infix_nil]
  | cons head tail induction =>
      rw [occurs, Bool.or_eq_true, List.isPrefixOf_iff_prefix, induction, List.infix_cons_iff]

variable {mark : Char} {part : List Char} (absent : mark ∉ part)

include absent

/-! ## Two texts and a mark between them -/

theorem prefix_append_cons_iff (front back : List Char) :
    part <+: front ++ mark :: back ↔ part <+: front := by
  constructor
  · intro starts
    rcases List.prefix_or_prefix_of_prefix starts (List.prefix_append front _) with within | longer
    · exact within
    · rcases longer with ⟨rest, rfl⟩
      rw [List.prefix_append_right_inj] at starts
      rcases List.prefix_cons_iff.mp starts with rfl | ⟨tail, rfl, _⟩
      · simp
      · exact absurd (by simp) absent
  · exact fun within => within.trans (List.prefix_append front _)

theorem suffix_append_cons_iff (front back : List Char) :
    part <:+ front ++ mark :: back ↔ part <:+ back := by
  have absentReversed : mark ∉ part.reverse := by rwa [List.mem_reverse]
  have reversed := prefix_append_cons_iff absentReversed back.reverse front.reverse
  rwa [← List.reverse_prefix, ← List.reverse_prefix, List.reverse_append, List.reverse_cons,
    List.append_assoc]

theorem infix_append_cons_iff (front back : List Char) :
    part <:+: front ++ mark :: back ↔ part <:+: front ∨ part <:+: back := by
  constructor
  · intro occurring
    rcases List.infix_append_iff.mp occurring with within | after | ⟨left, right, rfl, ends, starts⟩
    · exact .inl within
    · rcases List.infix_cons_iff.mp after with starts | within
      · have empty := (prefix_append_cons_iff absent [] back).mp starts
        exact .inl (empty.trans List.nil_prefix).isInfix
      · exact .inr within
    · rcases List.prefix_cons_iff.mp starts with rfl | ⟨tail, rfl, _⟩
      · exact .inl (by simpa using ends.isInfix)
      · exact absurd (by simp) absent
  · rintro (within | within)
    · exact within.trans (List.prefix_append front _).isInfix
    · exact within.trans ((List.suffix_cons mark back).trans (List.suffix_append front _)).isInfix

/-! ## All joined texts -/

omit absent in
theorem intercalate_cons_cons (text next : List Char) (texts : List (List Char)) :
    [mark].intercalate (text :: next :: texts) =
      text ++ mark :: [mark].intercalate (next :: texts) := by
  rw [List.intercalate_cons_cons, List.append_assoc, List.singleton_append]

variable (filled : part ≠ [])

include filled

theorem prefix_intercalate_iff (texts : List (List Char)) :
    part <+: [mark].intercalate texts ↔ ∃ first ∈ texts.head?, part <+: first := by
  match texts with
  | [] => simp [filled]
  | [text] => simp
  | text :: next :: texts =>
      rw [intercalate_cons_cons, prefix_append_cons_iff absent]
      simp

theorem suffix_intercalate_iff (texts : List (List Char)) :
    part <:+ [mark].intercalate texts ↔ ∃ last ∈ texts.getLast?, part <:+ last := by
  match texts with
  | [] => simp [filled]
  | [text] => simp
  | text :: next :: texts =>
      rw [intercalate_cons_cons, suffix_append_cons_iff absent,
        suffix_intercalate_iff (next :: texts), List.getLast?_cons_cons]

theorem infix_intercalate_iff (texts : List (List Char)) :
    part <:+: [mark].intercalate texts ↔ ∃ text ∈ texts, part <:+: text := by
  match texts with
  | [] => simp [filled]
  | [text] => simp
  | text :: next :: texts =>
      rw [intercalate_cons_cons, infix_append_cons_iff absent,
        infix_intercalate_iff (next :: texts)]
      simp only [List.mem_cons, exists_eq_or_imp]

end HttpExchange.Text
