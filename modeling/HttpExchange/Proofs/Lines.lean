import HttpExchange.Headers
import HttpExchange.Text.Decimal

/-! Lines that end in CR LF: splitting a text into them, and lines that come back as they were when
they were joined. -/

namespace HttpExchange

namespace Text

/-- The parts of a text before, between and behind its line ends, each of which is CR and LF. A CR
or LF on its own is part of a line. -/
def splitLines : List Char → List (List Char)
  | [] => [[]]
  | '\r' :: '\n' :: rest => [] :: splitLines rest
  | character :: rest => (splitLines rest).modifyHead (character :: ·)

def lineEnd : List Char := ['\r', '\n']

theorem exists_splitLines (text : List Char) : ∃ line lines, splitLines text = line :: lines := by
  fun_induction splitLines text with
  | case1 => exact ⟨[], [], rfl⟩
  | case2 rest induction => exact ⟨[], splitLines rest, rfl⟩
  | case3 character rest _ induction =>
      rcases induction with ⟨line, lines, split⟩
      exact ⟨character :: line, lines, by rw [split, List.modifyHead_cons]⟩

/-- Splitting loses nothing. -/
theorem intercalate_splitLines (text : List Char) :
    lineEnd.intercalate (splitLines text) = text := by
  fun_induction splitLines text with
  | case1 => rfl
  | case2 rest induction =>
      rcases exists_splitLines rest with ⟨line, lines, split⟩
      rw [split] at induction ⊢
      rw [List.intercalate_cons_cons, induction]
      rfl
  | case3 character rest _ induction =>
      rcases exists_splitLines rest with ⟨line, lines, split⟩
      rw [split] at induction ⊢
      rw [List.modifyHead_cons]
      cases lines with
      | nil => simpa using induction
      | cons next lines =>
          rw [List.intercalate_cons_cons] at induction ⊢
          simpa using induction

/-- A line end is found wherever it stands, since none can overlap another. -/
theorem splitLines_append_lineEnd (front back : List Char) :
    splitLines (front ++ lineEnd ++ back) = splitLines front ++ splitLines back := by
  fun_induction splitLines front with
  | case1 => rfl
  | case2 rest induction => exact congrArg ([] :: ·) induction
  | case3 character rest notEnd induction =>
      -- A CR at the end of `front` stays on its own: the line end behind it starts with CR.
      have stillNotEnd : ∀ tail, character = '\r' →
          rest ++ lineEnd ++ back = '\n' :: tail → False := by
        intro tail isReturn starts
        cases rest with
        | nil => cases starts
        | cons first rest =>
            cases starts
            exact notEnd _ isReturn rfl
      rcases exists_splitLines rest with ⟨line, lines, split⟩
      rw [List.cons_append, List.cons_append, splitLines.eq_3 _ _ stillNotEnd, induction, split]
      rfl

theorem splitLines_of_no_return {line : List Char} (unbroken : '\r' ∉ line) :
    splitLines line = [line] := by
  induction line with
  | nil => rfl
  | cons character line induction =>
      rw [List.mem_cons, not_or] at unbroken
      have notEnd : ∀ tail, character = '\r' → line = '\n' :: tail → False :=
        fun _ isReturn _ => unbroken.1 isReturn.symm
      rw [splitLines.eq_3 _ _ notEnd, induction unbroken.2]
      rfl

/-- In a text whose only empty lines are the last two parts, an empty line ends the text. -/
theorem emptyLine_only_at_end {text : List Char} {lines : List (List Char)}
    (split : splitLines text = lines ++ [[], []]) (filled : [] ∉ lines) {front back : List Char}
    (shape : text = front ++ lineEnd ++ (lineEnd ++ back)) : back = [] := by
  have parts : lines ++ [[], []] = splitLines front ++ [] :: splitLines back := by
    rw [← split, shape, splitLines_append_lineEnd]
    exact congrArg (splitLines front ++ ·) (splitLines_append_lineEnd [] back)
  have last : splitLines back = [[]] := by
    rcases exists_splitLines back with ⟨line, rest, backSplit⟩
    rw [backSplit] at parts ⊢
    -- The empty part behind `front` is one of the last two, as no part of `lines` is empty.
    rcases List.append_eq_append_iff.mp parts with ⟨between, _, ends⟩ | ⟨between, rfl, ends⟩
    · cases between with
      | nil => exact (List.cons.inj ends).2.symm
      | cons head between =>
          have lengths := congrArg List.length ends
          simp only [List.length_cons, List.length_append, List.length_nil] at lengths
          omega
    · cases between with
      | nil => exact (List.cons.inj ends).2
      | cons head between =>
          cases (List.cons.inj ends).1
          exact absurd (by simp) filled
  rw [← intercalate_splitLines back, last]
  rfl

/-! ## Unbroken texts -/

/-- Text without any CR or LF. -/
def IsUnbroken (text : String) : Prop :=
  '\r' ∉ text.toList ∧ '\n' ∉ text.toList

instance (text : String) : Decidable (IsUnbroken text) :=
  inferInstanceAs (Decidable (_ ∧ _))

theorem isUnbroken_append {left right : String} :
    IsUnbroken (left ++ right) ↔ IsUnbroken left ∧ IsUnbroken right := by
  simp only [IsUnbroken, String.toList_append, List.mem_append, not_or]
  exact and_and_and_comm

/-- A line that something is written on. -/
def IsLine (text : String) : Prop :=
  IsUnbroken text ∧ text ≠ ""

instance (text : String) : Decidable (IsLine text) :=
  inferInstanceAs (Decidable (_ ∧ _))

theorem IsLine.append_right {left right : String} (line : IsLine left)
    (unbroken : IsUnbroken right) : IsLine (left ++ right) :=
  ⟨isUnbroken_append.mpr ⟨line.1, unbroken⟩,
    fun empty => line.2 (String.append_eq_empty_iff.mp empty).1⟩

theorem IsLine.append_left {left right : String} (unbroken : IsUnbroken left)
    (line : IsLine right) : IsLine (left ++ right) :=
  ⟨isUnbroken_append.mpr ⟨unbroken, line.1⟩,
    fun empty => line.2 (String.append_eq_empty_iff.mp empty).2⟩

theorem isUnbroken_toString (number : Nat) : IsUnbroken (toString number) :=
  ⟨fun member => absurd (isDigit_of_mem_toString member) (by decide),
    fun member => absurd (isDigit_of_mem_toString member) (by decide)⟩

end Text

namespace Headers

open Text

theorem exists_joinLines_eq_append {lines : List String} (filled : lines ≠ []) :
    ∃ front, joinLines lines = front ++ "\r\n" := by
  rcases List.eq_nil_or_concat lines with rfl | ⟨front, line, rfl⟩
  · contradiction
  · refine ⟨joinLines front ++ line, ?_⟩
    rw [List.concat_eq_append, joinLines_append, joinLines_cons, joinLines_nil,
      String.append_empty, String.append_assoc]

theorem splitLines_joinLines {lines : List String} (unbroken : ∀ line ∈ lines, IsUnbroken line)
    (rest : List Char) :
    splitLines ((joinLines lines).toList ++ rest) =
      lines.map String.toList ++ splitLines rest := by
  induction lines with
  | nil => rfl
  | cons line lines induction =>
      have first := unbroken line List.mem_cons_self
      have others := induction fun line member => unbroken line (List.mem_cons_of_mem _ member)
      have shape : (joinLines (line :: lines)).toList ++ rest =
          line.toList ++ lineEnd ++ ((joinLines lines).toList ++ rest) := by
        rw [joinLines_cons, String.toList_append, String.toList_append, List.append_assoc]
        rfl
      rw [shape, splitLines_append_lineEnd, splitLines_of_no_return first.1, others]
      rfl

end Headers

end HttpExchange
