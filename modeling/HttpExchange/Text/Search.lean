/-!
Finding a part of a text: cutting at the first separator, taking off a known start or end,
and asking whether a part occurs at all.
-/

namespace HttpExchange.Text

/-- The text before the first `separator` and the text after it, when there is one. -/
def cut? (separator : Char) : List Char → Option (List Char × List Char)
  | [] => none
  | head :: tail =>
      if head = separator then some ([], tail)
      else (cut? separator tail).map fun (before, after) => (head :: before, after)

/-- The text before the first `separator`, or all of it when there is none. -/
def before (separator : Char) (text : List Char) : List Char :=
  text.takeWhile (· != separator)

/-- What follows `start` in a text that begins with it. -/
def after? : (start : List Char) → List Char → Option (List Char)
  | [], text => some text
  | _ :: _, [] => none
  | expected :: start, head :: tail => if expected = head then after? start tail else none

/-- What comes before `final` in a text that ends with this character. -/
def withoutLast? (final : Char) (text : List Char) : Option (List Char) :=
  match text.getLast? with
  | some last => if last = final then some text.dropLast else none
  | none => none

def occurs (part : List Char) : List Char → Bool
  | [] => part.isEmpty
  | head :: tail => part.isPrefixOf (head :: tail) || occurs part tail

theorem cut?_eq_some {separator : Char} {text front back : List Char}
    (found : cut? separator text = some (front, back)) :
    text = front ++ separator :: back ∧ separator ∉ front := by
  induction text generalizing front with
  | nil => simp [cut?] at found
  | cons head tail induction =>
      by_cases same : head = separator
      · simp [cut?, same] at found
        obtain ⟨rfl, rfl⟩ := found
        simp [same]
      · simp only [cut?, same, if_false, Option.map_eq_some_iff, Prod.exists, Prod.mk.injEq] at found
        obtain ⟨inner, rest, innerFound, rfl, rfl⟩ := found
        obtain ⟨rfl, absent⟩ := induction innerFound
        simp [absent, Ne.symm same]

theorem cut?_append_cons {separator : Char} {front : List Char} (absent : separator ∉ front)
    (back : List Char) : cut? separator (front ++ separator :: back) = some (front, back) := by
  induction front with
  | nil => simp [cut?]
  | cons head tail induction =>
      have other : head ≠ separator := fun same => absent (same ▸ List.mem_cons_self)
      have later := induction fun member => absent (List.mem_cons_of_mem head member)
      rw [List.cons_append, cut?, if_neg other, later, Option.map_some]

theorem after?_eq_some_iff {start text rest : List Char} :
    after? start text = some rest ↔ text = start ++ rest := by
  induction start generalizing text with
  | nil => simp [after?]
  | cons expected start induction =>
      cases text with
      | nil => simp [after?]
      | cons head tail =>
          by_cases same : expected = head
          · simp [after?, same, induction]
          · simp [after?, same, Ne.symm same]

theorem withoutLast?_eq_some_iff {final : Char} {text front : List Char} :
    withoutLast? final text = some front ↔ text = front ++ [final] := by
  rw [withoutLast?]
  constructor
  · intro found
    split at found
    · rename_i last ends
      rcases List.getLast?_eq_some_iff.mp ends with ⟨others, rfl⟩
      by_cases same : last = final
      · rw [if_pos same, List.dropLast_concat] at found
        rw [same, Option.some.inj found]
      · rw [if_neg same] at found
        cases found
    · cases found
  · intro shape
    rw [shape, List.getLast?_concat, List.dropLast_concat]
    exact if_pos rfl

example : cut? '=' "a=b=c".toList = some ("a".toList, "b=c".toList) := by decide
example : after? "Basic ".toList "Basic x".toList = some "x".toList := by decide
example : occurs "b,".toList "a b, c".toList = true := by decide

end HttpExchange.Text
