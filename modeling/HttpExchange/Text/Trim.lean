import HttpExchange.Text.Character
/-!
Text without its outer white space, and comparison up to the case of ASCII letters.
-/

namespace HttpExchange.Text

def trimStart (text : List Char) : List Char :=
  text.dropWhile isWhiteSpace

def trimEnd (text : List Char) : List Char :=
  (text.reverse.dropWhile isWhiteSpace).reverse

def trim (text : List Char) : List Char :=
  trimEnd (trimStart text)

/-- Lower case for ASCII letters; every other character is kept. -/
def lower (text : List Char) : List Char :=
  text.map Char.toLower

/-- Upper case for ASCII letters; every other character is kept. -/
def upper (text : List Char) : List Char :=
  text.map Char.toUpper

/-- Equality up to the case of ASCII letters. -/
def sameLetters (left right : List Char) : Bool :=
  lower left == lower right

@[simp] theorem trim_nil : trim [] = [] := rfl

/-- A text with no white space at its two ends is all that is left of it. -/
theorem trim_eq_self {text : List Char} {first last : Char}
    (starts : text.head? = some first) (firstShown : isWhiteSpace first = false)
    (ends : text.getLast? = some last) (lastShown : isWhiteSpace last = false) :
    trim text = text := by
  have kept : trimStart text = text := by
    cases text with
    | nil => rfl
    | cons head tail =>
        cases starts
        exact List.dropWhile_cons_of_neg (by simp [firstShown])
  rw [trim, kept, trimEnd]
  rw [← List.head?_reverse] at ends
  cases backwards : text.reverse with
  | nil => simp [backwards] at ends
  | cons head tail =>
      rw [backwards] at ends
      cases ends
      rw [List.dropWhile_cons_of_neg (by simp [lastShown]), ← backwards, List.reverse_reverse]

@[simp] theorem lower_nil : lower [] = [] := rfl

@[simp] theorem lower_append (left right : List Char) :
    lower (left ++ right) = lower left ++ lower right := by
  simp [lower]

theorem toLower_toLower (character : Char) : character.toLower.toLower = character.toLower := by
  by_cases upper : 'A'.val ≤ character.val ∧ character.val ≤ 'Z'.val
  · -- A letter in lower case stands behind all that are not.
    have lowered : character.toLower.val = character.val + 32 :=
      congrArg Char.val (dif_pos upper)
    apply dif_neg
    intro again
    have large : 65 ≤ character.val.toNat := UInt32.le_iff_toNat_le.mp upper.1
    have small : character.val.toNat ≤ 90 := UInt32.le_iff_toNat_le.mp upper.2
    have stillSmall : character.toLower.val.toNat ≤ 90 := UInt32.le_iff_toNat_le.mp again.2
    rw [lowered, UInt32.toNat_add] at stillSmall
    have step : (32 : UInt32).toNat = 32 := rfl
    omega
  · have kept : character.toLower = character := dif_neg upper
    rw [kept, kept]

@[simp] theorem lower_lower (text : List Char) : lower (lower text) = lower text := by
  rw [lower, lower, List.map_map]
  exact List.map_congr_left fun character _ => toLower_toLower character

example : trim " a b\t".toList = "a b".toList := by decide
example : sameLetters "On".toList "oN".toList = true := by decide

end HttpExchange.Text
