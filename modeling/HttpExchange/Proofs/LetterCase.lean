import HttpExchange.Proofs.Trimming
import Mathlib

/-! Text in one letter case. Only letters of ASCII are changed, and they become letters, so white space
and marks stay what and where they are. `Spells` says that a text is a given word, however its letters
are written and whatever white space is around it. -/

namespace HttpExchange.Text

/-! ## Characters -/

theorem toLower_eq_self {character : Char} (plain : character.isAlpha = false) :
    character.toLower = character := by
  apply Char.toLower_eq_of_not_isUpper
  intro upper
  rw [Char.isAlpha, upper] at plain
  cases plain

/-- What is no letter stays itself, and no letter becomes it. -/
theorem toLower_eq_iff {character mark : Char} (plain : mark.isAlpha = false) :
    character.toLower = mark ↔ character = mark := by
  constructor
  · intro lowered
    have alsoPlain : character.isAlpha = false := by
      rw [← Char.isAlpha_toLower_eq_isAlpha, lowered, plain]
    exact (toLower_eq_self alsoPlain).symm.trans lowered
  · intro same
    rw [same, toLower_eq_self plain]

theorem isWhiteSpace_of_isAlpha {character : Char} (letter : character.isAlpha = true) :
    isWhiteSpace character = false := by
  have range : 65 ≤ character.toNat ∧ character.toNat ≤ 122 := by
    simp [Char.isAlpha, Char.isUpper, Char.isLower, UInt32.le_iff_toNat_le] at letter
    omega
  simp [isWhiteSpace]
  omega

theorem toUpper_eq_self {character : Char} (plain : character.isAlpha = false) :
    character.toUpper = character := by
  apply Char.toUpper_eq_of_not_isLower
  intro lower
  rw [Char.isAlpha, lower, Bool.or_true] at plain
  cases plain

/-- Changing letters into letters takes no white space away and brings none in. -/
theorem isWhiteSpace_change {change : Char → Char}
    (letters : ∀ character, (change character).isAlpha = character.isAlpha)
    (others : ∀ {character}, character.isAlpha = false → change character = character)
    (character : Char) : isWhiteSpace (change character) = isWhiteSpace character := by
  cases letter : character.isAlpha with
  | false => rw [others letter]
  | true =>
      have changed : (change character).isAlpha = true := (letters character).trans letter
      rw [isWhiteSpace_of_isAlpha changed, isWhiteSpace_of_isAlpha letter]

theorem isWhiteSpace_toLower (character : Char) :
    isWhiteSpace character.toLower = isWhiteSpace character :=
  isWhiteSpace_change Char.isAlpha_toLower_eq_isAlpha toLower_eq_self character

theorem isWhiteSpace_toUpper (character : Char) :
    isWhiteSpace character.toUpper = isWhiteSpace character :=
  isWhiteSpace_change Char.isAlpha_toUpper_eq_isAlpha toUpper_eq_self character

/-! ## Texts -/

theorem trim_map {change : Char → Char}
    (spaces : ∀ character, isWhiteSpace (change character) = isWhiteSpace character)
    (text : List Char) : trim (text.map change) = (trim text).map change := by
  have spaces : isWhiteSpace ∘ change = isWhiteSpace := funext spaces
  rw [trim, trim, trimStart, trimEnd, trimStart, trimEnd, List.dropWhile_map, spaces,
    ← List.map_reverse, List.dropWhile_map, spaces, ← List.map_reverse]

theorem trim_lower (text : List Char) : trim (lower text) = lower (trim text) :=
  trim_map isWhiteSpace_toLower text

theorem trim_upper (text : List Char) : trim (upper text) = upper (trim text) :=
  trim_map isWhiteSpace_toUpper text

theorem mem_lower_iff {mark : Char} (plain : mark.isAlpha = false) {text : List Char} :
    mark ∈ lower text ↔ mark ∈ text := by
  simp only [lower, List.mem_map, toLower_eq_iff plain, exists_eq_right]

theorem isUpper_of_mem_lower {character : Char} {text : List Char}
    (member : character ∈ lower text) : character.isUpper = false := by
  rcases List.mem_map.mp member with ⟨origin, _, rfl⟩
  exact Char.isUpper_toLower_eq_false origin

theorem lower_eq_self {text : List Char}
    (lowered : ∀ character ∈ text, character.isUpper = false) : lower text = text := by
  rw [lower, List.map_congr_left, List.map_id]
  intro character member
  exact Char.toLower_eq_of_not_isUpper (Bool.eq_false_iff.mp (lowered character member))

theorem upper_eq_self {text : List Char}
    (raised : ∀ character ∈ text, character.isLower = false) : upper text = text := by
  rw [upper, List.map_congr_left, List.map_id]
  intro character member
  exact Char.toUpper_eq_of_not_isLower (Bool.eq_false_iff.mp (raised character member))

theorem upper_upper (text : List Char) : upper (upper text) = upper text := by
  apply upper_eq_self
  intro character member
  rcases List.mem_map.mp member with ⟨origin, _, rfl⟩
  exact Char.isLower_toUpper_eq_false origin

/-- Either letter case tells the same texts apart. -/
theorem upper_eq_upper_iff {left right : List Char} :
    upper left = upper right ↔ lower left = lower right := by
  have lowered (text : List Char) : lower (upper text) = lower text := by
    simp [lower, upper, Char.toLower_toUpper_eq_toLower]
  have raised (text : List Char) : upper (lower text) = upper text := by
    simp [lower, upper, Char.toUpper_toLower_eq_toUpper]
  constructor
  · intro same
    rw [← lowered left, same, lowered right]
  · intro same
    rw [← raised left, same, raised right]

/-! ## Words -/

/-- The text is the word, in any letter case and with white space around it. -/
def Spells (word text : String) : Prop :=
  ∃ before letters after, text.toList = before ++ (letters ++ after) ∧ IsBlank before ∧
    IsBlank after ∧ lower letters = lower word.toList

theorem spells_iff {word text : String}
    (shown : ∀ letter ∈ word.toList, isWhiteSpace letter = false) :
    Spells word text ↔ lower (trim text.toList) = lower word.toList := by
  constructor
  · intro spelled
    rcases spelled with ⟨before, letters, after, shape, blankBefore, blankAfter, same⟩
    calc
      lower (trim text.toList)
        = lower (trim letters) := by rw [shape, trim_surrounded blankBefore blankAfter]
      _ = lower (trim word.toList) := by rw [← trim_lower, same, trim_lower]
      _ = lower word.toList := by rw [trim_of_no_space shown]
  · intro same
    rcases exists_surrounding text.toList with ⟨before, after, shape, blankBefore, blankAfter⟩
    exact ⟨before, trim text.toList, after, shape, blankBefore, blankAfter, same⟩

end HttpExchange.Text
