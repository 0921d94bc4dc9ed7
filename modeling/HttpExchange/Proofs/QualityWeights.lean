import HttpExchange.Proofs.Rounding
import HttpExchange.Quality
import HttpExchange.Text.Search
import Mathlib.Data.List.TakeWhile

/-! Quality weights. An entry weighs one where it names no weight, otherwise the decimal number that
it names first, and nothing where what stands there is no number. Weights are read as the nearest
numbers of the binary format, which keeps their order, and the strict order of short numerals too.
All of them are numbers, so any two compare. -/

namespace HttpExchange

/-! ## Values that are numbers -/

namespace Binary64.Value

/-- The value is the number nearest to the amount, in steps of 2⁻¹⁰⁷⁴, or infinity where the format
has no number that large. -/
def IsNearestTo (value : Value) (amount : ℚ) : Prop :=
  ∃ steps : Nat, IsNearest (amount * 2 ^ 1074) steps ∧
    value = number (min (Nat.pow 2 (1024 + 1074)) steps : Nat)

theorem number_le_number_iff {left right : Int} : number left ≤ number right ↔ left ≤ right := by
  show (some (compare left right)).any Ordering.isLE = true ↔ left ≤ right
  rw [Option.any_some, Int.isLE_compare]

theorem exists_number {value : Value} (isNumber : value ≠ nan) : ∃ steps, value = number steps := by
  cases value with
  | number steps => exact ⟨steps, rfl⟩
  | nan => exact absurd rfl isNumber

theorem isNearestTo_ofFraction (digits places : Nat) :
    (number (ofFraction digits (10 ^ places))).IsNearestTo ((digits : ℚ) / 10 ^ places) := by
  rcases exists_isNearest_ofFraction digits (Nat.pow_pos (by decide : 0 < 10))
    with ⟨steps, near, is⟩
  rw [Nat.cast_pow, Nat.cast_ofNat] at near
  rw [is, infinity_eq]
  exact ⟨steps, near, rfl⟩

theorem scaled_neg (digits places : Nat) :
    scaled digits (0 - places) = number (ofFraction digits (10 ^ places)) := by
  unfold scaled
  cases places with
  | zero =>
      rw [if_neg (by decide), Nat.pow_zero]
      exact congrArg (number <| ofFraction · 1) (Nat.mul_one digits)
  | succ places => rw [if_pos (by omega), Int.zero_sub, Int.natAbs_neg, Int.natAbs_natCast]; rfl

end Binary64.Value

namespace Quality

/-! ## Numerals of digits and points -/

def IsDigitOrPoint (character : Char) : Prop :=
  character.isDigit = true ∨ character = '.'

instance : DecidablePred IsDigitOrPoint :=
  fun character => inferInstanceAs (Decidable (character.isDigit = true ∨ character = '.'))

/-- What a text of digits with at most one point stands for. -/
inductive IsDecimal : List Char → ℚ → Prop
  | whole {digits : List Char} (filled : digits ≠ [])
      (decimal : ∀ digit ∈ digits, digit.isDigit = true) :
      IsDecimal digits (Nat.ofDigitChars 10 digits 0)
  | pointed {whole fraction : List Char} (filled : whole ++ fraction ≠ [])
      (decimal : ∀ digit ∈ whole ++ fraction, digit.isDigit = true) :
      IsDecimal (whole ++ '.' :: fraction)
        (Nat.ofDigitChars 10 (whole ++ fraction) 0 / 10 ^ fraction.length)

theorem isNumeralCharacter_iff {character : Char} :
    isNumeralCharacter character = true ↔ IsDigitOrPoint character := by
  rw [isNumeralCharacter, Bool.or_eq_true, beq_iff_eq, IsDigitOrPoint]

theorem isNumeralCharacter_eq_false_iff {character : Char} :
    isNumeralCharacter character = false ↔ ¬ IsDigitOrPoint character := by
  rw [← isNumeralCharacter_iff, Bool.not_eq_true]

theorem toLower_of_isDigitOrPoint {character : Char} (shown : IsDigitOrPoint character) :
    character.toLower = character := by
  have small : character.val < 'A'.val := by
    rcases shown with digit | rfl
    · simp only [Char.isDigit, Bool.and_eq_true, decide_eq_true_eq] at digit
      exact UInt32.lt_of_le_of_lt digit.2 (by decide)
    · decide
  exact dif_neg fun upper => UInt32.not_lt.mpr upper.1 small

section

variable {numeral : List Char} (shown : ∀ character ∈ numeral, IsDigitOrPoint character)
include shown

theorem unsigned_of_shown : Text.unsigned numeral = (false, numeral) := by
  unfold Text.unsigned
  split
  · exact absurd (shown '+' List.mem_cons_self) (by decide)
  · exact absurd (shown '-' List.mem_cons_self) (by decide)
  · rfl

theorem ofWord?_of_shown : Binary64.Value.ofWord? numeral = none := by
  have lower : numeral.map Char.toLower = numeral :=
    (List.map_congr_left fun character member =>
      toLower_of_isDigitOrPoint (shown character member)).trans (List.map_id' numeral)
  have other : ∀ word : List Char, 'n' ∈ word → numeral ≠ word := by
    rintro word member rfl
    exact absurd (shown 'n' member) (by decide)
  simp only [Binary64.Value.ofWord?, lower]
  rw [if_neg, if_neg]
  · exact other _ (by decide)
  · rw [not_or]
    exact ⟨other _ (by decide), other _ (by decide)⟩

theorem read?_of_shown : Binary64.Value.read? numeral = Binary64.Value.decimal? numeral := by
  simp only [Binary64.Value.read?, unsigned_of_shown shown, ofWord?_of_shown shown, Option.none_or,
    Bool.false_eq_true, if_false, Option.map_id']

/-- Digits to the end, or up to a first point. -/
theorem digits_or_point :
    (∀ digit ∈ numeral, digit.isDigit = true) ∨ ∃ digits rest, numeral = digits ++ '.' :: rest ∧
      (∀ digit ∈ digits, digit.isDigit = true) ∧ ∀ character ∈ rest, IsDigitOrPoint character := by
  induction numeral with
  | nil => exact .inl (by simp)
  | cons head tail induction =>
      rcases List.forall_mem_cons.mp shown with ⟨digit | rfl, tailShown⟩
      · rcases induction tailShown with digits | ⟨digits, rest, rfl, decimal, restShown⟩
        · exact .inl (List.forall_mem_cons.mpr ⟨digit, digits⟩)
        · exact .inr ⟨head :: digits, rest, rfl, List.forall_mem_cons.mpr ⟨digit, decimal⟩,
            restShown⟩
      · exact .inr ⟨[], tail, rfl, by simp, tailShown⟩

end

theorem span_digits {digits rest : List Char} (decimal : ∀ digit ∈ digits, digit.isDigit = true)
    (ended : ∀ head ∈ rest.head?, head.isDigit = false) :
    (digits ++ rest).span Char.isDigit = (digits, rest) := by
  have stopped : rest.takeWhile Char.isDigit = [] ∧ rest.dropWhile Char.isDigit = rest := by
    cases rest with
    | nil => exact ⟨rfl, rfl⟩
    | cons head rest => simp [ended head rfl]
  rw [List.span_eq_takeWhile_dropWhile, List.takeWhile_append_of_pos decimal,
    List.dropWhile_append_of_pos decimal, stopped.1, stopped.2, List.append_nil]

open Binary64 Binary64.Value in
theorem decimal?_digits {digits : List Char} (filled : digits ≠ [])
    (decimal : ∀ digit ∈ digits, digit.isDigit = true) :
    decimal? digits = some (number (ofFraction (Text.decimalValue digits) 1)) := by
  have run := @span_digits digits [] decimal (by simp)
  rw [List.append_nil] at run
  have noFraction : fraction [] = ([], []) := rfl
  simp only [decimal?, run, noFraction, List.append_nil]
  rw [if_neg (by simp [filled])]
  exact congrArg some (scaled_neg (Text.decimalValue digits) 0)

open Binary64.Value in
theorem decimal?_point {whole digits rest : List Char}
    (wholeDecimal : ∀ digit ∈ whole, digit.isDigit = true)
    (decimal : ∀ digit ∈ digits, digit.isDigit = true)
    (ended : ∀ head ∈ rest.head?, head.isDigit = false) :
    decimal? (whole ++ '.' :: (digits ++ rest)) =
      if whole.isEmpty && digits.isEmpty then none
      else (exponent? rest).map fun exponent =>
        scaled (Text.decimalValue (whole ++ digits)) (exponent - digits.length) := by
  have front := @span_digits whole ('.' :: (digits ++ rest)) wholeDecimal (by simp)
  have back := span_digits decimal ended
  simp only [decimal?, front, fraction, back]

open Binary64 Binary64.Value in
/-- A decimal number is read as the fraction that it is, no part of which is longer than the text. -/
theorem IsDecimal.exists_fraction {numeral : List Char} {amount : ℚ}
    (is : IsDecimal numeral amount) :
    ∃ digits places : Nat, amount = digits / 10 ^ places ∧
      decimal? numeral = some (number (ofFraction digits (10 ^ places))) ∧
      digits < 10 ^ numeral.length ∧ places ≤ numeral.length := by
  cases is with
  | @whole _ filled decimal =>
      refine ⟨Text.decimalValue numeral, 0, ?_, decimal?_digits filled decimal,
        Text.decimalValue_lt decimal, Nat.zero_le _⟩
      rw [pow_zero, div_one]
      rfl
  | @pointed whole fraction filled decimal =>
      rcases List.forall_mem_append.mp decimal with ⟨wholeDecimal, fractionDecimal⟩
      refine ⟨Text.decimalValue (whole ++ fraction), fraction.length, rfl, ?_, ?_, ?_⟩
      · have read := @decimal?_point whole fraction [] wholeDecimal fractionDecimal (by simp)
        rw [List.append_nil, if_neg] at read
        · rw [read]
          exact congrArg some (scaled_neg _ fraction.length)
        · simpa using filled
      · have digits := Text.decimalValue_lt decimal
        refine digits.trans_le (Nat.pow_le_pow_right (by decide) ?_)
        simp
      · simp only [List.length_append, List.length_cons]
        omega

/-- A text has no more than one reading. -/
theorem IsDecimal.unique {numeral : List Char} {amount other : ℚ} (is : IsDecimal numeral amount)
    (isOther : IsDecimal numeral other) : other = amount := by
  cases is with
  | whole _ decimal =>
      cases isOther with
      | whole => rfl
      | pointed => exact absurd (decimal '.' (by simp)) (by decide)
  | @pointed whole fraction _ decimal =>
      have noPoint : '.' ∉ whole := fun member =>
        absurd (decimal '.' (List.mem_append_left _ member)) (by decide)
      generalize shape : whole ++ '.' :: fraction = numeral at isOther
      cases isOther with
      | whole _ otherDecimal => exact absurd (otherDecimal '.' (by simp [← shape])) (by decide)
      | @pointed otherWhole otherFraction _ otherDecimal =>
          have noOtherPoint : '.' ∉ otherWhole := fun member =>
            absurd (otherDecimal '.' (List.mem_append_left _ member)) (by decide)
          have cut := Text.cut?_append_cons noPoint fraction
          rw [shape, Text.cut?_append_cons noOtherPoint] at cut
          cases cut
          rfl

open Binary64 Binary64.Value in
theorem decimal?_eq_none {numeral : List Char}
    (shown : ∀ character ∈ numeral, IsDigitOrPoint character)
    (unread : ∀ amount, ¬ IsDecimal numeral amount) : decimal? numeral = none := by
  rcases digits_or_point shown with decimal | ⟨whole, behind, rfl, wholeDecimal, behindShown⟩
  · by_cases filled : numeral = []
    · rw [filled]
      rfl
    · exact absurd (.whole filled decimal) (unread _)
  · rcases digits_or_point behindShown with decimal | ⟨digits, rest, rfl, decimal, _⟩
    · by_cases filled : whole ++ behind = []
      · rcases List.append_eq_nil_iff.mp filled with ⟨rfl, rfl⟩
        rfl
      · have allDecimal := List.forall_mem_append.mpr ⟨wholeDecimal, decimal⟩
        exact absurd (.pointed filled allDecimal) (unread _)
    · -- A second point begins no exponent.
      have read := @decimal?_point whole digits ('.' :: rest) wholeDecimal decimal (by simp)
      have noExponent : exponent? ('.' :: rest) = none := by
        have point : '.'.toLower ≠ 'e' := by decide
        simp only [exponent?, point, false_and, if_false]
      rw [read, noExponent, Option.map_none, ite_self]

/-! ## The numeral that counts -/

/-- There is a `q=` behind `front` and a digit or a point directly behind that. -/
def MarkedAfter (entry front : List Char) : Prop :=
  ∃ first rest, entry = front ++ 'q' :: '=' :: first :: rest ∧ IsDigitOrPoint first

/-- The first `q=` that has a digit or a point directly behind it is followed by these digits and
points and by no more of them. -/
def Names (entry numeral : List Char) : Prop :=
  ∃ front rest,
    entry = front ++ 'q' :: '=' :: (numeral ++ rest) ∧
    numeral ≠ [] ∧
    (∀ character ∈ numeral, IsDigitOrPoint character) ∧
    (∀ character ∈ rest.head?, ¬ IsDigitOrPoint character) ∧
    ∀ earlier, MarkedAfter entry earlier → front.length ≤ earlier.length

theorem markedAfter_cons {entry front : List Char} (marked : MarkedAfter entry front)
    (head : Char) : MarkedAfter (head :: entry) (head :: front) := by
  rcases marked with ⟨first, rest, rfl, shown⟩
  exact ⟨first, rest, rfl, shown⟩

theorem MarkedAfter.of_cons {head other : Char} {entry front : List Char}
    (marked : MarkedAfter (head :: entry) (other :: front)) : MarkedAfter entry front := by
  rcases marked with ⟨first, rest, shape, shown⟩
  exact ⟨first, rest, (List.cons.inj shape).2, shown⟩

/-- The longest run of digits and points behind a mark. -/
theorem exists_run {first : Char} {rest : List Char} (shown : IsDigitOrPoint first) :
    ∃ numeral behind, first :: rest = numeral ++ behind ∧ numeral ≠ [] ∧
      (∀ character ∈ numeral, IsDigitOrPoint character) ∧
      ∀ character ∈ behind.head?, ¬ IsDigitOrPoint character := by
  have started : isNumeralCharacter first = true := isNumeralCharacter_iff.mpr shown
  refine ⟨_, _, (List.takeWhile_append_dropWhile (p := isNumeralCharacter)).symm, ?_,
    fun character member => isNumeralCharacter_iff.mp (List.mem_takeWhile_imp member),
    fun character member => isNumeralCharacter_eq_false_iff.mp ?_⟩
  · rw [List.takeWhile_cons_of_pos started]
    exact List.cons_ne_nil _ _
  · have ended := List.head?_dropWhile_not isNumeralCharacter (first :: rest)
    rwa [Option.mem_def.mp member] at ended

theorem unmarked_or_names (entry : List Char) :
    (∀ front, ¬ MarkedAfter entry front) ∨ ∃ numeral, Names entry numeral := by
  induction entry with
  | nil =>
      left
      rintro front ⟨first, rest, shape, _⟩
      cases front <;> cases shape
  | cons head tail induction =>
      by_cases marked : MarkedAfter (head :: tail) []
      · rcases marked with ⟨first, rest, shape, shown⟩
        rcases @exists_run _ rest shown with ⟨numeral, behind, run, filled, all, ended⟩
        rw [run] at shape
        exact .inr ⟨numeral, [], behind, shape, filled, all, ended, fun _ _ => Nat.zero_le _⟩
      · rcases induction with unmarked | ⟨numeral, front, behind, rfl, filled, all, ended, first⟩
        · left
          intro front later
          cases front with
          | nil => exact marked later
          | cons other front => exact unmarked front later.of_cons
        · refine .inr ⟨numeral, head :: front, behind, rfl, filled, all, ended, ?_⟩
          intro earlier earlierMarked
          cases earlier with
          | nil => exact absurd earlierMarked marked
          | cons other earlier => exact Nat.succ_le_succ (first _ earlierMarked.of_cons)

theorem numeral?_of_marked {numeral rest : List Char} (filled : numeral ≠ [])
    (shown : ∀ character ∈ numeral, IsDigitOrPoint character)
    (ended : ∀ character ∈ rest.head?, ¬ IsDigitOrPoint character) :
    numeral? ('q' :: '=' :: (numeral ++ rest)) = some numeral := by
  have stopped : rest.takeWhile isNumeralCharacter = [] := by
    cases rest with
    | nil => rfl
    | cons character rest => simp [isNumeralCharacter_eq_false_iff.mpr (ended character rfl)]
  have allShown : ∀ character ∈ numeral, isNumeralCharacter character = true :=
    fun character member => isNumeralCharacter_iff.mpr (shown character member)
  have run : (numeral ++ rest).takeWhile isNumeralCharacter = numeral := by
    rw [List.takeWhile_append_of_pos allShown, stopped, List.append_nil]
  rw [numeral?, run]
  split
  · contradiction
  · rfl

theorem numeral?_cons_of_unmarked {head : Char} {tail : List Char}
    (unmarked : ¬ MarkedAfter (head :: tail) []) : numeral? (head :: tail) = numeral? tail := by
  rw [numeral?.eq_def (head :: tail)]
  split
  · contradiction
  · rename_i rest shape
    cases shape
    split
    · rfl
    · rename_i numeral _
      cases rest with
      | nil => contradiction
      | cons first rest =>
          by_cases shown : isNumeralCharacter first = true
          · exact absurd ⟨first, rest, rfl, isNumeralCharacter_iff.mp shown⟩ unmarked
          · rename_i filled
            exact absurd (List.takeWhile_cons_of_neg shown) filled
  · rename_i shape
    cases shape
    rfl

theorem numeral?_of_names {entry numeral : List Char} (names : Names entry numeral) :
    numeral? entry = some numeral := by
  rcases names with ⟨front, rest, rfl, filled, shown, ended, first⟩
  induction front with
  | nil => exact numeral?_of_marked filled shown ended
  | cons head front induction =>
      rw [List.cons_append, numeral?_cons_of_unmarked]
      · exact induction fun earlier marked =>
          Nat.le_of_succ_le_succ (first _ (markedAfter_cons marked head))
      · intro marked
        cases first [] marked

theorem numeral?_eq_none {entry : List Char} (unmarked : ∀ front, ¬ MarkedAfter entry front) :
    numeral? entry = none := by
  induction entry with
  | nil => rfl
  | cons head tail induction =>
      rw [numeral?_cons_of_unmarked (unmarked [])]
      exact induction fun front marked => unmarked _ (markedAfter_cons marked head)

theorem numeral?_eq_some_iff {entry numeral : List Char} :
    numeral? entry = some numeral ↔ Names entry numeral := by
  refine ⟨fun found => ?_, numeral?_of_names⟩
  rcases unmarked_or_names entry with unmarked | ⟨other, names⟩
  · cases found.symm.trans (numeral?_eq_none unmarked)
  · cases found.symm.trans (numeral?_of_names names)
    exact names

theorem numeral?_eq_none_iff {entry : List Char} :
    numeral? entry = none ↔ ∀ front, ¬ MarkedAfter entry front := by
  refine ⟨fun found => ?_, numeral?_eq_none⟩
  rcases unmarked_or_names entry with unmarked | ⟨numeral, names⟩
  · exact unmarked
  · cases found.symm.trans (numeral?_of_names names)

namespace Names

variable {entry numeral : List Char}

theorem shown (names : Names entry numeral) : ∀ character ∈ numeral, IsDigitOrPoint character := by
  rcases names with ⟨_, _, _, _, shown, _⟩
  exact shown

theorem not_unmarked (names : Names entry numeral) : ¬ ∀ front, ¬ MarkedAfter entry front := by
  intro unmarked
  cases (numeral?_of_names names).symm.trans (numeral?_eq_none unmarked)

theorem unique {other : List Char} (names : Names entry numeral) (namesOther : Names entry other) :
    other = numeral :=
  Option.some.inj ((numeral?_of_names namesOther).symm.trans (numeral?_of_names names))

end Names

/-! ## What entries weigh -/

/-- The weight of an entry as an amount. -/
inductive Weighs (entry : List Char) : ℚ → Prop
  | unnamed (unmarked : ∀ front, ¬ MarkedAfter entry front) : Weighs entry 1
  | named {numeral : List Char} {amount : ℚ} (names : Names entry numeral)
      (is : IsDecimal numeral amount) : Weighs entry amount
  | unreadable {numeral : List Char} (names : Names entry numeral)
      (unread : ∀ amount, ¬ IsDecimal numeral amount) : Weighs entry 0

/-- The entry names its weight in at most fifteen characters, if at all. -/
def IsShort (entry : List Char) : Prop :=
  ∀ numeral, Names entry numeral → numeral.length ≤ 15

instance : DecidablePred IsShort := fun entry =>
  decidable_of_iff (∀ numeral ∈ numeral? entry, numeral.length ≤ 15)
    (forall_congr' fun _ => imp_congr_left numeral?_eq_some_iff)

variable {entry : List Char} {amount : ℚ}

theorem exists_weighs (entry : List Char) : ∃ amount, Weighs entry amount := by
  rcases unmarked_or_names entry with unmarked | ⟨numeral, names⟩
  · exact ⟨1, .unnamed unmarked⟩
  · by_cases readable : ∃ amount, IsDecimal numeral amount
    · rcases readable with ⟨amount, is⟩
      exact ⟨amount, .named names is⟩
    · exact ⟨0, .unreadable names (not_exists.mp readable)⟩

theorem ofEntry_of_names {numeral : List Char} (names : Names entry numeral) :
    ofEntry entry = (Binary64.Value.decimal? numeral).getD .zero := by
  have read : ofEntry entry = ofNumeral numeral := by rw [ofEntry, numeral?_of_names names]
  rw [read, ofNumeral, read?_of_shown names.shown]

open Binary64 Binary64.Value in
/-- The weight is read from the fraction that the entry names, and that is a short one where the
numeral is. -/
theorem Weighs.exists_fraction (weighs : Weighs entry amount) :
    ∃ digits places : Nat, amount = digits / 10 ^ places ∧
      ofEntry entry = number (ofFraction digits (10 ^ places)) ∧
      (IsShort entry → digits < 10 ^ 15 ∧ places ≤ 15) := by
  cases weighs with
  | unnamed unmarked =>
      refine ⟨1, 0, by norm_num, ?_, fun _ => by norm_num⟩
      rw [ofEntry, numeral?_eq_none unmarked]
      rfl
  | @named numeral _ names is =>
      rcases is.exists_fraction with ⟨digits, places, isFraction, read, short, fewPlaces⟩
      refine ⟨digits, places, isFraction, ?_, fun isShort => ?_⟩
      · rw [ofEntry_of_names names, read, Option.getD_some]
      · have length := isShort numeral names
        exact ⟨short.trans_le (Nat.pow_le_pow_right (by decide) length), fewPlaces.trans length⟩
  | @unreadable numeral names unread =>
      have nothing : ofFraction 0 (10 ^ 0) = 0 := by decide +kernel
      refine ⟨0, 0, by norm_num, ?_, fun _ => by norm_num⟩
      rw [ofEntry_of_names names, decimal?_eq_none names.shown unread, nothing]
      rfl

theorem Weighs.unique {other : ℚ} (weighs : Weighs entry amount) (weighsOther : Weighs entry other) :
    other = amount := by
  cases weighs with
  | unnamed unmarked =>
      cases weighsOther with
      | unnamed => rfl
      | named names => exact absurd unmarked names.not_unmarked
      | unreadable names => exact absurd unmarked names.not_unmarked
  | named names is =>
      cases weighsOther with
      | unnamed unmarked => exact absurd unmarked names.not_unmarked
      | named namesOther isOther =>
          cases names.unique namesOther
          exact is.unique isOther
      | unreadable namesOther unread =>
          cases names.unique namesOther
          exact absurd is (unread _)
  | unreadable names unread =>
      cases weighsOther with
      | unnamed unmarked => exact absurd unmarked names.not_unmarked
      | named namesOther isOther =>
          cases names.unique namesOther
          exact absurd isOther (unread _)
      | unreadable => rfl

theorem Weighs.isNearestTo (weighs : Weighs entry amount) : (ofEntry entry).IsNearestTo amount := by
  rcases weighs.exists_fraction with ⟨digits, places, rfl, is, _⟩
  rw [is]
  exact Binary64.Value.isNearestTo_ofFraction digits places

section

variable {first second : List Char} {firstAmount secondAmount : ℚ}
  (firstWeighs : Weighs first firstAmount) (secondWeighs : Weighs second secondAmount)
include firstWeighs secondWeighs

/-- Rounding turns no two weights around. -/
theorem ofEntry_le_ofEntry (ordered : firstAmount ≤ secondAmount) :
    ofEntry first ≤ ofEntry second := by
  rcases firstWeighs.exists_fraction with ⟨digits, places, rfl, is, _⟩
  rcases secondWeighs.exists_fraction with ⟨moreDigits, morePlaces, rfl, isSecond, _⟩
  rw [is, isSecond, Binary64.Value.number_le_number_iff, Int.ofNat_le]
  apply Binary64.ofFraction_le_ofFraction (Nat.pow_pos (by decide)) (Nat.pow_pos (by decide))
  exact_mod_cast ordered

/-- Weights that are named in few characters are not rounded to the same. -/
theorem ofEntry_le_ofEntry_iff (firstShort : IsShort first) (secondShort : IsShort second) :
    ofEntry first ≤ ofEntry second ↔ firstAmount ≤ secondAmount := by
  refine ⟨fun noLess => ?_, ofEntry_le_ofEntry firstWeighs secondWeighs⟩
  rcases firstWeighs.exists_fraction with ⟨digits, places, rfl, is, firstFits⟩
  rcases secondWeighs.exists_fraction with ⟨moreDigits, morePlaces, rfl, isSecond, secondFits⟩
  rw [is, isSecond, Binary64.Value.number_le_number_iff, Int.ofNat_le] at noLess
  by_contra less
  rcases firstFits firstShort with ⟨short, fewPlaces⟩
  rcases secondFits secondShort with ⟨moreShort, moreFewPlaces⟩
  have below := Binary64.ofFraction_lt_ofFraction moreShort short moreFewPlaces fewPlaces
    (not_le.mp less)
  exact absurd noLess (Nat.not_le.mpr below)

end

theorem ofEntry_ne_nan (entry : List Char) : ofEntry entry ≠ .nan := by
  rcases exists_weighs entry with ⟨amount, weighs⟩
  rcases weighs.exists_fraction with ⟨digits, places, _, is, _⟩
  rw [is]
  intro isNan
  cases isNan

end Quality

end HttpExchange
