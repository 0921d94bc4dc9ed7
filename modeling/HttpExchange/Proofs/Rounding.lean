import HttpExchange.Binary64
import Mathlib.Algebra.Order.Field.Basic
import Mathlib.Data.Nat.Cast.Order.Field
import Mathlib.Data.Rat.Cast.Order
import Mathlib.Tactic.FieldSimp
import Mathlib.Tactic.Linarith
import Mathlib.Tactic.Positivity
import Mathlib.Tactic.Ring

/-! Rounding to 53 significant bits gives the nearest number that has no more of them, and of two
that are equally near the one that ends in an even bit. That leaves one number for every amount, so
rounding keeps the order of amounts. Amounts that are apart by more than the rounding can hide are
still apart behind it. -/

namespace HttpExchange.Binary64

/-! ## What is nearest -/

/-- The number is written with at most `bits` bits and zeros behind them. -/
def HasBits (bits number : Nat) : Prop :=
  ∃ significand places, significand < 2 ^ bits ∧ number = significand * 2 ^ places

/-- No other number of 53 bits is nearer to the amount, and one that is equally near ends in an odd
bit. -/
structure IsNearest (amount : ℚ) (number : Nat) : Prop where
  hasBits : HasBits 53 number
  nearest : ∀ other, HasBits 53 other → |(number : ℚ) - amount| ≤ |(other : ℚ) - amount|
  even_of_tie : ∀ other, HasBits 53 other → other ≠ number →
    |(number : ℚ) - amount| = |(other : ℚ) - amount| → ∃ half, HasBits 52 half ∧ number = 2 * half

theorem hasBits_of_le {bits significand : Nat} (small : significand ≤ 2 ^ bits) (positive : 0 < bits)
    (places : Nat) : HasBits bits (significand * 2 ^ places) := by
  rcases Nat.lt_or_eq_of_le small with below | rfl
  · exact ⟨significand, places, below, rfl⟩
  · exact ⟨1, bits + places, Nat.one_lt_two_pow positive.ne', by rw [Nat.one_mul, Nat.pow_add]⟩

/-- A number of 53 bits fills whole units, unless it lies below all numbers that need units of
this size. -/
theorem HasBits.eq_mul_or_lt {number : Nat} (written : HasBits 53 number) (places : Nat) :
    (∃ units, number = units * 2 ^ places) ∨ number < 2 ^ 52 * 2 ^ places := by
  rcases written with ⟨significand, own, small, rfl⟩
  rcases Nat.lt_or_ge own places with finer | coarser
  · right
    calc
      significand * 2 ^ own < 2 ^ 53 * 2 ^ own := Nat.mul_lt_mul_of_pos_right small (by positivity)
      _ = 2 ^ (52 + (own + 1)) := by rw [← Nat.pow_add]; congr 1; omega
      _ ≤ 2 ^ (52 + places) := Nat.pow_le_pow_right (by decide) (by omega)
      _ = 2 ^ 52 * 2 ^ places := Nat.pow_add _ _ _
  · left
    refine ⟨significand * 2 ^ (own - places), ?_⟩
    rw [Nat.mul_assoc, ← Nat.pow_add, Nat.sub_add_cancel coarser]

namespace IsNearest

variable {amount : ℚ} {number other : Nat}

theorem two_mul_amount_le (near : IsNearest amount number) (written : HasBits 53 other)
    (above : number < other) : 2 * amount ≤ number + other := by
  have noFarther := near.nearest other written
  have apart : (number : ℚ) < other := by exact_mod_cast above
  rcases le_total amount number with low | high
  · linarith
  · rw [abs_of_nonpos (by linarith : (number : ℚ) - amount ≤ 0)] at noFarther
    rcases abs_cases ((other : ℚ) - amount) with ⟨same, _⟩ | ⟨same, _⟩ <;> linarith

theorem le_two_mul_amount (near : IsNearest amount number) (written : HasBits 53 other)
    (below : other < number) : (other : ℚ) + number ≤ 2 * amount := by
  have noFarther := near.nearest other written
  have apart : (other : ℚ) < number := by exact_mod_cast below
  rcases le_total (number : ℚ) amount with high | low
  · linarith
  · rw [abs_of_nonneg (by linarith : (0 : ℚ) ≤ number - amount)] at noFarther
    rcases abs_cases ((other : ℚ) - amount) with ⟨same, _⟩ | ⟨same, _⟩ <;> linarith

/-- Between two numbers that both end in an even bit there is a third one. -/
theorem exists_between {low high : Nat} (lowWritten : HasBits 52 low) (highWritten : HasBits 52 high)
    (apart : low < high) : ∃ middle, HasBits 53 middle ∧ 2 * low < middle ∧ middle < 2 * high := by
  rcases lowWritten with ⟨lowBits, lowPlaces, lowSmall, rfl⟩
  rcases highWritten with ⟨highBits, highPlaces, highSmall, rfl⟩
  rcases Nat.le_total lowPlaces highPlaces with finerLow | finerHigh
  · refine ⟨(2 * lowBits + 1) * 2 ^ lowPlaces, ⟨_, _, by omega, rfl⟩, ?_, ?_⟩
    · have positive : 0 < 2 ^ lowPlaces := by positivity
      linarith
    · have fills : highBits * 2 ^ highPlaces =
          highBits * 2 ^ (highPlaces - lowPlaces) * 2 ^ lowPlaces := by
        rw [Nat.mul_assoc, ← Nat.pow_add, Nat.sub_add_cancel finerLow]
      rw [fills] at apart ⊢
      have next := Nat.lt_of_mul_lt_mul_right apart
      calc
        (2 * lowBits + 1) * 2 ^ lowPlaces
          < 2 * (highBits * 2 ^ (highPlaces - lowPlaces)) * 2 ^ lowPlaces :=
            Nat.mul_lt_mul_of_pos_right (by omega) (by positivity)
        _ = 2 * (highBits * 2 ^ (highPlaces - lowPlaces) * 2 ^ lowPlaces) := Nat.mul_assoc _ _ _
  · have fills : lowBits * 2 ^ lowPlaces =
        lowBits * 2 ^ (lowPlaces - highPlaces) * 2 ^ highPlaces := by
      rw [Nat.mul_assoc, ← Nat.pow_add, Nat.sub_add_cancel finerHigh]
    rw [fills] at apart ⊢
    have next := Nat.lt_of_mul_lt_mul_right apart
    refine ⟨(2 * highBits - 1) * 2 ^ highPlaces, ⟨_, _, by omega, rfl⟩, ?_, ?_⟩
    · calc
        2 * (lowBits * 2 ^ (lowPlaces - highPlaces) * 2 ^ highPlaces)
          = 2 * (lowBits * 2 ^ (lowPlaces - highPlaces)) * 2 ^ highPlaces :=
            (Nat.mul_assoc _ _ _).symm
        _ < (2 * highBits - 1) * 2 ^ highPlaces :=
            Nat.mul_lt_mul_of_pos_right (by omega) (by positivity)
    · calc
        (2 * highBits - 1) * 2 ^ highPlaces < 2 * highBits * 2 ^ highPlaces :=
            Nat.mul_lt_mul_of_pos_right (by omega) (by positivity)
        _ = 2 * (highBits * 2 ^ highPlaces) := Nat.mul_assoc _ _ _

theorem not_lt (near : IsNearest amount number) (otherNear : IsNearest amount other) :
    ¬ number < other := by
  intro apart
  have middle : 2 * amount = number + other :=
    le_antisymm (near.two_mul_amount_le otherNear.hasBits apart)
      (otherNear.le_two_mul_amount near.hasBits apart)
  have tie : |(number : ℚ) - amount| = |(other : ℚ) - amount| :=
    le_antisymm (near.nearest other otherNear.hasBits) (otherNear.nearest number near.hasBits)
  rcases near.even_of_tie other otherNear.hasBits apart.ne' tie with ⟨half, written, rfl⟩
  rcases otherNear.even_of_tie _ near.hasBits apart.ne tie.symm with ⟨otherHalf, otherWritten, rfl⟩
  rcases exists_between written otherWritten (by omega) with ⟨between, betweenWritten, above, below⟩
  have noMore := near.two_mul_amount_le betweenWritten above
  have less : (between : ℚ) < (2 * otherHalf : Nat) := by exact_mod_cast below
  linarith

/-- Every amount has one nearest number at most. -/
theorem eq (near : IsNearest amount number) (otherNear : IsNearest amount other) :
    number = other :=
  Nat.le_antisymm (Nat.not_lt.mp (otherNear.not_lt near)) (Nat.not_lt.mp (near.not_lt otherNear))

theorem le_of_le {amount larger : ℚ} (near : IsNearest amount number)
    (largerNear : IsNearest larger other) (ordered : amount ≤ larger) : number ≤ other := by
  by_contra swapped
  have below : other < number := Nat.not_le.mp swapped
  have low := near.le_two_mul_amount largerNear.hasBits below
  have high := largerNear.two_mul_amount_le near.hasBits below
  have same : amount = larger := le_antisymm ordered (by linarith)
  cases same
  exact swapped (near.eq largerNear).le

end IsNearest

/-! ## Quotients -/

theorem roundedQuotient_cases (numerator denominator : Nat) :
    let quotient := numerator / denominator
    let twice := 2 * (numerator % denominator)
    twice < denominator ∧ roundedQuotient numerator denominator = quotient ∨
    denominator < twice ∧ roundedQuotient numerator denominator = quotient + 1 ∨
    twice = denominator ∧ roundedQuotient numerator denominator = quotient + quotient % 2 := by
  unfold roundedQuotient
  dsimp only
  split
  · exact .inl ⟨‹_›, rfl⟩
  · split
    · exact .inr (.inl ⟨‹_›, rfl⟩)
    · exact .inr (.inr ⟨by omega, rfl⟩)

theorem roundedQuotient_le_quotient_succ (numerator denominator : Nat) :
    roundedQuotient numerator denominator ≤ numerator / denominator + 1 := by
  rcases roundedQuotient_cases numerator denominator with ⟨_, is⟩ | ⟨_, is⟩ | ⟨_, is⟩ <;>
    rw [is] <;> omega

variable {numerator denominator : Nat}

theorem cast_div_eq_add (positive : 0 < denominator) :
    (numerator : ℚ) / denominator =
      (numerator / denominator : Nat) + ((numerator % denominator : Nat) : ℚ) / denominator := by
  have nonzero : (denominator : ℚ) ≠ 0 := by exact_mod_cast positive.ne'
  have parts : (denominator : ℚ) * (numerator / denominator : Nat) +
      (numerator % denominator : Nat) = numerator := by
    exact_mod_cast Nat.div_add_mod numerator denominator
  rw [div_eq_iff nonzero, add_mul, div_mul_cancel₀ _ nonzero, ← parts]
  ring

/-- A quotient moves by half at most, and by half only to an even number. -/
theorem abs_roundedQuotient_sub_le (numerator : Nat) (positive : 0 < denominator) :
    |(roundedQuotient numerator denominator : ℚ) - numerator / denominator| ≤ 1 / 2 ∧
      (|(roundedQuotient numerator denominator : ℚ) - numerator / denominator| = 1 / 2 →
        2 ∣ roundedQuotient numerator denominator) := by
  have positiveRat : (0 : ℚ) < denominator := by exact_mod_cast positive
  have remainder := Nat.mod_lt numerator positive
  rw [cast_div_eq_add positive]
  generalize quotientIs : numerator / denominator = quotient
  generalize remainderIs : numerator % denominator = rest at remainder
  have restNonneg : (0 : ℚ) ≤ rest / denominator := by positivity
  have restLess : (rest : ℚ) / denominator < 1 := by
    rw [div_lt_one positiveRat]
    exact_mod_cast remainder
  rcases roundedQuotient_cases numerator denominator with ⟨side, is⟩ | ⟨side, is⟩ | ⟨side, is⟩
  all_goals
    rw [quotientIs] at is
    rw [remainderIs] at side
    rw [is]
  · have small : (rest : ℚ) / denominator < 1 / 2 := by
      rw [div_lt_div_iff₀ positiveRat two_pos]
      exact_mod_cast (by omega : rest * 2 < 1 * denominator)
    rw [sub_add_cancel_left, abs_neg, abs_of_nonneg restNonneg]
    exact ⟨small.le, fun tie => absurd tie small.ne⟩
  · have large : (1 : ℚ) / 2 < rest / denominator := by
      rw [div_lt_div_iff₀ two_pos positiveRat]
      exact_mod_cast (by omega : 1 * denominator < rest * 2)
    have moved : ((quotient + 1 : Nat) : ℚ) - (quotient + rest / denominator) =
        1 - rest / denominator := by
      push_cast
      ring
    rw [moved, abs_of_nonneg (by linarith)]
    exact ⟨by linarith, fun tie => absurd tie (by linarith)⟩
  · have half : (rest : ℚ) / denominator = 1 / 2 := by
      rw [div_eq_div_iff positiveRat.ne' two_ne_zero]
      exact_mod_cast (by omega : rest * 2 = 1 * denominator)
    refine ⟨?_, fun _ => by omega⟩
    rw [half]
    rcases Nat.mod_two_eq_zero_or_one quotient with even | odd
    · rw [even, Nat.add_zero, sub_add_cancel_left, abs_neg, abs_of_nonneg (by norm_num)]
    · rw [odd, Nat.cast_add, Nat.cast_one, add_sub_add_left_eq_sub, abs_of_nonneg] <;> norm_num

/-- Another whole number is half away at least. -/
theorem half_le_abs_sub {other : Nat} (positive : 0 < denominator)
    (differs : other ≠ roundedQuotient numerator denominator) :
    1 / 2 ≤ |(other : ℚ) - numerator / denominator| := by
  have moved := (abs_roundedQuotient_sub_le numerator positive).1
  have apart : (1 : ℚ) ≤ |(other : ℚ) - roundedQuotient numerator denominator| := by
    have wholeApart : 1 ≤ |(other : ℤ) - roundedQuotient numerator denominator| :=
      Int.one_le_abs (by omega)
    exact_mod_cast wholeApart
  have detour := abs_sub_le (other : ℚ) (numerator / denominator)
    (roundedQuotient numerator denominator)
  rw [abs_sub_comm ((numerator : ℚ) / denominator)] at detour
  linarith

/-! ## Quotients of 53 bits -/

/-- The last places of a whole number that are too many for 53 bits. -/
structure IsExcess (number places : Nat) : Prop where
  enough : number < 2 ^ (53 + places)
  needed : places = 0 ∨ 2 ^ (52 + places) ≤ number

theorem isExcess_log2 (number : Nat) : IsExcess number (number.log2 + 1 - 53) where
  enough := Nat.lt_of_lt_of_le Nat.lt_log2_self (Nat.pow_le_pow_right (by decide) (by omega))
  needed := by
    rcases Nat.eq_zero_or_pos (number.log2 + 1 - 53) with none | some
    · exact .inl none
    · right
      have present : number ≠ 0 := by
        rintro rfl
        simp at some
      have same : 52 + (number.log2 + 1 - 53) = number.log2 := by omega
      rw [same]
      exact Nat.log2_self_le present

/-- The quotient in units of `places` further bits, rounded to whole ones. -/
def roundedUnits (numerator denominator places : Nat) : Nat :=
  roundedQuotient numerator (denominator * 2 ^ places) * 2 ^ places

theorem abs_units_sub (positive : 0 < denominator) (units places : Nat) :
    |((units * 2 ^ places : Nat) : ℚ) - numerator / denominator| =
      2 ^ places * |(units : ℚ) - numerator / (denominator * 2 ^ places : Nat)| := by
  have nonzero : (denominator : ℚ) ≠ 0 := by exact_mod_cast positive.ne'
  have unit : (0 : ℚ) < 2 ^ places := by positivity
  calc
    |((units * 2 ^ places : Nat) : ℚ) - numerator / denominator|
      = |2 ^ places * ((units : ℚ) - numerator / (denominator * 2 ^ places : Nat))| := by
        congr 1
        push_cast
        field_simp
    _ = 2 ^ places * |(units : ℚ) - numerator / (denominator * 2 ^ places : Nat)| := by
        rw [abs_mul, abs_of_pos unit]

theorem abs_roundedUnits_sub_le (positive : 0 < denominator) (places : Nat) :
    |(roundedUnits numerator denominator places : ℚ) - numerator / denominator| ≤
      2 ^ places * (1 / 2) := by
  have unit : (0 : ℚ) < 2 ^ places := by positivity
  have filled : 0 < denominator * 2 ^ places := Nat.mul_pos positive (by positivity)
  rw [roundedUnits, abs_units_sub positive]
  exact mul_le_mul_of_nonneg_left (abs_roundedQuotient_sub_le numerator filled).1 unit.le

/-- No other number of whole units is nearer, and one that is as near has a part in an even one. -/
theorem abs_roundedUnits_sub_le_units (numerator : Nat) (positive : 0 < denominator)
    (units places : Nat) :
    |(roundedUnits numerator denominator places : ℚ) - numerator / denominator| ≤
      |((units * 2 ^ places : Nat) : ℚ) - numerator / denominator| ∧
    (units * 2 ^ places ≠ roundedUnits numerator denominator places →
      |(roundedUnits numerator denominator places : ℚ) - numerator / denominator| =
        |((units * 2 ^ places : Nat) : ℚ) - numerator / denominator| →
      2 ∣ roundedQuotient numerator (denominator * 2 ^ places)) := by
  have unit : (0 : ℚ) < 2 ^ places := by positivity
  have filled : 0 < denominator * 2 ^ places := Nat.mul_pos positive (by positivity)
  rcases abs_roundedQuotient_sub_le numerator filled with ⟨moved, even⟩
  rw [roundedUnits, abs_units_sub positive, abs_units_sub positive, mul_le_mul_iff_right₀ unit]
  by_cases same : units = roundedQuotient numerator (denominator * 2 ^ places)
  · rw [same]
    exact ⟨le_rfl, fun differs => absurd rfl differs⟩
  · have away := half_le_abs_sub filled same
    refine ⟨moved.trans away, fun _ tie => even (le_antisymm moved ?_)⟩
    rwa [mul_left_cancel₀ unit.ne' tie]

variable {places : Nat}

theorem roundedQuotient_le_two_pow (excess : IsExcess (numerator / denominator) places) :
    roundedQuotient numerator (denominator * 2 ^ places) ≤ 2 ^ 53 := by
  have short : numerator / (denominator * 2 ^ places) < 2 ^ 53 := by
    rw [← Nat.div_div_eq_div_mul, Nat.div_lt_iff_lt_mul (by positivity), ← Nat.pow_add]
    exact excess.enough
  have next := roundedQuotient_le_quotient_succ numerator (denominator * 2 ^ places)
  omega

/-- Numbers below all that need units of this size are farther away than the rounded one. -/
theorem abs_roundedUnits_sub_lt (positive : 0 < denominator)
    (large : 2 ^ (52 + places) ≤ numerator / denominator) {other : Nat}
    (below : other < 2 ^ 52 * 2 ^ places) :
    |(roundedUnits numerator denominator places : ℚ) - numerator / denominator| <
      |(other : ℚ) - numerator / denominator| := by
  have bottom : ((2 ^ 52 * 2 ^ places : Nat) : ℚ) ≤ numerator / denominator := by
    rw [← Nat.pow_add]
    exact (Nat.cast_le.mpr large).trans Nat.cast_div_le
  have noFarther := (abs_roundedUnits_sub_le_units numerator positive (2 ^ 52) places).1
  generalize 2 ^ 52 * 2 ^ places = least at below bottom noFarther
  have apart : (other : ℚ) < least := by exact_mod_cast below
  refine noFarther.trans_lt ?_
  rw [abs_of_nonpos (by linarith), abs_of_nonpos (by linarith)]
  linarith

theorem isNearest_roundedUnits (positive : 0 < denominator)
    (excess : IsExcess (numerator / denominator) places) :
    IsNearest ((numerator : ℚ) / denominator) (roundedUnits numerator denominator places) := by
  have small := roundedQuotient_le_two_pow excess
  have unitsOrFarther : ∀ other, HasBits 53 other → (∃ units, other = units * 2 ^ places) ∨
      |(roundedUnits numerator denominator places : ℚ) - numerator / denominator| <
        |(other : ℚ) - numerator / denominator| := by
    intro other written
    rcases excess.needed with rfl | large
    · exact .inl ⟨other, by rw [Nat.pow_zero, Nat.mul_one]⟩
    · exact (written.eq_mul_or_lt places).imp_right (abs_roundedUnits_sub_lt positive large)
  constructor
  · exact hasBits_of_le small (by decide) places
  · intro other written
    rcases unitsOrFarther other written with ⟨units, rfl⟩ | farther
    · exact (abs_roundedUnits_sub_le_units numerator positive units places).1
    · exact farther.le
  · intro other written differs tie
    rcases unitsOrFarther other written with ⟨units, rfl⟩ | farther
    · rcases (abs_roundedUnits_sub_le_units numerator positive units places).2 differs tie
        with ⟨half, is⟩
      have halfSmall : half ≤ 2 ^ 52 := by omega
      exact ⟨_, hasBits_of_le halfSmall (by decide) places,
        by rw [roundedUnits, is, Nat.mul_assoc]⟩
    · exact absurd tie farther.ne

theorem exists_eq_div {amount : ℚ} (nonneg : 0 ≤ amount) :
    ∃ numerator denominator : Nat, 0 < denominator ∧ amount = numerator / denominator := by
  refine ⟨amount.num.toNat, amount.den, amount.den_pos, ?_⟩
  have whole : ((amount.num.toNat : Nat) : ℚ) = amount.num := by
    exact_mod_cast Int.toNat_of_nonneg (Rat.num_nonneg.mpr nonneg)
  rw [whole, Rat.num_div_den]

/-- Rounding moves nothing but what is tiny by more than a small part of it. -/
theorem IsNearest.abs_sub_le {amount : ℚ} {number : Nat} (near : IsNearest amount number)
    (large : amount = 0 ∨ 2 ^ 53 ≤ amount) : |(number : ℚ) - amount| ≤ amount / 2 ^ 53 := by
  rcases large with rfl | large
  · simpa using near.nearest 0 ⟨0, 0, by decide, rfl⟩
  have nonneg : 0 ≤ amount := le_trans (by positivity) large
  rcases exists_eq_div nonneg with ⟨numerator, denominator, positive, rfl⟩
  have excess := isExcess_log2 (numerator / denominator)
  generalize (numerator / denominator).log2 + 1 - 53 = places at excess
  have filled : 2 ^ 53 ≤ numerator / denominator := by
    have positiveRat : (0 : ℚ) < denominator := by exact_mod_cast positive
    rw [le_div_iff₀ positiveRat] at large
    rw [Nat.le_div_iff_mul_le positive]
    exact_mod_cast large
  have unit : (2 : ℚ) ^ places * 2 ^ 52 ≤ numerator / denominator := by
    rcases excess.needed with rfl | needed
    · exact absurd excess.enough (Nat.not_lt.mpr filled)
    · rw [← pow_add, Nat.add_comm]
      exact_mod_cast (Nat.cast_le (α := ℚ).mpr needed).trans Nat.cast_div_le
  rw [near.eq (isNearest_roundedUnits positive excess)]
  refine (abs_roundedUnits_sub_le positive places).trans ?_
  rw [le_div_iff₀ (by positivity)]
  linarith

/-- Rounding keeps amounts apart that differ by a 10¹⁵th part. -/
theorem IsNearest.lt_of_apart {amount larger : ℚ} {number other : Nat}
    (near : IsNearest amount number) (largerNear : IsNearest larger other)
    (large : amount = 0 ∨ 2 ^ 53 ≤ amount) (largerLarge : 2 ^ 53 ≤ larger)
    (apart : amount + amount / 10 ^ 15 < larger) : number < other := by
  have high := (abs_le.mp (near.abs_sub_le large)).2
  have low := (abs_le.mp (largerNear.abs_sub_le (.inr largerLarge))).1
  have nonneg : 0 ≤ amount := by rcases large with rfl | large <;> linarith
  have below : (number : ℚ) < other := by linarith
  exact_mod_cast below

/-! ## Fractions -/

/-- The quotient rounded to 53 bits. -/
def rounded (numerator denominator : Nat) : Nat :=
  roundedUnits numerator denominator ((numerator / denominator).log2 + 1 - 53)

theorem isNearest_rounded (numerator places : Nat) (positive : 0 < denominator) :
    IsNearest ((numerator : ℚ) / denominator * 2 ^ places)
      (rounded (numerator * Nat.pow 2 places) denominator) := by
  have near := isNearest_roundedUnits positive
    (isExcess_log2 (numerator * Nat.pow 2 places / denominator))
  rwa [Nat.pow_eq, Nat.cast_mul, Nat.cast_pow, Nat.cast_ofNat, ← div_mul_eq_mul_div] at near

theorem ofFraction_eq_min_rounded (numerator denominator : Nat) :
    ofFraction numerator denominator =
      min infinity (rounded (numerator * Nat.pow 2 1074) denominator) := rfl

/-- The nearest number of steps, or infinity where the format has no number that large. -/
theorem exists_isNearest_ofFraction (numerator : Nat) (positive : 0 < denominator) :
    ∃ number, IsNearest ((numerator : ℚ) / denominator * 2 ^ 1074) number ∧
      ofFraction numerator denominator = min infinity number := by
  -- Said for any number of places, so that the large power is not evaluated.
  have nearest : ∀ {places value}, value = min infinity (rounded (numerator * Nat.pow 2 places)
      denominator) → ∃ number, IsNearest ((numerator : ℚ) / denominator * 2 ^ places) number ∧
        value = min infinity number :=
    fun is => ⟨_, isNearest_rounded numerator _ positive, is⟩
  have found := nearest (ofFraction_eq_min_rounded numerator denominator)
  exact found

theorem ofFraction_le_ofFraction {other otherDenominator : Nat} (positive : 0 < denominator)
    (otherPositive : 0 < otherDenominator)
    (ordered : (numerator : ℚ) / denominator ≤ other / otherDenominator) :
    ofFraction numerator denominator ≤ ofFraction other otherDenominator := by
  rcases exists_isNearest_ofFraction numerator positive with ⟨number, near, is⟩
  rcases exists_isNearest_ofFraction other otherPositive
    with ⟨larger, largerNear, isLarger⟩
  rw [is, isLarger]
  have scaled : (0 : ℚ) ≤ 2 ^ 1074 := by positivity
  have below := near.le_of_le largerNear (mul_le_mul_of_nonneg_right ordered scaled)
  exact min_le_min_left infinity below

/-! ## Short decimal fractions -/

variable {digits moreDigits places morePlaces : Nat}

theorem decimal_eq_div {common : Nat} (fewer : places ≤ common) :
    (digits : ℚ) / 10 ^ places = (digits * 10 ^ (common - places) : Nat) / 10 ^ common := by
  rcases Nat.exists_eq_add_of_le fewer with ⟨further, rfl⟩
  rw [Nat.add_sub_cancel_left, pow_add]
  push_cast
  field_simp

/-- Two short fractions are at least one of their last places apart, and that is a larger part than
the 10¹⁵th. -/
theorem decimal_add_part_lt (short : digits < 10 ^ 15) (moreShort : moreDigits < 10 ^ 15)
    (less : (digits : ℚ) / 10 ^ places < moreDigits / 10 ^ morePlaces) :
    (digits : ℚ) / 10 ^ places + digits / 10 ^ places / 10 ^ 15 < moreDigits / 10 ^ morePlaces := by
  generalize commonIs : max places morePlaces = common
  have unit : (0 : ℚ) < 10 ^ common := by positivity
  have fewer : places ≤ common := commonIs ▸ Nat.le_max_left _ _
  have moreFewer : morePlaces ≤ common := commonIs ▸ Nat.le_max_right _ _
  have gap : (digits : ℚ) / 10 ^ places + 1 / 10 ^ common ≤ moreDigits / 10 ^ morePlaces := by
    rw [decimal_eq_div fewer, decimal_eq_div moreFewer, div_lt_div_iff_of_pos_right unit] at less
    rw [decimal_eq_div fewer, decimal_eq_div moreFewer, ← add_div,
      div_le_div_iff_of_pos_right unit]
    exact_mod_cast less
  have part : (digits : ℚ) / 10 ^ places < 10 ^ 15 / 10 ^ common := by
    rcases max_choice places morePlaces with isFirst | isSecond
    · rw [← commonIs, isFirst, div_lt_div_iff_of_pos_right (by positivity)]
      exact_mod_cast short
    · refine less.trans ?_
      rw [← commonIs, isSecond, div_lt_div_iff_of_pos_right (by positivity)]
      exact_mod_cast moreShort
  have small : (digits : ℚ) / 10 ^ places / 10 ^ 15 < 1 / 10 ^ common := by
    rw [div_lt_iff₀ (by positivity), div_mul_eq_mul_div, one_mul]
    exact part
  linarith

theorem two_pow_le_decimal (some : 0 < digits) (fewPlaces : places ≤ 15) :
    2 ^ 53 ≤ (digits : ℚ) / 10 ^ places * 2 ^ 1074 := by
  have one : (1 : ℚ) ≤ digits := by exact_mod_cast some
  have scale : (10 : ℚ) ^ places ≤ 10 ^ 15 := pow_le_pow_right₀ (by norm_num) fewPlaces
  have steps : (2 : ℚ) ^ 103 ≤ 2 ^ 1074 := pow_le_pow_right₀ (by norm_num) (by norm_num)
  rw [div_mul_eq_mul_div, le_div_iff₀ (by positivity)]
  calc
    (2 : ℚ) ^ 53 * 10 ^ places ≤ 2 ^ 53 * 10 ^ 15 := by gcongr
    _ ≤ 1 * 2 ^ 103 := by norm_num
    _ ≤ digits * 2 ^ 1074 := by gcongr

theorem decimal_eq_zero_or_large (fewPlaces : places ≤ 15) :
    (digits : ℚ) / 10 ^ places * 2 ^ 1074 = 0 ∨ 2 ^ 53 ≤ (digits : ℚ) / 10 ^ places * 2 ^ 1074 := by
  rcases Nat.eq_zero_or_pos digits with rfl | some
  · left
    rw [Nat.cast_zero, zero_div, zero_mul]
  · exact .inr (two_pow_le_decimal some fewPlaces)

theorem cast_two_pow_add (places others : Nat) :
    ((Nat.pow 2 (places + others) : Nat) : ℚ) = 2 ^ places * 2 ^ others := by
  rw [Nat.pow_eq, Nat.cast_pow, Nat.cast_ofNat, pow_add]

theorem infinity_eq : infinity = Nat.pow 2 (1024 + 1074) := by
  decide +kernel

theorem cast_infinity : (infinity : ℚ) = 2 ^ 1024 * 2 ^ 1074 := by
  rw [← cast_two_pow_add, ← infinity_eq]

/-- Short fractions are far from what the format cannot hold. -/
theorem lt_infinity {number : Nat} (short : digits < 10 ^ 15) (fewPlaces : places ≤ 15)
    (near : IsNearest ((digits : ℚ) / 10 ^ places * 2 ^ 1074) number) : number < infinity := by
  have moved := (abs_le.mp (near.abs_sub_le (decimal_eq_zero_or_large fewPlaces))).2
  have amount : (digits : ℚ) / 10 ^ places ≤ 2 ^ 50 := by
    have shortRat : (digits : ℚ) ≤ 10 ^ 15 := by exact_mod_cast short.le
    have whole : (1 : ℚ) ≤ 10 ^ places := one_le_pow₀ (by norm_num)
    exact (div_le_self (by positivity) whole).trans (shortRat.trans (by norm_num))
  have room : (2 : ℚ) ^ 51 ≤ 2 ^ 1024 := pow_le_pow_right₀ (by norm_num) (by norm_num)
  have scaled : (0 : ℚ) < 2 ^ 1074 := by positivity
  have below : (number : ℚ) < infinity := by
    rw [cast_infinity]
    generalize (2 : ℚ) ^ 1024 = largest at room
    generalize (2 : ℚ) ^ 1074 = steps at moved scaled
    have fits := mul_le_mul_of_nonneg_right amount scaled.le
    have fitsTwice := mul_le_mul_of_nonneg_right room scaled.le
    linarith
  exact_mod_cast below

theorem pos_of_decimal_lt
    (less : (digits : ℚ) / 10 ^ places < moreDigits / 10 ^ morePlaces) : 0 < moreDigits := by
  have positive := (by positivity : (0 : ℚ) ≤ digits / 10 ^ places).trans_lt less
  rw [lt_div_iff₀ (by positivity), zero_mul] at positive
  exact_mod_cast positive

/-- Fractions of at most fifteen digits keep their strict order. -/
theorem ofFraction_lt_ofFraction (short : digits < 10 ^ 15) (moreShort : moreDigits < 10 ^ 15)
    (fewPlaces : places ≤ 15) (moreFewPlaces : morePlaces ≤ 15)
    (less : (digits : ℚ) / 10 ^ places < moreDigits / 10 ^ morePlaces) :
    ofFraction digits (10 ^ places) < ofFraction moreDigits (10 ^ morePlaces) := by
  have scaled : (0 : ℚ) < 2 ^ 1074 := by positivity
  have apart := mul_lt_mul_of_pos_right (decimal_add_part_lt short moreShort less) scaled
  rw [add_mul, div_mul_eq_mul_div _ ((10 : ℚ) ^ 15)] at apart
  rcases exists_isNearest_ofFraction digits (Nat.pow_pos (by decide : 0 < 10))
    with ⟨number, near, is⟩
  rcases exists_isNearest_ofFraction moreDigits (Nat.pow_pos (by decide : 0 < 10))
    with ⟨larger, largerNear, isLarger⟩
  rw [Nat.cast_pow, Nat.cast_ofNat] at near largerNear
  have below := near.lt_of_apart largerNear (decimal_eq_zero_or_large fewPlaces)
    (two_pow_le_decimal (pos_of_decimal_lt less) moreFewPlaces) apart
  have finite := lt_infinity short fewPlaces near
  rw [is, isLarger]
  generalize infinity = bound at finite
  omega

end HttpExchange.Binary64
