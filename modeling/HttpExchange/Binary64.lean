/-!
Non-negative numbers of the binary format with 53 significant bits, as natural numbers of its
smallest steps, 2⁻¹⁰⁷⁴. Numbers too large for the format become infinity, which is above all
others, so the numbers compare as natural numbers do.
-/

namespace HttpExchange.Binary64

/-- Infinity: the first number past the format's largest. -/
def infinity : Nat := Nat.pow 2 (1024 + 1074)

/-- The quotient rounded to the nearest whole number, halves to even. -/
def roundedQuotient (numerator denominator : Nat) : Nat :=
  let quotient := numerator / denominator
  let twice := 2 * (numerator % denominator)
  if twice < denominator then quotient
  else if denominator < twice then quotient + 1
  else quotient + quotient % 2

/-- The fraction rounded to 53 significant bits, in steps. -/
def ofFraction (numerator denominator : Nat) : Nat :=
  let steps := numerator * Nat.pow 2 1074
  let excess := (steps / denominator).log2 + 1 - 53
  min infinity (roundedQuotient steps (denominator * Nat.pow 2 excess) * Nat.pow 2 excess)

example : roundedQuotient 5 2 = 2 := rfl
example : roundedQuotient 7 2 = 4 := rfl
example : ofFraction 10000000000000001 100000000000000000 = ofFraction 1 10 := by
  decide +kernel

end HttpExchange.Binary64
