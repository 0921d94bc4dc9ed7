/-!
Instants as seconds and nanoseconds since 1970-01-01T00:00:00Z. Seconds are negative before
that instant; nanoseconds always count forward.
-/

namespace HttpExchange

structure Instant where
  seconds : Int
  nanoseconds : Fin 1000000000
deriving DecidableEq, Repr

namespace Instant

def ofSeconds (seconds : Int) : Instant where
  seconds := seconds
  nanoseconds := 0

instance : LT Instant where
  lt earlier later :=
    earlier.seconds < later.seconds ∨
      earlier.seconds = later.seconds ∧ earlier.nanoseconds < later.nanoseconds

instance (earlier later : Instant) : Decidable (earlier < later) :=
  inferInstanceAs (Decidable (_ ∨ _))

/-- The instant without its part of a second. Before 1970 an instant is kept as it is: no date
of a header lies there, so it is earlier than all of them either way. -/
def wholeSecond (instant : Instant) : Instant :=
  if 0 ≤ instant.seconds then ofSeconds instant.seconds else instant

end Instant

end HttpExchange
