/-!
The calendar from 1970 to 9999. A day number counts from 1970-01-01. Years, and the months of a
year, are consecutive spans of days, and finding the year or the month of a day is finding the
span that it falls into.
-/

namespace HttpExchange.Calendar

/-- Finds the span that an offset falls into when spans of these lengths follow each other:
the number of spans before it, and the offset inside it. -/
def locateSpan : (lengths : List Nat) → (offset : Nat) → Nat × Nat
  | [], offset => (0, offset)
  | length :: rest, offset =>
      if offset < length then (0, offset)
      else
        let (index, inside) := locateSpan rest (offset - length)
        (index + 1, inside)

/-- The offset at which the span of this index starts. -/
def spanStart (lengths : List Nat) (index : Nat) : Nat :=
  (lengths.take index).foldr (· + ·) 0

def firstYear : Nat := 1970

def lastYear : Nat := 9999

def isLeapYear (year : Nat) : Bool :=
  year % 4 == 0 && (year % 100 != 0 || year % 400 == 0)

def yearLength (year : Nat) : Nat :=
  if isLeapYear year then 366 else 365

def yearLengths : List Nat :=
  (List.range (lastYear + 1 - firstYear)).map fun index => yearLength (firstYear + index)

def monthLengths (year : Nat) : List Nat :=
  [31, if isLeapYear year then 29 else 28, 31, 30, 31, 30, 31, 31, 30, 31, 30, 31]

/-- A day by its year, its month from 0 for January, and its day from 1. -/
structure Date where
  year : Nat
  month : Nat
  day : Nat
deriving DecidableEq, Repr

def dateOfDay (dayNumber : Nat) : Date :=
  let (yearIndex, dayOfYear) := locateSpan yearLengths dayNumber
  let year := firstYear + yearIndex
  let (month, dayOfMonth) := locateSpan (monthLengths year) dayOfYear
  { year, month, day := dayOfMonth + 1 }

def Date.dayNumber (date : Date) : Nat :=
  spanStart yearLengths (date.year - firstYear) +
    spanStart (monthLengths date.year) date.month + (date.day - 1)

/-- Whether the date is one of the calendar's days. -/
def Date.isValid (date : Date) : Bool :=
  firstYear ≤ date.year && date.year ≤ lastYear && 1 ≤ date.day &&
    date.day ≤ (monthLengths date.year).getD date.month 0

/-- The weekday of a day, from 0 for Sunday. The first day was a Thursday. -/
def weekday (dayNumber : Nat) : Nat :=
  (dayNumber + 4) % 7

def dayCount : Nat := 2932897

example : dateOfDay 11016 = { year := 2000, month := 1, day := 29 } := by decide +kernel
example : Date.dayNumber { year := 9999, month := 11, day := 31 } + 1 = dayCount := by
  decide +kernel

end HttpExchange.Calendar
