import HttpExchange.Calendar
import HttpExchange.Text.Decimal
import HttpExchange.Text.Trim
/-!
Dates of header fields. They are written in one form, `Sun, 06 Nov 1994 08:49:37 GMT`, and read
in that form and two older ones, `Sunday, 06-Nov-94 08:49:37 GMT` and
`Sun Nov  6 08:49:37 1994`. A date is a whole second from 1970 to 9999.
-/

namespace HttpExchange.HttpDate

def weekdayNames : List (List Char) :=
  ["Sunday".toList, "Monday".toList, "Tuesday".toList, "Wednesday".toList, "Thursday".toList,
   "Friday".toList, "Saturday".toList]

def shortWeekdayNames : List (List Char) :=
  weekdayNames.map (List.take 3)

def monthNames : List (List Char) :=
  ["Jan".toList, "Feb".toList, "Mar".toList, "Apr".toList, "May".toList, "Jun".toList,
   "Jul".toList, "Aug".toList, "Sep".toList, "Oct".toList, "Nov".toList, "Dec".toList]

/-- The seconds that dates can stand for: those of the calendar's days. -/
def secondCount : Nat := 86400 * Calendar.dayCount

def write (seconds : Nat) : List Char :=
  let dayNumber := seconds / 86400
  let second := seconds % 86400
  let date := Calendar.dateOfDay dayNumber
  shortWeekdayNames.getD (Calendar.weekday dayNumber) [] ++ [',', ' '] ++
    Text.paddedDecimal 2 date.day ++ [' '] ++ monthNames.getD date.month [] ++ [' '] ++
    Text.paddedDecimal 4 date.year ++ [' '] ++ Text.paddedDecimal 2 (second / 3600) ++ [':'] ++
    Text.paddedDecimal 2 (second / 60 % 60) ++ [':'] ++ Text.paddedDecimal 2 (second % 60) ++
    " GMT".toList

/-- The second that the parts of a date stand for, if they agree: the day exists and has that
weekday, and the time is one of a day without leap seconds. -/
def second? (weekday : Nat) (date : Calendar.Date) (hour minute second : Nat) : Option Nat :=
  if date.isValid && Calendar.weekday date.dayNumber == weekday && hour < 24 && minute < 60 &&
      second < 60 then
    some (date.dayNumber * 86400 + hour * 3600 + minute * 60 + second)
  else none

/-- Reads the form that `write` writes. -/
def readFixed? : List Char → Option Nat
  | [w₁, w₂, w₃, ',', ' ', d₁, d₂, ' ', m₁, m₂, m₃, ' ', y₁, y₂, y₃, y₄, ' ', h₁, h₂, ':',
     n₁, n₂, ':', s₁, s₂, ' ', 'G', 'M', 'T'] => do
      let weekday ← shortWeekdayNames.idxOf? [w₁, w₂, w₃]
      let day ← Text.twoDigits? d₁ d₂
      let month ← monthNames.idxOf? [m₁, m₂, m₃]
      let year ← Text.fourDigits? y₁ y₂ y₃ y₄
      let hour ← Text.twoDigits? h₁ h₂
      let minute ← Text.twoDigits? n₁ n₂
      let second ← Text.twoDigits? s₁ s₂
      second? weekday { year, month, day } hour minute second
  | _ => none

/-- The year of two digits: from 1970 to 2069. -/
def centuryYear (year : Nat) : Nat :=
  if year < 70 then 2000 + year else 1900 + year

/-- Reads the form with a full weekday name and a year of two digits. One character, between
the year and the hour, may be anything. -/
def readDashed? (text : List Char) : Option Nat :=
  let name := text.takeWhile (· != ',')
  match text.drop name.length with
  | [',', ' ', d₁, d₂, '-', m₁, m₂, m₃, '-', y₁, y₂, _, h₁, h₂, ':', n₁, n₂, ':', s₁, s₂,
     ' ', 'G', 'M', 'T'] => do
      let weekday ← weekdayNames.idxOf? name
      let day ← Text.twoDigits? d₁ d₂
      let month ← monthNames.idxOf? [m₁, m₂, m₃]
      let year ← Text.twoDigits? y₁ y₂
      let hour ← Text.twoDigits? h₁ h₂
      let minute ← Text.twoDigits? n₁ n₂
      let second ← Text.twoDigits? s₁ s₂
      second? weekday { year := centuryYear year, month, day } hour minute second
  | _ => none

/-- A day of the month whose first digit may be a blank. -/
def blankPadded? (tens units : Char) : Option Nat :=
  Text.twoDigits? (if tens = ' ' then '0' else tens) units

/-- Reads the form in which the year comes last. -/
def readYearLast? : List Char → Option Nat
  | [w₁, w₂, w₃, ' ', m₁, m₂, m₃, ' ', d₁, d₂, ' ', h₁, h₂, ':', n₁, n₂, ':', s₁, s₂, ' ',
     y₁, y₂, y₃, y₄] => do
      let weekday ← shortWeekdayNames.idxOf? [w₁, w₂, w₃]
      let day ← blankPadded? d₁ d₂
      let month ← monthNames.idxOf? [m₁, m₂, m₃]
      let year ← Text.fourDigits? y₁ y₂ y₃ y₄
      let hour ← Text.twoDigits? h₁ h₂
      let minute ← Text.twoDigits? n₁ n₂
      let second ← Text.twoDigits? s₁ s₂
      second? weekday { year, month, day } hour minute second
  | _ => none

/-- The second that a date of any form stands for. White space around it is left out, and a
text with characters outside ASCII is no date. -/
def read? (text : List Char) : Option Nat :=
  if text.all fun character => character.toNat < 0x80 then
    let date := Text.trim text
    (readFixed? date).or ((readDashed? date).or (readYearLast? date))
  else none

end HttpExchange.HttpDate
