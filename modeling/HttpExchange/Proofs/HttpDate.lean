import HttpExchange.HttpDate
import HttpExchange.Proofs.Calendar

/-! Dates of header fields survive being written and read: a reader of dates gives back the very
second that a writer has put down, for every second from 1970 to the end of 9999. -/

namespace HttpExchange.HttpDate

/-! ## Names -/

theorem eq_three_of_length {α : Type} {list : List α} (length : list.length = 3) :
    ∃ first second third, list = [first, second, third] := by
  match list, length with
  | [first, second, third], _ => exact ⟨first, second, third, rfl⟩

/-- The three letters of a weekday are found again at their own place. -/
theorem idxOf?_shortWeekdayNames : ∀ weekday < 7,
    (shortWeekdayNames.getD weekday []).length = 3 ∧
      shortWeekdayNames.idxOf? (shortWeekdayNames.getD weekday []) = some weekday := by
  decide

theorem idxOf?_monthNames : ∀ month < 12,
    (monthNames.getD month []).length = 3 ∧
      monthNames.idxOf? (monthNames.getD month []) = some month := by
  decide

theorem weekday_lt (dayNumber : Nat) : Calendar.weekday dayNumber < 7 :=
  Nat.mod_lt _ (by decide)

/-! ## Characters

A reader of dates refuses characters outside ASCII and drops white space at the ends, so neither
may occur in what is written. -/

def isAscii (character : Char) : Bool :=
  character.toNat < 0x80

theorem all_isAscii_weekday : ∀ weekday < 7,
    (shortWeekdayNames.getD weekday []).all isAscii = true := by
  decide

theorem head?_weekday : ∀ weekday < 7,
    ∃ letter, (shortWeekdayNames.getD weekday []).head? = some letter ∧
      Text.isWhiteSpace letter = false := by
  intro weekday bound
  have shown : ∀ weekday < 7,
      (shortWeekdayNames.getD weekday []).head?.any (!Text.isWhiteSpace ·) = true := by
    decide
  rcases (Option.any_eq_true _ _).mp (shown weekday bound) with ⟨letter, head, visible⟩
  exact ⟨letter, head, by simpa using visible⟩

theorem all_isAscii_month : ∀ month < 12, (monthNames.getD month []).all isAscii = true := by
  decide

theorem all_isAscii_paddedDecimal (width number : Nat) :
    (Text.paddedDecimal width number).all isAscii = true := by
  rw [List.all_eq_true]
  intro character member
  have digit := Char.isDigit_iff_toNat.mp (Text.isDigit_of_mem_paddedDecimal member)
  have nine : '9'.toNat < 0x80 := by decide
  exact decide_eq_true (Nat.lt_of_le_of_lt digit.2 nine)

theorem dayNumber_lt {seconds : Nat} (bound : seconds < secondCount) :
    seconds / 86400 < Calendar.dayCount :=
  Nat.div_lt_of_lt_mul bound

theorem all_isAscii_write {seconds : Nat} (bound : seconds < secondCount) :
    (write seconds).all isAscii = true := by
  have inYear := (Calendar.dateOfDay_bounds (dayNumber_lt bound)).2.2.1
  simp only [write, List.all_append, all_isAscii_weekday _ (weekday_lt _),
    all_isAscii_month _ inYear, all_isAscii_paddedDecimal]
  decide

theorem head?_write (seconds : Nat) :
    (write seconds).head? =
      (shortWeekdayNames.getD (Calendar.weekday (seconds / 86400)) []).head? := by
  rcases head?_weekday _ (weekday_lt (seconds / 86400)) with ⟨letter, head, _⟩
  simp only [write, List.append_assoc, List.head?_append, head, Option.some_or]

theorem getLast?_write (seconds : Nat) : (write seconds).getLast? = some 'T' := by
  rw [write, List.getLast?_append]
  rfl

theorem trim_write (seconds : Nat) : Text.trim (write seconds) = write seconds := by
  rcases head?_weekday _ (weekday_lt (seconds / 86400)) with ⟨letter, head, visible⟩
  have starts := (head?_write seconds).trans head
  exact Text.trim_eq_self starts visible (getLast?_write seconds) (by decide)

/-! ## Reading what was written -/

/-- The date and the weekday of a day in the calendar agree, so with any time of the day they
stand for a second. -/
theorem second?_dateOfDay {dayNumber hour minute second : Nat}
    (bound : dayNumber < Calendar.dayCount) (hourBound : hour < 24) (minuteBound : minute < 60)
    (secondBound : second < 60) :
    second? (Calendar.weekday dayNumber) (Calendar.dateOfDay dayNumber) hour minute second =
      some (dayNumber * 86400 + hour * 3600 + minute * 60 + second) := by
  simp [second?, Calendar.isValid_dateOfDay bound, Calendar.dayNumber_dateOfDay, hourBound,
    minuteBound, secondBound]

theorem readFixed?_write {seconds : Nat} (bound : seconds < secondCount) :
    readFixed? (write seconds) = some seconds := by
  have dayBound := dayNumber_lt bound
  rcases Calendar.dateOfDay_bounds dayBound with ⟨_, toLastYear, monthBound, _, dayInMonth⟩
  have dayShort : (Calendar.dateOfDay (seconds / 86400)).day < 100 :=
    Nat.lt_of_le_of_lt (Nat.le_trans dayInMonth (Calendar.monthLengths_le _ _)) (by decide)
  have yearShort : (Calendar.dateOfDay (seconds / 86400)).year < 10000 :=
    Nat.lt_succ_of_le toLastYear
  have hourBound : seconds % 86400 / 3600 < 24 := by omega
  have minuteBound : seconds % 86400 / 60 % 60 < 60 := by omega
  have secondBound : seconds % 86400 % 60 < 60 := by omega
  -- Every part has its fixed width, so the text is a list of 29 known places.
  rcases idxOf?_shortWeekdayNames _ (weekday_lt (seconds / 86400)) with
    ⟨weekdayLength, weekdayFound⟩
  rcases eq_three_of_length weekdayLength with ⟨w₁, w₂, w₃, weekdayShape⟩
  rcases idxOf?_monthNames _ monthBound with ⟨monthLength, monthFound⟩
  rcases eq_three_of_length monthLength with ⟨m₁, m₂, m₃, monthShape⟩
  rcases Text.twoDigits?_of_paddedDecimal dayShort with ⟨d₁, d₂, dayShape, dayRead⟩
  rcases Text.fourDigits?_of_paddedDecimal yearShort with ⟨y₁, y₂, y₃, y₄, yearShape, yearRead⟩
  rcases Text.twoDigits?_of_paddedDecimal (Nat.lt_trans hourBound (by decide)) with
    ⟨h₁, h₂, hourShape, hourRead⟩
  rcases Text.twoDigits?_of_paddedDecimal (Nat.lt_trans minuteBound (by decide)) with
    ⟨n₁, n₂, minuteShape, minuteRead⟩
  rcases Text.twoDigits?_of_paddedDecimal (Nat.lt_trans secondBound (by decide)) with
    ⟨s₁, s₂, secondShape, secondRead⟩
  have shape : write seconds =
      [w₁, w₂, w₃, ',', ' ', d₁, d₂, ' ', m₁, m₂, m₃, ' ', y₁, y₂, y₃, y₄, ' ', h₁, h₂, ':',
        n₁, n₂, ':', s₁, s₂, ' ', 'G', 'M', 'T'] := by
    simp only [write, weekdayShape, monthShape, dayShape, yearShape, hourShape, minuteShape,
      secondShape]
    rfl
  rw [weekdayShape] at weekdayFound
  rw [monthShape] at monthFound
  rw [shape]
  simp only [readFixed?, weekdayFound, dayRead, monthFound, yearRead, hourRead, minuteRead,
    secondRead, Option.bind_eq_bind, Option.bind_some]
  have total := second?_dateOfDay dayBound hourBound minuteBound secondBound
  -- Comparing dates part by part must not set about computing one.
  generalize Calendar.dateOfDay (seconds / 86400) = date at total ⊢
  exact total.trans (congrArg some (by omega))

/-- Reading inverts writing on all the seconds that a date can show. -/
theorem read?_write {seconds : Nat} (bound : seconds < secondCount) :
    read? (write seconds) = some seconds := by
  have ascii : ((write seconds).all fun character => character.toNat < 0x80) = true :=
    all_isAscii_write bound
  rw [read?, if_pos ascii, trim_write]
  simp only [readFixed?_write bound, Option.some_or]

end HttpExchange.HttpDate
