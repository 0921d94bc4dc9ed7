import HttpExchange.Calendar
import Mathlib.Algebra.GroupWithZero.Nat
import Mathlib.Data.List.GetD

/-! The calendar counts without gaps: every day number up to the end of the year 9999 has a date,
and that date has this day number. Both rest on the one fact about consecutive spans: the place
that is located for an offset lies inside its span and starts where the spans before it end. -/

namespace HttpExchange.Calendar

/-! ## Consecutive spans -/

theorem spanStart_locateSpan (lengths : List Nat) (offset : Nat) :
    spanStart lengths (locateSpan lengths offset).1 + (locateSpan lengths offset).2 =
      offset := by
  induction lengths generalizing offset with
  | nil => simp [locateSpan, spanStart]
  | cons length rest induction =>
      by_cases inside : offset < length
      · simp [locateSpan, spanStart, inside]
      · have later := induction (offset - length)
        simp only [locateSpan, if_neg inside, spanStart, List.take_succ_cons,
          List.foldr_cons] at later ⊢
        omega

/-- An offset short of the end of the last span is located inside one of them. -/
theorem locateSpan_lt (lengths : List Nat) (offset : Nat) (within : offset < lengths.sum) :
    (locateSpan lengths offset).1 < lengths.length ∧
      (locateSpan lengths offset).2 < lengths.getD (locateSpan lengths offset).1 0 := by
  induction lengths generalizing offset with
  | nil => simp at within
  | cons length rest induction =>
      by_cases inside : offset < length
      · simp [locateSpan, inside]
      · rw [List.sum_cons] at within
        have later := induction (offset - length) (by omega)
        simp only [locateSpan, if_neg inside, List.length_cons, List.getD_cons_succ]
        exact ⟨Nat.succ_lt_succ later.1, later.2⟩

/-! ## Years and months -/

theorem length_yearLengths : yearLengths.length = lastYear + 1 - firstYear := by
  rw [yearLengths, List.length_map, List.length_range]

theorem getD_yearLengths {index : Nat} (inside : index < yearLengths.length) :
    yearLengths.getD index 0 = yearLength (firstYear + index) := by
  rw [List.getD_eq_getElem _ _ inside]
  simp only [yearLengths, List.getElem_map, List.getElem_range]

theorem sum_yearLengths : yearLengths.sum = dayCount := by decide +kernel

theorem sum_monthLengths (year : Nat) : (monthLengths year).sum = yearLength year := by
  cases leap : isLeapYear year <;> simp [monthLengths, yearLength, leap]

theorem monthLengths_le (year month : Nat) : (monthLengths year).getD month 0 ≤ 31 := by
  by_cases inside : month < (monthLengths year).length
  · have member : (monthLengths year)[month] ∈ monthLengths year := List.getElem_mem inside
    have bounded : ∀ length ∈ monthLengths year, length ≤ 31 := by
      cases leap : isLeapYear year <;> simp [monthLengths, leap]
    rw [List.getD_eq_getElem _ _ inside]
    exact bounded _ member
  · rw [List.getD_eq_default _ _ (Nat.le_of_not_lt inside)]
    omega

/-! ## Days and dates -/

theorem dayNumber_dateOfDay (dayNumber : Nat) : (dateOfDay dayNumber).dayNumber = dayNumber := by
  have yearFound := spanStart_locateSpan yearLengths dayNumber
  have monthFound := spanStart_locateSpan
    (monthLengths (firstYear + (locateSpan yearLengths dayNumber).1))
    (locateSpan yearLengths dayNumber).2
  simp only [dateOfDay, Date.dayNumber, Nat.add_sub_cancel_left, Nat.add_sub_cancel]
  omega

theorem dateOfDay_bounds {dayNumber : Nat} (bound : dayNumber < dayCount) :
    firstYear ≤ (dateOfDay dayNumber).year ∧ (dateOfDay dayNumber).year ≤ lastYear ∧
      (dateOfDay dayNumber).month < 12 ∧ 1 ≤ (dateOfDay dayNumber).day ∧
      (dateOfDay dayNumber).day ≤
        (monthLengths (dateOfDay dayNumber).year).getD (dateOfDay dayNumber).month 0 := by
  rw [← sum_yearLengths] at bound
  have yearFound := locateSpan_lt yearLengths dayNumber bound
  have dayOfYear := yearFound.2
  rw [getD_yearLengths yearFound.1, ← sum_monthLengths] at dayOfYear
  have monthFound := locateSpan_lt _ _ dayOfYear
  have yearIndex := yearFound.1
  rw [length_yearLengths] at yearIndex
  simp only [dateOfDay]
  refine ⟨by omega, ?_, monthFound.1, by omega, monthFound.2⟩
  simp only [firstYear, lastYear] at yearIndex ⊢
  omega

theorem isValid_dateOfDay {dayNumber : Nat} (bound : dayNumber < dayCount) :
    (dateOfDay dayNumber).isValid = true := by
  rcases dateOfDay_bounds bound with ⟨fromFirst, toLast, _, positive, inMonth⟩
  simp only [Date.isValid, Bool.and_eq_true, decide_eq_true_eq]
  exact ⟨⟨⟨fromFirst, toLast⟩, positive⟩, inMonth⟩

end HttpExchange.Calendar
