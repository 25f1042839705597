import Mathlib.Data.Int.Notation
import Mathlib.Data.List.GetD
import Mathlib.Tactic.Common

/-!
# Days and dates of the UTC calendar

A time is a number of milliseconds since the start of 1970, and dates follow the Gregorian calendar in both
directions. A date of the calendar, read from a time and put together again, is the start of the day of that
time, except that the years 0 to 99 stand for those of the twentieth century where a date is put together.
-/

namespace Mayatoko.Core

def msPerDay : ℤ := 86400000

/-- The number of the day that a time is on. -/
def dayOf (t : ℤ) : ℤ := t / msPerDay

/-- The first instant of the day of a time. -/
def dayStart (t : ℤ) : ℤ := dayOf t * msPerDay

/-- The day number of 1 January of a year. -/
def dayFromYear (y : ℤ) : ℤ := 365 * (y - 1970) + (y - 1969) / 4 - (y - 1901) / 100 + (y - 1601) / 400

/-- The year of a day: an estimate from the mean length of a year is off by one year at most. -/
def yearFromDay (d : ℤ) : ℤ :=
  let y := 1970 + 400 * d / 146097
  if d < dayFromYear y then y - 1 else if dayFromYear (y + 1) ≤ d then y + 1 else y

def isLeapYear (y : ℤ) : Bool := y % 4 = 0 && (y % 100 ≠ 0 || y % 400 = 0)

/-- The days of a year before each month. -/
def monthStarts (leap : Bool) : List ℤ :=
  [0, 31, 59, 90, 120, 151, 181, 212, 243, 273, 304, 334].zipIdx.map fun (d, m) =>
    if leap && 1 < m then d + 1 else d

def monthStart (y : ℤ) (m : ℕ) : ℤ := (monthStarts (isLeapYear y)).getD m 0

def yearFromTime (t : ℤ) : ℤ := yearFromDay (dayOf t)

def dayInYear (t : ℤ) : ℤ := dayOf t - dayFromYear (yearFromTime t)

/-- The month, January being 0. -/
def monthFromTime (t : ℤ) : ℕ :=
  ((monthStarts (isLeapYear (yearFromTime t))).tail.takeWhile fun d => d ≤ dayInYear t).length

/-- The day of the month. -/
def dateFromTime (t : ℤ) : ℤ := dayInYear t - monthStart (yearFromTime t) (monthFromTime t) + 1

/-- The year that a date is put together with. -/
def fullYear (y : ℤ) : ℤ := if 0 ≤ y ∧ y ≤ 99 then 1900 + y else y

/-- The first instant of a date. -/
def dateUTC (year : ℤ) (month : ℕ) (date : ℤ) : ℤ :=
  (dayFromYear (fullYear year) + monthStart (fullYear year) month + date - 1) * msPerDay

example : yearFromTime (-1) = 1969 ∧ monthFromTime (-1) = 11 ∧ dateFromTime (-1) = 31 := by decide

/-! ### Days and years -/

lemma dayStart_le (t : ℤ) : dayStart t ≤ t := by
  rw [dayStart, dayOf, msPerDay]
  omega

variable {t : ℤ}

lemma dayStart_mono {s : ℤ} (h : s ≤ t) : dayStart s ≤ dayStart t := by
  rw [dayStart, dayStart, dayOf, dayOf, msPerDay]
  omega

@[simp] lemma dayStart_dayStart (t : ℤ) : dayStart (dayStart t) = dayStart t := by
  rw [dayStart, dayStart, dayOf, dayOf, msPerDay]
  omega

variable {d : ℤ}

lemma le_dayStart_iff (hd : dayStart d = d) (t : ℤ) : d ≤ dayStart t ↔ d ≤ t := by
  rw [dayStart, dayOf, msPerDay] at hd ⊢
  omega

lemma dayStart_le_iff (hd : dayStart d = d) (t : ℤ) : dayStart t ≤ d ↔ t < d + msPerDay := by
  rw [dayStart, dayOf, msPerDay] at hd ⊢
  omega

lemma add_msPerDay_le_iff {c : ℤ} (hc : dayStart c = c) (hd : dayStart d = d) : c + msPerDay ≤ d ↔ c < d := by
  rw [dayStart, dayOf, msPerDay] at hc hd
  rw [msPerDay]
  omega

lemma dayStart_add_msPerDay (hd : dayStart d = d) : dayStart (d + msPerDay) = d + msPerDay := by
  rw [dayStart, dayOf, msPerDay] at hd ⊢
  omega

lemma dayStart_sub_msPerDay (hd : dayStart d = d) : dayStart (d - msPerDay) = d - msPerDay := by
  rw [dayStart, dayOf, msPerDay] at hd ⊢
  omega

lemma dayFromYear_mono {x y : ℤ} (h : x ≤ y) : dayFromYear x ≤ dayFromYear y := by
  simp only [dayFromYear]
  omega

/-- A day lies in its year. -/
lemma yearFromDay_spec (d : ℤ) : dayFromYear (yearFromDay d) ≤ d ∧ d < dayFromYear (yearFromDay d + 1) := by
  simp only [yearFromDay]
  split
  next hlt =>
    rw [Int.sub_add_cancel]
    refine ⟨?_, hlt⟩
    simp only [dayFromYear]
    omega
  next hle =>
    split
    next hnext =>
      refine ⟨hnext, ?_⟩
      simp only [dayFromYear]
      omega
    next hnext => exact ⟨Int.not_lt.mp hle, Int.not_le.mp hnext⟩

lemma le_yearFromDay_iff (y d : ℤ) : y ≤ yearFromDay d ↔ dayFromYear y ≤ d := by
  obtain ⟨hle, hlt⟩ := yearFromDay_spec d
  constructor
  · intro h
    exact Int.le_trans (dayFromYear_mono h) hle
  · intro h
    by_contra hcon
    have hnext : yearFromDay d + 1 ≤ y := by omega
    have hmono := dayFromYear_mono hnext
    omega

lemma yearFromDay_mono {c : ℤ} (h : c ≤ d) : yearFromDay c ≤ yearFromDay d := by
  rw [le_yearFromDay_iff]
  exact Int.le_trans (yearFromDay_spec c).1 h

lemma yearFromTime_mono {s : ℤ} (h : s ≤ t) : yearFromTime s ≤ yearFromTime t :=
  yearFromDay_mono (Int.ediv_le_ediv (by decide) h)

@[simp] lemma yearFromTime_dayStart (t : ℤ) : yearFromTime (dayStart t) = yearFromTime t := by
  rw [yearFromTime, dayStart, dayOf, Int.mul_ediv_cancel _ (by decide), yearFromTime]

/-! ### Dates put together again -/

/-- Outside of the years 0 to 99 the date of a time is its day. -/
lemma dateUTC_eq_dayStart (h : yearFromTime t < 0 ∨ 99 < yearFromTime t) :
    dateUTC (yearFromTime t) (monthFromTime t) (dateFromTime t) = dayStart t := by
  have hyear : fullYear (yearFromTime t) = yearFromTime t := if_neg (by omega)
  rw [dateUTC, hyear, dayStart, dateFromTime, dayInYear]
  congr 1
  omega

lemma monthStarts_of_le (leap : Bool) {m : ℕ} (hm : 12 ≤ m) : (monthStarts leap).getD m 0 = 0 := by
  refine List.getD_eq_default _ _ ?_
  rw [monthStarts, List.length_map, List.length_zipIdx]
  exact hm

/-- A month starts on much the same day of every year. -/
lemma monthStart_le (x y : ℤ) (m : ℕ) : monthStart x m ≤ monthStart y m + 1 := by
  have hmonths (a b : Bool) : (monthStarts a).getD m 0 ≤ (monthStarts b).getD m 0 + 1 := by
    by_cases hm : m < 12
    · have hall : ∀ a b : Bool, ∀ m : Fin 12, (monthStarts a).getD m 0 ≤ (monthStarts b).getD m 0 + 1 := by
        decide
      exact hall a b ⟨m, hm⟩
    · rw [monthStarts_of_le a (Nat.le_of_not_lt hm), monthStarts_of_le b (Nat.le_of_not_lt hm)]
      decide
  exact hmonths (isLeapYear x) (isLeapYear y)

lemma monthStart_1900_le (m : ℕ) : monthStart 1900 m ≤ monthStart 0 m := by
  by_cases hm : m < 12
  · have hall : ∀ m : Fin 12, monthStart 1900 m ≤ monthStart 0 m := by decide
    exact hall ⟨m, hm⟩
  · have hlate (year : ℤ) : monthStart year m = 0 := monthStarts_of_le _ (Nat.le_of_not_lt hm)
    exact Int.le_of_eq ((hlate 1900).trans (hlate 0).symm)

/-- In the years 0 to 99 the date of a time is later by the days of 1900 years, within one day. -/
lemma dateUTC_bounds (h : 0 ≤ yearFromTime t ∧ yearFromTime t ≤ 99) :
    dayStart t + 693960 * msPerDay ≤ dateUTC (yearFromTime t) (monthFromTime t) (dateFromTime t) ∧
      dateUTC (yearFromTime t) (monthFromTime t) (dateFromTime t) ≤ dayStart t + 693961 * msPerDay := by
  have hyear : fullYear (yearFromTime t) = 1900 + yearFromTime t := if_pos h
  have hmonth := monthStart_le (yearFromTime t) (1900 + yearFromTime t) (monthFromTime t)
  have hmonth' := monthStart_le (1900 + yearFromTime t) (yearFromTime t) (monthFromTime t)
  rw [dateUTC, hyear, dayStart, dateFromTime, dayInYear, msPerDay]
  rcases eq_or_ne (yearFromTime t) 0 with hzero | hzero
  · -- the year 0 has a leap day, 1900 has none
    have hleap : monthStart (1900 + yearFromTime t) (monthFromTime t) ≤
        monthStart (yearFromTime t) (monthFromTime t) := by
      rw [hzero]
      exact monthStart_1900_le (monthFromTime t)
    have hshift : dayFromYear (1900 + yearFromTime t) = dayFromYear (yearFromTime t) + 693961 := by
      rw [hzero]
      rfl
    omega
  · have hleap : isLeapYear (1900 + yearFromTime t) = isLeapYear (yearFromTime t) := by
      have hfour : (1900 + yearFromTime t) % 4 = yearFromTime t % 4 := by omega
      have hcentury : (1900 + yearFromTime t) % 100 ≠ 0 := by omega
      have hcentury' : yearFromTime t % 100 ≠ 0 := by omega
      simp only [isLeapYear, hfour, hcentury, hcentury', ne_eq, not_false_eq_true, decide_true, Bool.true_or]
    have hsame : monthStart (1900 + yearFromTime t) (monthFromTime t) =
        monthStart (yearFromTime t) (monthFromTime t) := by
      rw [monthStart, hleap, monthStart]
    have hshift : dayFromYear (1900 + yearFromTime t) = dayFromYear (yearFromTime t) + 693960 := by
      simp only [dayFromYear]
      omega
    omega

/-- In the years 0 to 99 the date of a time is later than the next day. -/
lemma dayStart_add_lt_dateUTC (h : 0 ≤ yearFromTime t ∧ yearFromTime t ≤ 99) :
    dayStart t + msPerDay < dateUTC (yearFromTime t) (monthFromTime t) (dateFromTime t) := by
  have hbound := (dateUTC_bounds h).1
  rw [msPerDay] at hbound ⊢
  omega

lemma dayStart_lt_dateUTC (h : 0 ≤ yearFromTime t ∧ yearFromTime t ≤ 99) :
    dayStart t < dateUTC (yearFromTime t) (monthFromTime t) (dateFromTime t) := by
  have hlater := dayStart_add_lt_dateUTC h
  rw [msPerDay] at hlater
  omega

/-- No day that is put together from a time is in the years 0 to 99. -/
lemma yearFromTime_dateUTC (t : ℤ) :
    yearFromTime (dateUTC (yearFromTime t) (monthFromTime t) (dateFromTime t)) < 0 ∨
      99 < yearFromTime (dateUTC (yearFromTime t) (monthFromTime t) (dateFromTime t)) := by
  by_cases h : 0 ≤ yearFromTime t ∧ yearFromTime t ≤ 99
  · right
    have hyear : fullYear (yearFromTime t) = 1900 + yearFromTime t := if_pos h
    have hmonth := monthStart_le (yearFromTime t) (1900 + yearFromTime t) (monthFromTime t)
    have hlate : dayFromYear 100 + 1 ≤ dayFromYear (1900 + yearFromTime t) := by
      simp only [dayFromYear]
      omega
    have hday : dayFromYear (yearFromTime t) ≤ dayOf t := (yearFromDay_spec (dayOf t)).1
    have hle : 100 ≤ yearFromTime (dateUTC (yearFromTime t) (monthFromTime t) (dateFromTime t)) := by
      rw [yearFromTime, le_yearFromDay_iff, dayOf, dateUTC, Int.mul_ediv_cancel _ (by decide), hyear,
        dateFromTime, dayInYear]
      omega
    omega
  · rw [dateUTC_eq_dayStart (by omega), yearFromTime_dayStart]
    omega

/-- Each date is a whole day. -/
lemma dayStart_dateUTC (year : ℤ) (month : ℕ) (date : ℤ) :
    dayStart (dateUTC year month date) = dateUTC year month date := by
  rw [dateUTC, dayStart, dayOf, Int.mul_ediv_cancel _ (by decide)]

end Mayatoko.Core
