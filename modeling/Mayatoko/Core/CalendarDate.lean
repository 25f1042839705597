import Mathlib.Algebra.Order.Group.Unbundled.Abs
import Mathlib.Data.List.Basic
import Mayatoko.Core.Calendar

/-!
# Dates as texts

A date with a year of four digits, and its text. The text is read as a local time: the clock of a time zone is
ahead of UTC by an offset that may differ from time to time.
-/

namespace Mayatoko.Core

/-- The days of a month, January being 0. -/
def monthLength (leap : Bool) (m : ℕ) : ℕ :=
  if m = 1 then (if leap then 29 else 28) else if m = 3 ∨ m = 5 ∨ m = 8 ∨ m = 10 then 30 else 31

/-- A date with a year of four digits. -/
structure CalendarDate where
  (year month date : ℕ)
  year_lt : year < 10000
  month_lt : month < 12
  date_pos : 0 < date
  date_le : date ≤ monthLength (isLeapYear year) month
  deriving DecidableEq

def twoDigits (n : ℕ) : List Char := [Nat.digitChar (n / 10), Nat.digitChar (n % 10)]

/-- The text `YYYY-MM-DD`. -/
def CalendarDate.text (d : CalendarDate) : String :=
  String.ofList (twoDigits (d.year / 100) ++ twoDigits (d.year % 100) ++
    '-' :: twoDigits (d.month + 1) ++ '-' :: twoDigits d.date)

/-- The number of the day of a date. -/
def CalendarDate.day (d : CalendarDate) : ℤ := dayFromYear d.year + monthStart d.year d.month + d.date - 1

/-- The first instant of a date in UTC. -/
def CalendarDate.start (d : CalendarDate) : ℤ := d.day * msPerDay

/-- How far the clock of a zone is ahead of UTC at each local time. -/
structure TimeZone where
  offset : ℤ → ℤ
  lt_day : ∀ time, -msPerDay < offset time ∧ offset time < msPerDay

/-- The instant of a local time. -/
def TimeZone.instant (zone : TimeZone) (time : ℤ) : ℤ := time - zone.offset time

/-- The local time at which a day starts, or its last millisecond. A day that its month does not have is one of
the next month. -/
def localTime (value : String) (endOfDay : Bool) : Option ℤ :=
  match value.toList with
  | [a, b, c, d, _, e, f, _, g, h] =>
    let year := Nat.ofDigitChars 10 [a, b, c, d] 0
    let month := Nat.ofDigitChars 10 [e, f] 0
    let date := Nat.ofDigitChars 10 [g, h] 0
    if 1 ≤ month ∧ month ≤ 12 ∧ 1 ≤ date ∧ date ≤ 31 then
      some ((dayFromYear year + monthStart year (month - 1) + date - 1) * msPerDay +
        if endOfDay then msPerDay - 1 else 0)
    else none
  | _ => none

/-! ### Texts read back -/

lemma ofDigitChars_twoDigits {n : ℕ} (h : n < 100) : Nat.ofDigitChars 10 (twoDigits n) 0 = n := by
  have hall : ∀ n : Fin 100, Nat.ofDigitChars 10 (twoDigits n) 0 = n := by decide
  exact hall ⟨n, h⟩

lemma isDigit_twoDigits {n : ℕ} (h : n < 100) : (twoDigits n).all Char.isDigit = true := by
  have hall : ∀ n : Fin 100, (twoDigits n).all Char.isDigit = true := by decide
  exact hall ⟨n, h⟩

namespace CalendarDate

variable (d : CalendarDate)

lemma date_le_31 : d.date ≤ 31 := by
  have hlength : monthLength (isLeapYear d.year) d.month ≤ 31 := by
    rw [monthLength]
    split_ifs <;> decide
  exact d.date_le.trans hlength

lemma toList_text : d.text.toList = twoDigits (d.year / 100) ++ twoDigits (d.year % 100) ++
    '-' :: twoDigits (d.month + 1) ++ '-' :: twoDigits d.date := String.toList_ofList

lemma ofDigitChars_year :
    Nat.ofDigitChars 10 (twoDigits (d.year / 100) ++ twoDigits (d.year % 100)) 0 = d.year := by
  have hyear := d.year_lt
  have hhigh := ofDigitChars_twoDigits (n := d.year / 100) (by omega)
  have hlow := ofDigitChars_twoDigits (n := d.year % 100) (by omega)
  rw [Nat.ofDigitChars_append, hhigh]
  rw [twoDigits] at hlow ⊢
  simp only [Nat.ofDigitChars_cons, Nat.ofDigitChars_nil] at hlow ⊢
  omega

/-- The text of a date is read as the local time at which its day starts. -/
lemma localTime_text : localTime d.text false = some d.start := by
  have hmonth := d.month_lt
  have hdate := d.date_le_31
  have hyears := d.ofDigitChars_year
  have hmonths := ofDigitChars_twoDigits (n := d.month + 1) (by omega)
  have hdates := ofDigitChars_twoDigits (n := d.date) (by omega)
  rw [localTime, d.toList_text]
  simp only [twoDigits, List.cons_append, List.nil_append] at hyears hmonths hdates ⊢
  rw [hyears, hmonths, hdates, if_pos ⟨by omega, by omega, d.date_pos, hdate⟩]
  simp [start, day]

lemma monthStart_add_le (leap : Bool) {m : ℕ} (hm : m < 12) : 0 ≤ (monthStarts leap).getD m 0 ∧
      (monthStarts leap).getD m 0 + monthLength leap m ≤ 365 + if leap then 1 else 0 := by
  have hall : ∀ leap : Bool, ∀ m : Fin 12, 0 ≤ (monthStarts leap).getD m 0 ∧
      (monthStarts leap).getD m 0 + monthLength leap m ≤ 365 + if leap then 1 else 0 := by decide
  exact hall leap ⟨m, hm⟩

lemma dayFromYear_succ (y : ℤ) : dayFromYear (y + 1) = dayFromYear y + 365 + if isLeapYear y then 1 else 0 := by
  have hleap : isLeapYear y = true ↔ y % 4 = 0 ∧ (y % 100 ≠ 0 ∨ y % 400 = 0) := by
    simp [isLeapYear]
  simp only [dayFromYear]
  split
  next h =>
    obtain ⟨_, _⟩ := hleap.mp h
    omega
  next h =>
    rw [hleap] at h
    omega

/-- The start of a date is in the year of the date. -/
lemma yearFromTime_start : yearFromTime d.start = d.year := by
  have hday : dayOf d.start = d.day := Int.mul_ediv_cancel _ (by decide)
  obtain ⟨hfirst, hlast⟩ := monthStart_add_le (isLeapYear d.year) d.month_lt
  have hdate := d.date_le
  have hpos := d.date_pos
  have hsucc := dayFromYear_succ d.year
  have hstart : monthStart d.year d.month = (monthStarts (isLeapYear d.year)).getD d.month 0 := rfl
  rw [yearFromTime, hday]
  apply le_antisymm
  · by_contra hcon
    have hle := (le_yearFromDay_iff (d.year + 1) d.day).mp (by omega)
    rw [day] at hle
    omega
  · rw [le_yearFromDay_iff, day]
    omega

lemma isLater_month (leap : Bool) {m n : ℕ} (hmn : m < n) (hn : n < 12) :
    (monthStarts leap).getD m 0 + monthLength leap m ≤ (monthStarts leap).getD n 0 := by
  have hall : ∀ leap : Bool, ∀ m n : Fin 12, m < n →
      (monthStarts leap).getD m 0 + monthLength leap m ≤ (monthStarts leap).getD n 0 := by decide
  exact hall leap ⟨m, hmn.trans hn⟩ ⟨n, hn⟩ hmn

/-- Different dates are different days. -/
lemma day_injective : Function.Injective day := by
  intro d e h
  have hyear : d.year = e.year := by
    have hstart := congrArg (fun n => yearFromTime (n * msPerDay)) h
    have hd := d.yearFromTime_start
    rw [start, show yearFromTime (d.day * msPerDay) = yearFromTime (e.day * msPerDay) from hstart] at hd
    exact Int.ofNat.inj (hd.symm.trans e.yearFromTime_start)
  obtain ⟨year, m, x, _, hm, hx, hxm⟩ := d
  obtain ⟨_, n, y, _, hn, hy, hyn⟩ := e
  obtain rfl : year = _ := hyear
  simp only [day, monthStart] at h
  obtain hlt | rfl | hgt := Nat.lt_trichotomy m n
  · have hle := isLater_month (isLeapYear year) hlt hn
    omega
  · obtain rfl : x = y := by omega
    rfl
  · have hle := isLater_month (isLeapYear year) hgt hm
    omega

end CalendarDate

end Mayatoko.Core
