import Mayatoko.Core.Numeral

/-!
# UTC dates of instants

An instant is a number of milliseconds since the start of 1970. The calendar is counted from the
first of March, so that the leap day is the last day of a year, in eras of 400 years.
-/

namespace Mayatoko.Common

open Core

/-- The days since 1 March of the year 0. -/
def marchDay (now : ℕ) : ℕ := now / 86400000 + 719468

/-- The year of the era that a day of the era belongs to; years start on 1 March. -/
def yearOfEra (doe : ℕ) : ℕ := (doe - doe / 1460 + doe / 36524 - doe / 146096) / 365

/-- Year since 1 March of the year 0, and day of that year. -/
def marchYear (now : ℕ) : ℕ × ℕ :=
  let day := marchDay now
  let doe := day % 146097
  let yoe := yearOfEra doe
  (400 * (day / 146097) + yoe, doe - (365 * yoe + yoe / 4 - yoe / 100))

def marchMonth (now : ℕ) : ℕ := (5 * (marchYear now).2 + 2) / 153

def getUTCFullYear (now : ℕ) : ℕ := (marchYear now).1 + if marchMonth now < 10 then 0 else 1

/-- The month, January being 0. -/
def getUTCMonth (now : ℕ) : ℕ := (marchMonth now + 2) % 12

def getUTCDate (now : ℕ) : ℕ := (marchYear now).2 - (153 * marchMonth now + 2) / 5 + 1

/-- The date part of `toISOString`. -/
def isoDate (now : ℕ) : String :=
  padStart (toString (getUTCFullYear now)) 4 '0' ++ "-" ++
    padStart (toString (getUTCMonth now + 1)) 2 '0' ++ "-" ++
    padStart (toString (getUTCDate now)) 2 '0'

example : isoDate 1709164800000 = "2024-02-29" := by decide +kernel

end Mayatoko.Common
