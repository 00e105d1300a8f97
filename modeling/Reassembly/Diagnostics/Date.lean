import Reassembly.Text.Decimal

namespace Reassembly
namespace Diagnostics

/-!
# Dates

Days are counted in the Gregorian calendar, which is extended to all years
before its introduction and after any foreseeable end.  A date is found by
taking whole cycles of four hundred years, then centuries, then spans of four
years and then years; the last century of a cycle and the last year of a span
have one day more than the others, and `min` keeps that day where it belongs.

Two statements pin the year down: a day is not before the first of January of
its year (`daysBefore_yearOf_le`), and it is before the next one
(`lt_daysBefore_yearOf_add_one`).
-/

structure Date where
  year : Int
  month : Nat
  day : Nat
deriving DecidableEq

namespace Date

/-- Whether a year has a twenty-ninth of February. -/
def isLeap (year : Int) : Bool :=
  year % 4 = 0 && (year % 100 ≠ 0 || year % 400 = 0)

/-- The number of days from the first of January of year one to the first of
January of this year. -/
def daysBefore (year : Int) : Int :=
  365 * (year - 1) + (year - 1) / 4 - (year - 1) / 100 + (year - 1) / 400

/-- The first day of the epoch, counted from the first of January of year
one. -/
def epochDay : Int := 719162

/-- The year in which a day lies, counted from the first of January of year
one. -/
def yearOf (day : Int) : Int :=
  let inCycle := day % 146097
  let century := min (inCycle / 36524) 3
  let inCentury := inCycle - 36524 * century
  let span := inCentury / 1461
  let inSpan := inCentury % 1461
  400 * (day / 146097) + 100 * century + 4 * span + min (inSpan / 365) 3 + 1

/-- The days before a year, by the cycle, century, span and year it is in. -/
theorem daysBefore_parts {cycle century span year : Int}
    (century_range : 0 ≤ century ∧ century ≤ 3) (span_range : 0 ≤ span ∧ span ≤ 24)
    (year_range : 0 ≤ year ∧ year ≤ 3) :
    daysBefore (400 * cycle + 100 * century + 4 * span + year + 1) =
      146097 * cycle + 36524 * century + 1461 * span + 365 * year := by
  have fourths :
      (400 * cycle + 100 * century + 4 * span + year + 1 - 1) / 4 =
        100 * cycle + 25 * century + span := by omega
  have hundredths :
      (400 * cycle + 100 * century + 4 * span + year + 1 - 1) / 100 =
        4 * cycle + century := by omega
  have fourHundredths :
      (400 * cycle + 100 * century + 4 * span + year + 1 - 1) / 400 = cycle := by omega
  rw [daysBefore, fourths, hundredths, fourHundredths]
  omega

/-- A day is not before the first of January of its year. -/
theorem daysBefore_yearOf_le (day : Int) : daysBefore (yearOf day) ≤ day := by
  unfold yearOf
  simp only
  generalize century_eq : min (day % 146097 / 36524) 3 = century
  generalize span_eq : (day % 146097 - 36524 * century) / 1461 = span
  generalize year_eq : min ((day % 146097 - 36524 * century) % 1461 / 365) 3 = year
  have century_range : 0 ≤ century ∧ century ≤ 3 := by omega
  have span_range : 0 ≤ span ∧ span ≤ 24 := by omega
  have year_range : 0 ≤ year ∧ year ≤ 3 := by omega
  rw [daysBefore_parts century_range span_range year_range]
  omega

/-- The first of January of the next year is after the day. -/
theorem lt_daysBefore_yearOf_add_one (day : Int) : day < daysBefore (yearOf day + 1) := by
  unfold yearOf
  simp only
  generalize century_eq : min (day % 146097 / 36524) 3 = century
  generalize span_eq : (day % 146097 - 36524 * century) / 1461 = span
  generalize year_eq : min ((day % 146097 - 36524 * century) % 1461 / 365) 3 = year
  have century_range : 0 ≤ century ∧ century ≤ 3 := by omega
  have span_range : 0 ≤ span ∧ span ≤ 24 := by omega
  have year_range : 0 ≤ year ∧ year ≤ 3 := by omega
  generalize cycle_eq : day / 146097 = cycle
  by_cases withinSpan : year < 3
  · have next : 400 * cycle + 100 * century + 4 * span + year + 1 + 1 =
        400 * cycle + 100 * century + 4 * span + (year + 1) + 1 := by omega
    rw [next, daysBefore_parts century_range span_range (by omega)]
    omega
  · by_cases withinCentury : span < 24
    · have next : 400 * cycle + 100 * century + 4 * span + year + 1 + 1 =
          400 * cycle + 100 * century + 4 * (span + 1) + 0 + 1 := by omega
      rw [next, daysBefore_parts century_range (by omega) (by omega)]
      omega
    · by_cases withinCycle : century < 3
      · have next : 400 * cycle + 100 * century + 4 * span + year + 1 + 1 =
            400 * cycle + 100 * (century + 1) + 4 * 0 + 0 + 1 := by omega
        rw [next, daysBefore_parts (by omega) (by omega) (by omega)]
        omega
      · have next : 400 * cycle + 100 * century + 4 * span + year + 1 + 1 =
            400 * (cycle + 1) + 100 * 0 + 4 * 0 + 0 + 1 := by omega
        rw [next, daysBefore_parts (by omega) (by omega) (by omega)]
        omega

def monthLengths (leap : Bool) : List Nat :=
  [31, if leap then 29 else 28, 31, 30, 31, 30, 31, 31, 30, 31, 30, 31]

/-- Find the month and the day of the month, given the day of the year counted
from zero. -/
def inYear : List Nat → Nat → Nat → Nat × Nat
  | length :: later@(_ :: _), month, day =>
      if day < length then (month, day + 1) else inYear later (month + 1) (day - length)
  | _, month, day => (month, day + 1)

/-- The date of a day counted from the epoch. -/
def ofEpochDay (epoch : Int) : Date :=
  let day := epoch + epochDay
  let year := yearOf day
  let (month, dayOfMonth) := inYear (monthLengths (isLeap year)) 1 (day - daysBefore year).toNat
  ⟨year, month, dayOfMonth⟩

/-- A year is written with at least four digits, and with a sign if it is
negative or has more. -/
def yearText (year : Int) : List Char :=
  if year < 0 then '-' :: Text.padded 4 year.natAbs
  else if year ≤ 9999 then Text.padded 4 year.natAbs
  else '+' :: Text.padded 4 year.natAbs

def render (date : Date) : List Char :=
  yearText date.year ++ '-' :: Text.padded 2 date.month ++ '-' :: Text.padded 2 date.day

end Date

end Diagnostics
end Reassembly
