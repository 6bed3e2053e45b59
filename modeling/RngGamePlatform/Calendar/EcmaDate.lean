/-
Module: RngGamePlatform.Calendar.EcmaDate
Purpose: Time values of ECMAScript dates, in milliseconds since the epoch.
Trusted boundary: human-reviewed semantics
Main exports: day, getUTCDay, getUTCFullYear, getUTCMonth, getUTCDate, makeDay,
  dateUTC, toISOString
-/
import RngGamePlatform.Calendar.Gregorian
import RngGamePlatform.Encoding.Text

namespace RngGamePlatform.Calendar.EcmaDate

open Encoding

abbrev msPerDay : Int := 86400000

def day (time : Int) : Int := time / msPerDay

/-- Sunday is 0. -/
def getUTCDay (time : Int) : Int := (day time + 4) % 7

/-- The day of January 1st of a year, counted from the epoch. -/
def dayFromYear (year : Int) : Int :=
  365 * (year - 1970) + (year - 1969) / 4 - (year - 1901) / 100 + (year - 1601) / 400

/-- The calendar date of a time value. -/
def dateOf (time : Int) : Date := Date.ofOrdinal (day time + 719163)

def getUTCFullYear (time : Int) : Int := (dateOf time).year

/-- January is 0. -/
def getUTCMonth (time : Int) : Int := (dateOf time).month - 1

def getUTCDate (time : Int) : Int := (dateOf time).day

/-- The day of a year, a month that may overflow the year, and a date that may
overflow the month. -/
def makeDay (year month date : Int) : Int :=
  let ym := year + month / 12
  let mn := month % 12
  dayFromYear ym + daysBeforeMonth (isLeap ym) (mn + 1) + date - 1

/-- Years of two digits are of the twentieth century. -/
def makeFullYear (year : Int) : Int :=
  if 0 ≤ year ∧ year ≤ 99 then 1900 + year else year

/-- The time values within a hundred million days of the epoch. -/
def timeClip (time : Int) : Option Int :=
  if time.natAbs ≤ 8640000000000000 then some time else none

/-- `Date.UTC` of a year, a month and a date. -/
def dateUTC (year month date : Int) : Option Int :=
  timeClip (makeDay (makeFullYear year) month date * msPerDay)

private def yearText (year : Int) : PyStr :=
  if 0 ≤ year ∧ year ≤ 9999 then zeroPadded 4 year
  else if year < 0 then py "-" ++ zeroPadded 6 (-year)
  else py "+" ++ zeroPadded 6 year

def toISOString (time : Int) : PyStr :=
  let second := time % msPerDay / 1000
  yearText (getUTCFullYear time) ++ py "-" ++ zeroPadded 2 (getUTCMonth time + 1) ++
    py "-" ++ zeroPadded 2 (getUTCDate time) ++ py "T" ++
    zeroPadded 2 (second / 3600) ++ py ":" ++ zeroPadded 2 (second / 60 % 60) ++
    py ":" ++ zeroPadded 2 (second % 60) ++ py "." ++ zeroPadded 3 (time % 1000) ++
    py "Z"

theorem dayFromYear_eq (year : Int) :
    dayFromYear year = daysBeforeYear year - 719162 := by
  simp only [dayFromYear, daysBeforeYear]
  omega

/-- The year of a time value is the one whose first day is the last at or before
it. -/
theorem getUTCFullYear_spec (time : Int) :
    dayFromYear (getUTCFullYear time) ≤ day time ∧
      day time < dayFromYear (getUTCFullYear time + 1) := by
  obtain ⟨days, nonneg, small⟩ := yearOfOrdinal_spec (day time + 719163)
  have year : getUTCFullYear time = (yearOfOrdinal (day time + 719163)).1 := rfl
  rw [dayFromYear_eq, dayFromYear_eq, daysBeforeYear_succ, year]
  constructor <;> omega

/-- A date shifted within its month and beyond is the day shifted. -/
theorem makeDay_fields (time shift : Int) :
    makeDay (getUTCFullYear time) (getUTCMonth time) (getUTCDate time - shift) =
      day time - shift := by
  have ordinal : (dateOf time).ordinal = day time + 719163 := ordinal_ofOrdinal _
  obtain ⟨low, high⟩ := (dateOf time).validMonth
  have noCarry : (getUTCMonth time) / 12 = 0 := by
    simp only [getUTCMonth]
    omega
  have sameMonth : (getUTCMonth time) % 12 + 1 = (dateOf time).month := by
    simp only [getUTCMonth]
    omega
  simp only [makeDay, noCarry, sameMonth, Int.add_zero, dayFromYear_eq, getUTCFullYear,
    getUTCDate]
  simp only [Date.ordinal] at ordinal
  omega

end RngGamePlatform.Calendar.EcmaDate
