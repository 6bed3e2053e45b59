/-
Module: RngGamePlatform.Encoding.Time
Purpose: UTC instants, their weeks and their texts.
Trusted boundary: human-reviewed semantics
Main exports: seconds, days, weekday, weekStart, civil, timestamp,
  isoformat
-/
import RngGamePlatform.Encoding.Text

namespace RngGamePlatform.Encoding

/-!
An instant is the number of microseconds since 1970-01-01T00:00:00Z, and a
duration is a number of microseconds.
-/

def seconds (n : Int) : Int := n * 1000000

def days (n : Int) : Int := seconds (n * 86400)

/-- Days since 1970-01-01. -/
def dayNumber (instant : Int) : Int := instant / days 1

/-- The day of the week, Monday being 0; 1970-01-01 was a Thursday. -/
def weekday (instant : Int) : Int := (dayNumber instant + 3) % 7

/-- Midnight of the Monday at or before an instant. -/
def weekStart (instant : Int) : Int := days (dayNumber instant - weekday instant)

/-- Year, month and day of a day number in the proleptic Gregorian calendar. -/
def civil (day : Int) : Int × Int × Int :=
  let z := day + 719468
  let era := z / 146097
  let doe := z - era * 146097
  let yoe := (doe - doe / 1460 + doe / 36524 - doe / 146096) / 365
  let doy := doe - (365 * yoe + yoe / 4 - yoe / 100)
  let mp := (5 * doy + 2) / 153
  let month := if mp < 10 then mp + 3 else mp - 9
  let year := yoe + era * 400
  (if month ≤ 2 then year + 1 else year, month, doy - (153 * mp + 2) / 5 + 1)

def clockText (instant : Int) : PyStr :=
  let second := instant % days 1 / seconds 1
  zeroPadded 2 (second / 3600) ++ py ":" ++ zeroPadded 2 (second / 60 % 60) ++
    py ":" ++ zeroPadded 2 (second % 60)

def dateText (instant : Int) : PyStr :=
  let date := civil (dayNumber instant)
  zeroPadded 4 date.1 ++ py "-" ++ zeroPadded 2 date.2.1 ++ py "-" ++
    zeroPadded 2 date.2.2

/-- The text of the format `%Y-%m-%dT%H:%M:%S.%fZ`. -/
def timestamp (instant : Int) : PyStr :=
  dateText instant ++ py "T" ++ clockText instant ++ py "." ++
    zeroPadded 6 (instant % seconds 1) ++ py "Z"

/-- The ISO text of a UTC instant; whole seconds have no fraction. -/
def isoformat (instant : Int) : PyStr :=
  let fraction := instant % seconds 1
  dateText instant ++ py "T" ++ clockText instant ++
    (if fraction = 0 then [] else py "." ++ zeroPadded 6 fraction) ++
    py "+00:00"

example : timestamp (seconds 1709210096 + 5) = py "2024-02-29T12:34:56.000005Z" := by
  decide

theorem weekday_nonneg (instant : Int) : 0 ≤ weekday instant :=
  Int.emod_nonneg _ (by decide)

theorem weekday_lt (instant : Int) : weekday instant < 7 :=
  Int.emod_lt_of_pos _ (by decide)

/-- An instant lies in its week. -/
theorem weekStart_le (instant : Int) : weekStart instant ≤ instant := by
  have nonneg := weekday_nonneg instant
  simp only [weekStart, dayNumber, days, seconds]
  omega

theorem lt_weekStart_add (instant : Int) : instant < weekStart instant + days 7 := by
  have small := weekday_lt instant
  simp only [weekStart, dayNumber, days, seconds]
  omega

end RngGamePlatform.Encoding
