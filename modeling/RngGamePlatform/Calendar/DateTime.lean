/-
Module: RngGamePlatform.Calendar.DateTime
Purpose: Aware date-times with field arithmetic, as in Python's `datetime`.
Trusted boundary: human-reviewed semantics
Main exports: Clock, DateTime, DateTime.instant, DateTime.add,
  DateTime.astimezoneUtc, DateTime.weekday, DateTime.atMidnight
-/
import RngGamePlatform.Calendar.Gregorian

namespace RngGamePlatform.Calendar

/-- Microseconds of a day. -/
abbrev dayMicros : Int := 86400000000

/-- A time of day. -/
structure Clock where
  hour : Int
  minute : Int
  second : Int
  microsecond : Int
  validHour : 0 ≤ hour ∧ hour < 24
  validMinute : 0 ≤ minute ∧ minute < 60
  validSecond : 0 ≤ second ∧ second < 60
  validMicrosecond : 0 ≤ microsecond ∧ microsecond < 1000000
deriving DecidableEq

namespace Clock

def midnight : Clock :=
  ⟨0, 0, 0, 0, by decide, by decide, by decide, by decide⟩

/-- Microseconds since midnight. -/
def micros (clock : Clock) : Int :=
  ((clock.hour * 60 + clock.minute) * 60 + clock.second) * 1000000 + clock.microsecond

/-- The time of day in a count of microseconds that may span days. -/
def ofMicros (total : Int) : Clock where
  hour := total % dayMicros / 3600000000
  minute := total % dayMicros / 60000000 % 60
  second := total % dayMicros / 1000000 % 60
  microsecond := total % dayMicros % 1000000
  validHour := by simp only [dayMicros]; omega
  validMinute := by omega
  validSecond := by omega
  validMicrosecond := by omega

@[simp] theorem micros_ofMicros (total : Int) :
    (ofMicros total).micros = total % dayMicros := by
  simp only [ofMicros, micros, dayMicros]
  omega

@[simp] theorem micros_midnight : midnight.micros = 0 := rfl

theorem micros_bounds (clock : Clock) : 0 ≤ clock.micros ∧ clock.micros < dayMicros := by
  obtain ⟨hour, minute, second, microsecond, validHour, validMinute, validSecond,
    validMicrosecond⟩ := clock
  simp only [micros, dayMicros]
  omega

/-- The four fields are zero exactly at midnight. -/
theorem fields_eq_zero_iff (clock : Clock) :
    (clock.hour = 0 ∧ clock.minute = 0 ∧ clock.second = 0 ∧ clock.microsecond = 0) ↔
      clock.micros = 0 := by
  obtain ⟨hour, minute, second, microsecond, validHour, validMinute, validSecond,
    validMicrosecond⟩ := clock
  simp only [micros]
  omega

end Clock

/-- An aware date-time: local fields of the years 1 to 9999 and a UTC offset in
microseconds, less than a day. -/
structure DateTime where
  date : Date
  clock : Clock
  offset : Int
  validYear : 1 ≤ date.year ∧ date.year ≤ 9999
  validOffset : -dayMicros < offset ∧ offset < dayMicros
deriving DecidableEq

namespace DateTime

/-- Local microseconds, the day before January 1st of the year 1 being day 0. -/
def wall (moment : DateTime) : Int :=
  moment.date.ordinal * dayMicros + moment.clock.micros

/-- The day number of 1970-01-01. -/
abbrev epochOrdinal : Int := 719163

/-- Microseconds since 1970-01-01T00:00:00Z. -/
def instant (moment : DateTime) : Int :=
  moment.wall - moment.offset - epochOrdinal * dayMicros

/-- The fields of a count of local microseconds; none on an overflow. -/
def ofWall (total : Int) (offset : Int)
    (validOffset : -dayMicros < offset ∧ offset < dayMicros) : Option DateTime :=
  if inRange : 1 ≤ total / dayMicros ∧ total / dayMicros ≤ 3652059 then
    some {
      date := Date.ofOrdinal (total / dayMicros)
      clock := Clock.ofMicros total
      offset
      validYear := ⟨ofOrdinal_year_pos inRange.1, ofOrdinal_year_lt inRange.2⟩
      validOffset }
  else none

/-- Shift by a duration in microseconds; none on an overflow. -/
def add (moment : DateTime) (delta : Int) : Option DateTime :=
  ofWall (moment.wall + delta) moment.offset moment.validOffset

/-- The same instant in UTC; none on an overflow. -/
def astimezoneUtc (moment : DateTime) : Option DateTime :=
  ofWall (moment.wall - moment.offset) 0 (by decide)

/-- Monday is 0. -/
def weekday (moment : DateTime) : Int := (moment.date.ordinal + 6) % 7

/-- The same date at 00:00. -/
def atMidnight (moment : DateTime) : DateTime :=
  { moment with clock := .midnight }

theorem ofWall_eq_some {total offset : Int}
    {validOffset : -dayMicros < offset ∧ offset < dayMicros}
    (inRange : 1 ≤ total / dayMicros ∧ total / dayMicros ≤ 3652059) :
    ∃ moment, ofWall total offset validOffset = some moment ∧ moment.wall = total ∧
      moment.offset = offset := by
  refine ⟨_, dif_pos inRange, ?_, rfl⟩
  simp only [wall, ordinal_ofOrdinal, Clock.micros_ofMicros]
  exact Int.ediv_mul_add_emod total dayMicros

theorem ordinal_eq (moment : DateTime) : moment.date.ordinal = moment.wall / dayMicros := by
  have bounds := moment.clock.micros_bounds
  simp only [wall, dayMicros] at bounds ⊢
  omega

theorem micros_eq (moment : DateTime) : moment.clock.micros = moment.wall % dayMicros := by
  have bounds := moment.clock.micros_bounds
  simp only [wall, dayMicros] at bounds ⊢
  omega

end DateTime

end RngGamePlatform.Calendar
