/-
Module: RngGamePlatform.Calendar.Gregorian
Purpose: Dates of the proleptic Gregorian calendar and their day numbers.
Trusted boundary: none
Main exports: isLeap, daysBeforeYear, daysInMonth, Date, Date.ordinal,
  Date.ofOrdinal, ordinal_ofOrdinal
-/
import Mathlib.Data.Int.Basic
import Mathlib.Tactic.SplitIfs

namespace RngGamePlatform.Calendar

def isLeap (year : Int) : Bool :=
  year % 4 = 0 && (year % 100 ≠ 0 || year % 400 = 0)

/-- Days before January 1st of a year, counted from the year 1. -/
def daysBeforeYear (year : Int) : Int :=
  let y := year - 1
  y * 365 + y / 4 - y / 100 + y / 400

def daysInMonth (leap : Bool) (month : Int) : Int :=
  if month = 2 then (if leap then 29 else 28)
  else if month = 4 ∨ month = 6 ∨ month = 9 ∨ month = 11 then 30
  else 31

/-- Days before the first of a month, in its year. -/
def daysBeforeMonth (leap : Bool) (month : Int) : Int :=
  let usual :=
    if month ≤ 1 then 0
    else if month = 2 then 31
    else if month = 3 then 59
    else if month = 4 then 90
    else if month = 5 then 120
    else if month = 6 then 151
    else if month = 7 then 181
    else if month = 8 then 212
    else if month = 9 then 243
    else if month = 10 then 273
    else if month = 11 then 304
    else 334
  usual + if 2 < month ∧ leap then 1 else 0

/-- A date of the calendar, of any year. -/
structure Date where
  year : Int
  month : Int
  day : Int
  validMonth : 1 ≤ month ∧ month ≤ 12
  validDay : 1 ≤ day ∧ day ≤ daysInMonth (isLeap year) month
deriving DecidableEq

/-- The day number; January 1st of the year 1 is day 1. -/
def Date.ordinal (date : Date) : Int :=
  daysBeforeYear date.year + daysBeforeMonth (isLeap date.year) date.month + date.day

/-! From a day of the year, counted from zero, to its month. -/

/-- The month by the estimate that is at most one too high. -/
def monthOfDay (leap : Bool) (dayOfYear : Int) : Int :=
  let estimate := (dayOfYear + 50) / 32
  if dayOfYear < daysBeforeMonth leap estimate then estimate - 1 else estimate

/-- The year that holds a day, and the days before it in that year.  Cycles of
400, 100, 4 and 1 years are split off in turn; the last day of a cycle of four or
four hundred years is the last of its year. -/
def yearOfOrdinal (ordinal : Int) : Int × Int :=
  let n := ordinal - 1
  let n400 := n / 146097
  let r400 := n % 146097
  let n100 := r400 / 36524
  let r100 := r400 % 36524
  let n4 := r100 / 1461
  let r4 := r100 % 1461
  let n1 := r4 / 365
  let year := n400 * 400 + n100 * 100 + n4 * 4 + n1
  if n1 = 4 ∨ n100 = 4 then (year, 365) else (year + 1, r4 % 365)

/-- The days before a year whose number is split into cycles. -/
theorem daysBeforeYear_cycles {a b c d : Int} (centuries : 0 ≤ b ∧ b ≤ 3)
    (fours : 0 ≤ c ∧ c ≤ 24) (years : 0 ≤ d ∧ d ≤ 3) :
    daysBeforeYear (a * 400 + b * 100 + c * 4 + d + 1) =
      a * 146097 + b * 36524 + c * 1461 + d * 365 := by
  have by4 : (a * 400 + b * 100 + c * 4 + d) / 4 = a * 100 + b * 25 + c := by omega
  have by100 : (a * 400 + b * 100 + c * 4 + d) / 100 = a * 4 + b := by omega
  have by400 : (a * 400 + b * 100 + c * 4 + d) / 400 = a := by omega
  simp only [daysBeforeYear, Int.add_sub_cancel, by4, by100, by400]
  omega

/-- The last year of a cycle of four is a leap year, unless it ends a century that
is not the fourth. -/
theorem isLeap_cycles {a b c d : Int} (centuries : 0 ≤ b ∧ b ≤ 3)
    (fours : 0 ≤ c ∧ c ≤ 24) (years : 0 ≤ d ∧ d ≤ 3) :
    isLeap (a * 400 + b * 100 + c * 4 + d + 1) = true ↔ d = 3 ∧ (c ≠ 24 ∨ b = 3) := by
  simp only [isLeap, Bool.and_eq_true, Bool.or_eq_true, decide_eq_true_eq]
  omega

/-- A year is 365 or 366 days long. -/
theorem daysBeforeYear_succ (year : Int) :
    daysBeforeYear (year + 1) =
      daysBeforeYear year + if isLeap year then 366 else 365 := by
  have by4 : year / 4 - (year - 1) / 4 = if year % 4 = 0 then 1 else 0 := by
    split <;> omega
  have by100 : year / 100 - (year - 1) / 100 = if year % 100 = 0 then 1 else 0 := by
    split <;> omega
  have by400 : year / 400 - (year - 1) / 400 = if year % 400 = 0 then 1 else 0 := by
    split <;> omega
  have centuries : year % 100 = 0 → year % 4 = 0 := by omega
  have fourths : year % 400 = 0 → year % 100 = 0 := by omega
  simp only [daysBeforeYear, isLeap, Int.add_sub_cancel, Bool.and_eq_true,
    Bool.or_eq_true, decide_eq_true_eq]
  split_ifs at by4 by100 by400 ⊢ <;> omega

theorem yearOfOrdinal_spec (ordinal : Int) :
    daysBeforeYear (yearOfOrdinal ordinal).1 + (yearOfOrdinal ordinal).2 = ordinal - 1 ∧
      0 ≤ (yearOfOrdinal ordinal).2 ∧
      (yearOfOrdinal ordinal).2 <
        if isLeap (yearOfOrdinal ordinal).1 then 366 else 365 := by
  obtain ⟨a, r400, isQuot400, isRest400⟩ : ∃ a r, a = (ordinal - 1) / 146097 ∧
      r = (ordinal - 1) % 146097 := ⟨_, _, rfl, rfl⟩
  obtain ⟨b, r100, isQuot100, isRest100⟩ : ∃ b r, b = r400 / 36524 ∧ r = r400 % 36524 :=
    ⟨_, _, rfl, rfl⟩
  obtain ⟨c, r4, isQuot4, isRest4⟩ : ∃ c r, c = r100 / 1461 ∧ r = r100 % 1461 :=
    ⟨_, _, rfl, rfl⟩
  obtain ⟨d, isQuot1⟩ : ∃ d, d = r4 / 365 := ⟨_, rfl⟩
  simp only [yearOfOrdinal, ← isQuot400, ← isRest400, ← isQuot100, ← isRest100,
    ← isQuot4, ← isRest4, ← isQuot1]
  by_cases endOfCentury : b = 4
  · -- the last day of four hundred years
    have lastYear : a * 400 + b * 100 + c * 4 + d = a * 400 + 3 * 100 + 24 * 4 + 3 + 1 := by
      omega
    have leap := (isLeap_cycles (a := a) (b := 3) (c := 24) (d := 3) (by omega) (by omega)
      (by omega)).mpr (by omega)
    have before := daysBeforeYear_cycles (a := a) (b := 3) (c := 24) (d := 3) (by omega)
      (by omega) (by omega)
    rw [if_pos (.inr endOfCentury), lastYear, leap, before]
    simp only [if_true]
    omega
  by_cases endOfFour : d = 4
  · -- the last day of four years
    have lastYear : a * 400 + b * 100 + c * 4 + d = a * 400 + b * 100 + c * 4 + 3 + 1 := by
      omega
    have leap := (isLeap_cycles (a := a) (b := b) (c := c) (d := 3) (by omega) (by omega)
      (by omega)).mpr (by omega)
    have before := daysBeforeYear_cycles (a := a) (b := b) (c := c) (d := 3) (by omega)
      (by omega) (by omega)
    rw [if_pos (.inl endOfFour), lastYear, leap, before]
    simp only [if_true]
    omega
  · have before := daysBeforeYear_cycles (a := a) (b := b) (c := c) (d := d) (by omega)
      (by omega) (by omega)
    rw [if_neg (by omega), before]
    refine ⟨?_, ?_, ?_⟩
    · omega
    · omega
    · split <;> omega

/-- A day of a year is in the month found for it. -/
theorem monthOfDay_spec (leap : Bool) {dayOfYear : Int} (nonneg : 0 ≤ dayOfYear)
    (small : dayOfYear < if leap then 366 else 365) :
    1 ≤ monthOfDay leap dayOfYear ∧ monthOfDay leap dayOfYear ≤ 12 ∧
      daysBeforeMonth leap (monthOfDay leap dayOfYear) ≤ dayOfYear ∧
      dayOfYear < daysBeforeMonth leap (monthOfDay leap dayOfYear) +
        daysInMonth leap (monthOfDay leap dayOfYear) := by
  have every : ∀ leap : Bool, ∀ n < if leap then 366 else 365,
      1 ≤ monthOfDay leap (n : Nat) ∧ monthOfDay leap (n : Nat) ≤ 12 ∧
        daysBeforeMonth leap (monthOfDay leap (n : Nat)) ≤ (n : Nat) ∧
        ((n : Nat) : Int) < daysBeforeMonth leap (monthOfDay leap (n : Nat)) +
          daysInMonth leap (monthOfDay leap (n : Nat)) := by
    decide +kernel
  have found := every leap dayOfYear.toNat (by split at small <;> split <;> simp_all)
  rwa [Int.toNat_of_nonneg nonneg] at found

private theorem dayOfMonth_bounds {before dayOfYear length : Int}
    (low : before ≤ dayOfYear) (high : dayOfYear < before + length) :
    1 ≤ dayOfYear - before + 1 ∧ dayOfYear - before + 1 ≤ length := by
  omega

/-- The date of a day number. -/
def Date.ofOrdinal (ordinal : Int) : Date :=
  let year := (yearOfOrdinal ordinal).1
  let dayOfYear := (yearOfOrdinal ordinal).2
  let month := monthOfDay (isLeap year) dayOfYear
  have spec := yearOfOrdinal_spec ordinal
  have inMonth := monthOfDay_spec (isLeap year) spec.2.1 spec.2.2
  { year
    month
    day := dayOfYear - daysBeforeMonth (isLeap year) month + 1
    validMonth := ⟨inMonth.1, inMonth.2.1⟩
    validDay := dayOfMonth_bounds inMonth.2.2.1 inMonth.2.2.2 }

/-- Every day number is the one of its date. -/
@[simp] theorem ordinal_ofOrdinal (ordinal : Int) :
    (Date.ofOrdinal ordinal).ordinal = ordinal := by
  have spec := (yearOfOrdinal_spec ordinal).1
  simp only [Date.ofOrdinal, Date.ordinal]
  omega

theorem ofOrdinal_year_pos {ordinal : Int} (positive : 1 ≤ ordinal) :
    1 ≤ (Date.ofOrdinal ordinal).year := by
  obtain ⟨days, nonneg, small⟩ := yearOfOrdinal_spec ordinal
  by_contra early
  have before : (yearOfOrdinal ordinal).1 ≤ 0 := Int.not_lt.mp early
  simp only [daysBeforeYear, isLeap, Bool.and_eq_true, Bool.or_eq_true,
    decide_eq_true_eq] at days small
  split at small <;> omega

theorem ofOrdinal_year_lt {ordinal : Int} (small : ordinal ≤ 3652059) :
    (Date.ofOrdinal ordinal).year ≤ 9999 := by
  obtain ⟨days, nonneg, _⟩ := yearOfOrdinal_spec ordinal
  by_contra late
  have after : 10000 ≤ (yearOfOrdinal ordinal).1 := Int.not_le.mp late
  simp only [daysBeforeYear] at days
  omega

end RngGamePlatform.Calendar
