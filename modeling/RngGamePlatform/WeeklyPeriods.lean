/-
Module: RngGamePlatform.WeeklyPeriods
Purpose: The leaderboard week as each party computes or checks it.
Trusted boundary: human-reviewed semantics
Main exports: Weekly.leaderboardPeriod, Weekly.apiPeriodStart,
  Weekly.settlementPeriodStart, Weekly.rebuildPeriod, Weekly.currentUtcPeriod
-/
import RngGamePlatform.Calendar.DateTime
import RngGamePlatform.Calendar.EcmaDate

namespace RngGamePlatform.Weekly

open Calendar Encoding

/-- A Python date-time, with or without a UTC offset. -/
inductive PyDateTime where
  | naive (date : Date) (clock : Clock)
  | aware (moment : DateTime)

/-- What computing or checking a period raises. -/
inductive PeriodError where
  | overflowError
  | invalidPlayError
  | valueError (message : PyStr)
deriving DecidableEq

/-- A result that Python's date arithmetic may refuse. -/
def orOverflow {α : Type} (value : Option α) : Except PeriodError α :=
  match value with
  | some result => .ok result
  | none => .error .overflowError

@[simp] theorem orOverflow_some {α : Type} (result : α) :
    orOverflow (some result) = .ok result := rfl

/-- `leaderboard_period`: the inclusive ISO-week start and exclusive end in
UTC. -/
def leaderboardPeriod (completedAt : DateTime) :
    Except PeriodError (DateTime × DateTime) := do
  let completedAt ← orOverflow completedAt.astimezoneUtc
  let monday ← orOverflow (completedAt.add (-(completedAt.weekday * dayMicros)))
  let start := monday.atMidnight
  let stop ← orOverflow (start.add (7 * dayMicros))
  return (start, stop)

/-- The test on a UTC date-time that three parties make. -/
def isPeriodStart (value : DateTime) : Bool :=
  value.weekday = 0 && value.clock.hour = 0 && value.clock.minute = 0 &&
    value.clock.second = 0 && value.clock.microsecond = 0

/-- A week start in UTC, or a refusal. -/
def checkedStart (refusal : PeriodError) (value : DateTime) :
    Except PeriodError DateTime := do
  let value ← orOverflow value.astimezoneUtc
  if isPeriodStart value then return value else .error refusal

/-- `_period_start`: the week start of an API request. -/
def apiPeriodStart : PyDateTime → Except PeriodError DateTime
  | .naive _ _ => .error .invalidPlayError
  | .aware value => checkedStart .invalidPlayError value

/-- The week start that `settle_leaderboard` accepts. -/
def settlementPeriodStart (periodStart : DateTime) : Except PeriodError DateTime :=
  checkedStart .invalidPlayError periodStart

/-- The text with `+00:00` for every `Z`. -/
def spellOffset (value : PyStr) : PyStr :=
  value.flatMap fun c => if c = codePoint 'Z' then py "+00:00" else [c]

/-- `_period`: the week start of the rebuild tool, over the parser of ISO texts. -/
def rebuildPeriod (fromisoformat : PyStr → Except PeriodError PyDateTime)
    (value : PyStr) : Except PeriodError DateTime := do
  match ← fromisoformat (spellOffset value) with
  | .naive _ _ => .error (.valueError (py "period-start must include UTC offset"))
  | .aware parsed =>
      checkedStart (.valueError (py "period-start must be Monday 00:00:00 UTC")) parsed

/-! The browser. -/

def weekMs : Int := 7 * 24 * 60 * 60 * 1000

/-- The time values of `currentUtcPeriod`; none where a date is invalid. -/
def utcPeriodValues (now : Int) : Option (Int × Int) := do
  let daysSinceMonday := (EcmaDate.getUTCDay now + 6) % 7
  let start ← EcmaDate.dateUTC (EcmaDate.getUTCFullYear now) (EcmaDate.getUTCMonth now)
    (EcmaDate.getUTCDate now - daysSinceMonday)
  let stop ← EcmaDate.timeClip (start + weekMs)
  return (start, stop)

/-- The texts of the current week's start and end. -/
def currentUtcPeriod (now : Int) : Option (PyStr × PyStr) :=
  (utcPeriodValues now).map fun period =>
    (EcmaDate.toISOString period.1, EcmaDate.toISOString period.2)

end RngGamePlatform.Weekly
