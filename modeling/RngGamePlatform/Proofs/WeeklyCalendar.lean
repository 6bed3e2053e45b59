/-
Module: RngGamePlatform.Proofs.WeeklyCalendar
Purpose: The parties that compute or check a leaderboard week agree on it.
Trusted boundary: none
Main exports: IsMondayMidnight, WeekInRange, WeekAgreed, one_weekly_calendar
-/
import RngGamePlatform.Services.Leaderboards
import RngGamePlatform.WeeklyPeriods

namespace RngGamePlatform

open Calendar Encoding Weekly

/-- A whole number of weeks before or after Monday 1970-01-05T00:00:00Z. -/
def IsMondayMidnight (instant : Int) : Prop :=
  ∃ weeks : Int, instant = days (4 + 7 * weeks)

/-- The first instant of the year 1 and the end of the year 9999. -/
def firstInstant : Int := days (1 - DateTime.epochOrdinal)

def endOfTime : Int := days (3652060 - DateTime.epochOrdinal)

/-- The week of an instant, its end included, lies in the years 1 to 9999. -/
def WeekInRange (instant : Int) : Prop :=
  firstInstant ≤ weekStart instant ∧ weekStart instant + days 7 < endOfTime

theorem isMondayMidnight_iff (instant : Int) :
    IsMondayMidnight instant ↔ weekStart instant = instant := by
  simp only [IsMondayMidnight, weekStart, weekday, dayNumber, days, seconds]
  constructor
  · rintro ⟨weeks, rfl⟩
    omega
  · intro same
    exact ⟨(instant / 86400000000 - 4) / 7, by omega⟩

theorem isMondayMidnight_weekStart (instant : Int) : IsMondayMidnight (weekStart instant) := by
  rw [isMondayMidnight_iff]
  simp only [weekStart, weekday, dayNumber, days, seconds]
  omega

/-- The Monday of an instant is unique. -/
theorem IsMondayMidnight.eq_weekStart {monday instant : Int}
    (isMonday : IsMondayMidnight monday) (before : monday ≤ instant)
    (after : instant < monday + days 7) : monday = weekStart instant := by
  obtain ⟨weeks, rfl⟩ := isMonday
  simp only [weekStart, weekday, dayNumber, days, seconds] at *
  omega

/-- The weeks of two instants are the same or apart. -/
theorem weekStart_apart (one other : Int) :
    weekStart one = weekStart other ∨ weekStart one + days 7 ≤ weekStart other ∨
      weekStart other + days 7 ≤ weekStart one := by
  simp only [weekStart, weekday, dayNumber, days, seconds]
  omega

theorem WeekInRange.bounds {instant : Int} (inRange : WeekInRange instant) :
    firstInstant ≤ instant ∧ instant < endOfTime := by
  have low := weekStart_le instant
  have high := lt_weekStart_add instant
  exact ⟨Int.le_trans inRange.1 low, Int.lt_trans high inRange.2⟩

section Fields

variable {moment : DateTime}

/-- Going to UTC keeps the instant. -/
theorem astimezoneUtc_spec (low : firstInstant ≤ moment.instant)
    (high : moment.instant < endOfTime) :
    ∃ utc, moment.astimezoneUtc = some utc ∧ utc.instant = moment.instant ∧
      utc.offset = 0 := by
  have inRange : 1 ≤ (moment.wall - moment.offset) / dayMicros ∧
      (moment.wall - moment.offset) / dayMicros ≤ 3652059 := by
    simp only [DateTime.instant, firstInstant, endOfTime, days, seconds, dayMicros,
      DateTime.epochOrdinal] at *
    omega
  obtain ⟨utc, built, wall, offset⟩ :=
    @DateTime.ofWall_eq_some _ 0 (by decide) inRange
  refine ⟨utc, built, ?_, offset⟩
  simp only [DateTime.instant, wall, offset]
  omega

/-- The weekday of the fields is the one of the instant. -/
theorem weekday_of_utc (utc : moment.offset = 0) :
    moment.weekday = Encoding.weekday moment.instant := by
  have ordinal := moment.ordinal_eq
  simp only [DateTime.weekday, DateTime.instant, Encoding.weekday, dayNumber, days, seconds,
    dayMicros, DateTime.epochOrdinal, utc] at *
  omega

theorem micros_of_utc (utc : moment.offset = 0) :
    moment.clock.micros = moment.instant % days 1 := by
  have micros := moment.micros_eq
  simp only [DateTime.instant, days, seconds, dayMicros, DateTime.epochOrdinal, utc] at *
  omega

/-- The test of the fields accepts the Mondays at midnight. -/
theorem isPeriodStart_iff (utc : moment.offset = 0) :
    isPeriodStart moment = true ↔ IsMondayMidnight moment.instant := by
  have fields := moment.clock.fields_eq_zero_iff
  rw [micros_of_utc utc] at fields
  rw [isMondayMidnight_iff]
  simp only [isPeriodStart, Bool.and_eq_true, decide_eq_true_eq, and_assoc, fields,
    weekday_of_utc utc, weekStart, Encoding.weekday, dayNumber, days, seconds]
  omega

end Fields

/-- Midnight of the day of a UTC moment. -/
theorem atMidnight_instant {moment : DateTime} (utc : moment.offset = 0) :
    moment.atMidnight.instant = days (dayNumber moment.instant) := by
  have ordinal := moment.ordinal_eq
  simp only [DateTime.instant, DateTime.atMidnight, DateTime.wall, Clock.micros_midnight,
    days, seconds, dayNumber, dayMicros, DateTime.epochOrdinal, utc] at *
  omega

/-- A shift of a UTC moment that stays in the years 1 to 9999. -/
theorem add_spec {moment : DateTime} {delta : Int} (utc : moment.offset = 0)
    (low : firstInstant ≤ moment.instant + delta)
    (high : moment.instant + delta < endOfTime) :
    ∃ shifted, moment.add delta = some shifted ∧
      shifted.instant = moment.instant + delta ∧ shifted.offset = 0 := by
  have inRange : 1 ≤ (moment.wall + delta) / dayMicros ∧
      (moment.wall + delta) / dayMicros ≤ 3652059 := by
    simp only [DateTime.instant, firstInstant, endOfTime, days, seconds, dayMicros,
      DateTime.epochOrdinal, utc] at *
    omega
  obtain ⟨shifted, built, wall, offset⟩ :=
    @DateTime.ofWall_eq_some _ moment.offset moment.validOffset inRange
  refine ⟨shifted, built, ?_, offset.trans utc⟩
  simp only [DateTime.instant, wall, offset]
  omega

/-- `leaderboard_period` computes the week of the instant. -/
theorem leaderboardPeriod_spec {moment : DateTime} (inRange : WeekInRange moment.instant) :
    ∃ start stop, Weekly.leaderboardPeriod moment = .ok (start, stop) ∧
      start.offset = 0 ∧ stop.offset = 0 ∧
      start.instant = weekStart moment.instant ∧
      stop.instant = weekStart moment.instant + days 7 := by
  obtain ⟨low, high⟩ := inRange.bounds
  obtain ⟨utc, isUtc, sameInstant, utcOffset⟩ := astimezoneUtc_spec low high
  have back : utc.instant + -(utc.weekday * dayMicros) =
      weekStart moment.instant + moment.instant % days 1 := by
    rw [weekday_of_utc utcOffset, sameInstant]
    simp only [weekStart, Encoding.weekday, dayNumber, days, seconds, dayMicros]
    omega
  have onMonday := inRange.1
  have beforeEnd := inRange.2
  have withinDay : 0 ≤ moment.instant % days 1 ∧ moment.instant % days 1 < days 1 := by
    simp only [days, seconds]
    omega
  obtain ⟨monday, isMonday, mondayInstant, mondayOffset⟩ :=
    @add_spec _ (-(utc.weekday * dayMicros)) utcOffset
      (by rw [back]; omega) (by rw [back]; simp only [days, seconds] at *; omega)
  have startInstant : monday.atMidnight.instant = weekStart moment.instant := by
    rw [atMidnight_instant mondayOffset, mondayInstant, back]
    simp only [weekStart, Encoding.weekday, dayNumber, days, seconds]
    omega
  obtain ⟨stop, isStop, stopInstant, stopOffset⟩ :=
    @add_spec monday.atMidnight (7 * dayMicros) mondayOffset
      (by rw [startInstant]; simp only [dayMicros]; omega)
      (by rw [startInstant]; simpa [dayMicros, days, seconds] using beforeEnd)
  refine ⟨monday.atMidnight, stop, ?_, mondayOffset, stopOffset, startInstant, ?_⟩
  · simp [Weekly.leaderboardPeriod, isUtc, isMonday, isStop, bind, Except.bind, pure,
      Except.pure]
  · rw [stopInstant, startInstant]
    rfl

/-- The services' model computes the period on instants: it is the one that the code computes
on the fields of the moment. -/
theorem leaderboardPeriod_refines {moment : DateTime}
    (inRange : WeekInRange moment.instant) :
    (Weekly.leaderboardPeriod moment).map (fun period =>
      (period.1.instant, period.2.instant)) =
        .ok (RngGamePlatform.leaderboardPeriod moment.instant) := by
  obtain ⟨start, stop, isPeriod, _, _, startInstant, stopInstant⟩ :=
    leaderboardPeriod_spec inRange
  simp [isPeriod, Except.map, RngGamePlatform.leaderboardPeriod, startInstant,
    stopInstant]

/-- A checked value is accepted exactly where it is a Monday at midnight. -/
theorem checkedStart_iff {moment : DateTime} (inRange : WeekInRange moment.instant)
    (refusal : PeriodError) :
    (∃ accepted, checkedStart refusal moment = .ok accepted) ↔
      IsMondayMidnight moment.instant := by
  obtain ⟨utc, isUtc, sameInstant, utcOffset⟩ :=
    astimezoneUtc_spec inRange.bounds.1 inRange.bounds.2
  rw [← sameInstant, ← isPeriodStart_iff utcOffset]
  cases accepted : isPeriodStart utc <;>
    simp [checkedStart, isUtc, accepted, bind, Except.bind, pure, Except.pure]

/-! The browser. -/

/-- Years from the epoch on have four digits. -/
theorem fullYear_of_nonneg {now : Int} (nonneg : 0 ≤ now) :
    EcmaDate.makeFullYear (EcmaDate.getUTCFullYear now) = EcmaDate.getUTCFullYear now := by
  have year := (EcmaDate.getUTCFullYear_spec now).2
  have today : 0 ≤ EcmaDate.day now := Int.ediv_nonneg nonneg (by decide)
  have late : 1970 ≤ EcmaDate.getUTCFullYear now := by
    simp only [EcmaDate.dayFromYear] at year
    omega
  exact if_neg (by omega)

/-- The browser's week is the week of its millisecond. -/
theorem utcPeriodValues_eq {instant : Int} (nonneg : 0 ≤ instant)
    (inRange : WeekInRange instant) :
    ∃ startMs stopMs, utcPeriodValues (instant / 1000) = some (startMs, stopMs) ∧
      startMs * 1000 = weekStart instant ∧
      stopMs * 1000 = weekStart instant + days 7 := by
  have nonnegMs : 0 ≤ instant / 1000 := Int.ediv_nonneg nonneg (by decide)
  have start : ∀ shift, EcmaDate.makeDay (EcmaDate.getUTCFullYear (instant / 1000))
      (EcmaDate.getUTCMonth (instant / 1000))
      (EcmaDate.getUTCDate (instant / 1000) - shift) =
        EcmaDate.day (instant / 1000) - shift :=
    EcmaDate.makeDay_fields _
  obtain ⟨monday, isMonday⟩ : ∃ monday, monday =
      (EcmaDate.day (instant / 1000) -
        (EcmaDate.getUTCDay (instant / 1000) + 6) % 7) * EcmaDate.msPerDay := ⟨_, rfl⟩
  have weeks : monday * 1000 = weekStart instant := by
    simp only [isMonday, EcmaDate.getUTCDay, EcmaDate.day, EcmaDate.msPerDay, weekStart,
      Encoding.weekday, dayNumber, days, seconds]
    omega
  have beforeEnd := inRange.2
  have low := lt_weekStart_add instant
  simp only [endOfTime, DateTime.epochOrdinal, days, seconds] at beforeEnd low
  have startValid : EcmaDate.timeClip monday = some monday := if_pos (by omega)
  have stopValid : EcmaDate.timeClip (monday + weekMs) = some (monday + weekMs) := by
    simp only [weekMs]
    exact if_pos (by omega)
  refine ⟨monday, monday + weekMs, ?_, weeks, ?_⟩
  · simp [utcPeriodValues, EcmaDate.dateUTC, fullYear_of_nonneg nonnegMs, start, ← isMonday,
      startValid, stopValid]
  · simp only [weekMs, days, seconds] at *
    omega

/-- What the parties make of the week of a moment. -/
structure WeekAgreed (moment : DateTime) : Prop where
  /-- `leaderboard_period` is the one week that holds the moment, in UTC. -/
  period : ∃ start stop, Weekly.leaderboardPeriod moment = .ok (start, stop) ∧
    start.offset = 0 ∧ stop.offset = 0 ∧ IsMondayMidnight start.instant ∧
    start.instant ≤ moment.instant ∧ moment.instant < stop.instant ∧
    stop.instant = start.instant + days 7 ∧
    ∀ monday, IsMondayMidnight monday → monday ≤ moment.instant →
      moment.instant < monday + days 7 → monday = start.instant
  /-- A Monday at midnight is what the fields of the calendar say it is. -/
  fields : moment.offset = 0 →
    (IsMondayMidnight moment.instant ↔
      moment.weekday = 0 ∧ moment.clock.hour = 0 ∧ moment.clock.minute = 0 ∧
        moment.clock.second = 0 ∧ moment.clock.microsecond = 0)
  api : (∃ accepted, apiPeriodStart (.aware moment) = .ok accepted) ↔
    IsMondayMidnight moment.instant
  settlement : (∃ accepted, settlementPeriodStart moment = .ok accepted) ↔
    IsMondayMidnight moment.instant
  rebuild : ∀ fromisoformat text, fromisoformat (spellOffset text) = .ok (.aware moment) →
    ((∃ accepted, rebuildPeriod fromisoformat text = .ok accepted) ↔
      IsMondayMidnight moment.instant)
  /-- The accepted moments are the starts of their own periods. -/
  ownStart : IsMondayMidnight moment.instant ↔
    ∃ start stop, Weekly.leaderboardPeriod moment = .ok (start, stop) ∧
      start.instant = moment.instant
  /-- The browser computes the same start and end at the same millisecond. -/
  browser : 0 ≤ moment.instant →
    ∃ start stop startMs stopMs, Weekly.leaderboardPeriod moment = .ok (start, stop) ∧
      utcPeriodValues (moment.instant / 1000) = some (startMs, stopMs) ∧
      currentUtcPeriod (moment.instant / 1000) =
        some (EcmaDate.toISOString startMs, EcmaDate.toISOString stopMs) ∧
      startMs * 1000 = start.instant ∧ stopMs * 1000 = stop.instant
  /-- The period of the end is the next one, and periods do not overlap. -/
  tiling : ∀ other, WeekInRange other.instant →
    ∀ start stop start' stop', Weekly.leaderboardPeriod moment = .ok (start, stop) →
      Weekly.leaderboardPeriod other = .ok (start', stop') →
      (other.instant = stop.instant → start'.instant = stop.instant) ∧
        (start.instant = start'.instant ∧ stop.instant = stop'.instant ∨
          stop.instant ≤ start'.instant ∨ stop'.instant ≤ start.instant)

/-- Every party that computes or checks a leaderboard week agrees on it, whatever
the UTC offset of the moment. -/
theorem one_weekly_calendar {moment : DateTime} (inRange : WeekInRange moment.instant) :
    WeekAgreed moment := by
  obtain ⟨start, stop, isPeriod, startOffset, stopOffset, startInstant, stopInstant⟩ :=
    leaderboardPeriod_spec inRange
  constructor
  case period =>
    refine ⟨start, stop, isPeriod, startOffset, stopOffset, ?_, ?_, ?_, ?_, ?_⟩
    · rw [startInstant]
      exact isMondayMidnight_weekStart _
    · rw [startInstant]
      exact weekStart_le _
    · rw [stopInstant]
      exact lt_weekStart_add _
    · rw [stopInstant, startInstant]
    · intro monday isMonday before after
      rw [startInstant]
      exact isMonday.eq_weekStart before after
  case fields =>
    intro utc
    rw [← isPeriodStart_iff utc]
    simp [isPeriodStart, and_assoc]
  case api => exact checkedStart_iff inRange _
  case settlement => exact checkedStart_iff inRange _
  case rebuild =>
    intro fromisoformat text parsed
    rw [← checkedStart_iff inRange
      (.valueError (py "period-start must be Monday 00:00:00 UTC"))]
    simp only [rebuildPeriod, parsed]
    exact Iff.rfl
  case ownStart =>
    rw [isMondayMidnight_iff]
    constructor
    · exact fun same => ⟨start, stop, isPeriod, startInstant.trans same⟩
    · rintro ⟨start', stop', isPeriod', same⟩
      rw [isPeriod] at isPeriod'
      cases isPeriod'
      exact startInstant.symm.trans same
  case browser =>
    intro nonneg
    obtain ⟨startMs, stopMs, values, sameStart, sameStop⟩ :=
      utcPeriodValues_eq nonneg inRange
    refine ⟨start, stop, startMs, stopMs, isPeriod, values, ?_, ?_, ?_⟩
    · rw [currentUtcPeriod, values]
      rfl
    · rw [startInstant, sameStart]
    · rw [stopInstant, sameStop]
  case tiling =>
    intro other otherInRange first stop' start'' stop'' isFirst isSecond
    rw [isPeriod] at isFirst
    cases isFirst
    obtain ⟨start₂, stop₂, isPeriod₂, _, _, startInstant₂, stopInstant₂⟩ :=
      leaderboardPeriod_spec otherInRange
    rw [isPeriod₂] at isSecond
    cases isSecond
    rw [startInstant, stopInstant, startInstant₂, stopInstant₂]
    constructor
    · intro follows
      rw [follows]
      simp only [weekStart, Encoding.weekday, dayNumber, days, seconds]
      omega
    · cases weekStart_apart moment.instant other.instant with
      | inl same => exact .inl ⟨same, by rw [same]⟩
      | inr apart => exact .inr apart

namespace Sample

theorem valid_hour : (0 : Int) ≤ 2 ∧ (2 : Int) < 24 := by decide

theorem valid_year :
    1 ≤ (Date.ofOrdinal 739831).year ∧ (Date.ofOrdinal 739831).year ≤ 9999 :=
  ⟨ofOrdinal_year_pos (by decide), ofOrdinal_year_lt (by decide)⟩

theorem valid_offset : -dayMicros < 7200000000 ∧ 7200000000 < dayMicros := by decide

/-- Monday 2026-08-03 at 02:00 in a zone two hours ahead of UTC. -/
def monday : DateTime where
  date := Date.ofOrdinal 739831
  clock := { Clock.midnight with hour := 2, validHour := valid_hour }
  offset := 7200000000
  validYear := valid_year
  validOffset := valid_offset

end Sample

theorem one_weekly_calendar_ahead :
    IsMondayMidnight Sample.monday.instant ∧ WeekAgreed Sample.monday := by
  have instant : Sample.monday.instant = days 20668 := by
    decide +kernel
  have inRange : WeekInRange Sample.monday.instant := by
    rw [instant]
    exact ⟨by decide, by decide⟩
  refine ⟨⟨2952, ?_⟩, one_weekly_calendar inRange⟩
  rw [instant]
  rfl

end RngGamePlatform
