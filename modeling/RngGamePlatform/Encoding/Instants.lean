/-
Module: RngGamePlatform.Encoding.Instants
Purpose: Timestamps can be read in one way only.
Trusted boundary: none
Main exports: civil_injective, zeroPadded_injective, length_zeroPadded,
  timestamp_injective
-/
import RngGamePlatform.Encoding.Readable
import RngGamePlatform.Encoding.Time

namespace RngGamePlatform.Encoding

section Dates

/-- The year of an era is within four hundred years, and the day of the year is
within it. -/
theorem dayOfYear_bounds {dayOfEra yearOfEra : Int} (low : 0 ≤ dayOfEra)
    (high : dayOfEra ≤ 146096)
    (isYear : yearOfEra =
      (dayOfEra - dayOfEra / 1460 + dayOfEra / 36524 - dayOfEra / 146096) / 365) :
    (0 ≤ yearOfEra ∧ yearOfEra ≤ 399) ∧
      0 ≤ dayOfEra - (365 * yearOfEra + yearOfEra / 4 - yearOfEra / 100) ∧
      dayOfEra - (365 * yearOfEra + yearOfEra / 4 - yearOfEra / 100) ≤ 366 := by
  constructor
  · omega
  constructor
  · -- the centuries of the day and of the year are few
    obtain ⟨fours, isFours⟩ : ∃ n, n = dayOfEra / 1460 := ⟨_, rfl⟩
    obtain ⟨century, isCentury⟩ : ∃ n, n = dayOfEra / 36524 := ⟨_, rfl⟩
    obtain ⟨last, isLast⟩ : ∃ n, n = dayOfEra / 146096 := ⟨_, rfl⟩
    obtain ⟨leaps, isLeaps⟩ : ∃ n, n = yearOfEra / 4 := ⟨_, rfl⟩
    obtain ⟨skips, isSkips⟩ : ∃ n, n = yearOfEra / 100 := ⟨_, rfl⟩
    rw [← isFours, ← isCentury, ← isLast] at isYear
    rw [← isLeaps, ← isSkips]
    have centuries : century = 0 ∨ century = 1 ∨ century = 2 ∨ century = 3 ∨
        century = 4 := by omega
    have lasts : last = 0 ∨ last = 1 := by omega
    have skipped : skips = 0 ∨ skips = 1 ∨ skips = 2 ∨ skips = 3 := by omega
    rcases centuries with rfl | rfl | rfl | rfl | rfl <;>
      rcases lasts with rfl | rfl <;>
        rcases skipped with rfl | rfl | rfl | rfl <;> omega
  · omega

/-- The date of a day, by its era, its year in the era and its day in the year,
which begins in March. -/
theorem civil_eq (day : Int) :
    ∃ era yearOfEra dayOfYear month : Int,
      civil day = (if (if month < 10 then month + 3 else month - 9) ≤ 2 then
          yearOfEra + era * 400 + 1
        else yearOfEra + era * 400,
        if month < 10 then month + 3 else month - 9,
        dayOfYear - (153 * month + 2) / 5 + 1) ∧
      month = (5 * dayOfYear + 2) / 153 ∧ (0 ≤ yearOfEra ∧ yearOfEra ≤ 399) ∧
      (0 ≤ dayOfYear ∧ dayOfYear ≤ 366) ∧
      day = era * 146097 + (yearOfEra * 365 + yearOfEra / 4 - yearOfEra / 100 +
        dayOfYear) - 719468 := by
  obtain ⟨era, isEra⟩ : ∃ n, n = (day + 719468) / 146097 := ⟨_, rfl⟩
  obtain ⟨dayOfEra, isDayOfEra⟩ : ∃ n, n = day + 719468 - era * 146097 := ⟨_, rfl⟩
  obtain ⟨yearOfEra, isYear⟩ : ∃ n, n =
      (dayOfEra - dayOfEra / 1460 + dayOfEra / 36524 - dayOfEra / 146096) / 365 :=
    ⟨_, rfl⟩
  obtain ⟨dayOfYear, isDay⟩ : ∃ n, n =
      dayOfEra - (365 * yearOfEra + yearOfEra / 4 - yearOfEra / 100) := ⟨_, rfl⟩
  obtain ⟨month, isMonth⟩ : ∃ n, n = (5 * dayOfYear + 2) / 153 := ⟨_, rfl⟩
  obtain ⟨inEra, inYear⟩ := dayOfYear_bounds (by omega) (by omega) isYear
  rw [← isDay] at inYear
  refine ⟨era, yearOfEra, dayOfYear, month, ?_, isMonth, inEra, inYear, by omega⟩
  simp only [civil, ← isEra, ← isDayOfEra, ← isYear, ← isDay, ← isMonth]

/-- The day number of a year, a month and a day. -/
def dayOfCivil (date : Int × Int × Int) : Int :=
  let year := if date.2.1 ≤ 2 then date.1 - 1 else date.1
  let month := if date.2.1 ≤ 2 then date.2.1 + 9 else date.2.1 - 3
  let era := year / 400
  let yearOfEra := year - era * 400
  let dayOfYear := (153 * month + 2) / 5 + date.2.2 - 1
  era * 146097 + (yearOfEra * 365 + yearOfEra / 4 - yearOfEra / 100 + dayOfYear) - 719468

theorem dayOfCivil_civil (day : Int) : dayOfCivil (civil day) = day := by
  obtain ⟨era, yearOfEra, dayOfYear, month, ofCivil, isMonth, inEra, inYear, isDay⟩ :=
    civil_eq day
  have sameEra : (yearOfEra + era * 400) / 400 = era := by omega
  rw [ofCivil]
  by_cases early : month < 10
  · have late : ¬month + 3 ≤ 2 := by omega
    simp only [dayOfCivil, early, late, if_true, if_false, Int.add_sub_cancel, sameEra]
    omega
  · have late : month - 9 ≤ 2 := by omega
    simp only [dayOfCivil, early, late, if_true, if_false, Int.add_sub_cancel, sameEra]
    omega

/-- Months and days have two digits. -/
theorem civil_bounds (day : Int) :
    (0 ≤ (civil day).2.1 ∧ (civil day).2.1 < 100) ∧
      0 ≤ (civil day).2.2 ∧ (civil day).2.2 < 100 := by
  obtain ⟨era, yearOfEra, dayOfYear, month, ofCivil, isMonth, inEra, inYear, isDay⟩ :=
    civil_eq day
  rw [ofCivil]
  dsimp only
  constructor
  · split <;> omega
  · omega

/-- Days are told apart by their dates. -/
theorem civil_injective {one other : Int} (same : civil one = civil other) :
    one = other := by
  rw [← dayOfCivil_civil one, same, dayOfCivil_civil]

end Dates

section Padding

theorem decimalValue_zeros (count : Nat) (text : PyStr) :
    decimalValue (List.replicate count (digit 0) ++ text) = decimalValue text := by
  have zeros : ∀ n, Nat.ofDigits 10 (List.replicate n 0) = 0 := by
    intro n
    induction n with
    | zero => rfl
    | succ n ih => rw [List.replicate_succ, Nat.ofDigits_cons, ih]
  have zero : (digit 0).val - 48 = 0 := by decide
  simp [decimalValue, Nat.ofDigits_append, zero, zeros]

/-- Padded numbers are told apart by their texts. -/
theorem zeroPadded_injective {width : Nat} {one other : Int}
    (same : zeroPadded width one = zeroPadded width other) : one = other := by
  have minus : ∀ count n, codePoint '-' ∉ List.replicate count (digit 0) ++ decimalNat n := by
    intro count n member
    cases List.mem_append.mp member with
    | inl zeros => exact absurd (List.eq_of_mem_replicate zeros) (by decide)
    | inr digits => exact minus_not_mem n digits
  simp only [zeroPadded] at same
  split at same
  case isTrue negative =>
    split at same
    case isTrue negative' =>
      have values := congrArg decimalValue (List.cons.inj same).2
      rw [decimalValue_zeros, decimalValue_zeros, decimalValue_decimalNat,
        decimalValue_decimalNat] at values
      omega
    case isFalse => exact absurd (same ▸ List.mem_cons_self) (minus _ _)
  case isFalse nonneg =>
    split at same
    case isTrue => exact absurd (same ▸ List.mem_cons_self) (minus _ _)
    case isFalse nonneg' =>
      have values := congrArg decimalValue same
      rw [decimalValue_zeros, decimalValue_zeros, decimalValue_decimalNat,
        decimalValue_decimalNat] at values
      omega

/-- A small number is padded to the width. -/
theorem length_zeroPadded {width : Nat} {i : Int} (positive : 0 < width) (nonneg : 0 ≤ i)
    (small : i < 10 ^ width) : (zeroPadded width i).length = width := by
  have short : (decimalNat i.natAbs).length ≤ width := by
    unfold decimalNat
    split
    · exact positive
    · rw [List.length_map, List.length_reverse,
        Nat.digits_length_le_iff (by decide)]
      have absolute : (i.natAbs : Int) = i := Int.natAbs_of_nonneg nonneg
      exact_mod_cast absolute ▸ small
  rw [zeroPadded, if_neg (by omega)]
  simp
  omega

theorem zeroPadded_char {width : Nat} {i : Int} {c : CodePoint}
    (member : c ∈ zeroPadded width i) : numeral c = true := by
  have padded : ∀ count, c ∈ List.replicate count (digit 0) ++ decimalNat i.natAbs →
      numeral c = true := by
    intro count inText
    cases List.mem_append.mp inText with
    | inl zeros =>
      rw [List.eq_of_mem_replicate zeros]
      decide
    | inr digits => simp [numeral, digits_of_decimalNat digits]
  simp only [zeroPadded] at member
  split at member
  · cases member with
    | head => decide
    | tail _ inText => exact padded _ inText
  · exact padded _ member

end Padding

section Timestamps

/-- Fields of two digits, of a second of the day. -/
theorem length_clockFields {second : Int} (low : 0 ≤ second) (high : second < 86400) :
    (zeroPadded 2 (second / 3600)).length = 2 ∧
      (zeroPadded 2 (second / 60 % 60)).length = 2 ∧
      (zeroPadded 2 (second % 60)).length = 2 := by
  constructor
  · exact length_zeroPadded (by decide) (by omega) (by omega)
  constructor
  · exact length_zeroPadded (by decide) (by omega) (by omega)
  · exact length_zeroPadded (by decide) (by omega) (by omega)

/-- The second of the day is within the day. -/
theorem secondOfDay_bounds (instant : Int) :
    0 ≤ instant % days 1 / seconds 1 ∧ instant % days 1 / seconds 1 < 86400 := by
  simp only [days, seconds]
  omega

theorem length_clockText (instant : Int) : (clockText instant).length = 8 := by
  obtain ⟨low, high⟩ := secondOfDay_bounds instant
  obtain ⟨hour, minute, second⟩ := length_clockFields low high
  simp only [clockText, List.length_append, hour, minute, second]
  rfl

/-- Seconds of the day are told apart by their times of day. -/
theorem clockText_injective {one other : Int} (same : clockText one = clockText other) :
    one % days 1 / seconds 1 = other % days 1 / seconds 1 := by
  obtain ⟨low, high⟩ := secondOfDay_bounds one
  obtain ⟨low', high'⟩ := secondOfDay_bounds other
  obtain ⟨hour, minute, second⟩ := length_clockFields low high
  obtain ⟨hour', minute', second'⟩ := length_clockFields low' high'
  simp only [clockText] at same
  obtain ⟨upToMinute, sameSecond⟩ :=
    List.append_inj' same (by rw [second, second'])
  obtain ⟨upToHour, sameMinute⟩ := List.append_inj'
    (List.append_cancel_right upToMinute) (by rw [minute, minute'])
  have sameHour := List.append_cancel_right upToHour
  have hours := zeroPadded_injective sameHour
  have minutes := zeroPadded_injective sameMinute
  have seconds := zeroPadded_injective sameSecond
  omega

/-- Days are told apart by the texts of their dates. -/
theorem dateText_injective {one other : Int} (same : dateText one = dateText other) :
    dayNumber one = dayNumber other := by
  obtain ⟨⟨low, high⟩, lowDay, highDay⟩ := civil_bounds (dayNumber one)
  obtain ⟨⟨low', high'⟩, lowDay', highDay'⟩ := civil_bounds (dayNumber other)
  have month : (zeroPadded 2 (civil (dayNumber one)).2.1).length = 2 :=
    length_zeroPadded (by decide) low high
  have month' : (zeroPadded 2 (civil (dayNumber other)).2.1).length = 2 :=
    length_zeroPadded (by decide) low' high'
  have day : (zeroPadded 2 (civil (dayNumber one)).2.2).length = 2 :=
    length_zeroPadded (by decide) lowDay highDay
  have day' : (zeroPadded 2 (civil (dayNumber other)).2.2).length = 2 :=
    length_zeroPadded (by decide) lowDay' highDay'
  simp only [dateText] at same
  obtain ⟨upToMonth, sameDay⟩ := List.append_inj' same (by rw [day, day'])
  obtain ⟨upToYear, sameMonth⟩ := List.append_inj'
    (List.append_cancel_right upToMonth) (by rw [month, month'])
  have sameYear := List.append_cancel_right upToYear
  apply civil_injective
  exact Prod.ext (zeroPadded_injective sameYear)
    (Prod.ext (zeroPadded_injective sameMonth) (zeroPadded_injective sameDay))

/-- Instants are told apart by their timestamps. -/
theorem timestamp_injective {one other : Int} (same : timestamp one = timestamp other) :
    one = other := by
  have fraction : ∀ instant : Int, (zeroPadded 6 (instant % seconds 1)).length = 6 := by
    intro instant
    exact length_zeroPadded (by decide) (by simp only [seconds]; omega)
      (by simp only [seconds]; omega)
  simp only [timestamp] at same
  obtain ⟨upToFraction, sameFraction⟩ := List.append_inj'
    (List.append_cancel_right same) (by rw [fraction, fraction])
  obtain ⟨upToClock, sameClock⟩ := List.append_inj'
    (List.append_cancel_right upToFraction) (by rw [length_clockText, length_clockText])
  have sameDay := dateText_injective (List.append_cancel_right upToClock)
  have sameSecond := clockText_injective sameClock
  have sameMicros := zeroPadded_injective sameFraction
  simp only [dayNumber, days, seconds] at sameDay sameSecond sameMicros
  omega

/-- A timestamp is one line of ASCII text. -/
theorem line_timestamp (instant : Int) : Line (timestamp instant) := by
  have number : ∀ width i, Line (zeroPadded width i) := by
    intro width i c member
    have isNumeral := zeroPadded_char member
    simp only [numeral, decide_eq_true_eq] at isNumeral
    omega
  simp only [timestamp, dateText, clockText]
  have date := (((number 4 (civil (dayNumber instant)).1).append (line_py "-" rfl)).append
    (number 2 (civil (dayNumber instant)).2.1)).append (line_py "-" rfl)
  have clock := (((number 2 (instant % days 1 / seconds 1 / 3600)).append
    (line_py ":" rfl)).append (number 2 (instant % days 1 / seconds 1 / 60 % 60))).append
      (line_py ":" rfl)
  exact ((((date.append (number _ _)).append (line_py "T" rfl)).append
    (clock.append (number _ _))).append (line_py "." rfl)).append (number _ _) |>.append
      (line_py "Z" rfl)

end Timestamps

end RngGamePlatform.Encoding
