/-
Module: RngGamePlatform.Proofs.ProjectedInstants
Purpose: Which completion times the Redis projection holds and shows exactly.
Trusted boundary: none
Main exports: ExactMicros, decoded_iff, exact_iff, ShownExactly,
  projected_instants
-/
import RngGamePlatform.Encoding.Rounding
import RngGamePlatform.Projections.Reader

namespace RngGamePlatform

open Encoding Binary64

/-- The last microsecond of the year 9999. -/
def lastMicros : Nat := 253402300799999999

/-! ### The condition -/

/-- Whether the microseconds have more binary digits than usual over the seconds: the
seconds have passed a power of two that the microseconds have yet to pass. -/
def Late (instant : Nat) : Prop := 2 ^ 53 * 1000000 ≤ instant * 2 ^ (72 - instant.log2)

instance (instant : Nat) : Decidable (Late instant) := by
  unfold Late
  infer_instance

/-- The binary places after the point of the seconds. -/
def places (instant : Nat) : Nat :=
  if Late instant then 71 - instant.log2 else 72 - instant.log2

/-- The remainder of a division by a million that is nearest to zero. -/
def residue (x : Nat) : Int := ((x + 500000) % 1000000 : Nat) - 500000

/-- The instants that survive both roundings: what the rounding of the seconds cuts off
is at most half of a place of the microseconds, and, from `2 ^ 52` microseconds on, these
are a multiple of their last place and at most half of a microsecond is changed. -/
def ExactMicros (instant : Nat) : Prop :=
  let cut := residue (instant * 2 ^ places instant)
  if instant < 2 ^ 52 then cut ≤ 2 ^ (places instant + instant.log2 - 53)
  else 2 ^ (instant.log2 - 52) ∣ instant ∧
    (2 * cut.natAbs < 2 ^ places instant ∨ 2 * cut.natAbs = 2 ^ places instant ∧ 2 ∣ instant)

instance (instant : Nat) : Decidable (ExactMicros instant) := by
  unfold ExactMicros
  infer_instance

/-! ### The seconds -/

section Seconds

variable {instant : Nat}

theorem log_le (inRange : instant ≤ lastMicros) : instant.log2 ≤ 57 := by
  rcases Nat.eq_zero_or_pos instant with rfl | positive
  · decide
  · have below : instant.log2 < 58 := by
      rw [Nat.log2_lt (Nat.pos_iff_ne_zero.mp positive)]
      unfold lastMicros at inRange
      omega
    omega

theorem places_add_log (inRange : instant ≤ lastMicros) :
    ¬Late instant ∧ places instant + instant.log2 = 72 ∨
      Late instant ∧ places instant + instant.log2 = 71 := by
  have atMost := log_le inRange
  unfold places
  split
  · next late => exact Or.inr ⟨late, by omega⟩
  · next notLate => exact Or.inl ⟨notLate, by omega⟩

/-- The seconds fill 53 binary digits down to their last place. -/
theorem seconds_fill (positive : 0 < instant) (inRange : instant ≤ lastMicros) :
    2 ^ 52 * 1000000 ≤ instant * 2 ^ places instant ∧
      instant * 2 ^ places instant < 2 ^ 53 * 1000000 := by
  have low := Nat.log2_self_le (Nat.pos_iff_ne_zero.mp positive)
  have high := @Nat.lt_log2_self instant
  have atMost := log_le inRange
  have lower : 2 ^ 72 ≤ instant * 2 ^ (72 - instant.log2) := by
    calc 2 ^ 72 = 2 ^ instant.log2 * 2 ^ (72 - instant.log2) := by
          rw [← Nat.pow_add, Nat.add_sub_cancel' (by omega)]
      _ ≤ instant * 2 ^ (72 - instant.log2) := Nat.mul_le_mul_right _ low
  have upper : instant * 2 ^ (72 - instant.log2) < 2 ^ 73 := by
    calc instant * 2 ^ (72 - instant.log2) < 2 ^ (instant.log2 + 1) * 2 ^ (72 - instant.log2) :=
          Nat.mul_lt_mul_of_pos_right high (Nat.two_pow_pos _)
      _ = 2 ^ 73 := by
          rw [← Nat.pow_add]
          congr 1
          omega
  unfold places
  split
  · next late =>
      have double : instant * 2 ^ (72 - instant.log2) =
      2 * (instant * 2 ^ (71 - instant.log2)) := by
        rw [show 72 - instant.log2 = 71 - instant.log2 + 1 by omega, Nat.pow_succ]
        ring
      unfold Late at late
      omega
  · next notLate =>
      unfold Late at notLate
      omega

/-- The mantissa of the seconds. -/
def secondsMantissa (instant : Nat) : Nat :=
  roundHalfEven (instant * 2 ^ places instant) 1000000

theorem seconds_eq (positive : 0 < instant) (inRange : instant ≤ lastMicros) :
    ofQuotient instant 1000000 =
      ⟨secondsMantissa instant, ((0 : Nat) : Int) - places instant⟩ := by
  obtain ⟨low, high⟩ := seconds_fill positive inRange
  have million : 0 < 1000000 := by decide
  exact @ofQuotient_eq _ _ _ 0 million low high

/-- What the rounding of the seconds cuts off, in millionths of their last place. -/
theorem cut_eq (inRange : instant ≤ lastMicros) :
    ((instant * 2 ^ places instant : Nat) : Int) - (secondsMantissa instant * 1000000 : Nat) =
      residue (instant * 2 ^ places instant) := by
  have atMost := log_le inRange
  have divides : 64 ∣ instant * 2 ^ places instant := by
    apply Nat.dvd_mul_left_of_dvd
    apply Nat.pow_dvd_pow 2 (_ : 6 ≤ places instant)
    rcases places_add_log inRange with ⟨_, total⟩ | ⟨_, total⟩
    · omega
    · omega
  have million : 0 < 1000000 := by decide
  have lower := (le_roundHalfEven_iff million).mp (Nat.le_refl (secondsMantissa instant))
  have upper := (roundHalfEven_le_iff million).mp (Nat.le_refl (secondsMantissa instant))
  unfold residue
  generalize instant * 2 ^ places instant = x at *
  omega

end Seconds

/-! ### The microseconds of the seconds -/

section Micros

variable {instant : Nat}

/-- The seconds and the instant differ by half of a microsecond at most. -/
def Close (instant : Nat) : Prop :=
  2 * (residue (instant * 2 ^ places instant)).natAbs ≤ 2 ^ places instant

/-- The nearest microsecond to the seconds is the instant. -/
theorem decoded_iff (positive : 0 < instant) (inRange : instant ≤ lastMicros) :
    (ofQuotient instant 1000000).nearestTimes 1000000 = instant ↔
      2 * (residue (instant * 2 ^ places instant)).natAbs < 2 ^ places instant ∨
        2 * (residue (instant * 2 ^ places instant)).natAbs = 2 ^ places instant ∧
          2 ∣ instant := by
  have place := Nat.two_pow_pos (places instant)
  have isCut := cut_eq inRange
  rw [seconds_eq positive inRange, nearestTimes_eq, Nat.le_antisymm_iff,
    roundHalfEven_le_iff place, le_roundHalfEven_iff place]
  omega

/-- The seconds lie in the binade of the instant, or just below it. -/
theorem micros_binade (positive : 0 < instant) (inRange : instant ≤ lastMicros)
    (close : Close instant) :
    secondsMantissa instant * 1000000 < 2 ^ (instant.log2 + 1) * 2 ^ places instant ∧
      (2 ^ instant.log2 * 2 ^ places instant ≤ secondsMantissa instant * 1000000 ∨
        instant = 2 ^ instant.log2) := by
  have low := Nat.log2_self_le (Nat.pos_iff_ne_zero.mp positive)
  have high := @Nat.lt_log2_self instant
  have place := Nat.two_pow_pos (places instant)
  have isCut := cut_eq inRange
  have upper : (instant + 1) * 2 ^ places instant ≤ 2 ^ (instant.log2 + 1) * 2 ^ places instant :=
    Nat.mul_le_mul_right _ high
  have expanded : (instant + 1) * 2 ^ places instant =
      instant * 2 ^ places instant + 2 ^ places instant := Nat.succ_mul _ _
  unfold Close at close
  constructor
  · omega
  · by_cases isPower : instant = 2 ^ instant.log2
    · exact Or.inr isPower
    · left
      have lower : (2 ^ instant.log2 + 1) * 2 ^ places instant ≤ instant * 2 ^ places instant :=
        Nat.mul_le_mul_right _ (by omega)
      have expanded' : (2 ^ instant.log2 + 1) * 2 ^ places instant =
          2 ^ instant.log2 * 2 ^ places instant + 2 ^ places instant := Nat.succ_mul _ _
      omega

/-- Every power of two comes back, also where the seconds lie below its binade. -/
theorem powers_encoded : ∀ log < 58,
    ((ofQuotient (2 ^ log) 1000000).times 1000000).trunc = 2 ^ log := by
  decide +kernel

theorem powers_cut : ∀ log < 52, residue (2 ^ log * 2 ^ places (2 ^ log)) ≤
    2 ^ (places (2 ^ log) + log - 53) := by
  decide +kernel

theorem times_seconds (positive : 0 < instant) (inRange : instant ≤ lastMicros) :
    (ofQuotient instant 1000000).times 1000000 =
      ofQuotient (secondsMantissa instant * 1000000) (2 ^ places instant) := by
  rw [seconds_eq positive inRange, times_eq]

/-- Below `2 ^ 52`, the microseconds keep places after the point, and their last place
decides whether they fall below the instant. -/
theorem encoded_small (positive : 0 < instant) (inRange : instant ≤ lastMicros)
    (small : instant.log2 ≤ 51) (close : Close instant) :
    ((ofQuotient instant 1000000).times 1000000).trunc = instant ↔
      residue (instant * 2 ^ places instant) ≤ 2 ^ (places instant + instant.log2 - 53) := by
  obtain ⟨high, cases⟩ := micros_binade positive inRange close
  rcases cases with low | isPower
  · have place := Nat.two_pow_pos (places instant)
    have isCut := cut_eq inRange
    have half := Nat.two_pow_pos (51 - instant.log2)
    have total := places_add_log inRange
    have isTrunc := @trunc_ofQuotient_small (places instant)
      (secondsMantissa instant * 1000000) (instant.log2 + 1) (by omega)
      (by rw [Nat.pow_succ]; linarith) high
    have isStep : 2 ^ (53 - (instant.log2 + 1)) = 2 * 2 ^ (51 - instant.log2) := by
      rw [← Nat.pow_succ']
      congr 1
      omega
    have isPlace : 2 ^ places instant = 2 * (2 * 2 ^ (51 - instant.log2)) *
        2 ^ (places instant + instant.log2 - 53) := by
      rw [← Nat.pow_succ', ← Nat.pow_succ', ← Nat.pow_add]
      congr 1
      omega
    have upper : 2 * (secondsMantissa instant * 1000000) ≤
        2 * (instant * 2 ^ places instant) + 2 ^ places instant := by
      unfold Close at close
      omega
    rw [times_seconds positive inRange, isTrunc, isStep,
      floor_roundHalfEven half isPlace place upper, ← isCut]
    have sameSlack : ((2 ^ (places instant + instant.log2 - 53) : Nat) : Int) =
        2 ^ (places instant + instant.log2 - 53) := Nat.cast_pow 2 _
    rw [← sameSlack]
    omega
  · have encoded := powers_encoded instant.log2 (by omega)
    have cut := powers_cut instant.log2 (by omega)
    rw [← isPower] at encoded cut
    exact iff_of_true encoded cut

/-- From `2 ^ 52` on, they are rounded to a multiple of their last place. -/
theorem encoded_large (positive : 0 < instant) (inRange : instant ≤ lastMicros)
    (large : 52 ≤ instant.log2) (close : Close instant)
    (decoded : (ofQuotient instant 1000000).nearestTimes 1000000 = instant) :
    ((ofQuotient instant 1000000).times 1000000).trunc = instant ↔
      2 ^ (instant.log2 - 52) ∣ instant := by
  obtain ⟨high, cases⟩ := micros_binade positive inRange close
  have place := Nat.two_pow_pos (places instant)
  rw [seconds_eq positive inRange, nearestTimes_eq] at decoded
  rcases cases with low | isPower
  · have isTrunc := @trunc_ofQuotient_large (places instant)
      (secondsMantissa instant * 1000000) (instant.log2 + 1) (by omega)
      (by rw [Nat.pow_succ]; linarith) high
    have isStep : instant.log2 + 1 - 53 = instant.log2 - 52 := by omega
    rw [times_seconds positive inRange, isTrunc, isStep]
    constructor
    · intro same
      exact ⟨_, same.symm.trans (Nat.mul_comm _ _)⟩
    · exact roundHalfEven_multiple place (Nat.two_pow_pos _) decoded
  · have encoded := powers_encoded instant.log2 (Nat.lt_succ_of_le (log_le inRange))
    have divides : 2 ^ (instant.log2 - 52) ∣ 2 ^ instant.log2 :=
      Nat.pow_dvd_pow 2 (Nat.sub_le _ _)
    rw [← isPower] at encoded divides
    exact iff_of_true encoded divides

/-- Below `2 ^ 52`, the places of the seconds are finer than half of a microsecond. -/
theorem close_small (inRange : instant ≤ lastMicros) (small : instant.log2 ≤ 51) :
    2 * (residue (instant * 2 ^ places instant)).natAbs < 2 ^ places instant := by
  have fine : 2 ^ 20 ≤ 2 ^ places instant := by
    apply Nat.pow_le_pow_right (by decide)
    rcases places_add_log inRange with ⟨_, total⟩ | ⟨_, total⟩
    · omega
    · omega
  unfold residue
  omega

/-- An instant is encoded and decoded exactly if and only if it meets the condition. -/
theorem exact_iff (positive : 0 < instant) (inRange : instant ≤ lastMicros) :
    ((ofQuotient instant 1000000).times 1000000).trunc = instant ∧
        (ofQuotient instant 1000000).nearestTimes 1000000 = instant ↔
      ExactMicros instant := by
  have isSmall : instant < 2 ^ 52 ↔ instant.log2 < 52 :=
    (Nat.log2_lt (Nat.pos_iff_ne_zero.mp positive)).symm
  unfold ExactMicros
  simp only
  split
  · next small =>
      have log : instant.log2 ≤ 51 := Nat.le_of_lt_succ (isSmall.mp small)
      have fine := close_small inRange log
      have decoded := (decoded_iff positive inRange).mpr (Or.inl fine)
      rw [encoded_small positive inRange log (Nat.le_of_lt fine)]
      exact and_iff_left decoded
  · next notSmall =>
      have log : 52 ≤ instant.log2 := Nat.not_lt.mp (mt isSmall.mpr notSmall)
      rw [← decoded_iff positive inRange]
      apply and_congr_left
      intro decoded
      have close : Close instant := by
        rcases (decoded_iff positive inRange).mp decoded with less | ⟨same, _⟩
        · exact Nat.le_of_lt less
        · exact Nat.le_of_eq same
      exact encoded_large positive inRange log close decoded

end Micros

/-! ### The entries that are shown -/

section Shown

variable {instant : Nat}

theorem floatMicros_natCast (instant : Nat) : floatMicros instant =
    (((ofQuotient instant 1000000).times 1000000).trunc : Int) := by
  unfold floatMicros
  exact if_neg (Int.not_lt.mpr (Int.natCast_nonneg instant))

theorem fromTimestamp_natCast (instant : Nat) : fromTimestamp instant =
    ((ofQuotient instant 1000000).nearestTimes 1000000 : Int) := by
  unfold fromTimestamp
  exact if_neg (Int.not_lt.mpr (Int.natCast_nonneg instant))

/-- The projection holds the microseconds of a completion time, and shows the entry that
the database shows. -/
structure ShownExactly (instant : Nat) : Prop where
  encoded : floatMicros instant = instant
  decoded : fromTimestamp (floatMicros instant) = instant
  shown : ∀ (settings : RebuildSettings) (score : FinalScore) (rank : Nat)
    (publicLabel : PyStr) (ownerId : Uuid), settings.timestampMicros = floatMicros →
    score.completedAt = instant →
      projectedEntry settings.unicode (fieldsOf settings score rank) publicLabel ownerId =
        some (databaseEntry score rank publicLabel ownerId)

theorem shownExactly_iff (inRange : instant ≤ lastMicros) :
    ShownExactly instant ↔ ExactMicros instant := by
  have isExact : floatMicros instant = instant ∧ fromTimestamp instant = instant ↔
      ExactMicros instant := by
    rw [floatMicros_natCast, fromTimestamp_natCast, Int.natCast_inj, Int.natCast_inj]
    rcases Nat.eq_zero_or_pos instant with rfl | positive
    · decide +kernel
    · exact exact_iff positive inRange
  rw [← isExact]
  constructor
  · rintro ⟨encoded, decoded, _⟩
    rw [encoded] at decoded
    exact ⟨encoded, decoded⟩
  · rintro ⟨encoded, decoded⟩
    constructor
    case encoded => exact encoded
    case decoded => rw [encoded, decoded]
    case shown =>
      intro settings score rank publicLabel ownerId isFloat isInstant
      have sameTime : fromTimestamp (settings.timestampMicros score.completedAt) =
          score.completedAt := by
        rw [isFloat, isInstant, encoded, decoded]
      simp only [projectedEntry, fieldsOf, uuidOf_uuidStr,
        Option.bind_eq_bind, Option.bind_some, sameTime, databaseEntry]

end Shown

/-- A completion time from the epoch to the end of the year 9999 is projected and shown
exactly if and only if it meets the condition; over such times the encoding increases. -/
theorem projected_instants (instant : Nat) (inRange : instant ≤ lastMicros) :
    (ShownExactly instant ↔ ExactMicros instant) ∧
      ∀ earlier < instant, ExactMicros earlier → ExactMicros instant →
        floatMicros earlier < floatMicros instant := by
  constructor
  · exact shownExactly_iff inRange
  · intro earlier before exactEarlier exactInstant
    have earlierRange : earlier ≤ lastMicros := Nat.le_trans (Nat.le_of_lt before) inRange
    rw [((shownExactly_iff inRange).mpr exactInstant).encoded,
      ((shownExactly_iff earlierRange).mpr exactEarlier).encoded]
    exact Int.ofNat_lt.mpr before

/-- A completion time of 2026. -/
theorem projected_instants_now : ShownExactly 1784700000000003 :=
  (projected_instants 1784700000000003 (by decide)).1.mpr (by decide +kernel)

/-- Two completion times of 2039 are projected as one. -/
theorem instants_collide :
    2200000000000003 ≤ lastMicros ∧
      floatMicros 2200000000000003 = 2200000000000002 ∧
      floatMicros 2200000000000002 = 2200000000000002 ∧
      fromTimestamp (floatMicros 2200000000000003) = 2200000000000002 := by
  decide +kernel

end RngGamePlatform
