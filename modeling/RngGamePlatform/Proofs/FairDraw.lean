/-
Module: RngGamePlatform.Proofs.FairDraw
Purpose: The reward maps that the protocol accepts, and the exact odds of the
  bands and of the internal provider.
Trusted boundary: none
Main exports: ValidBands, validateRewardBands_iff, weightBefore, bandAt_eq_some,
  exists_inBand, SpinDraw, FairSpin, UniformDraw, FairUniform, spin_exactly_fair
-/
import RngGamePlatform.HmacProvider
import RngGamePlatform.Sampling.Rejection
import Mathlib.Order.Interval.Finset.Nat
import Mathlib.SetTheory.Cardinal.Finite
import Mathlib.Tactic.NormNum

namespace RngGamePlatform

open Encoding

section Valid

/-- What the protocol asks of each band. -/
structure ValidBand (band : RewardBand) : Prop where
  named : band.key ≠ []
  encodes : (encodeUtf8 band.key).isSome
  weighted : 0 < band.weight ∧ band.weight ≤ maxRewardWeight
  valued : 0 ≤ band.value ∧ band.value ≤ maxRewardValue

/-- What the protocol asks of a reward map. -/
structure ValidBands (bands : List RewardBand) : Prop where
  nonempty : bands ≠ []
  each : ∀ band ∈ bands, ValidBand band
  keys : (bands.map RewardBand.key).Nodup
  total : totalWeight bands ≤ maxRewardWeight

@[simp] theorem totalWeight_nil : totalWeight [] = 0 := rfl

@[simp] theorem totalWeight_cons (band : RewardBand) (bands : List RewardBand) :
    totalWeight (band :: bands) = band.weight + totalWeight bands := by
  simp [totalWeight]

theorem totalWeight_nonneg {bands : List RewardBand}
    (weighted : ∀ band ∈ bands, 0 < band.weight) : 0 ≤ totalWeight bands := by
  induction bands with
  | nil => exact Int.le_refl 0
  | cons band bands ih =>
      have here := weighted band (by simp)
      have rest := ih fun other member => weighted other (by simp [member])
      rw [totalWeight_cons]
      omega

/-- The checks of the remaining bands, after some keys and some weight. -/
theorem validateBandsFrom_iff {keys : List PyStr} {total : Int}
    {bands : List RewardBand} (below : total ≤ maxRewardWeight) :
    validateBandsFrom keys total bands = .ok () ↔
      (∀ band ∈ bands, ValidBand band) ∧ (bands.map RewardBand.key).Nodup ∧
        (∀ band ∈ bands, band.key ∉ keys) ∧
        total + totalWeight bands ≤ maxRewardWeight := by
  induction bands generalizing keys total with
  | nil => simp [validateBandsFrom, below]
  | cons band bands ih =>
      simp only [validateBandsFrom]
      constructor
      · intro accepted
        split at accepted
        · cases accepted
        next named =>
        split at accepted
        · cases accepted
        next encodes =>
        split at accepted
        · cases accepted
        next isNew =>
        split at accepted
        · cases accepted
        next weighted =>
        split at accepted
        · cases accepted
        next valued =>
        split at accepted
        · cases accepted
        next fits =>
        obtain ⟨each, nodup, apart, sum⟩ := (ih (by omega)).mp accepted
        have valid : ValidBand band :=
          ⟨named, by simpa [Option.isNone_iff_eq_none, Option.isSome_iff_ne_none]
            using encodes, not_not.mp weighted, not_not.mp valued⟩
        refine ⟨?_, ?_, ?_, ?_⟩
        · intro other member
          rcases List.mem_cons.mp member with rfl | inRest
          · exact valid
          · exact each other inRest
        · rw [List.map_cons, List.nodup_cons]
          refine ⟨fun repeated => ?_, nodup⟩
          obtain ⟨other, inRest, same⟩ := List.mem_map.mp repeated
          exact apart other inRest (by simp [same])
        · intro other member
          rcases List.mem_cons.mp member with rfl | inRest
          · exact isNew
          · exact fun inKeys => apart other inRest (by simp [inKeys])
        · rw [totalWeight_cons]
          omega
      · rintro ⟨each, nodup, apart, sum⟩
        have valid := each band (by simp)
        have rest : 0 ≤ totalWeight bands := totalWeight_nonneg
          fun other member => (each other (by simp [member])).weighted.1
        rw [totalWeight_cons] at sum
        rw [List.map_cons, List.nodup_cons] at nodup
        have encodes : ¬(encodeUtf8 band.key).isNone = true := by
          have isSome := valid.encodes
          cases found : encodeUtf8 band.key with
          | none => simp [found] at isSome
          | some bytes => simp
        rw [if_neg valid.named, if_neg encodes, if_neg (apart band (by simp)),
          if_neg (not_not.mpr valid.weighted), if_neg (not_not.mpr valid.valued),
          if_neg (by omega)]
        apply (ih (by omega)).mpr
        refine ⟨fun other member => each other (by simp [member]), nodup.2,
          fun other member => ?_, by omega⟩
        intro repeated
        rcases List.mem_cons.mp repeated with same | inKeys
        · exact nodup.1 (List.mem_map.mpr ⟨other, member, same⟩)
        · exact apart other (by simp [member]) inKeys

/-- The protocol accepts exactly the valid reward maps. -/
theorem validateRewardBands_iff {bands : List RewardBand} :
    validateRewardBands bands = .ok () ↔ ValidBands bands := by
  unfold validateRewardBands
  split
  · next empty =>
      constructor
      · intro accepted
        cases accepted
      · intro valid
        exact absurd empty valid.nonempty
  · next nonempty =>
      rw [validateBandsFrom_iff (by decide)]
      constructor
      · rintro ⟨each, keys, _, total⟩
        exact ⟨nonempty, each, keys, by simpa using total⟩
      · intro valid
        exact ⟨valid.each, valid.keys, fun _ _ => List.not_mem_nil,
          by simpa using valid.total⟩

theorem ValidBands.total_pos {bands : List RewardBand} (valid : ValidBands bands) :
    0 < totalWeight bands := by
  cases bands with
  | nil => exact absurd rfl valid.nonempty
  | cons band bands =>
      have here := (valid.each band (by simp)).weighted.1
      have rest : 0 ≤ totalWeight bands := totalWeight_nonneg
        fun other member => (valid.each other (by simp [member])).weighted.1
      rw [totalWeight_cons]
      omega

end Valid

section Selection

/-- The weight of the bands in front of position `index`. -/
def weightBefore (bands : List RewardBand) (index : Nat) : Int :=
  totalWeight (bands.take index)

/-- The half-open interval of normalized values of the band at `index`. -/
def InBand (bands : List RewardBand) (index : Nat) (value : Int) : Prop :=
  weightBefore bands index ≤ value ∧ value < weightBefore bands (index + 1)

@[simp] theorem weightBefore_succ (band : RewardBand) (bands : List RewardBand)
    (index : Nat) : weightBefore (band :: bands) (index + 1) =
      band.weight + weightBefore bands index := by
  simp [weightBefore]

theorem inBand_zero {band : RewardBand} {bands : List RewardBand} {value : Int} :
    InBand (band :: bands) 0 value ↔ 0 ≤ value ∧ value < band.weight := by
  simp [InBand, weightBefore]

theorem inBand_succ {band : RewardBand} {bands : List RewardBand} {index : Nat}
    {value : Int} : InBand (band :: bands) (index + 1) value ↔
      InBand bands index (value - band.weight) := by
  simp only [InBand, weightBefore_succ]
  constructor
  · rintro ⟨above, below⟩
    exact ⟨by omega, by omega⟩
  · rintro ⟨above, below⟩
    exact ⟨by omega, by omega⟩

variable {bands : List RewardBand}

/-- The weights in front of a position are not negative. -/
theorem weightBefore_nonneg (weighted : ∀ band ∈ bands, 0 < band.weight)
    (index : Nat) : 0 ≤ weightBefore bands index :=
  totalWeight_nonneg fun band member => weighted band (List.mem_of_mem_take member)

/-- A value has at most one band. -/
theorem InBand.unique (weighted : ∀ band ∈ bands, 0 < band.weight)
    {one other : Nat} {value : Int} (inOne : InBand bands one value)
    (inOther : InBand bands other value) (boundOne : one < bands.length)
    (boundOther : other < bands.length) : one = other := by
  induction bands generalizing one other value with
  | nil => exact absurd boundOne (Nat.not_lt_zero one)
  | cons band bands ih =>
      have rest : ∀ other ∈ bands, 0 < other.weight :=
        fun other member => weighted other (by simp [member])
      cases one with
      | zero =>
          cases other with
          | zero => rfl
          | succ other =>
              have below := (inBand_zero.mp inOne).2
              have above := (inBand_succ.mp inOther).1
              have nonneg := weightBefore_nonneg rest other
              omega
      | succ one =>
          cases other with
          | zero =>
              have below := (inBand_zero.mp inOther).2
              have above := (inBand_succ.mp inOne).1
              have nonneg := weightBefore_nonneg rest one
              omega
          | succ other =>
              have same : one = other :=
                ih rest (inBand_succ.mp inOne) (inBand_succ.mp inOther)
                  (Nat.lt_of_succ_lt_succ boundOne) (Nat.lt_of_succ_lt_succ boundOther)
              exact congrArg Nat.succ same

/-- The running subtraction finds the band whose interval has the value. -/
theorem bandAt_eq_some (weighted : ∀ band ∈ bands, 0 < band.weight) {value : Int}
    {index : Nat} (bound : index < bands.length) (inside : InBand bands index value) :
    bandAt value bands = some (bands.get ⟨index, bound⟩) := by
  induction bands generalizing index value with
  | nil => exact absurd bound (Nat.not_lt_zero index)
  | cons band bands ih =>
      have rest : ∀ other ∈ bands, 0 < other.weight :=
        fun other member => weighted other (by simp [member])
      cases index with
      | zero =>
          have below := (inBand_zero.mp inside).2
          simp [bandAt, below]
      | succ index =>
          have inRest := inBand_succ.mp inside
          have notHere : ¬value < band.weight := by
            have nonneg := weightBefore_nonneg rest index
            have above := inRest.1
            omega
          have found := ih rest (Nat.lt_of_succ_lt_succ bound) inRest
          simpa [bandAt, notHere] using found

/-- Every value below the total weight has a band. -/
theorem exists_inBand {value : Int} (nonneg : 0 ≤ value)
    (below : value < totalWeight bands) :
    ∃ index, index < bands.length ∧ InBand bands index value := by
  induction bands generalizing value with
  | nil =>
      rw [totalWeight_nil] at below
      omega
  | cons band bands ih =>
      rw [totalWeight_cons] at below
      by_cases here : value < band.weight
      · exact ⟨0, by simp, inBand_zero.mpr ⟨nonneg, here⟩⟩
      · obtain ⟨index, bound, inside⟩ := @ih (value - band.weight) (by omega) (by omega)
        exact ⟨index + 1, by simpa using bound, inBand_succ.mpr inside⟩

/-- The band of a value below the total weight; the search never ends without
one. -/
theorem ValidBands.select (valid : ValidBands bands) {value : Int} {index : Nat}
    (bound : index < bands.length) (inside : InBand bands index value) :
    selectDailySpinReward bands value = .ok (bands.get ⟨index, bound⟩) := by
  have weighted : ∀ band ∈ bands, 0 < band.weight :=
    fun band member => (valid.each band member).weighted.1
  have found := bandAt_eq_some weighted bound inside
  have nonneg : 0 ≤ value :=
    Int.le_trans (weightBefore_nonneg weighted index) inside.1
  have below : value < totalWeight bands := by
    have split : totalWeight bands = weightBefore bands (index + 1) +
        totalWeight (bands.drop (index + 1)) := by
      simp only [weightBefore, totalWeight]
      rw [← List.sum_append, ← List.map_append, List.take_append_drop]
    have rest : 0 ≤ totalWeight (bands.drop (index + 1)) := totalWeight_nonneg
      fun band member => weighted band (List.mem_of_mem_drop member)
    have inBand := inside.2
    omega
  simp [selectDailySpinReward, validateRewardBands_iff.mpr valid, nonneg, below, found,
    bind, Except.bind, pure, Except.pure]

/-- A value outside the total weight is refused, and no other one. -/
theorem ValidBands.select_error (valid : ValidBands bands) {value : Int} :
    selectDailySpinReward bands value = .error (.fairness .invalidRewardMapping) ↔
      ¬(0 ≤ value ∧ value < totalWeight bands) := by
  constructor
  · rintro refused ⟨nonneg, below⟩
    obtain ⟨index, bound, inside⟩ := exists_inBand nonneg below
    rw [valid.select bound inside] at refused
    cases refused
  · intro outside
    simp only [selectDailySpinReward, validateRewardBands_iff.mpr valid, if_pos outside]
    rfl

/-- The final assertion of the selection is never reached. -/
theorem ValidBands.select_asserts (valid : ValidBands bands) (value : Int) :
    selectDailySpinReward bands value ≠ .error .assertionError := by
  intro asserted
  by_cases inRange : 0 ≤ value ∧ value < totalWeight bands
  · obtain ⟨index, bound, inside⟩ := exists_inBand inRange.1 inRange.2
    rw [valid.select bound inside] at asserted
    cases asserted
  · rw [valid.select_error.mpr inRange] at asserted
    cases asserted

end Selection

section Spin

/-- The HMAC digest of the message of one attempt. -/
def attemptDigest (crypto : Crypto) (serverSeed : Bytes) (clientSeed : PyStr) (nonce : Int)
    (configVersionId sessionId : Uuid) (gameKey mappingDigest : PyStr) (attempt : Nat) :
    Except FairnessError Digest := do
  let message ← dailySpinDerivationMessage clientSeed nonce configVersionId sessionId
    mappingDigest attempt gameKey
  return crypto.hmacSha256 serverSeed message

/-- The derivation is the one of the first attempt from `start` on whose digest is below
the limit of the map, and it selects by the residue of that digest. -/
structure SpinDraw (bands : List RewardBand) (digestOf : Nat → Except FairnessError Digest)
    (start : Nat) (derivation : DailySpinDerivation) : Prop where
  digest : ∃ digest, digestOf derivation.attempt = .ok digest ∧
    derivation.rawDigestHex = digest.hex ∧ derivation.rawValue = bigEndian digest.val
  accepted : (derivation.rawValue : Int) < spinLimit bands
  rejected : ∀ attempt, start ≤ attempt → attempt < derivation.attempt →
    ∃ digest, digestOf attempt = .ok digest ∧ spinLimit bands ≤ bigEndian digest.val
  normalized : derivation.normalizedValue = derivation.rawValue % totalWeight bands
  selected : selectDailySpinReward bands derivation.normalizedValue = .ok derivation.reward

/-- What it means that a reward map is drawn from exactly. -/
structure FairSpin (bands : List RewardBand) : Prop where
  multiple : ∃ turns : Nat, 0 < turns ∧ spinLimit bands = totalWeight bands * turns
  large : 2 ^ 255 < spinLimit bands
  /-- Each band has its share of the raw values below the limit. -/
  share : ∀ (index : Nat) (bound : index < bands.length),
    (((Finset.range (spinLimit bands).toNat).filter fun raw : Nat =>
      selectDailySpinReward bands ((raw : Int) % totalWeight bands) =
        .ok (bands.get ⟨index, bound⟩)).card : Int) =
      (bands.get ⟨index, bound⟩).weight * (spinLimit bands / totalWeight bands)
  /-- The selected band is the one whose interval has the value. -/
  selected : ∀ value, 0 ≤ value → value < totalWeight bands →
    ∃ index : Fin bands.length, InBand bands index value ∧
      (∀ other : Fin bands.length, InBand bands other value → other = index) ∧
      bandAt value bands = some (bands.get index) ∧
      selectDailySpinReward bands value = .ok (bands.get index)
  refused : ∀ value,
    selectDailySpinReward bands value = .error (.fairness .invalidRewardMapping) ↔
      ¬(0 ≤ value ∧ value < totalWeight bands)
  asserts : ∀ value, selectDailySpinReward bands value ≠ .error .assertionError
  /-- Behind the checks a derivation is drawn exactly when it is that of the first attempt
  whose HMAC digest is below the limit. -/
  drawn : ∀ crypto fuel serverSeed clientSeed nonce configVersionId sessionId gameKey
    protocolVersion algorithm mappingVersion derivation,
    deriveDailySpin crypto fuel serverSeed clientSeed nonce configVersionId sessionId
      bands gameKey protocolVersion algorithm mappingVersion = .ok (some derivation) ↔
    validateServerSeed serverSeed = .ok () ∧
      validateSupportedV1 gameKey protocolVersion algorithm mappingVersion = .ok () ∧
      validateNonce nonce = .ok () ∧
      dailySpinMappingDigest crypto bands = .ok derivation.mappingDigest ∧
      derivation.attempt < fuel ∧
      SpinDraw bands (attemptDigest crypto serverSeed clientSeed nonce configVersionId
        sessionId gameKey derivation.mappingDigest) 0 derivation

variable {bands : List RewardBand}

/-- The total weight as a natural number, and the limit as its multiple. -/
theorem ValidBands.limit (valid : ValidBands bands) :
    ∃ total : Nat, totalWeight bands = total ∧ 0 < total ∧ total < 2 ^ 63 ∧
      spinLimit bands = (Sampling.acceptanceLimit (2 ^ 256) total : Nat) := by
  obtain ⟨total, isTotal⟩ := Int.eq_ofNat_of_zero_le (Int.le_of_lt valid.total_pos)
  have positive := valid.total_pos
  have fits := valid.total
  rw [isTotal] at positive fits
  refine ⟨total, isTotal, by exact_mod_cast positive, ?_, ?_⟩
  · have whole : (total : Int) ≤ 2 ^ 63 - 1 := fits
    omega
  · have smaller : 2 ^ 256 % total ≤ 2 ^ 256 := Nat.mod_le _ _
    rw [spinLimit, isTotal, Sampling.acceptanceLimit, Nat.cast_sub smaller]
    norm_cast

/-- The residue of a raw value selects a band exactly when it is in its interval. -/
theorem ValidBands.select_iff (valid : ValidBands bands) {value : Int} {index : Nat}
    (bound : index < bands.length) (nonneg : 0 ≤ value)
    (below : value < totalWeight bands) :
    selectDailySpinReward bands value = .ok (bands.get ⟨index, bound⟩) ↔
      InBand bands index value := by
  constructor
  · intro chosen
    obtain ⟨other, otherBound, inside⟩ := exists_inBand nonneg below
    rw [valid.select otherBound inside] at chosen
    have sameKey : (bands.map RewardBand.key).get ⟨other, by simpa using otherBound⟩ =
        (bands.map RewardBand.key).get ⟨index, by simpa using bound⟩ := by
      simpa using congrArg RewardBand.key (Except.ok.inj chosen)
    have same : other = index := valid.keys.getElem_inj_iff.mp sameKey
    exact same ▸ inside
  · exact valid.select bound

/-- The raw values of one band. -/
theorem ValidBands.share (valid : ValidBands bands) (index : Nat)
    (bound : index < bands.length) :
    (((Finset.range (spinLimit bands).toNat).filter fun raw : Nat =>
      selectDailySpinReward bands ((raw : Int) % totalWeight bands) =
        .ok (bands.get ⟨index, bound⟩)).card : Int) =
      (bands.get ⟨index, bound⟩).weight * (spinLimit bands / totalWeight bands) := by
  have weighted : ∀ band ∈ bands, 0 < band.weight :=
    fun band member => (valid.each band member).weighted.1
  obtain ⟨total, isTotal, positive, _, isLimit⟩ := valid.limit
  obtain ⟨first, isFirst⟩ := Int.eq_ofNat_of_zero_le (weightBefore_nonneg weighted index)
  obtain ⟨weight, isWeight⟩ := Int.eq_ofNat_of_zero_le
    (Int.le_of_lt (weighted (bands.get ⟨index, bound⟩) (List.get_mem _ _)))
  have next : weightBefore bands (index + 1) = ((first + weight : Nat) : Int) := by
    have stepped : weightBefore bands (index + 1) =
        weightBefore bands index + (bands.get ⟨index, bound⟩).weight := by
      simp only [weightBefore, totalWeight, List.take_succ_eq_append_getElem bound,
        List.map_append, List.sum_append]
      simp
    rw [stepped, isFirst, isWeight]
    norm_cast
  have within : first + weight ≤ total := by
    have rest : 0 ≤ totalWeight (bands.drop (index + 1)) := totalWeight_nonneg
      fun band member => weighted band (List.mem_of_mem_drop member)
    have split : totalWeight bands = weightBefore bands (index + 1) +
        totalWeight (bands.drop (index + 1)) := by
      simp only [weightBefore, totalWeight]
      rw [← List.sum_append, ← List.map_append, List.take_append_drop]
    rw [isTotal, next] at split
    omega
  have chosen : ∀ raw : Nat,
      selectDailySpinReward bands ((raw : Int) % totalWeight bands) =
        .ok (bands.get ⟨index, bound⟩) ↔
      raw % total ∈ Finset.Ico first (first + weight) := by
    intro raw
    have residue : (raw : Int) % totalWeight bands = ((raw % total : Nat) : Int) := by
      rw [isTotal]
      norm_cast
    have small := Nat.mod_lt raw positive
    rw [residue, valid.select_iff bound (by omega) (by rw [isTotal]; omega), InBand,
      isFirst, next, Finset.mem_Ico]
    norm_cast
  have listed : (Finset.range (spinLimit bands).toNat).filter (fun raw : Nat =>
      selectDailySpinReward bands ((raw : Int) % totalWeight bands) =
        .ok (bands.get ⟨index, bound⟩)) =
      (Finset.range (total * (2 ^ 256 / total))).filter
        fun raw => raw % total ∈ Finset.Ico first (first + weight) := by
    rw [isLimit, Int.toNat_natCast, Sampling.acceptanceLimit_eq]
    exact Finset.filter_congr fun raw _ => chosen raw
  have counted := Sampling.card_residues (2 ^ 256 / total)
    (fun residue (member : residue ∈ Finset.Ico first (first + weight)) =>
      Nat.lt_of_lt_of_le (Finset.mem_Ico.mp member).2 within)
  have quotient : spinLimit bands / totalWeight bands = ((2 ^ 256 / total : Nat) : Int) := by
    rw [isLimit, isTotal, Sampling.acceptanceLimit_eq]
    have cancelled : total * (2 ^ 256 / total) / total = 2 ^ 256 / total :=
      Nat.mul_div_cancel_left _ positive
    exact_mod_cast cancelled
  rw [listed, counted, quotient, isWeight, Nat.card_Ico]
  simp

section Attempts

variable {crypto : Crypto} {serverSeed : Bytes} {clientSeed : PyStr} {nonce : Int}
  {configVersionId sessionId : Uuid} {gameKey mappingDigest : PyStr} {fuel attempt : Nat}
  {derivation : DailySpinDerivation}

/-- The loop returns the draw of the first attempt that it accepts. -/
theorem deriveAttempts_drawn
    (derived : deriveAttempts crypto serverSeed clientSeed nonce configVersionId
      sessionId bands gameKey mappingDigest fuel attempt = .ok (some derivation)) :
    derivation.mappingDigest = mappingDigest ∧ attempt ≤ derivation.attempt ∧
      derivation.attempt < attempt + fuel ∧
        SpinDraw bands (attemptDigest crypto serverSeed clientSeed nonce configVersionId
          sessionId gameKey mappingDigest) attempt derivation := by
  induction fuel generalizing attempt with
  | zero => cases derived
  | succ fuel ih =>
      simp only [deriveAttempts, bind_eq_ok, fairly_eq_ok] at derived
      obtain ⟨message, built, derived⟩ := derived
      have isDigest : attemptDigest crypto serverSeed clientSeed nonce configVersionId
          sessionId gameKey mappingDigest attempt =
            .ok (crypto.hmacSha256 serverSeed message) :=
        bind_eq_ok.mpr ⟨message, built, rfl⟩
      split at derived
      · next accepted =>
          obtain ⟨reward, selected, isDerivation⟩ := bind_eq_ok.mp derived
          cases isDerivation
          exact ⟨rfl, Nat.le_refl _, by simp only; omega,
            { digest := ⟨_, isDigest, rfl, rfl⟩
              accepted := accepted
              rejected := fun other starts before => absurd before (Nat.not_lt.mpr starts)
              normalized := rfl
              selected := selected }⟩
      · next rejected =>
          obtain ⟨isMap, later, within, drawn⟩ := ih derived
          refine ⟨isMap, by omega, by omega, { drawn with rejected := ?_ }⟩
          intro other starts before
          rcases Nat.eq_or_lt_of_le starts with rfl | after
          · exact ⟨_, isDigest, Int.not_lt.mp rejected⟩
          · exact drawn.rejected other after before

/-- The first attempt below the limit is the one that the loop returns. -/
theorem deriveAttempts_of_draw (isMap : derivation.mappingDigest = mappingDigest)
    (later : attempt ≤ derivation.attempt) (within : derivation.attempt < attempt + fuel)
    (drawn : SpinDraw bands (attemptDigest crypto serverSeed clientSeed nonce configVersionId
      sessionId gameKey mappingDigest) attempt derivation) :
    deriveAttempts crypto serverSeed clientSeed nonce configVersionId sessionId bands gameKey
      mappingDigest fuel attempt = .ok (some derivation) := by
  induction fuel generalizing attempt with
  | zero => omega
  | succ fuel ih =>
      simp only [deriveAttempts, bind_eq_ok, fairly_eq_ok]
      rcases Nat.eq_or_lt_of_le later with rfl | after
      · obtain ⟨digest, isDigest, isHex, isRaw⟩ := drawn.digest
        obtain ⟨message, built, hashed⟩ := bind_eq_ok.mp isDigest
        cases hashed
        have accepted := drawn.accepted
        have selected := drawn.selected
        rw [drawn.normalized, isRaw] at selected
        rw [isRaw] at accepted
        refine ⟨message, built, ?_⟩
        rw [if_pos accepted]
        refine bind_eq_ok.mpr ⟨_, selected, ?_⟩
        rw [← isMap, ← isHex, ← isRaw, ← drawn.normalized]
        rfl
      · obtain ⟨digest, isDigest, above⟩ := drawn.rejected attempt (Nat.le_refl _) after
        obtain ⟨message, built, hashed⟩ := bind_eq_ok.mp isDigest
        cases hashed
        refine ⟨message, built, ?_⟩
        rw [if_neg (Int.not_lt.mpr above)]
        apply ih after (by omega)
        exact { drawn with
          rejected := fun other starts before =>
            drawn.rejected other (Nat.le_of_succ_le starts) before }

end Attempts

/-- The attempts over an admitted map do not come to the assertion at the end of the
selection. -/
theorem ValidBands.attempts_assert_not (valid : ValidBands bands) {fuel attempt : Nat} :
    deriveAttempts crypto serverSeed clientSeed nonce configVersionId sessionId bands gameKey
      mappingDigest fuel attempt ≠ .error .assertionError := by
  induction fuel generalizing attempt with
  | zero => simp [deriveAttempts]
  | succ fuel ih =>
      intro fails
      simp only [deriveAttempts, bind_eq_error] at fails
      rcases fails with raised | ⟨message, _, rest⟩
      · exact fairly_ne_assertion raised
      split at rest
      · rcases bind_eq_error.mp rest with raised | ⟨reward, _, returned⟩
        · exact valid.select_asserts _ raised
        · cases returned
      · exact ih rest

/-- No draw comes to the assertion at the end of the selection. -/
theorem deriveDailySpin_ne_assertion {fuel : Nat}
    {protocolVersion algorithm mappingVersion : PyStr} :
    deriveDailySpin crypto fuel serverSeed clientSeed nonce configVersionId sessionId bands
      gameKey protocolVersion algorithm mappingVersion ≠ .error .assertionError := by
  intro fails
  simp only [deriveDailySpin, bind_eq_error, fairly_eq_ok] at fails
  rcases fails with raised | ⟨_, _, raised | ⟨_, _, raised | ⟨_, _, raised |
    ⟨_, accepted, raised | ⟨digest, _, attempts⟩⟩⟩⟩⟩
  all_goals first
    | exact fairly_ne_assertion raised
    | exact (validateRewardBands_iff.mp accepted).attempts_assert_not attempts

/-- A valid reward map is drawn from exactly. -/
theorem ValidBands.fairSpin (valid : ValidBands bands) : FairSpin bands := by
  have weighted : ∀ band ∈ bands, 0 < band.weight :=
    fun band member => (valid.each band member).weighted.1
  obtain ⟨total, isTotal, positive, small, isLimit⟩ := valid.limit
  constructor
  case multiple =>
    refine ⟨2 ^ 256 / total, Sampling.quotient_pos positive (by omega), ?_⟩
    rw [isLimit, isTotal, Sampling.acceptanceLimit_eq]
    norm_cast
  case large =>
    have rejected : 2 ^ 256 < Sampling.acceptanceLimit (2 ^ 256) total + total :=
      Sampling.lt_acceptanceLimit_add positive
    rw [isLimit]
    omega
  case share => exact valid.share
  case selected =>
    intro value nonneg below
    obtain ⟨index, bound, inside⟩ := exists_inBand nonneg below
    refine ⟨⟨index, bound⟩, inside, fun other inOther => ?_,
      bandAt_eq_some weighted bound inside, valid.select bound inside⟩
    apply Fin.ext
    exact inOther.unique weighted inside other.isLt bound
  case refused => exact fun value => valid.select_error
  case asserts => exact valid.select_asserts
  case drawn =>
    intro crypto fuel serverSeed clientSeed nonce configVersionId sessionId gameKey
      protocolVersion algorithm mappingVersion derivation
    simp only [deriveDailySpin, bind_eq_ok, fairly_eq_ok]
    constructor
    · rintro ⟨_, seedOk, _, supported, _, nonceOk, _, _, digest, hashed, attempts⟩
      obtain ⟨isMap, _, within, drawn⟩ := deriveAttempts_drawn attempts
      subst isMap
      exact ⟨seedOk, supported, nonceOk, hashed, by omega, drawn⟩
    · rintro ⟨seedOk, supported, nonceOk, hashed, within, drawn⟩
      exact ⟨(), seedOk, (), supported, (), nonceOk, (), validateRewardBands_iff.mpr valid, _,
        hashed, deriveAttempts_of_draw rfl (Nat.zero_le _) (by omega) drawn⟩

end Spin

section Uniform

theorem bigEndian_append (bytes : Bytes) (byte : UInt8) :
    bigEndian (bytes ++ [byte]) = 256 * bigEndian bytes + byte.toNat := by
  simp [bigEndian]

/-- Bytes of one length are determined by their number. -/
theorem bigEndian_injective {one other : Bytes} (lengths : one.length = other.length)
    (same : bigEndian one = bigEndian other) : one = other := by
  induction one using List.reverseRecOn generalizing other with
  | nil => exact (List.length_eq_zero_iff.mp lengths.symm).symm
  | append_singleton one byte ih =>
      rcases List.eq_nil_or_concat other with isNil | ⟨other', byte', isConcat⟩
      · rw [isNil] at lengths
        simp at lengths
      · rw [List.concat_eq_append] at isConcat
        subst isConcat
        rw [bigEndian_append, bigEndian_append] at same
        have bound := byte.toNat_lt
        have bound' := byte'.toNat_lt
        have sameRest : bigEndian one = bigEndian other' := by omega
        have sameByte : byte = byte' := UInt8.toNat_inj.mp (by omega)
        have sameLength : one.length = other'.length := by simpa using lengths
        rw [ih sameLength sameRest, sameByte]

/-- Every number below `256 ^ length` is that of some bytes. -/
theorem exists_bigEndian (length : Nat) {value : Nat} (small : value < 256 ^ length) :
    ∃ bytes : Bytes, bytes.length = length ∧ bigEndian bytes = value := by
  induction length generalizing value with
  | zero =>
      refine ⟨[], rfl, ?_⟩
      simp at small
      simp [bigEndian, small]
  | succ length ih =>
      rw [pow_succ] at small
      obtain ⟨bytes, isLength, isValue⟩ := @ih (value / 256) (by omega)
      refine ⟨bytes ++ [UInt8.ofNat (value % 256)], by simp [isLength], ?_⟩
      have isByte : (UInt8.ofNat (value % 256)).toNat = value % 256 := by
        rw [UInt8.toNat_ofNat']
        omega
      rw [bigEndian_append, isValue, isByte]
      omega

/-- The draw of the first counter from `start` on whose HMAC digest is accepted. -/
structure UniformDraw (crypto : Crypto) (key base : Bytes) (upperBound start counter : Nat)
    (derived : DerivedValue) : Prop where
  fits : counter < 2 ^ 32
  digest : derived.digestHex = (crypto.hmacSha256 key (base ++ counterBytes counter)).hex
  accepted : acceptedResidue upperBound (crypto.hmacSha256 key (base ++ counterBytes counter)) =
    some derived.value
  rejected : ∀ earlier, start ≤ earlier → earlier < counter →
    acceptedResidue upperBound (crypto.hmacSha256 key (base ++ counterBytes earlier)) = none

/-- The accepted digests of each residue are equally many, and there are some. -/
structure FairUniform (upperBound : Nat) : Prop where
  /-- Exactly the digests below the limit are accepted, each with its residue. -/
  accepted : ∀ digest residue, acceptedResidue upperBound digest = some residue ↔
    bigEndian digest.val < uniformLimit upperBound ∧
      bigEndian digest.val % upperBound = residue
  share : ∀ residue < upperBound,
    Nat.card { digest : Digest // acceptedResidue upperBound digest = some residue } =
      2 ^ 256 / upperBound
  positive : 0 < 2 ^ 256 / upperBound
  /-- The provider answers the residue of the first accepted digest, below the bound. -/
  drawn : ∀ crypto key fuel sessionId gameKey configVersionId purpose derived,
    hmacUniform crypto key fuel sessionId gameKey configVersionId purpose upperBound =
      .ok (some derived) ↔
    ∃ base counter, encodeUtf8 (uuidStr sessionId ++ py ":" ++ gameKey ++ py ":" ++
        uuidStr configVersionId ++ py ":" ++ purpose) = some base ∧ counter < fuel ∧
      UniformDraw crypto key base upperBound 0 counter derived
  bounded : ∀ crypto key fuel sessionId gameKey configVersionId purpose derived,
    hmacUniform crypto key fuel sessionId gameKey configVersionId purpose upperBound =
      .ok (some derived) → derived.value < upperBound

theorem acceptedResidue_eq_some {upperBound residue : Nat} {digest : Digest} :
    acceptedResidue upperBound digest = some residue ↔
      bigEndian digest.val < uniformLimit upperBound ∧
        bigEndian digest.val % upperBound = residue := by
  unfold acceptedResidue
  simp only
  split
  · next below =>
      rw [Option.some.injEq]
      exact (and_iff_right below).symm
  · next above =>
      constructor
      · intro absent
        cases absent
      · rintro ⟨below, _⟩
        exact absurd below above

/-- The digests of one residue are the numbers below the limit with it. -/
theorem card_accepted {upperBound residue : Nat} (small : residue < upperBound) :
    Nat.card { digest : Digest // acceptedResidue upperBound digest = some residue } =
      2 ^ 256 / upperBound := by
  have counted := Sampling.card_residue (2 ^ 256 / upperBound) small
  have isLimit : upperBound * (2 ^ 256 / upperBound) = uniformLimit upperBound :=
    (Sampling.acceptanceLimit_eq (2 ^ 256) upperBound).symm
  rw [isLimit] at counted
  rw [← counted, ← Nat.card_eq_finsetCard]
  refine Nat.card_eq_of_bijective
    (fun accepted => ⟨bigEndian accepted.val.val, ?_⟩) ⟨?_, ?_⟩
  · have drawn := acceptedResidue_eq_some.mp accepted.property
    simpa using drawn
  · rintro ⟨one, _⟩ ⟨other, _⟩ same
    have numbers : bigEndian one.val = bigEndian other.val := congrArg Subtype.val same
    apply Subtype.ext
    apply Subtype.ext
    exact bigEndian_injective (one.property.trans other.property.symm) numbers
  · rintro ⟨value, member⟩
    obtain ⟨below, isResidue⟩ := Finset.mem_filter.mp member
    have limit : uniformLimit upperBound ≤ 2 ^ 256 :=
      Sampling.acceptanceLimit_le (2 ^ 256) upperBound
    have small : value < 256 ^ 32 := by
      have inRange := Finset.mem_range.mp below
      omega
    obtain ⟨bytes, isLength, isValue⟩ := exists_bigEndian 32 small
    refine ⟨⟨⟨bytes, isLength⟩, ?_⟩, ?_⟩
    · apply acceptedResidue_eq_some.mpr
      rw [isValue]
      exact ⟨Finset.mem_range.mp below, isResidue⟩
    · apply Subtype.ext
      exact isValue

section Counters

variable {crypto : Crypto} {key base : Bytes} {upperBound fuel start : Nat}
  {derived : DerivedValue}

/-- The loop returns the draw of the first counter that it accepts. -/
theorem uniformFrom_drawn
    (answered : uniformFrom crypto key base upperBound fuel start = .ok (some derived)) :
    ∃ counter, start ≤ counter ∧ counter < start + fuel ∧
      UniformDraw crypto key base upperBound start counter derived := by
  induction fuel generalizing start with
  | zero => cases answered
  | succ fuel ih =>
      simp only [uniformFrom] at answered
      split at answered
      · cases answered
      next fits =>
      split at answered
      · next value accepted =>
          cases answered
          exact ⟨start, Nat.le_refl _, by omega, Nat.not_le.mp fits, rfl, accepted,
            fun earlier starts before => absurd before (Nat.not_lt.mpr starts)⟩
      · next rejected =>
          obtain ⟨counter, later, within, drawn⟩ := ih answered
          refine ⟨counter, by omega, by omega, { drawn with rejected := ?_ }⟩
          intro earlier starts before
          rcases Nat.eq_or_lt_of_le starts with rfl | after
          · exact rejected
          · exact drawn.rejected earlier after before

/-- The first accepted counter is the one that the loop returns. -/
theorem uniformFrom_of_draw {counter : Nat} (later : start ≤ counter)
    (within : counter < start + fuel)
    (drawn : UniformDraw crypto key base upperBound start counter derived) :
    uniformFrom crypto key base upperBound fuel start = .ok (some derived) := by
  induction fuel generalizing start with
  | zero => omega
  | succ fuel ih =>
      have fits := drawn.fits
      unfold uniformFrom
      rw [if_neg (by omega)]
      rcases Nat.eq_or_lt_of_le later with rfl | after
      · simp only [drawn.accepted, ← drawn.digest]
      · simp only [drawn.rejected start (Nat.le_refl _) after]
        apply ih after (by omega)
        exact { drawn with
          rejected := fun earlier starts before =>
            drawn.rejected earlier (Nat.le_of_succ_le starts) before }

end Counters

/-- The provider answers exactly the draw of the first accepted counter. -/
theorem hmacUniform_iff {crypto : Crypto} {key : Bytes} {fuel : Nat} {sessionId : Uuid}
    {gameKey : PyStr} {configVersionId : Uuid} {purpose : PyStr} {derived : DerivedValue}
    {upperBound : Nat} (positive : 1 ≤ upperBound) :
    hmacUniform crypto key fuel sessionId gameKey configVersionId purpose upperBound =
      .ok (some derived) ↔
    ∃ base counter, encodeUtf8 (uuidStr sessionId ++ py ":" ++ gameKey ++ py ":" ++
        uuidStr configVersionId ++ py ":" ++ purpose) = some base ∧ counter < fuel ∧
      UniformDraw crypto key base upperBound 0 counter derived := by
  unfold hmacUniform
  rw [if_neg (by omega)]
  simp only [Int.toNat_natCast]
  cases encoded : encodeUtf8 (uuidStr sessionId ++ py ":" ++ gameKey ++ py ":" ++
      uuidStr configVersionId ++ py ":" ++ purpose) with
  | none => simp
  | some base =>
      constructor
      · intro answered
        obtain ⟨counter, _, within, drawn⟩ := uniformFrom_drawn answered
        exact ⟨base, counter, rfl, by omega, drawn⟩
      · rintro ⟨_, counter, same, within, drawn⟩
        cases same
        exact uniformFrom_of_draw (Nat.zero_le _) (by omega) drawn

theorem fairUniform {upperBound : Nat} (positive : 1 ≤ upperBound)
    (fits : upperBound ≤ 2 ^ 256) : FairUniform upperBound := by
  constructor
  case accepted => exact fun digest residue => acceptedResidue_eq_some
  case share => exact fun residue small => card_accepted small
  case positive => exact Nat.div_pos fits positive
  case drawn =>
    intro crypto key fuel sessionId gameKey configVersionId purpose derived
    exact hmacUniform_iff positive
  case bounded =>
    intro crypto key fuel sessionId gameKey configVersionId purpose derived answered
    obtain ⟨base, counter, _, _, drawn⟩ := (hmacUniform_iff positive).mp answered
    rw [← (acceptedResidue_eq_some.mp drawn.accepted).2]
    exact Nat.mod_lt _ positive

end Uniform

/-- The spin and the internal provider are exactly fair and total. -/
theorem spin_exactly_fair :
    (∀ bands, validateRewardBands bands = .ok () → FairSpin bands) ∧
      ∀ upperBound, 1 ≤ upperBound → upperBound ≤ 2 ^ 256 → FairUniform upperBound :=
  ⟨fun _ accepted => (validateRewardBands_iff.mp accepted).fairSpin,
    fun _ positive fits => fairUniform positive fits⟩

/-- A map of two bands, and the ten residues of a digit. -/
theorem spin_exactly_fair_two_bands :
    FairSpin [⟨py "small", 3, 10⟩, ⟨py "large", 1, 50⟩] ∧ FairUniform 10 :=
  ⟨spin_exactly_fair.1 _ (by decide +kernel),
    spin_exactly_fair.2 10 (by decide) (by norm_num)⟩

end RngGamePlatform
