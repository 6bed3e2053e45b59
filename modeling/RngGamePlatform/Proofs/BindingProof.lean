/-
Module: RngGamePlatform.Proofs.BindingProof
Purpose: A verified daily-spin proof is determined by the six values that are
  agreed on, and an honest one is accepted.
Trusted boundary: none
Main exports: bandLines_cancel, dailySpinMappingBytes_injective, Accepted, Comparison,
  Verification, SameTerms, hashedInputs, NoCollision, SpinInputs, verified_proof_binds
-/
import RngGamePlatform.Encoding.Bytes
import RngGamePlatform.Proofs.FairDraw
import RngGamePlatform.Proofs.Lifecycle

namespace RngGamePlatform

open Encoding

section Mapping

/-- The lines of a band are read back as the band. -/
theorem bandLines_cancel {index : Nat} {one other : RewardBand} {x y : Bytes}
    (encodesOne : (encodeUtf8 one.key).isSome)
    (encodesOther : (encodeUtf8 other.key).isSome)
    (same : bandLines index one ++ x = bandLines index other ++ y) :
    one = other ∧ x = y := by
  obtain ⟨keyOne, isKeyOne⟩ := Option.isSome_iff_exists.mp encodesOne
  obtain ⟨keyOther, isKeyOther⟩ := Option.isSome_iff_exists.mp encodesOther
  simp only [bandLines, isKeyOne, isKeyOther, Option.getD_some, encodeAscii_append,
    List.append_assoc, List.append_cancel_left_eq] at same
  obtain ⟨sameKey, same⟩ := prefixedBytes_cancel same
  simp only [List.append_cancel_left_eq] at same
  obtain ⟨sameWeight, same⟩ :=
    decimalBytes_cancel (delimited_newline _) (delimited_newline _) same
  simp only [List.append_cancel_left_eq] at same
  obtain ⟨sameValue, same⟩ :=
    decimalBytes_cancel (delimited_newline _) (delimited_newline _) same
  have keys : one.key = other.key :=
    encodeUtf8_injective isKeyOne (sameKey ▸ isKeyOther)
  refine ⟨?_, List.append_cancel_left same⟩
  cases one
  cases other
  simp_all

/-- The lines of bands from position `start` on are read back as the bands. -/
theorem lines_injective {start : Nat} {one other : List RewardBand}
    (encodesOne : ∀ band ∈ one, (encodeUtf8 band.key).isSome)
    (encodesOther : ∀ band ∈ other, (encodeUtf8 band.key).isSome)
    (lengths : one.length = other.length)
    (same : (one.mapIdx fun index => bandLines (index + start)).flatten =
      (other.mapIdx fun index => bandLines (index + start)).flatten) :
    one = other := by
  induction one generalizing start other with
  | nil => exact (List.length_eq_zero_iff.mp lengths.symm).symm
  | cons band one ih =>
      cases other with
      | nil => simp at lengths
      | cons band' other =>
          simp only [List.mapIdx_cons, List.flatten_cons, Nat.zero_add] at same
          obtain ⟨sameBand, sameRest⟩ := bandLines_cancel (encodesOne band (by simp))
            (encodesOther band' (by simp)) same
          have shifted : ∀ bands : List RewardBand,
              (bands.mapIdx fun index => bandLines (index + 1 + start)) =
                bands.mapIdx fun index => bandLines (index + (1 + start)) := by
            intro bands
            simp only [Nat.add_assoc]
          rw [shifted, shifted] at sameRest
          have sameBands := ih (fun other member => encodesOne other (by simp [member]))
            (fun other member => encodesOther other (by simp [member]))
            (by simpa using lengths) sameRest
          rw [sameBand, sameBands]

/-- Reward maps with the same canonical bytes are the same. -/
theorem dailySpinMappingBytes_injective {one other : List RewardBand} {bytes : Bytes}
    (isOne : dailySpinMappingBytes one = .ok bytes)
    (isOther : dailySpinMappingBytes other = .ok bytes) : one = other := by
  obtain ⟨_, validOne, bytesOne⟩ := bind_eq_ok.mp isOne
  obtain ⟨_, validOther, bytesOther⟩ := bind_eq_ok.mp isOther
  have valid := validateRewardBands_iff.mp validOne
  have valid' := validateRewardBands_iff.mp validOther
  have same := (Except.ok.inj bytesOne).trans (Except.ok.inj bytesOther).symm
  simp only [encodeAscii_append, List.append_assoc, List.append_cancel_left_eq] at same
  obtain ⟨sameLength, same⟩ :=
    decimalBytes_cancel (delimited_newline _) (delimited_newline _) same
  exact @lines_injective 0 _ _ (fun band member => (valid.each band member).encodes)
    (fun band member => (valid'.each band member).encodes)
    (by exact_mod_cast sameLength) (List.append_cancel_left same)

end Mapping

section Verification

variable {crypto : Crypto} {fuel : Nat} {proof : DailySpinProof}

/-- What an accepting verification has recalculated. -/
structure Accepted (crypto : Crypto) (fuel : Nat) (proof : DailySpinProof)
    (seed : Bytes) (derivation : DailySpinDerivation) : Prop where
  supported : validateSupportedV1 proof.gameKey proof.protocolVersion proof.algorithm
    proof.mappingVersion = .ok ()
  isSeed : serverSeedFromHex proof.serverSeedHex = .ok seed
  commitment : serverSeedCommitment crypto seed = .ok proof.serverSeedCommitment
  derived : deriveDailySpin crypto fuel seed proof.clientSeed proof.nonce
    proof.configVersionId proof.sessionId proof.rewardBands proof.gameKey
    proof.protocolVersion proof.algorithm proof.mappingVersion = .ok (some derivation)
  mappingDigest : derivation.mappingDigest = proof.mappingDigest
  rawDigestHex : derivation.rawDigestHex = proof.rawDigestHex
  normalizedValue : derivation.normalizedValue = proof.normalizedValue
  attempt : (derivation.attempt : Int) = proof.attempt
  rewardKey : derivation.reward.key = proof.rewardKey
  rewardValue : derivation.reward.value = proof.rewardValue

/-- The hexadecimal text of a seed is the only text that reads as it. -/
theorem serverSeedFromHex_ok {text : PyStr} {seed : Bytes}
    (read : serverSeedFromHex text = .ok seed) :
    hexOfBytes seed = text ∧ seed.length = 32 := by
  obtain ⟨_, checked, isSeed⟩ := bind_eq_ok.mp read
  unfold validateDigest at checked
  split at checked
  · next isDigest =>
      obtain ⟨bytes, isBytes, isLength⟩ := exists_bytesOfHex isDigest.2
        (isDigest.1.trans (show 64 = 2 * 32 from rfl))
      have same : bytes = seed := by
        have value := Except.ok.inj isSeed
        rwa [isBytes, Option.getD_some] at value
      rw [← same]
      exact ⟨hexOfBytes_bytesOfHex isBytes, isLength⟩
  · cases checked

/-- What the comparisons after the derivation of a proof end with. -/
inductive Comparison (proof : DailySpinProof) (derivation : DailySpinDerivation) :
    Except VerificationError VerificationResult → Prop
  | foreignMapping (foreign : isAscii proof.mappingDigest = false) :
      Comparison proof derivation (.error .typeError)
  | otherMapping (ascii : isAscii proof.mappingDigest = true)
      (differs : derivation.mappingDigest ≠ proof.mappingDigest) :
      Comparison proof derivation (.ok ⟨false, py "mapping_digest_mismatch"⟩)
  | foreignDigest (sameMapping : derivation.mappingDigest = proof.mappingDigest)
      (foreign : isAscii proof.rawDigestHex = false) :
      Comparison proof derivation (.error .typeError)
  | mismatch {code : PyStr} (mapping : isAscii proof.mappingDigest = true)
      (raw : isAscii proof.rawDigestHex = true) (refusal : code ≠ py "verified") :
      Comparison proof derivation (.ok ⟨false, code⟩)
  | agrees (sameMapping : derivation.mappingDigest = proof.mappingDigest)
      (sameDigest : derivation.rawDigestHex = proof.rawDigestHex)
      (sameValue : derivation.normalizedValue = proof.normalizedValue)
      (sameAttempt : (derivation.attempt : Int) = proof.attempt)
      (sameKey : derivation.reward.key = proof.rewardKey)
      (sameReward : derivation.reward.value = proof.rewardValue) :
      Comparison proof derivation (.ok ⟨true, py "verified"⟩)

theorem comparison {derivation : DailySpinDerivation}
    (mapAscii : isAscii derivation.mappingDigest = true)
    (rawAscii : isAscii derivation.rawDigestHex = true) :
    Comparison proof derivation (compareDerivation proof derivation) := by
  unfold compareDerivation
  cases mapping : isAscii proof.mappingDigest with
  | false =>
      rw [compareEvidence_foreign mapping]
      exact .foreignMapping mapping
  | true =>
      rw [compareEvidence_ascii mapAscii mapping]
      by_cases sameMapping : derivation.mappingDigest = proof.mappingDigest
      case neg =>
        simp only [bind, Except.bind, sameMapping, decide_false, Bool.not_false, if_true]
        exact .otherMapping mapping sameMapping
      case pos =>
        simp only [bind, Except.bind, sameMapping, decide_true, Bool.not_true,
          Bool.false_eq_true, if_false]
        cases raw : isAscii proof.rawDigestHex with
        | false =>
            rw [compareEvidence_foreign raw]
            exact .foreignDigest sameMapping raw
        | true =>
            rw [compareEvidence_ascii rawAscii raw]
            by_cases sameDigest : derivation.rawDigestHex = proof.rawDigestHex
            case neg =>
              simp only [sameDigest, decide_false, Bool.not_false, if_true]
              exact .mismatch mapping raw (by simp only [ne_eq, py_inj]; decide)
            case pos =>
              simp only [sameDigest, decide_true, Bool.not_true, Bool.false_eq_true, if_false]
              split
              · exact .mismatch mapping raw (by simp only [ne_eq, py_inj]; decide)
              next sameValue =>
              split
              · exact .mismatch mapping raw (by simp only [ne_eq, py_inj]; decide)
              next sameAttempt =>
              split
              · exact .mismatch mapping raw (by simp only [ne_eq, py_inj]; decide)
              next sameReward =>
              rw [not_or] at sameReward
              exact .agrees sameMapping sameDigest (not_not.mp sameValue)
                (not_not.mp sameAttempt) (not_not.mp sameReward.1) (not_not.mp sameReward.2)

/-- A verification has come as far as the draw. -/
structure Committed (crypto : Crypto) (proof : DailySpinProof) (seed : Bytes) : Prop where
  supported : validateSupportedV1 proof.gameKey proof.protocolVersion proof.algorithm
    proof.mappingVersion = .ok ()
  isSeed : serverSeedFromHex proof.serverSeedHex = .ok seed
  commitment : serverSeedCommitment crypto seed = .ok proof.serverSeedCommitment

/-- The draw that a verification repeats. -/
def repeatedDraw (crypto : Crypto) (fuel : Nat) (proof : DailySpinProof) (seed : Bytes) :
    Except DrawError (Option DailySpinDerivation) :=
  deriveDailySpin crypto fuel seed proof.clientSeed proof.nonce proof.configVersionId
    proof.sessionId proof.rewardBands proof.gameKey proof.protocolVersion proof.algorithm
    proof.mappingVersion

/-- What the verification of a proof ends with, check by check. -/
inductive Verification (crypto : Crypto) (fuel : Nat) (proof : DailySpinProof) :
    Except VerificationError (Option VerificationResult) → Prop
  | unsupported {error : FairnessError}
      (refused : validateSupportedV1 proof.gameKey proof.protocolVersion proof.algorithm
        proof.mappingVersion = .error error) :
      Verification crypto fuel proof (.ok (some ⟨false, py "unsupported_fairness_version"⟩))
  | noSeed {error : FairnessError}
      (refused : serverSeedFromHex proof.serverSeedHex = .error error) :
      Verification crypto fuel proof (.ok (some ⟨false, error.code⟩))
  | foreignCommitment {seed : Bytes}
      (supported : validateSupportedV1 proof.gameKey proof.protocolVersion proof.algorithm
        proof.mappingVersion = .ok ())
      (isSeed : serverSeedFromHex proof.serverSeedHex = .ok seed)
      (foreign : isAscii proof.serverSeedCommitment = false) :
      Verification crypto fuel proof (.error .typeError)
  | otherCommitment {seed : Bytes}
      (isSeed : serverSeedFromHex proof.serverSeedHex = .ok seed)
      (ascii : isAscii proof.serverSeedCommitment = true)
      (differs : serverSeedCommitment crypto seed ≠ .ok proof.serverSeedCommitment) :
      Verification crypto fuel proof (.ok (some ⟨false, py "commitment_mismatch"⟩))
  | refusedDraw {seed : Bytes} {error : FairnessError} (committed : Committed crypto proof seed)
      (refused : repeatedDraw crypto fuel proof seed = .error (.fairness error)) :
      Verification crypto fuel proof (.ok (some ⟨false, error.code⟩))
  | unfinished {seed : Bytes} (committed : Committed crypto proof seed)
      (endless : repeatedDraw crypto fuel proof seed = .ok none) :
      Verification crypto fuel proof (.ok none)
  | compared {seed : Bytes} {derivation : DailySpinDerivation} {result : VerificationResult}
      (committed : Committed crypto proof seed)
      (derived : repeatedDraw crypto fuel proof seed = .ok (some derivation))
      (comparison : Comparison proof derivation (.ok result)) :
      Verification crypto fuel proof (.ok (some result))
  | raised {seed : Bytes} {derivation : DailySpinDerivation} {error : VerificationError}
      (committed : Committed crypto proof seed)
      (derived : repeatedDraw crypto fuel proof seed = .ok (some derivation))
      (comparison : Comparison proof derivation (.error error)) :
      Verification crypto fuel proof (.error error)

theorem Committed.ascii {seed : Bytes} (committed : Committed crypto proof seed) :
    isAscii proof.serverSeedCommitment = true := by
  obtain ⟨_, _, isHex⟩ := bind_eq_ok.mp committed.commitment
  rw [← Except.ok.inj isHex]
  exact Digest.isAscii_hex _

/-- Every verification ends in one of these ways. -/
theorem verification :
    Verification crypto fuel proof (verifyDailySpinProof crypto fuel proof) := by
  unfold verifyDailySpinProof
  cases supported : validateSupportedV1 proof.gameKey proof.protocolVersion proof.algorithm
      proof.mappingVersion with
  | error error => exact .unsupported supported
  | ok checked =>
      cases isSeed : serverSeedFromHex proof.serverSeedHex with
      | error error => exact .noSeed isSeed
      | ok seed =>
          have whole : validateServerSeed seed = .ok () := if_pos (serverSeedFromHex_ok isSeed).2
          have commits : serverSeedCommitment crypto seed = .ok (crypto.sha256 seed).hex := by
            simp only [serverSeedCommitment, whole]
            rfl
          simp only [commits]
          cases ascii : isAscii proof.serverSeedCommitment with
          | false =>
              rw [compareEvidence_foreign ascii]
              exact .foreignCommitment supported isSeed ascii
          | true =>
              rw [compareEvidence_ascii (crypto.sha256 seed).isAscii_hex ascii]
              by_cases same : (crypto.sha256 seed).hex = proof.serverSeedCommitment
              case neg =>
                simp only [bind, Except.bind, same, decide_false, Bool.not_false, if_true]
                refine .otherCommitment isSeed ascii fun commits' => same ?_
                exact Except.ok.inj (commits.symm.trans commits')
              case pos =>
                have committed : Committed crypto proof seed :=
                  ⟨supported, isSeed, same ▸ commits⟩
                simp only [bind, Except.bind, same, decide_true, Bool.not_true,
                  Bool.false_eq_true, if_false]
                cases derived : deriveDailySpin crypto fuel seed proof.clientSeed proof.nonce
                    proof.configVersionId proof.sessionId proof.rewardBands proof.gameKey
                    proof.protocolVersion proof.algorithm proof.mappingVersion with
                | error error =>
                    cases error with
                    | fairness error => exact .refusedDraw committed derived
                    | assertionError => exact absurd derived deriveDailySpin_ne_assertion
                | ok result =>
                    cases result with
                    | none => exact .unfinished committed derived
                    | some derivation =>
                        obtain ⟨mapAscii, rawAscii⟩ := ascii_of_derived derived
                        have ended : Comparison proof derivation _ := comparison mapAscii rawAscii
                        change Verification crypto fuel proof
                          (some <$> compareDerivation proof derivation)
                        generalize compareDerivation proof derivation = answer at ended ⊢
                        cases answer with
                        | error error => exact .raised committed derived ended
                        | ok result => exact .compared committed derived ended

theorem FairnessError.code_ne_verified (error : FairnessError) : error.code ≠ py "verified" := by
  cases error <;> simp only [FairnessError.code, ne_eq, py_inj] <;> decide

/-- A verification that says that it accepts, by its flag or by its code, has passed every
comparison. -/
theorem Verification.accepted {result : VerificationResult}
    (ended : Verification crypto fuel proof (.ok (some result)))
    (accepts : result.verified = true ∨ result.code = py "verified") :
    ∃ seed derivation, Accepted crypto fuel proof seed derivation := by
  have refusal : ∀ {code : PyStr}, result = ⟨false, code⟩ → code = py "verified" := by
    rintro code rfl
    exact accepts.resolve_left Bool.false_ne_true
  cases ended with
  | unsupported => exact absurd (refusal rfl) (by simp only [py_inj]; decide)
  | noSeed => exact absurd (refusal rfl) (FairnessError.code_ne_verified _)
  | otherCommitment => exact absurd (refusal rfl) (by simp only [py_inj]; decide)
  | refusedDraw => exact absurd (refusal rfl) (FairnessError.code_ne_verified _)
  | @compared seed derivation _ committed derived comparison =>
      cases comparison with
      | otherMapping => exact absurd (refusal rfl) (by simp only [py_inj]; decide)
      | mismatch _ _ other => exact absurd (refusal rfl) other
      | agrees sameMapping sameDigest sameValue sameAttempt sameKey sameReward =>
          exact ⟨seed, derivation,
            { supported := committed.supported
              isSeed := committed.isSeed
              commitment := committed.commitment
              derived := derived
              mappingDigest := sameMapping
              rawDigestHex := sameDigest
              normalizedValue := sameValue
              attempt := sameAttempt
              rewardKey := sameKey
              rewardValue := sameReward }⟩

/-- A verification accepts only after every comparison. -/
theorem accepted_of_verified {code : PyStr}
    (verified : verifyDailySpinProof crypto fuel proof = .ok (some ⟨true, code⟩)) :
    ∃ seed derivation, Accepted crypto fuel proof seed derivation := by
  have ended : Verification crypto fuel proof _ := verification
  rw [verified] at ended
  exact ended.accepted (Or.inl rfl)

/-- The supported protocol is one. -/
theorem supported_eq {gameKey protocolVersion algorithm mappingVersion : PyStr}
    (supported : validateSupportedV1 gameKey protocolVersion algorithm mappingVersion =
      .ok ()) :
    gameKey = dailySpinGameKey ∧ protocolVersion = protocolVersionV1 ∧
      algorithm = algorithmHmacSha256 ∧ mappingVersion = dailySpinMappingVersionV1 := by
  unfold validateSupportedV1 at supported
  split at supported
  · cases supported
  · next isSupported =>
      simp only [not_or, ne_eq, not_not] at isSupported
      exact isSupported

theorem serverSeedCommitment_ok {seed : Bytes} {commitment : PyStr}
    (committed : serverSeedCommitment crypto seed = .ok commitment) :
    (crypto.sha256 seed).hex = commitment := by
  obtain ⟨_, _, isHex⟩ := bind_eq_ok.mp committed
  exact Except.ok.inj isHex

theorem dailySpinMappingDigest_ok {bands : List RewardBand} {digest : PyStr}
    (hashed : dailySpinMappingDigest crypto bands = .ok digest) :
    ∃ bytes, dailySpinMappingBytes bands = .ok bytes ∧
      (crypto.sha256 bytes).hex = digest := by
  obtain ⟨bytes, isBytes, isHex⟩ := bind_eq_ok.mp hashed
  exact ⟨bytes, isBytes, Except.ok.inj isHex⟩

theorem Digest.hex_injective {one other : Digest} (same : one.hex = other.hex) :
    one = other := Subtype.ext (hexOfBytes_injective same)

/-- A derivation is the same with every number of attempts that ends it. -/
theorem deriveDailySpin_unique {fuel' : Nat} {seed : Bytes} {clientSeed : PyStr}
    {nonce : Int} {configVersionId sessionId : Uuid} {bands : List RewardBand}
    {gameKey protocolVersion algorithm mappingVersion : PyStr}
    {one other : DailySpinDerivation}
    (isOne : deriveDailySpin crypto fuel seed clientSeed nonce configVersionId sessionId
      bands gameKey protocolVersion algorithm mappingVersion = .ok (some one))
    (isOther : deriveDailySpin crypto fuel' seed clientSeed nonce configVersionId
      sessionId bands gameKey protocolVersion algorithm mappingVersion =
        .ok (some other)) : one = other := by
  have enough : one.attempt < one.attempt + other.attempt + 1 := by omega
  have enough' : other.attempt < one.attempt + other.attempt + 1 := by omega
  have again := deriveDailySpin_more_fuel isOne enough
  rw [deriveDailySpin_more_fuel isOther enough'] at again
  exact (Option.some.inj (Except.ok.inj again)).symm

end Verification

section Binding

/-- The six values that two proofs agree on. -/
structure SameTerms (one other : DailySpinProof) : Prop where
  serverSeedCommitment : one.serverSeedCommitment = other.serverSeedCommitment
  clientSeed : one.clientSeed = other.clientSeed
  nonce : one.nonce = other.nonce
  configVersionId : one.configVersionId = other.configVersionId
  sessionId : one.sessionId = other.sessionId
  mappingDigest : one.mappingDigest = other.mappingDigest

/-- The bytes that a verification of a proof hashes: the seed and the map. -/
def hashedInputs (proof : DailySpinProof) : Set Bytes :=
  { bytes | serverSeedFromHex proof.serverSeedHex = .ok bytes ∨
    dailySpinMappingBytes proof.rewardBands = .ok bytes }

/-- SHA-256 has no collision among the bytes that two verifications hash. -/
def NoCollision (crypto : Crypto) (one other : DailySpinProof) : Prop :=
  Set.InjOn crypto.sha256 (hashedInputs one ∪ hashedInputs other)

variable {crypto : Crypto} {one other : DailySpinProof}

/-- Accepted proofs on the same terms are the same. -/
theorem Accepted.binds {fuel fuel' : Nat} {seed seed' : Bytes}
    {derivation derivation' : DailySpinDerivation}
    (isOne : Accepted crypto fuel one seed derivation)
    (isOther : Accepted crypto fuel' other seed' derivation')
    (apart : NoCollision crypto one other) (terms : SameTerms one other) :
    one = other := by
  obtain ⟨hexOne, _⟩ := serverSeedFromHex_ok isOne.isSeed
  obtain ⟨hexOther, _⟩ := serverSeedFromHex_ok isOther.isSeed
  obtain ⟨gameOne, protocolOne, algorithmOne, versionOne⟩ := supported_eq isOne.supported
  obtain ⟨gameOther, protocolOther, algorithmOther, versionOther⟩ :=
    supported_eq isOther.supported
  have sameSeed : seed = seed' := by
    apply apart (Or.inl (Or.inl isOne.isSeed)) (Or.inr (Or.inl isOther.isSeed))
    apply Digest.hex_injective
    rw [serverSeedCommitment_ok isOne.commitment,
      serverSeedCommitment_ok isOther.commitment, terms.serverSeedCommitment]
  have sameBands : one.rewardBands = other.rewardBands := by
    obtain ⟨bytes, isBytes, isDigest⟩ :=
      dailySpinMappingDigest_ok (mappingDigest_of_derived isOne.derived)
    obtain ⟨bytes', isBytes', isDigest'⟩ :=
      dailySpinMappingDigest_ok (mappingDigest_of_derived isOther.derived)
    have sameBytes : bytes = bytes' := by
      apply apart (Or.inl (Or.inr isBytes)) (Or.inr (Or.inr isBytes'))
      apply Digest.hex_injective
      rw [isDigest, isDigest', isOne.mappingDigest, isOther.mappingDigest,
        terms.mappingDigest]
    exact dailySpinMappingBytes_injective isBytes (sameBytes ▸ isBytes')
  have derived := isOne.derived
  rw [sameSeed, terms.clientSeed, terms.nonce, terms.configVersionId, terms.sessionId,
    sameBands, gameOne.trans gameOther.symm, protocolOne.trans protocolOther.symm,
    algorithmOne.trans algorithmOther.symm, versionOne.trans versionOther.symm] at derived
  have sameDerivation := deriveDailySpin_unique derived isOther.derived
  subst sameDerivation sameSeed
  cases one
  cases other
  rw [DailySpinProof.mk.injEq]
  exact ⟨protocolOne.trans protocolOther.symm, algorithmOne.trans algorithmOther.symm,
    terms.serverSeedCommitment, hexOne.symm.trans hexOther, terms.clientSeed,
    terms.nonce, gameOne.trans gameOther.symm, terms.configVersionId, terms.sessionId,
    sameBands, versionOne.trans versionOther.symm, terms.mappingDigest,
    isOne.rawDigestHex.symm.trans isOther.rawDigestHex,
    isOne.normalizedValue.symm.trans isOther.normalizedValue,
    isOne.attempt.symm.trans isOther.attempt,
    isOne.rewardKey.symm.trans isOther.rewardKey,
    isOne.rewardValue.symm.trans isOther.rewardValue⟩

end Binding

/-! ### Honest proofs -/

/-- The inputs of a daily-spin draw. -/
structure SpinInputs where
  serverSeed : Bytes
  clientSeed : PyStr
  nonce : Int
  configVersionId : Uuid
  sessionId : Uuid
  bands : List RewardBand

namespace SpinInputs

variable {crypto : Crypto} {inputs : SpinInputs} {derivation : DailySpinDerivation}

/-- The inputs pass the checks of the protocol. -/
structure Valid (inputs : SpinInputs) : Prop where
  serverSeed : validateServerSeed inputs.serverSeed = .ok ()
  clientSeed : ∃ bytes, validateClientSeed inputs.clientSeed = .ok bytes
  nonce : validateNonce inputs.nonce = .ok ()
  bands : validateRewardBands inputs.bands = .ok ()

/-- The draw of the protocol's defaults from a reward map. -/
def deriveWith (inputs : SpinInputs) (crypto : Crypto) (fuel : Nat)
    (bands : List RewardBand) : Except DrawError (Option DailySpinDerivation) :=
  deriveDailySpin crypto fuel inputs.serverSeed inputs.clientSeed inputs.nonce
    inputs.configVersionId inputs.sessionId bands dailySpinGameKey protocolVersionV1
    algorithmHmacSha256 dailySpinMappingVersionV1

/-- The proof assembled from the commitment and the derivation. -/
def proof (inputs : SpinInputs) (crypto : Crypto) (derivation : DailySpinDerivation) :
    DailySpinProof where
  protocolVersion := protocolVersionV1
  algorithm := algorithmHmacSha256
  serverSeedCommitment := (crypto.sha256 inputs.serverSeed).hex
  serverSeedHex := hexOfBytes inputs.serverSeed
  clientSeed := inputs.clientSeed
  nonce := inputs.nonce
  gameKey := dailySpinGameKey
  configVersionId := inputs.configVersionId
  sessionId := inputs.sessionId
  rewardBands := inputs.bands
  mappingVersion := dailySpinMappingVersionV1
  mappingDigest := derivation.mappingDigest
  rawDigestHex := derivation.rawDigestHex
  normalizedValue := derivation.normalizedValue
  attempt := derivation.attempt
  rewardKey := derivation.reward.key
  rewardValue := derivation.reward.value

/-- Valid inputs never raise. -/
theorem Valid.derives (valid : inputs.Valid) (crypto : Crypto) (fuel : Nat) :
    ∃ result, inputs.deriveWith crypto fuel inputs.bands = .ok result := by
  obtain ⟨clientBytes, isClient⟩ := valid.clientSeed
  have validBands := validateRewardBands_iff.mp valid.bands
  have hashed : ∃ bytes, dailySpinMappingBytes inputs.bands = .ok bytes := by
    simp only [dailySpinMappingBytes, valid.bands]
    exact ⟨_, rfl⟩
  obtain ⟨bytes, isBytes⟩ := hashed
  have isDigest : dailySpinMappingDigest crypto inputs.bands =
      .ok (crypto.sha256 bytes).hex := by
    simp only [dailySpinMappingDigest, isBytes]
    rfl
  have supported : validateSupportedV1 dailySpinGameKey protocolVersionV1 algorithmHmacSha256
      dailySpinMappingVersionV1 = .ok () := by simp [validateSupportedV1]
  have attempts : ∀ fuel attempt, ∃ result, deriveAttempts crypto inputs.serverSeed
      inputs.clientSeed inputs.nonce inputs.configVersionId inputs.sessionId inputs.bands
      dailySpinGameKey (crypto.sha256 bytes).hex fuel attempt = .ok result := by
    intro fuel
    induction fuel with
    | zero => exact fun attempt => ⟨none, rfl⟩
    | succ fuel ih =>
        intro attempt
        simp only [deriveAttempts, dailySpinDerivationMessage, supported, isClient,
          valid.nonce, validateDigest_hex, fairly_ok, bind, Except.bind, pure, Except.pure]
        split
        · have positive := validBands.total_pos
          obtain ⟨index, bound, inside⟩ := exists_inBand
            (Int.emod_nonneg _ (by omega)) (Int.emod_lt_of_pos _ positive)
          rw [validBands.select bound inside]
          exact ⟨_, rfl⟩
        · exact ih (attempt + 1)
  obtain ⟨result, isResult⟩ := attempts fuel 0
  refine ⟨result, ?_⟩
  simp only [deriveWith, deriveDailySpin, bind_eq_ok, fairly_eq_ok]
  exact ⟨(), valid.serverSeed, (), supported, (), valid.nonce, (), valid.bands, _, isDigest,
    isResult⟩

/-- A proof is refused: no verification accepts it, and each one whose draw ends returns a
refusal or, when the raw digest is not ASCII, raises at its comparison. -/
structure Refused (inputs : SpinInputs) (crypto : Crypto) (changed : DailySpinProof) :
    Prop where
  never : ∀ fuel code, verifyDailySpinProof crypto fuel changed ≠ .ok (some ⟨true, code⟩)
  refuses : ∀ fuel, inputs.deriveWith crypto fuel changed.rewardBands ≠ .ok none →
    (∃ code, verifyDailySpinProof crypto fuel changed = .ok (some ⟨false, code⟩)) ∨
      isAscii changed.rawDigestHex = false ∧
        verifyDailySpinProof crypto fuel changed = .error .typeError

/-- A proof on the terms of an honest one repeats its draw, from its own map. -/
theorem repeatedDraw_eq {fuel : Nat} {changed : DailySpinProof} {seed : Bytes}
    (committed : Committed crypto changed seed)
    (apart : NoCollision crypto changed (inputs.proof crypto derivation))
    (readsOurs : serverSeedFromHex (hexOfBytes inputs.serverSeed) = .ok inputs.serverSeed)
    (terms : SameTerms changed (inputs.proof crypto derivation)) :
    repeatedDraw crypto fuel changed seed =
      inputs.deriveWith crypto fuel changed.rewardBands := by
  have sameSeed : seed = inputs.serverSeed := by
    apply apart (Or.inl (Or.inl committed.isSeed)) (Or.inr (Or.inl readsOurs))
    apply Digest.hex_injective
    rw [serverSeedCommitment_ok committed.commitment, terms.serverSeedCommitment]
    rfl
  obtain ⟨isGame, isProtocol, isAlgorithm, isVersion⟩ := supported_eq committed.supported
  rw [repeatedDraw, sameSeed, terms.clientSeed, terms.nonce, terms.configVersionId,
    terms.sessionId, isGame, isProtocol, isAlgorithm, isVersion]
  rfl

/-- A proof on the terms of an honest one that differs from it is refused. -/
theorem refused {fuel : Nat} {changed : DailySpinProof}
    (derived : inputs.deriveWith crypto fuel inputs.bands = .ok (some derivation))
    (differs : changed ≠ inputs.proof crypto derivation)
    (apart : NoCollision crypto changed (inputs.proof crypto derivation))
    (terms : SameTerms changed (inputs.proof crypto derivation)) :
    Refused inputs crypto changed := by
  have honest := verifyDailySpinProof_of_derived derived (Nat.lt_succ_self _)
  obtain ⟨seed, _, isHonest⟩ := accepted_of_verified honest
  obtain ⟨sameText, _⟩ := serverSeedFromHex_ok isHonest.isSeed
  have isOurs : seed = inputs.serverSeed := hexOfBytes_injective sameText
  have readsOurs : serverSeedFromHex (hexOfBytes inputs.serverSeed) =
      .ok inputs.serverSeed := isOurs ▸ isHonest.isSeed
  have never : ∀ fuel code,
      verifyDailySpinProof crypto fuel changed ≠ .ok (some ⟨true, code⟩) := by
    intro fuel code verified
    obtain ⟨_, _, isChanged⟩ := accepted_of_verified verified
    exact differs (isChanged.binds isHonest apart terms)
  -- The two compared texts that are terms of the honest proof are ASCII.
  have commitment : isAscii changed.serverSeedCommitment = true := by
    rw [terms.serverSeedCommitment]
    exact Digest.isAscii_hex _
  have mapping : isAscii changed.mappingDigest = true := by
    rw [terms.mappingDigest]
    exact (ascii_of_derived derived).1
  refine ⟨never, fun fuel ends => ?_⟩
  have ended : Verification crypto fuel changed _ := verification
  have returns : ∀ result, verifyDailySpinProof crypto fuel changed = .ok (some result) →
      ∃ code, verifyDailySpinProof crypto fuel changed = .ok (some ⟨false, code⟩) := by
    rintro ⟨verified, code⟩ isVerdict
    cases verified with
    | true => exact absurd isVerdict (never fuel code)
    | false => exact ⟨code, isVerdict⟩
  generalize isAnswer : verifyDailySpinProof crypto fuel changed = answer at ended returns ⊢
  cases ended with
  | foreignCommitment _ _ foreign => exact absurd (commitment.symm.trans foreign) (by simp)
  | unfinished committed endless =>
      rw [repeatedDraw_eq committed apart readsOurs terms] at endless
      exact absurd endless ends
  | raised _ _ comparison =>
      cases comparison with
      | foreignMapping foreign => exact absurd (mapping.symm.trans foreign) (by simp)
      | foreignDigest _ foreign => exact Or.inr ⟨foreign, rfl⟩
  | unsupported => exact Or.inl (returns _ rfl)
  | noSeed => exact Or.inl (returns _ rfl)
  | otherCommitment => exact Or.inl (returns _ rfl)
  | refusedDraw => exact Or.inl (returns _ rfl)
  | compared => exact Or.inl (returns _ rfl)

/-- What holds of the honest proofs of some inputs. -/
structure Honest (inputs : SpinInputs) (crypto : Crypto) : Prop where
  total : ∀ fuel, ∃ result, inputs.deriveWith crypto fuel inputs.bands = .ok result
  accepted : ∀ fuel derivation,
    inputs.deriveWith crypto fuel inputs.bands = .ok (some derivation) →
    ∀ other, derivation.attempt < other →
      verifyDailySpinProof crypto other (inputs.proof crypto derivation) =
        .ok (some ⟨true, py "verified"⟩)
  /-- A change is refused or it is one of the agreed terms. -/
  changed : ∀ fuel derivation,
    inputs.deriveWith crypto fuel inputs.bands = .ok (some derivation) →
    ∀ changed, changed ≠ inputs.proof crypto derivation →
      NoCollision crypto changed (inputs.proof crypto derivation) →
      Refused inputs crypto changed ∨
        ¬SameTerms changed (inputs.proof crypto derivation)

end SpinInputs

/-- A verified proof is binding, and honest proofs are verified. -/
theorem verified_proof_binds (crypto : Crypto) :
    (∀ one other fuel fuel' code code', NoCollision crypto one other →
      SameTerms one other →
      verifyDailySpinProof crypto fuel one = .ok (some ⟨true, code⟩) →
      verifyDailySpinProof crypto fuel' other = .ok (some ⟨true, code'⟩) → one = other) ∧
      ∀ inputs : SpinInputs, inputs.Valid → inputs.Honest crypto := by
  constructor
  · intro one other fuel fuel' code code' apart terms isOne isOther
    obtain ⟨_, _, acceptedOne⟩ := accepted_of_verified isOne
    obtain ⟨_, _, acceptedOther⟩ := accepted_of_verified isOther
    exact acceptedOne.binds acceptedOther apart terms
  · intro inputs valid
    constructor
    case total => exact valid.derives crypto
    case accepted =>
      exact fun fuel derivation derived other reaches =>
        verifyDailySpinProof_of_derived derived reaches
    case changed =>
      intro fuel derivation derived changed differs apart
      by_cases terms : SameTerms changed (inputs.proof crypto derivation)
      · exact Or.inl (SpinInputs.refused derived differs apart terms)
      · exact Or.inr terms

namespace Sample

def spinInputs : SpinInputs where
  serverSeed := List.replicate 32 7
  clientSeed := py "lucky"
  nonce := 0
  configVersionId := 18
  sessionId := 32
  bands := [⟨py "small", 3, 10⟩, ⟨py "large", 1, 50⟩]

theorem spinInputs_valid : spinInputs.Valid where
  serverSeed := by decide
  clientSeed := ⟨encodeAscii (py "lucky"), by decide +kernel⟩
  nonce := by decide
  bands := by decide +kernel

theorem spin_derives :
    (match spinInputs.deriveWith crypto 8 spinInputs.bands with
      | .ok (some _) => true
      | _ => false) = true := by
  decide +kernel

def spinMap : Bytes :=
  match dailySpinMappingBytes spinInputs.bands with
  | .ok bytes => bytes
  | .error _ => []

theorem spinMap_eq : dailySpinMappingBytes spinInputs.bands = .ok spinMap := by
  decide +kernel

/-- The checksum tells the seed and the map of these inputs apart. -/
theorem spin_apart {one other : DailySpinProof}
    (seeds : one.serverSeedHex = hexOfBytes spinInputs.serverSeed ∧
      other.serverSeedHex = hexOfBytes spinInputs.serverSeed)
    (maps : one.rewardBands = spinInputs.bands ∧
      other.rewardBands = spinInputs.bands) : NoCollision crypto one other := by
  have hashed : ∀ bytes ∈ hashedInputs one ∪ hashedInputs other,
      bytes = spinInputs.serverSeed ∨ bytes = spinMap := by
    intro bytes member
    rcases member with (read | isMap) | (read | isMap)
    · rw [seeds.1] at read
      exact Or.inl (hexOfBytes_injective (serverSeedFromHex_ok read).1)
    · rw [maps.1, spinMap_eq] at isMap
      exact Or.inr (Except.ok.inj isMap).symm
    · rw [seeds.2] at read
      exact Or.inl (hexOfBytes_injective (serverSeedFromHex_ok read).1)
    · rw [maps.2, spinMap_eq] at isMap
      exact Or.inr (Except.ok.inj isMap).symm
  have apart : crypto.sha256 spinInputs.serverSeed ≠ crypto.sha256 spinMap := by
    decide +kernel
  intro bytes member bytes' member' same
  rcases hashed bytes member with rfl | rfl <;>
    rcases hashed bytes' member' with rfl | rfl
  · rfl
  · exact absurd same apart
  · exact absurd same.symm apart
  · rfl

end Sample

/-- An honest proof is verified, is equal to every proof that is verified on its
terms with its seed and map, and is refused with another reward value. -/
theorem verified_proof_binds_sample :
    ∃ derivation, Sample.spinInputs.deriveWith Sample.crypto 8
        Sample.spinInputs.bands = .ok (some derivation) ∧
      verifyDailySpinProof Sample.crypto (derivation.attempt + 1)
        (Sample.spinInputs.proof Sample.crypto derivation) =
          .ok (some ⟨true, py "verified"⟩) ∧
      Sample.spinInputs.proof Sample.crypto derivation =
        Sample.spinInputs.proof Sample.crypto derivation ∧
      Sample.spinInputs.Refused Sample.crypto
        { Sample.spinInputs.proof Sample.crypto derivation with
          rewardValue := derivation.reward.value + 1 } := by
  have derives := Sample.spin_derives
  split at derives
  · next derivation derived =>
      have honest := (verified_proof_binds Sample.crypto).2 _ Sample.spinInputs_valid
      have verified := honest.accepted 8 derivation derived (derivation.attempt + 1)
        (Nat.lt_succ_self _)
      refine ⟨derivation, derived, verified, ?_, ?_⟩
      · exact (verified_proof_binds Sample.crypto).1 _ _ _ _ _ _
          (Sample.spin_apart ⟨rfl, rfl⟩ ⟨rfl, rfl⟩) ⟨rfl, rfl, rfl, rfl, rfl, rfl⟩
          verified verified
      · rcases honest.changed 8 derivation derived
          { Sample.spinInputs.proof Sample.crypto derivation with
            rewardValue := derivation.reward.value + 1 }
          (fun same => by
            have values := congrArg DailySpinProof.rewardValue same
            simp only [SpinInputs.proof] at values
            omega)
          (Sample.spin_apart ⟨rfl, rfl⟩ ⟨rfl, rfl⟩) with refused | differs
        · exact refused
        · exact absurd ⟨rfl, rfl, rfl, rfl, rfl, rfl⟩ differs
  · cases derives

end RngGamePlatform
