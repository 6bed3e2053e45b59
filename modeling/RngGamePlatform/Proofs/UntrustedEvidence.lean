/-
Module: RngGamePlatform.Proofs.UntrustedEvidence
Purpose: For which untrusted evidence the public verification gives a verdict.
Trusted boundary: none
Main exports: LoopEnds, GivesVerdict, Reproducible, Comparable, untrusted_evidence_verdict,
  foreign_commitment_raises
-/
import RngGamePlatform.Proofs.BindingProof

namespace RngGamePlatform

open Encoding

section Verdicts

variable {crypto : Crypto} {fuel : Nat} {proof : DailySpinProof}

/-- Evidence that passes every comparison is verified. -/
theorem verified_of_accepted {seed : Bytes} {derivation : DailySpinDerivation}
    (accepted : Accepted crypto fuel proof seed derivation) :
    verifyDailySpinProof crypto fuel proof = .ok (some ⟨true, py "verified"⟩) := by
  have commitment : isAscii proof.serverSeedCommitment = true :=
    Committed.ascii ⟨accepted.supported, accepted.isSeed, accepted.commitment⟩
  obtain ⟨mapping, raw⟩ := ascii_of_derived accepted.derived
  rw [accepted.mappingDigest] at mapping
  rw [accepted.rawDigestHex] at raw
  simp [verifyDailySpinProof, compareDerivation, accepted.supported, accepted.isSeed,
    accepted.commitment, accepted.derived, accepted.mappingDigest, accepted.rawDigestHex,
    accepted.normalizedValue, accepted.attempt, accepted.rewardKey, accepted.rewardValue,
    compareEvidence_ascii, commitment, mapping, raw, bind, Except.bind, pure, Except.pure]

/-- The code of a verdict tells whether every check has passed. -/
theorem code_iff_accepted {result : VerificationResult}
    (isResult : verifyDailySpinProof crypto fuel proof = .ok (some result)) :
    result.code = py "verified" ↔
      ∃ seed derivation, Accepted crypto fuel proof seed derivation := by
  constructor
  · intro isVerified
    have ended : Verification crypto fuel proof _ := verification
    rw [isResult] at ended
    exact ended.accepted (Or.inr isVerified)
  · rintro ⟨seed, derivation, accepted⟩
    rw [verified_of_accepted accepted] at isResult
    cases isResult
    rfl

end Verdicts

/-! ### Comparable evidence -/

/-- The rejection loop accepts one of `fuel` attempts, or is not reached. -/
def LoopEnds (crypto : Crypto) (fuel : Nat) (proof : DailySpinProof) : Prop :=
  ∀ seed, serverSeedFromHex proof.serverSeedHex = .ok seed →
    deriveDailySpin crypto fuel seed proof.clientSeed proof.nonce proof.configVersionId
      proof.sessionId proof.rewardBands proof.gameKey proof.protocolVersion proof.algorithm
      proof.mappingVersion ≠ .ok none

/-- The verification returns a result, and its code says whether every check has
passed. -/
def GivesVerdict (crypto : Crypto) (fuel : Nat) (proof : DailySpinProof) : Prop :=
  ∃ result, verifyDailySpinProof crypto fuel proof = .ok (some result) ∧
    (result.code = py "verified" ↔
      ∃ seed derivation, Accepted crypto fuel proof seed derivation)

/-- The draw of the evidence can be repeated: its commitment is that of its seed, and
its inputs pass the checks of the protocol. -/
structure Reproducible (crypto : Crypto) (proof : DailySpinProof) : Prop where
  supported : validateSupportedV1 proof.gameKey proof.protocolVersion proof.algorithm
    proof.mappingVersion = .ok ()
  seed : ∃ seed, serverSeedFromHex proof.serverSeedHex = .ok seed ∧
    serverSeedCommitment crypto seed = .ok proof.serverSeedCommitment
  clientSeed : ∃ bytes, validateClientSeed proof.clientSeed = .ok bytes
  nonce : validateNonce proof.nonce = .ok ()
  bands : validateRewardBands proof.rewardBands = .ok ()

/-- The texts that the verification comes to compare are ASCII: the commitment behind
the checks of the protocol and of the seed, the digest of the map behind the whole draw,
and the raw digest behind the right digest of the map. -/
structure Comparable (crypto : Crypto) (proof : DailySpinProof) : Prop where
  commitment : validateSupportedV1 proof.gameKey proof.protocolVersion proof.algorithm
      proof.mappingVersion = .ok () → validateDigest proof.serverSeedHex = .ok () →
    isAscii proof.serverSeedCommitment = true
  mappingDigest : Reproducible crypto proof → isAscii proof.mappingDigest = true
  rawDigest : Reproducible crypto proof →
    dailySpinMappingDigest crypto proof.rewardBands = .ok proof.mappingDigest →
      isAscii proof.rawDigestHex = true

section Main

variable {crypto : Crypto} {fuel : Nat} {proof : DailySpinProof} {seed : Bytes}
  {derivation : DailySpinDerivation}

/-- A draw that gives a derivation has passed the checks. -/
theorem reproducible_of_derived (committed : Committed crypto proof seed)
    (derived : repeatedDraw crypto fuel proof seed = .ok (some derivation)) :
    Reproducible crypto proof := by
  have clientOk := clientSeed_of_derived derived
  simp only [repeatedDraw, deriveDailySpin, bind_eq_ok, fairly_eq_ok] at derived
  obtain ⟨_, _, _, _, _, nonceOk, _, bandsOk, _⟩ := derived
  exact ⟨committed.supported, ⟨seed, committed.isSeed, committed.commitment⟩, clientOk,
    nonceOk, bandsOk⟩

/-- A draw that can be repeated does not fail. -/
theorem Reproducible.derives (reproducible : Reproducible crypto proof)
    (isSeed : serverSeedFromHex proof.serverSeedHex = .ok seed) (error : DrawError) :
    repeatedDraw crypto fuel proof seed ≠ .error error := by
  have valid : (⟨seed, proof.clientSeed, proof.nonce, proof.configVersionId, proof.sessionId,
      proof.rewardBands⟩ : SpinInputs).Valid :=
    { serverSeed := if_pos (serverSeedFromHex_ok isSeed).2
      clientSeed := reproducible.clientSeed
      nonce := reproducible.nonce
      bands := reproducible.bands }
  obtain ⟨result, isResult⟩ := valid.derives crypto fuel
  obtain ⟨isGame, isProtocol, isAlgorithm, isVersion⟩ := supported_eq reproducible.supported
  rw [repeatedDraw, isGame, isProtocol, isAlgorithm, isVersion]
  intro fails
  exact absurd (isResult.symm.trans fails) (by simp)

/-- Evidence whose draw cannot be repeated is comparable when its commitment is, as its
digests are compared with nothing. -/
theorem Comparable.of_not_reproducible (notReproducible : ¬Reproducible crypto proof)
    (commitment : validateSupportedV1 proof.gameKey proof.protocolVersion proof.algorithm
      proof.mappingVersion = .ok () → validateDigest proof.serverSeedHex = .ok () →
      isAscii proof.serverSeedCommitment = true) : Comparable crypto proof where
  commitment := commitment
  mappingDigest reproducible := absurd reproducible notReproducible
  rawDigest reproducible := absurd reproducible notReproducible

/-- Two ways in which a verification ends: with a verdict, for comparable evidence, or with
an exception, for other evidence. -/
def EndsEitherWay (crypto : Crypto) (fuel : Nat) (proof : DailySpinProof) : Prop :=
  Comparable crypto proof ∧
      (∃ result, verifyDailySpinProof crypto fuel proof = .ok (some result)) ∨
    ¬Comparable crypto proof ∧
      verifyDailySpinProof crypto fuel proof = .error .typeError

/-- The comparisons of a derivation return exactly for comparable evidence. -/
theorem comparable_of_returned {result : VerificationResult}
    (committed : Committed crypto proof seed)
    (derived : repeatedDraw crypto fuel proof seed = .ok (some derivation))
    (returned : Comparison proof derivation (.ok result)) : Comparable crypto proof := by
  have mapped := mappingDigest_of_derived derived
  obtain ⟨mapAscii, rawAscii⟩ := ascii_of_derived derived
  cases returned with
  | otherMapping ascii differs =>
      exact ⟨fun _ _ => committed.ascii, fun _ => ascii,
        fun _ isMap => absurd (Except.ok.inj (mapped.symm.trans isMap)) differs⟩
  | mismatch mapping raw => exact ⟨fun _ _ => committed.ascii, fun _ => mapping, fun _ _ => raw⟩
  | agrees sameMapping sameDigest =>
      exact ⟨fun _ _ => committed.ascii, fun _ => sameMapping ▸ mapAscii,
        fun _ _ => sameDigest ▸ rawAscii⟩

theorem not_comparable_of_raised {error : VerificationError}
    (committed : Committed crypto proof seed)
    (derived : repeatedDraw crypto fuel proof seed = .ok (some derivation))
    (raised : Comparison proof derivation (.error error)) :
    ¬Comparable crypto proof ∧ error = .typeError := by
  have reproducible := reproducible_of_derived committed derived
  cases raised with
  | foreignMapping foreign =>
      refine ⟨fun comparable => ?_, rfl⟩
      exact absurd (foreign.symm.trans (comparable.mappingDigest reproducible)) (by simp)
  | foreignDigest sameMapping foreign =>
      refine ⟨fun comparable => ?_, rfl⟩
      have mapped := mappingDigest_of_derived derived
      rw [sameMapping] at mapped
      exact absurd (foreign.symm.trans (comparable.rawDigest reproducible mapped)) (by simp)

/-- A verification whose loop ends. -/
theorem endsEitherWay (ends : LoopEnds crypto fuel proof) : EndsEitherWay crypto fuel proof := by
  have ended : Verification crypto fuel proof _ := verification
  unfold EndsEitherWay
  generalize verifyDailySpinProof crypto fuel proof = answer at ended ⊢
  cases ended with
  | unsupported refused =>
      refine Or.inl ⟨.of_not_reproducible (fun reproducible => ?_) (fun supported => ?_), _, rfl⟩
      · cases refused.symm.trans reproducible.supported
      · cases refused.symm.trans supported
  | noSeed refused =>
      refine Or.inl ⟨.of_not_reproducible (fun reproducible => ?_) (fun _ isDigest => ?_), _, rfl⟩
      · obtain ⟨seed, isSeed, _⟩ := reproducible.seed
        cases refused.symm.trans isSeed
      · simp only [serverSeedFromHex, isDigest] at refused
        cases refused
  | foreignCommitment supported isSeed foreign =>
      refine Or.inr ⟨fun comparable => ?_, rfl⟩
      obtain ⟨_, isDigest, _⟩ := bind_eq_ok.mp isSeed
      cases foreign.symm.trans (comparable.commitment supported isDigest)
  | otherCommitment isSeed ascii differs =>
      refine Or.inl ⟨.of_not_reproducible (fun reproducible => ?_) (fun _ _ => ascii), _, rfl⟩
      obtain ⟨seed, isSeed', commits⟩ := reproducible.seed
      cases isSeed.symm.trans isSeed'
      exact differs commits
  | refusedDraw committed refused =>
      refine Or.inl ⟨.of_not_reproducible (fun reproducible => ?_)
        (fun _ _ => committed.ascii), _, rfl⟩
      exact reproducible.derives committed.isSeed _ refused
  | unfinished committed endless => exact absurd endless (ends _ committed.isSeed)
  | compared committed derived returned =>
      exact Or.inl ⟨comparable_of_returned committed derived returned, _, rfl⟩
  | raised committed derived raised =>
      obtain ⟨notComparable, rfl⟩ := not_comparable_of_raised committed derived raised
      exact Or.inr ⟨notComparable, rfl⟩

/-- The verification gives a verdict exactly for comparable evidence. -/
theorem untrusted_evidence_verdict (ends : LoopEnds crypto fuel proof) :
    GivesVerdict crypto fuel proof ↔ Comparable crypto proof := by
  rcases endsEitherWay ends with ⟨comparable, result, isResult⟩ | ⟨notComparable, raises⟩
  · exact iff_of_true ⟨result, isResult, code_iff_accepted isResult⟩ comparable
  · apply iff_of_false _ notComparable
    rintro ⟨result, returns, _⟩
    exact absurd (raises.symm.trans returns) (by simp)

end Main

namespace Sample

/-- Evidence for the sample draw, with a commitment and digests of somebody else. -/
def evidenceWith (commitment : PyStr) : DailySpinProof where
  protocolVersion := protocolVersionV1
  algorithm := algorithmHmacSha256
  serverSeedCommitment := commitment
  serverSeedHex := hexOfBytes spinInputs.serverSeed
  clientSeed := spinInputs.clientSeed
  nonce := spinInputs.nonce
  gameKey := dailySpinGameKey
  configVersionId := spinInputs.configVersionId
  sessionId := spinInputs.sessionId
  rewardBands := spinInputs.bands
  mappingVersion := dailySpinMappingVersionV1
  mappingDigest := py "unknown"
  rawDigestHex := py "unknown"
  normalizedValue := 0
  attempt := 0
  rewardKey := py "small"
  rewardValue := 10

theorem evidence_loopEnds (commitment : PyStr) : LoopEnds crypto 8 (evidenceWith commitment) := by
  intro seed isSeed unfinished
  have isOurs : seed = spinInputs.serverSeed :=
    hexOfBytes_injective (serverSeedFromHex_ok isSeed).1
  have derives := spin_derives
  rw [isOurs] at unfinished
  have none : spinInputs.deriveWith crypto 8 spinInputs.bands = .ok none := unfinished
  rw [none] at derives
  cases derives

end Sample

/-- A commitment that is not ASCII makes the verification raise. -/
theorem foreign_commitment_raises : ¬∀ crypto fuel proof,
    LoopEnds crypto fuel proof → GivesVerdict crypto fuel proof := by
  intro always
  obtain ⟨result, returns, _⟩ := always Sample.crypto 8 (Sample.evidenceWith (py "é"))
    (Sample.evidence_loopEnds _)
  have raises : verifyDailySpinProof Sample.crypto 8 (Sample.evidenceWith (py "é")) =
      .error .typeError := by decide +kernel
  exact absurd (raises.symm.trans returns) (by simp)

/-- Evidence with another commitment is refused. -/
theorem untrusted_evidence_verdict_refused :
    GivesVerdict Sample.crypto 8 (Sample.evidenceWith (py "unknown")) := by
  apply (untrusted_evidence_verdict (Sample.evidence_loopEnds _)).mpr
  exact ⟨fun _ _ => by decide +kernel, fun _ => by decide +kernel,
    fun _ _ => by decide +kernel⟩

end RngGamePlatform
