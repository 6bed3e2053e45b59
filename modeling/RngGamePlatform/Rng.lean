/-
Module: RngGamePlatform.Rng
Purpose: The version-1 provably fair draw and its public verification.
Trusted boundary: human-reviewed semantics
Main exports: Crypto, RewardBand, DailySpinDerivation, DailySpinProof, spinLimit,
  deriveDailySpin, verifyDailySpinProof, deriveDailySpin_more_fuel,
  verifyDailySpinProof_of_derived
-/
import RngGamePlatform.Encoding.Readable
import RngGamePlatform.Models

namespace RngGamePlatform

open Encoding

/-- A SHA-256 or HMAC-SHA256 digest. -/
abbrev Digest := { bytes : Bytes // bytes.length = 32 }

/-- The lowercase hexadecimal text of a digest. -/
def Digest.hex (digest : Digest) : PyStr := hexOfBytes digest.val

/-- The hash functions of the platform. -/
structure Crypto where
  sha256 : Bytes → Digest
  /-- HMAC-SHA256 of a key and a message. -/
  hmacSha256 : Bytes → Bytes → Digest

/-- A comparison of digests got a text outside ASCII. -/
inductive DigestError where
  | typeError
deriving DecidableEq

def isAscii (text : PyStr) : Bool := text.all fun c => c.val < 128

/-- `hmac.compare_digest` of two texts. -/
def compareDigest (one other : PyStr) : Except DigestError Bool :=
  if isAscii one ∧ isAscii other then .ok (one = other) else .error .typeError

/-- What a draw raises: a failure of the protocol, or the assertion at the end of the
selection. -/
inductive DrawError where
  | fairness (error : FairnessError)
  | assertionError
deriving DecidableEq, Repr

/-- A step of a draw that raises failures of the protocol only. -/
def fairly {α : Type} (result : Except FairnessError α) : Except DrawError α :=
  result.mapError .fairness

/-- What the verification raises: the exceptions that it does not turn into a verdict. -/
inductive VerificationError where
  | typeError
  | assertionError
deriving DecidableEq, Repr

def protocolVersionV1 : PyStr := py "rng-game-platform-pvf-v1"
def algorithmHmacSha256 : PyStr := py "hmac-sha256"
def dailySpinGameKey : PyStr := py "daily_spin"
def dailySpinMappingVersionV1 : PyStr := py "daily-spin-weighted-reward-v1"
def serverSeedBytes : Nat := 32
def maxNonce : Int := 2 ^ 64 - 1
def maxRewardWeight : Int := 2 ^ 63 - 1
def maxRewardValue : Int := 2 ^ 31 - 1

/-- One ordered, immutable daily-spin reward band used by protocol v1. -/
structure RewardBand where
  key : PyStr
  weight : Int
  value : Int
deriving DecidableEq

/-- All non-secret deterministic evidence for one accepted daily-spin draw. -/
structure DailySpinDerivation where
  mappingDigest : PyStr
  rawDigestHex : PyStr
  rawValue : Nat
  normalizedValue : Int
  attempt : Nat
  reward : RewardBand
deriving DecidableEq

/-- Public v1 evidence sufficient to independently verify a revealed result. -/
structure DailySpinProof where
  protocolVersion : PyStr
  algorithm : PyStr
  serverSeedCommitment : PyStr
  serverSeedHex : PyStr
  clientSeed : PyStr
  nonce : Int
  gameKey : PyStr
  configVersionId : Uuid
  sessionId : Uuid
  rewardBands : List RewardBand
  mappingVersion : PyStr
  mappingDigest : PyStr
  rawDigestHex : PyStr
  normalizedValue : Int
  attempt : Int
  rewardKey : PyStr
  rewardValue : Int
deriving DecidableEq

/-- A recalculated proof verdict. -/
structure VerificationResult where
  verified : Bool
  code : PyStr
deriving DecidableEq

def validateServerSeed (serverSeed : Bytes) : Except FairnessError Unit :=
  if serverSeed.length = serverSeedBytes then .ok ()
  else .error .invalidFairnessSeed

/-- Every byte is of a visible ASCII character. -/
def IsPrintable (encoded : Bytes) : Prop :=
  ∀ byte ∈ encoded, 0x21 ≤ byte.toNat ∧ byte.toNat ≤ 0x7E

instance (encoded : Bytes) : Decidable (IsPrintable encoded) :=
  List.decidableBAll _ encoded

def validateClientSeed (clientSeed : PyStr) : Except FairnessError Bytes :=
  match encodeUtf8 clientSeed with
  | none => .error .invalidFairnessSeed
  | some encoded =>
      if 1 ≤ encoded.length ∧ encoded.length ≤ 64 ∧
          IsPrintable encoded then
        .ok encoded
      else .error .invalidFairnessSeed

def validateNonce (nonce : Int) : Except FairnessError Unit :=
  if 0 ≤ nonce ∧ nonce ≤ maxNonce then .ok () else .error .invalidFairnessNonce

def validateDigest (value : PyStr) : Except FairnessError Unit :=
  if value.length = 64 ∧ IsHex value then .ok ()
  else .error .invalidFairnessInput

/-- The band checks after `keys` and a total weight of `total`. -/
def validateBandsFrom (keys : List PyStr) (total : Int) :
    List RewardBand → Except FairnessError Unit
  | [] => .ok ()
  | band :: bands =>
      if band.key = [] then .error .invalidRewardMapping
      else if (encodeUtf8 band.key).isNone then .error .invalidRewardMapping
      else if band.key ∈ keys then .error .invalidRewardMapping
      else if ¬(0 < band.weight ∧ band.weight ≤ maxRewardWeight) then
        .error .invalidRewardMapping
      else if ¬(0 ≤ band.value ∧ band.value ≤ maxRewardValue) then
        .error .invalidRewardMapping
      else if maxRewardWeight < total + band.weight then
        .error .invalidRewardMapping
      else validateBandsFrom (band.key :: keys) (total + band.weight) bands

def validateRewardBands (bands : List RewardBand) : Except FairnessError Unit :=
  if bands = [] then .error .invalidRewardMapping
  else validateBandsFrom [] 0 bands

def validateSupportedV1 (gameKey protocolVersion algorithm mappingVersion : PyStr) :
    Except FairnessError Unit :=
  if gameKey ≠ dailySpinGameKey ∨ protocolVersion ≠ protocolVersionV1 ∨
      algorithm ≠ algorithmHmacSha256 ∨
      mappingVersion ≠ dailySpinMappingVersionV1 then
    .error .unsupportedFairnessVersion
  else .ok ()

/-- The lowercase SHA-256 commitment for one valid v1 server seed. -/
def serverSeedCommitment (crypto : Crypto) (serverSeed : Bytes) :
    Except FairnessError PyStr := do
  validateServerSeed serverSeed
  return (crypto.sha256 serverSeed).hex

/-- The lines of the band at position `index`. -/
def bandLines (index : Nat) (band : RewardBand) : Bytes :=
  let keyBytes := (encodeUtf8 band.key).getD []
  let start := py "reward[" ++ decimal index ++ py "]."
  encodeAscii (start ++ py "key=" ++ decimal keyBytes.length ++ py ":") ++
    keyBytes ++ encodeAscii (py "\n") ++
    encodeAscii (start ++ py "weight=" ++ decimal band.weight ++ py "\n") ++
    encodeAscii (start ++ py "value=" ++ decimal band.value ++ py "\n")

/-- An ordered daily-spin map exactly as frozen by the v1 protocol. -/
def dailySpinMappingBytes (bands : List RewardBand) :
    Except FairnessError Bytes := do
  validateRewardBands bands
  return encodeAscii (py "RNG-GAME-PLATFORM-DAILY-SPIN-MAP/1\n") ++
    encodeAscii (py "reward_count=" ++ decimal bands.length ++ py "\n") ++
    (bands.mapIdx bandLines).flatten

/-- The hash of the ordered reward map. -/
def dailySpinMappingDigest (crypto : Crypto) (bands : List RewardBand) :
    Except FairnessError PyStr := do
  let bytes ← dailySpinMappingBytes bands
  return (crypto.sha256 bytes).hex

/-- The exact v1 HMAC message for one rejection-sampling attempt. -/
def dailySpinDerivationMessage (clientSeed : PyStr) (nonce : Int)
    (configVersionId sessionId : Uuid) (mappingDigest : PyStr) (attempt : Nat)
    (gameKey : PyStr) : Except FairnessError Bytes := do
  validateSupportedV1 gameKey protocolVersionV1 algorithmHmacSha256
    dailySpinMappingVersionV1
  let clientSeedBytes ← validateClientSeed clientSeed
  validateNonce nonce
  validateDigest mappingDigest
  let gameKeyBytes := (encodeUtf8 gameKey).getD []
  return encodeAscii (py "RNG-GAME-PLATFORM-PVF/1\n") ++
    encodeAscii (py "algorithm=hmac-sha256\n") ++
    encodeAscii (py "protocol=rng-game-platform-pvf-v1\n") ++
    encodeAscii (py "game_key=" ++ decimal gameKeyBytes.length ++ py ":") ++
    gameKeyBytes ++ encodeAscii (py "\n") ++
    encodeAscii (py "config_version_id=" ++ uuidStr configVersionId ++ py "\n") ++
    encodeAscii (py "session_id=" ++ uuidStr sessionId ++ py "\n") ++
    encodeAscii (py "client_seed=" ++ decimal clientSeedBytes.length ++ py ":") ++
    clientSeedBytes ++ encodeAscii (py "\n") ++
    encodeAscii (py "nonce=" ++ decimal nonce ++ py "\n") ++
    encodeAscii (py "purpose=daily_spin\n") ++
    encodeAscii (py "mapping_version=daily-spin-weighted-reward-v1\n") ++
    encodeAscii (py "mapping_digest=" ++ mappingDigest ++ py "\n") ++
    encodeAscii (py "attempt=" ++ decimal attempt ++ py "\n")

/-- The total weight of the bands. -/
def totalWeight (bands : List RewardBand) : Int :=
  (bands.map fun band => band.weight).sum

/-- The first band whose weights reach past `remaining`. -/
def bandAt (remaining : Int) : List RewardBand → Option RewardBand
  | [] => none
  | band :: bands =>
      if remaining < band.weight then some band
      else bandAt (remaining - band.weight) bands

/-- Map an in-range normalized v1 value to its first weighted reward band. -/
def selectDailySpinReward (bands : List RewardBand) (normalizedValue : Int) :
    Except DrawError RewardBand := do
  fairly (validateRewardBands bands)
  if ¬(0 ≤ normalizedValue ∧ normalizedValue < totalWeight bands) then
    .error (.fairness .invalidRewardMapping)
  match bandAt normalizedValue bands with
  | some band => return band
  | none => .error .assertionError

/-- The acceptance limit of a reward map. -/
def spinLimit (bands : List RewardBand) : Int := 2 ^ 256 - 2 ^ 256 % totalWeight bands

/-- Rejection sampling from attempt `attempt` on, for at most `fuel` attempts;
no result when they are used up. -/
def deriveAttempts (crypto : Crypto) (serverSeed : Bytes) (clientSeed : PyStr)
    (nonce : Int) (configVersionId sessionId : Uuid) (bands : List RewardBand)
    (gameKey mappingDigest : PyStr) :
    (fuel attempt : Nat) → Except DrawError (Option DailySpinDerivation)
  | 0, _ => .ok none
  | fuel + 1, attempt => do
      let message ← fairly (dailySpinDerivationMessage clientSeed nonce configVersionId
        sessionId mappingDigest attempt gameKey)
      let digest := crypto.hmacSha256 serverSeed message
      let rawValue := bigEndian digest.val
      if (rawValue : Int) < spinLimit bands then
        let normalizedValue := (rawValue : Int) % totalWeight bands
        let reward ← selectDailySpinReward bands normalizedValue
        return some
          { mappingDigest := mappingDigest
            rawDigestHex := digest.hex
            rawValue := rawValue
            normalizedValue := normalizedValue
            attempt := attempt
            reward := reward }
      else
        deriveAttempts crypto serverSeed clientSeed nonce configVersionId sessionId
          bands gameKey mappingDigest fuel (attempt + 1)

/-- An unbiased v1 daily-spin result from complete explicit inputs, within
`fuel` attempts. -/
def deriveDailySpin (crypto : Crypto) (fuel : Nat) (serverSeed : Bytes)
    (clientSeed : PyStr) (nonce : Int) (configVersionId sessionId : Uuid)
    (bands : List RewardBand)
    (gameKey protocolVersion algorithm mappingVersion : PyStr) :
    Except DrawError (Option DailySpinDerivation) := do
  fairly (validateServerSeed serverSeed)
  fairly (validateSupportedV1 gameKey protocolVersion algorithm mappingVersion)
  fairly (validateNonce nonce)
  fairly (validateRewardBands bands)
  let mappingDigest ← fairly (dailySpinMappingDigest crypto bands)
  deriveAttempts crypto serverSeed clientSeed nonce configVersionId sessionId bands
    gameKey mappingDigest fuel 0

def serverSeedFromHex (serverSeedHex : PyStr) : Except FairnessError Bytes := do
  validateDigest serverSeedHex
  return (bytesOfHex serverSeedHex).getD []

/-- A comparison of the verification. -/
def compareEvidence (one other : PyStr) : Except VerificationError Bool :=
  (compareDigest one other).mapError fun _ => .typeError

/-- The comparisons after the derivation. -/
def compareDerivation (proof : DailySpinProof) (derivation : DailySpinDerivation) :
    Except VerificationError VerificationResult := do
  if !(← compareEvidence derivation.mappingDigest proof.mappingDigest) then
    return ⟨false, py "mapping_digest_mismatch"⟩
  if !(← compareEvidence derivation.rawDigestHex proof.rawDigestHex) then
    return ⟨false, py "raw_digest_mismatch"⟩
  if derivation.normalizedValue ≠ proof.normalizedValue then
    return ⟨false, py "normalized_value_mismatch"⟩
  if (derivation.attempt : Int) ≠ proof.attempt then
    return ⟨false, py "attempt_mismatch"⟩
  if derivation.reward.key ≠ proof.rewardKey ∨ derivation.reward.value ≠ proof.rewardValue then
    return ⟨false, py "reward_mismatch"⟩
  return ⟨true, py "verified"⟩

/-- Recalculate every public v1 proof field instead of trusting a stored verdict; no
verdict when the attempts are used up.  A failure of the protocol becomes a verdict, any
other exception escapes. -/
def verifyDailySpinProof (crypto : Crypto) (fuel : Nat) (proof : DailySpinProof) :
    Except VerificationError (Option VerificationResult) := do
  match validateSupportedV1 proof.gameKey proof.protocolVersion proof.algorithm
      proof.mappingVersion with
  | .error _ => return some ⟨false, py "unsupported_fairness_version"⟩
  | .ok () =>
      match serverSeedFromHex proof.serverSeedHex with
      | .error error => return some ⟨false, error.code⟩
      | .ok serverSeed =>
          match serverSeedCommitment crypto serverSeed with
          | .error error => return some ⟨false, error.code⟩
          | .ok commitment =>
              if !(← compareEvidence commitment proof.serverSeedCommitment) then
                return some ⟨false, py "commitment_mismatch"⟩
              match deriveDailySpin crypto fuel serverSeed proof.clientSeed
                  proof.nonce proof.configVersionId proof.sessionId proof.rewardBands
                  proof.gameKey proof.protocolVersion proof.algorithm
                  proof.mappingVersion with
              | .error (.fairness error) => return some ⟨false, error.code⟩
              | .error .assertionError => .error .assertionError
              | .ok none => return none
              | .ok (some derivation) => some <$> compareDerivation proof derivation

@[simp] theorem Digest.length_hex (digest : Digest) : digest.hex.length = 64 := by
  simp [Digest.hex, digest.property]

theorem Digest.isHex_hex (digest : Digest) : IsHex digest.hex :=
  isHex_hexOfBytes digest.val

theorem Digest.isAscii_hex (digest : Digest) : isAscii digest.hex = true := by
  simp only [isAscii, List.all_eq_true, decide_eq_true_eq]
  exact fun c member => (line_hex digest.isHex_hex c member).1

section Comparisons

variable {one other : PyStr}

theorem compareDigest_ascii (asciiOne : isAscii one = true) (asciiOther : isAscii other = true) :
    compareDigest one other = .ok (one = other) :=
  if_pos ⟨asciiOne, asciiOther⟩

theorem compareDigest_foreign (foreign : isAscii other = false) :
    compareDigest one other = .error .typeError := by
  apply if_neg
  rintro ⟨-, ascii⟩
  rw [foreign] at ascii
  cases ascii

/-- A text that equals another is compared without an error. -/
theorem compareDigest_eq_true (same : compareDigest one other = .ok true) : one = other := by
  unfold compareDigest at same
  split at same
  case isTrue => exact of_decide_eq_true (Except.ok.inj same)
  case isFalse => cases same

theorem compareEvidence_ascii (asciiOne : isAscii one = true)
    (asciiOther : isAscii other = true) : compareEvidence one other = .ok (one = other) := by
  rw [compareEvidence, compareDigest_ascii asciiOne asciiOther]
  rfl

/-- The comparison with foreign evidence raises. -/
theorem compareEvidence_foreign (foreign : isAscii other = false) :
    compareEvidence one other = .error .typeError := by
  rw [compareEvidence, compareDigest_foreign foreign]
  rfl

end Comparisons

@[simp] theorem validateDigest_hex (digest : Digest) :
    validateDigest digest.hex = .ok () := by
  simp [validateDigest, digest.isHex_hex]

/-- The hexadecimal text of 32 bytes reads back as those bytes. -/
theorem serverSeedFromHex_hex {seed : Bytes} (whole : seed.length = 32) :
    serverSeedFromHex (hexOfBytes seed) = .ok seed := by
  have isDigest : validateDigest (hexOfBytes seed) = .ok () :=
    validateDigest_hex ⟨seed, whole⟩
  simp [serverSeedFromHex, isDigest, bytesOfHex_hexOfBytes, bind, Except.bind,
    pure, Except.pure]

/-- A sequence that succeeds, taken apart. -/
theorem bind_eq_ok {ε α β : Type} {first : Except ε α} {f : α → Except ε β}
    {value : β} :
    first >>= f = .ok value ↔ ∃ a, first = .ok a ∧ f a = .ok value := by
  cases first with
  | error error => simp [bind, Except.bind]
  | ok a => simp [bind, Except.bind]

/-- A sequence that fails, taken apart. -/
theorem bind_eq_error {ε α β : Type} {first : Except ε α} {f : α → Except ε β}
    {error : ε} :
    first >>= f = .error error ↔
      first = .error error ∨ ∃ a, first = .ok a ∧ f a = .error error := by
  cases first with
  | error error => simp [bind, Except.bind]
  | ok a => simp [bind, Except.bind]

section Raising

variable {α : Type} {result : Except FairnessError α} {value : α}

@[simp] theorem fairly_ok (value : α) : fairly (.ok value) = .ok value := rfl

@[simp] theorem fairly_error (error : FairnessError) :
    (fairly (.error error) : Except DrawError α) = .error (.fairness error) := rfl

@[simp] theorem fairly_eq_ok : fairly result = .ok value ↔ result = .ok value := by
  cases result with
  | error error => simp
  | ok found => simp

/-- A step of a draw asserts nothing. -/
theorem fairly_ne_assertion : fairly result ≠ .error .assertionError := by
  cases result with
  | error error => simp
  | ok found => simp

end Raising

section Fuel

variable {crypto : Crypto} {serverSeed : Bytes} {clientSeed : PyStr} {nonce : Int}
  {configVersionId sessionId : Uuid} {bands : List RewardBand}
  {gameKey mappingDigest protocolVersion algorithm mappingVersion : PyStr}
  {derivation : DailySpinDerivation}

/-- The accepted attempt is one of the attempts made, and the same one is
accepted with every number of attempts that reaches it. -/
theorem deriveAttempts_more_fuel {fuel attempt : Nat}
    (derived : deriveAttempts crypto serverSeed clientSeed nonce configVersionId
      sessionId bands gameKey mappingDigest fuel attempt = .ok (some derivation)) :
    attempt ≤ derivation.attempt ∧
      ∀ other, derivation.attempt < attempt + other →
        deriveAttempts crypto serverSeed clientSeed nonce configVersionId sessionId
          bands gameKey mappingDigest other attempt = .ok (some derivation) := by
  induction fuel generalizing attempt with
  | zero => simp [deriveAttempts] at derived
  | succ fuel ih =>
      simp only [deriveAttempts] at derived
      cases built : dailySpinDerivationMessage clientSeed nonce configVersionId
          sessionId mappingDigest attempt gameKey with
      | error error => simp [built, bind, Except.bind] at derived
      | ok message =>
          simp only [built, fairly_ok, bind, Except.bind] at derived
          split at derived
          · next accepted =>
              split at derived
              · cases derived
              · next reward selected =>
                  cases derived
                  refine ⟨Nat.le_refl _, fun other reaches => ?_⟩
                  cases other with
                  | zero => exact absurd reaches (by simp)
                  | succ other =>
                      simp only [deriveAttempts, built, fairly_ok, bind, Except.bind,
                        if_pos accepted, selected]
                      rfl
          · next rejected =>
              rcases ih derived with ⟨later, again⟩
              refine ⟨by omega, fun other reaches => ?_⟩
              cases other with
              | zero => exact absurd reaches (by omega)
              | succ other =>
                  have rest := again other (by omega)
                  simp only [deriveAttempts, built, fairly_ok, bind, Except.bind,
                    if_neg rejected]
                  exact rest

theorem deriveDailySpin_more_fuel {fuel other : Nat}
    (derived : deriveDailySpin crypto fuel serverSeed clientSeed nonce
      configVersionId sessionId bands gameKey protocolVersion algorithm
      mappingVersion = .ok (some derivation))
    (reaches : derivation.attempt < other) :
    deriveDailySpin crypto other serverSeed clientSeed nonce configVersionId
      sessionId bands gameKey protocolVersion algorithm mappingVersion =
        .ok (some derivation) := by
  simp only [deriveDailySpin, bind_eq_ok, fairly_eq_ok] at derived ⊢
  rcases derived with
    ⟨_, seedOk, _, supported, _, nonceOk, _, bandsOk, digest, hashed, attempts⟩
  exact ⟨_, seedOk, _, supported, _, nonceOk, _, bandsOk, digest, hashed,
    (deriveAttempts_more_fuel attempts).2 other (by omega)⟩

/-- The derivation carries the digest of the map it was drawn from. -/
theorem mappingDigest_of_derived {fuel : Nat}
    (derived : deriveDailySpin crypto fuel serverSeed clientSeed nonce
      configVersionId sessionId bands gameKey protocolVersion algorithm
      mappingVersion = .ok (some derivation)) :
    dailySpinMappingDigest crypto bands = .ok derivation.mappingDigest := by
  simp only [deriveDailySpin, bind_eq_ok, fairly_eq_ok] at derived
  rcases derived with ⟨_, _, _, _, _, _, _, _, digest, hashed, attempts⟩
  rw [hashed]
  clear hashed
  generalize start : (0 : Nat) = attempt at attempts
  clear start
  induction fuel generalizing attempt with
  | zero => simp [deriveAttempts] at attempts
  | succ fuel ih =>
      simp only [deriveAttempts, bind_eq_ok, fairly_eq_ok] at attempts
      rcases attempts with ⟨message, _, attempts⟩
      split at attempts
      · rcases bind_eq_ok.mp attempts with ⟨reward, _, built⟩
        cases built
        rfl
      · exact ih _ attempts

/-- A draw that gives a derivation has a valid client seed. -/
theorem clientSeed_of_derived {fuel : Nat}
    (derived : deriveDailySpin crypto fuel serverSeed clientSeed nonce
      configVersionId sessionId bands gameKey protocolVersion algorithm
      mappingVersion = .ok (some derivation)) :
    ∃ bytes, validateClientSeed clientSeed = .ok bytes := by
  simp only [deriveDailySpin, bind_eq_ok, fairly_eq_ok] at derived
  obtain ⟨_, _, _, _, _, _, _, _, mappingDigest, _, attempts⟩ := derived
  cases fuel with
  | zero => cases attempts
  | succ fuel =>
      simp only [deriveAttempts, dailySpinDerivationMessage, bind_eq_ok, fairly_eq_ok]
        at attempts
      obtain ⟨_, ⟨_, _, bytes, valid, _⟩, _⟩ := attempts
      exact ⟨bytes, valid⟩

/-- The raw digest of a derivation is a digest. -/
theorem rawDigest_of_derived {fuel : Nat}
    (derived : deriveDailySpin crypto fuel serverSeed clientSeed nonce
      configVersionId sessionId bands gameKey protocolVersion algorithm
      mappingVersion = .ok (some derivation)) :
    ∃ digest : Digest, digest.hex = derivation.rawDigestHex := by
  simp only [deriveDailySpin, bind_eq_ok, fairly_eq_ok] at derived
  obtain ⟨_, _, _, _, _, _, _, _, mappingDigest, _, attempts⟩ := derived
  generalize (0 : Nat) = attempt at attempts
  induction fuel generalizing attempt with
  | zero => cases attempts
  | succ fuel ih =>
      simp only [deriveAttempts, bind_eq_ok, fairly_eq_ok] at attempts
      obtain ⟨message, _, attempts⟩ := attempts
      split at attempts
      · obtain ⟨reward, _, built⟩ := bind_eq_ok.mp attempts
        cases built
        exact ⟨_, rfl⟩
      · exact ih (attempt + 1) attempts

/-- The two digests of a derivation are ASCII text. -/
theorem ascii_of_derived {fuel : Nat}
    (derived : deriveDailySpin crypto fuel serverSeed clientSeed nonce
      configVersionId sessionId bands gameKey protocolVersion algorithm
      mappingVersion = .ok (some derivation)) :
    isAscii derivation.mappingDigest = true ∧ isAscii derivation.rawDigestHex = true := by
  obtain ⟨rawDigest, isRawHex⟩ := rawDigest_of_derived derived
  obtain ⟨bytes, _, isMapHex⟩ := bind_eq_ok.mp (mappingDigest_of_derived derived)
  rw [← isRawHex, ← Except.ok.inj isMapHex]
  exact ⟨(crypto.sha256 bytes).isAscii_hex, rawDigest.isAscii_hex⟩

/-- The public proof of a derivation from a committed seed is verified. -/
theorem verifyDailySpinProof_of_derived {fuel other : Nat}
    (derived : deriveDailySpin crypto fuel serverSeed clientSeed nonce
      configVersionId sessionId bands gameKey protocolVersion algorithm
      mappingVersion = .ok (some derivation))
    (reaches : derivation.attempt < other) :
    verifyDailySpinProof crypto other
      { protocolVersion := protocolVersion
        algorithm := algorithm
        serverSeedCommitment := (crypto.sha256 serverSeed).hex
        serverSeedHex := hexOfBytes serverSeed
        clientSeed := clientSeed
        nonce := nonce
        gameKey := gameKey
        configVersionId := configVersionId
        sessionId := sessionId
        rewardBands := bands
        mappingVersion := mappingVersion
        mappingDigest := derivation.mappingDigest
        rawDigestHex := derivation.rawDigestHex
        normalizedValue := derivation.normalizedValue
        attempt := derivation.attempt
        rewardKey := derivation.reward.key
        rewardValue := derivation.reward.value } = .ok (some ⟨true, py "verified"⟩) := by
  have again := deriveDailySpin_more_fuel derived reaches
  obtain ⟨mapAscii, rawAscii⟩ := ascii_of_derived derived
  simp only [deriveDailySpin, bind_eq_ok, fairly_eq_ok] at derived
  rcases derived with ⟨_, seedOk, _, supported, _⟩
  have whole : serverSeed.length = 32 := by
    unfold validateServerSeed at seedOk
    split at seedOk
    · assumption
    · cases seedOk
  have commitment : serverSeedCommitment crypto serverSeed =
      .ok (crypto.sha256 serverSeed).hex := by
    simp only [serverSeedCommitment, seedOk]
    rfl
  have committed := (crypto.sha256 serverSeed).isAscii_hex
  simp [verifyDailySpinProof, compareDerivation, supported, serverSeedFromHex_hex whole,
    commitment, again, compareEvidence_ascii, committed, mapAscii, rawAscii, bind,
    Except.bind, pure, Except.pure]

end Fuel

end RngGamePlatform
