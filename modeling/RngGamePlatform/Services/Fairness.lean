/-
Module: RngGamePlatform.Services.Fairness
Purpose: Commitment and reveal of fairness proofs, and their verification.
Trusted boundary: human-reviewed semantics
Main exports: commitFairness, evaluateFairness, verifyFairnessEventChain,
  retrieveFairnessProof, verifyFairnessProof
-/
import RngGamePlatform.Services.Common

namespace RngGamePlatform

open Encoding Relational Transactions

variable (env : Platform)

def fairnessBands (gameKey : PyStr) (config : GameConfigVersion) :
    Except RulesError (List RewardBand) :=
  fairnessRewardBands env.schema gameKey config

/-- The game and the configuration of a session, which must belong together. -/
def gameAndConfig (error : ServiceError) (gameId configVersionId : Uuid) :
    Prog (Game × GameConfigVersion) := do
  let foundGame ← getGameById gameId
  let foundConfig ← getConfigById configVersionId
  let game ← orRaise error foundGame
  let config ← orRaise error foundConfig
  require error (config.gameId = game.id)
  return (game, config)

/-- The values that a commitment draws: the id of the proof and the seed. -/
structure CommitDraw where
  proofId : Uuid
  seed : { bytes : Bytes // bytes.length = serverSeedBytes }
deriving DecidableEq

/-- The row of a new proof. -/
def newProof (gameSession : GameSession) (game : Game) (config : GameConfigVersion)
    (ownerId proofId : Uuid) (commitment mappingDigest : PyStr) :
    FairnessProof where
  id := proofId
  sessionId := gameSession.id
  playerId := ownerId
  gameId := game.id
  gameKey := game.key
  configVersionId := config.id
  outcomeId := none
  status := .committed
  protocolVersion := protocolVersionV1
  algorithm := algorithmHmacSha256
  serverSeedCommitment := commitment
  nonce := 0
  clientSeed := none
  evaluationFingerprint := none
  mappingVersion := dailySpinMappingVersionV1
  mappingDigest := mappingDigest
  rawRandomValue := none
  normalizedValue := none
  derivationAttempt := none
  rewardKey := none
  rewardValue := none
  evaluatedAt := none
  serverSeedRevealed := none
  revealedAt := none

def commitEvent (proof : FairnessProof) (now : Int) : FairnessProofEvent :=
  let payload := commitEventPayload proof
  { proofId := proof.id
    sequence := 0
    eventType := py "committed"
    evidenceVersion := 2
    payload := payload
    status := .committed
    previousEvidenceHash := none
    evidenceHash := fairnessEventHash env.crypto proof.id 0 (py "committed")
      .committed now none payload
    createdAt := now }

/-- Insert the event of a flush that changes nothing else. -/
def addFairnessProofEvent (event : FairnessProofEvent) : Prog Unit :=
  Program.update (fun _ => [forKeyShare (.proof event.proofId)])
    (Database.insertEvent event)

/-- Insert the proof, the seed and the first event, and commit. -/
def storeCommitment (proof : FairnessProof) (seed : Bytes) (now : Int) :
    Prog FairnessProof := do
  addFairnessProof proof
  addFairnessSeedCustody ⟨proof.id, seed⟩
  addFairnessProofEvent (commitEvent env proof now)
  commitWork
  return proof

/-- The commitment of an active session without a proof. -/
def commitNew (gameSession : GameSession) (game : Game)
    (config : GameConfigVersion) (ownerId : Uuid) (draw : CommitDraw) (now : Int) :
    Prog FairnessProof := do
  let bands ← byRules .invalidPlay (fairnessBands env game.key config)
  let commitment ← byFairness (serverSeedCommitment env.crypto draw.seed.val)
  let mappingDigest ← byFairness (dailySpinMappingDigest env.crypto bands)
  storeCommitment env
    (newProof gameSession game config ownerId draw.proofId commitment mappingDigest)
    draw.seed.val now

/-- The commitment of a session that has not elapsed. -/
def commitLocked (gameSession : GameSession) (ownerId : Uuid) (draw : CommitDraw)
    (now : Int) : Prog FairnessProof := do
  require .invalidTransition (gameSession.status = .active)
  let loaded ← gameAndConfig .invalidPlay gameSession.gameId
    gameSession.configVersionId
  let existing ← lockFairnessProofBySession gameSession.id
  match existing with
  | some existing => do
      commitWork
      return existing
  | none => commitNew env gameSession loaded.1 loaded.2 ownerId draw now

/-- Durably commit a server seed before any daily-spin outcome is evaluated. -/
def commitFairness (sessionId ownerId : Uuid) (draw : CommitDraw) :
    Prog FairnessProof := do
  let found ← lockSession sessionId
  let gameSession ← orRaise .notFound found
  require .forbidden (gameSession.playerId = ownerId)
  let now ← clock
  let finalized ← finalizeExpiredSession env.crypto gameSession now none
  if finalized.1 then do
    commitWork
    raise .sessionExpired
  else commitLocked env finalized.2 ownerId draw now

/-- The values that an evaluation draws, and the attempts that its rejection
loop may take. -/
structure EvaluateDraw where
  outcomeId : Uuid
  rewardId : Uuid
  fuel : Nat
deriving DecidableEq

def evaluationFingerprintOf (proofId : Uuid) (clientSeed : PyStr) : PyStr :=
  requestFingerprint env.crypto (py "evaluate_fairness")
    [(py "proof_id", idText proofId), (py "client_seed", text clientSeed)]

/-- Answer a repeated evaluation of a revealed proof. -/
def replayEvaluation (proof : FairnessProof) (fingerprint : PyStr) :
    Prog (Outcome × Reward × FairnessProof) := do
  require .idempotencyConflict (proof.evaluationFingerprint = some fingerprint)
  let outcomeId ← orRaise .invalidTransition proof.outcomeId
  let foundOutcome ← getOutcome outcomeId
  let foundReward ← lockRewardBySession proof.sessionId
  let outcome ← orRaise .notFound foundOutcome
  let reward ← orRaise .notFound foundReward
  commitWork
  return (outcome, reward, proof)

/-- The accepted outcome of a derivation. -/
def revealedOutcome (gameSession : GameSession) (outcomeId : Uuid)
    (derivation : DailySpinDerivation) : Outcome where
  id := outcomeId
  sessionId := gameSession.id
  playerId := gameSession.playerId
  gameId := gameSession.gameId
  configVersionId := gameSession.configVersionId
  status := .accepted
  result := Json.object
    [(py "reward_key", text derivation.reward.key),
      (py "normalized_value", .int derivation.normalizedValue),
      (py "derivation_digest", text derivation.rawDigestHex)]

/-- The one reward of an outcome. -/
def issuedReward (outcome : Outcome) (rewardId playerId : Uuid) (value : Int) :
    Reward where
  id := rewardId
  outcomeId := some outcome.id
  settlementRecipientId := none
  playerId := playerId
  status := .issued
  value := value
  claimedAt := none

/-- The proof with its revealed evidence. -/
def revealedProof (proof : FairnessProof) (outcomeId : Uuid) (clientSeed : PyStr)
    (fingerprint : PyStr) (derivation : DailySpinDerivation) (seed : Bytes)
    (now : Int) : FairnessProof :=
  { proof with
    outcomeId := some outcomeId
    status := .revealed
    clientSeed := some clientSeed
    evaluationFingerprint := some fingerprint
    rawRandomValue := some derivation.rawDigestHex
    normalizedValue := some derivation.normalizedValue
    derivationAttempt := some derivation.attempt
    rewardKey := some derivation.reward.key
    rewardValue := some derivation.reward.value
    evaluatedAt := some now
    serverSeedRevealed := some (hexOfBytes seed)
    revealedAt := some now }

def revealedEvent (proof : FairnessProof) (previous : FairnessProofEvent)
    (now : Int) : FairnessProofEvent :=
  let payload := revealedEventPayload proof
  { proofId := proof.id
    sequence := 1
    eventType := py "revealed"
    evidenceVersion := 2
    payload := payload
    status := .revealed
    previousEvidenceHash := some previous.evidenceHash
    evidenceHash := fairnessEventHash env.crypto proof.id 1 (py "revealed")
      .revealed now (some previous.evidenceHash) payload
    createdAt := now }

/-- One flush: the proof is updated and its event is inserted. -/
def flushReveal (proof : FairnessProof) (event : FairnessProofEvent)
    (db : Database) : Except ServiceError Database := do
  let db ← Database.updateProof proof db
  Database.insertEvent event db

/-- The last flush of an accepted play: the session is completed and the
evidence of its outcome and reward is inserted. -/
def flushCompletion (gameSession : GameSession) (outcome : Outcome)
    (reward : Reward) (playerId : Uuid) (gameKey : PyStr) (db : Database) :
    Except ServiceError Database := do
  let db ← Database.updateSession gameSession db
  insertEvidence
    [outcomeAudit outcome playerId gameKey,
      rewardAudit reward (py "reward_issued") gameKey]
    [gamePlayedEvent outcome playerId gameKey,
      rewardEvent reward (py "reward_issued") gameKey] db

def completionLocks (gameSession : GameSession) (outcome : Outcome)
    (reward : Reward) (playerId : Uuid) (gameKey : PyStr) : List Lock :=
  forNoKeyUpdate (.session gameSession.id) ::
    (analyticsLocks (gamePlayedEvent outcome playerId gameKey) ++
      analyticsLocks (rewardEvent reward (py "reward_issued") gameKey))

/-- A session completed at `now`. -/
def completed (gameSession : GameSession) (now : Int) : GameSession :=
  { gameSession with status := .completed, endedAt := some now }

/-- Write the completed session and the evidence of its outcome and reward. -/
def completePlay (gameSession : GameSession) (outcome : Outcome) (reward : Reward)
    (playerId : Uuid) (gameKey : PyStr) : Prog Unit :=
  Program.update
    (fun _ => completionLocks gameSession outcome reward playerId gameKey)
    (flushCompletion gameSession outcome reward playerId gameKey)

/-- Write the rows of an accepted derivation, and commit. -/
def storeReveal (gameSession : GameSession) (proof : FairnessProof) (game : Game)
    (seed : Bytes) (ownerId : Uuid) (clientSeed fingerprint : PyStr)
    (draw : EvaluateDraw) (derivation : DailySpinDerivation) (now : Int) :
    Prog (Outcome × Reward × FairnessProof) := do
  let outcome := revealedOutcome gameSession draw.outcomeId derivation
  addOutcome outcome
  let reward := issuedReward outcome draw.rewardId ownerId derivation.reward.value
  addReward reward
  let revealed := revealedProof proof outcome.id clientSeed fingerprint derivation
    seed now
  let found ← lockLatestFairnessProofEvent revealed.id
  let previousEvent ← orRaise .invalidTransition found
  Program.update
    (fun _ => [forNoKeyUpdate (.proof revealed.id), forKeyShare (.proof revealed.id),
      forKeyShare (.outcome outcome.id)])
    (flushReveal revealed (revealedEvent env revealed previousEvent now))
  completePlay (completed gameSession now) outcome reward ownerId game.key
  commitWork
  return (outcome, reward, revealed)

/-- Derive the outcome of a committed proof; refused fairness input is an
invalid play. -/
def evaluationOf (proof : FairnessProof) (seed : Bytes) (bands : List RewardBand)
    (clientSeed : PyStr) (fuel : Nat) : Except ServiceError DailySpinDerivation :=
  match deriveDailySpin env.crypto fuel seed clientSeed proof.nonce
      proof.configVersionId proof.sessionId bands proof.gameKey
      proof.protocolVersion proof.algorithm proof.mappingVersion with
  | .error (.fairness _) => .error .invalidPlay
  | .error .assertionError => .error .assertionError
  | .ok none => .error .unfinished
  | .ok (some derivation) => .ok derivation

/-- Evaluate a committed proof of an active session. -/
def evaluateCommitted (gameSession : GameSession) (proof : FairnessProof)
    (ownerId : Uuid) (clientSeed fingerprint : PyStr) (draw : EvaluateDraw)
    (now : Int) :
    Prog (Outcome × Reward × FairnessProof) := do
  require .invalidTransition
    (proof.status = .committed ∧ gameSession.status = .active)
  let foundGame ← getGameById proof.gameId
  let foundConfig ← getConfigById proof.configVersionId
  let foundCustody ← getFairnessSeedCustody proof.id
  let game ← orRaise .notFound foundGame
  let config ← orRaise .notFound foundConfig
  let custody ← orRaise .notFound foundCustody
  let bands ← byRules .invalidPlay (fairnessBands env game.key config)
  let derivation ← Program.ofExcept
    (evaluationOf env proof custody.serverSeedMaterial bands clientSeed draw.fuel)
  storeReveal env gameSession proof game custody.serverSeedMaterial ownerId
    clientSeed fingerprint draw derivation now

/-- The evaluation under the session lock. -/
def evaluateLocked (gameSession : GameSession) (proof : FairnessProof)
    (ownerId : Uuid) (clientSeed fingerprint : PyStr) (draw : EvaluateDraw) :
    Prog (Outcome × Reward × FairnessProof) :=
  if proof.status = .revealed then
    replayEvaluation proof fingerprint
  else do
    let now ← clock
    let finalized ←
      finalizeExpiredSession env.crypto gameSession now (some proof)
    if finalized.1 then do
      commitWork
      raise .sessionExpired
    else
      evaluateCommitted env finalized.2 proof ownerId clientSeed fingerprint draw
        now

/-- Atomically reveal a committed daily-spin outcome and its one reward
entitlement. -/
def evaluateFairness (proofId ownerId : Uuid) (clientSeed : PyStr)
    (draw : EvaluateDraw) : Prog (Outcome × Reward × FairnessProof) := do
  let visible ← getFairnessProof proofId
  let visibleProof ← orRaise .notFound visible
  require .forbidden (visibleProof.1 = ownerId)
  let foundSession ← lockSession visibleProof.2
  let gameSession ← orRaise .notFound foundSession
  let foundProof ← lockFairnessProof proofId
  let proof ← orRaise .notFound foundProof
  evaluateLocked env gameSession proof ownerId clientSeed
    (evaluationFingerprintOf env proofId clientSeed) draw

/-- Non-null finalized proof evidence for response and verification use. -/
structure RevealedFairnessProof where
  proofId : Uuid
  outcomeId : Uuid
  status : FairnessProofStatus
  protocolVersion : PyStr
  algorithm : PyStr
  serverSeedCommitment : PyStr
  serverSeedRevealed : PyStr
  clientSeed : PyStr
  nonce : Int
  gameKey : PyStr
  sessionId : Uuid
  configVersionId : Uuid
  mappingVersion : PyStr
  mappingDigest : PyStr
  rawRandomValue : PyStr
  normalizedValue : Int
  derivationAttempt : Int
  rewardKey : PyStr
  rewardValue : Int
  evaluatedAt : Int
  revealedAt : Int
deriving DecidableEq

def asRevealedProof (proof : FairnessProof) :
    Except ServiceError RevealedFairnessProof :=
  match proof.outcomeId, proof.serverSeedRevealed, proof.clientSeed,
      proof.rawRandomValue, proof.normalizedValue, proof.derivationAttempt,
      proof.rewardKey, proof.rewardValue, proof.evaluatedAt, proof.revealedAt with
  | some outcomeId, some seed, some clientSeed, some raw, some normalized,
      some attempt, some key, some value, some evaluated, some revealed =>
      if proof.status ≠ .revealed then .error .invalidTransition
      else .ok
        { proofId := proof.id
          outcomeId := outcomeId
          status := proof.status
          protocolVersion := proof.protocolVersion
          algorithm := proof.algorithm
          serverSeedCommitment := proof.serverSeedCommitment
          serverSeedRevealed := seed
          clientSeed := clientSeed
          nonce := proof.nonce
          gameKey := proof.gameKey
          sessionId := proof.sessionId
          configVersionId := proof.configVersionId
          mappingVersion := proof.mappingVersion
          mappingDigest := proof.mappingDigest
          rawRandomValue := raw
          normalizedValue := normalized
          derivationAttempt := attempt
          rewardKey := key
          rewardValue := value
          evaluatedAt := evaluated
          revealedAt := revealed }
  | _, _, _, _, _, _, _, _, _, _ => .error .invalidTransition

/-- The hash that an event of a supported version must carry. -/
def expectedEventHash (event : FairnessProofEvent) :
    Except ServiceError (Option PyStr) :=
  if event.evidenceVersion = 1 then
    match fairnessEventHashV1 env.crypto event.proofId event.sequence event.eventType
        event.status event.createdAt event.previousEvidenceHash with
    | some expected => .ok (some expected)
    | none => .error .unicodeEncodeError
  else if event.evidenceVersion = 2 then
    .ok (some (fairnessEventHash env.crypto event.proofId event.sequence
      event.eventType event.status event.createdAt event.previousEvidenceHash
      event.payload))
  else .ok none

/-- Check sequence, linkage and hash of the events from `sequence` on; the code
of the first failure. -/
def checkEventLinks : (sequence : Nat) → (previous : Option PyStr) →
    List FairnessProofEvent → Except ServiceError (Option PyStr)
  | _, _, [] => .ok none
  | sequence, previous, event :: events =>
      if event.sequence ≠ sequence ∨ event.previousEvidenceHash ≠ previous then
        .ok (some (py "event_chain_link_mismatch"))
      else
        match expectedEventHash env event with
        | .error error => .error error
        | .ok none => .ok (some (py "unsupported_event_version"))
        | .ok (some expected) =>
            if expected ≠ event.evidenceHash then .ok (some (py "event_hash_mismatch"))
            else checkEventLinks (sequence + 1) (some event.evidenceHash) events

/-- Validate ordering, linkage, hashes, and the material proof snapshot. -/
def verifyFairnessEventChain (proof : FairnessProof)
    (events : List FairnessProofEvent) : Except ServiceError (Bool × PyStr) :=
  match events.head?, events.getLast? with
  | some first, some final =>
      match checkEventLinks env 0 none events with
      | .error error => .error error
      | .ok (some code) => .ok (false, code)
      | .ok none =>
          if first.evidenceVersion = 2 ∧
              ¬first.payload.Same (commitEventPayload proof) then
            .ok (false, py "commit_payload_mismatch")
          else if proof.status = .revealed ∧ final.status ≠ .revealed then
            .ok (false, py "event_terminal_state_mismatch")
          else if proof.status = .revealed ∧ final.evidenceVersion = 2 ∧
              ¬final.payload.Same (revealedEventPayload proof) then
            .ok (false, py "revealed_payload_mismatch")
          else .ok (true, py "verified")
  | _, _ => .ok (false, py "event_chain_missing")

/-- Load an outcome through its authoritative owner-bound session. -/
def ownedOutcome (outcomeId ownerId : Uuid) : Prog (Outcome × GameSession) := do
  let foundOutcome ← getOutcome outcomeId
  let outcome ← orRaise .notFound foundOutcome
  let foundSession ← getSession outcome.sessionId
  let gameSession ← orRaise .notFound foundSession
  require .forbidden (gameSession.playerId = ownerId)
  return (outcome, gameSession)

/-- Immutable finalized proof evidence owned by the requesting player. -/
def retrieveFairnessProof (outcomeId ownerId : Uuid) :
    Prog (RevealedFairnessProof × List RewardBand) := do
  let owned ← ownedOutcome outcomeId ownerId
  let foundProof ← getFairnessProofByOutcome owned.1.id
  let proof ← orRaise .notFound foundProof
  let revealed ← Program.ofExcept (asRevealedProof proof)
  let foundConfig ← getConfigById proof.configVersionId
  let config ← orRaise .notFound foundConfig
  let bands ← byRules .invalidPlay (fairnessBands env proof.gameKey config)
  return (revealed, bands)

/-- The public proof of revealed evidence. -/
def publicProof (proof : RevealedFairnessProof) (bands : List RewardBand) :
    DailySpinProof where
  protocolVersion := proof.protocolVersion
  algorithm := proof.algorithm
  serverSeedCommitment := proof.serverSeedCommitment
  serverSeedHex := proof.serverSeedRevealed
  clientSeed := proof.clientSeed
  nonce := proof.nonce
  gameKey := proof.gameKey
  configVersionId := proof.configVersionId
  sessionId := proof.sessionId
  rewardBands := bands
  mappingVersion := proof.mappingVersion
  mappingDigest := proof.mappingDigest
  rawDigestHex := proof.rawRandomValue
  normalizedValue := proof.normalizedValue
  attempt := proof.derivationAttempt
  rewardKey := proof.rewardKey
  rewardValue := proof.rewardValue

/-- The recalculated verdict of public evidence, within `fuel` attempts. -/
def verdictOf (fuel : Nat) (proof : DailySpinProof) : Except ServiceError VerificationResult :=
  match verifyDailySpinProof env.crypto fuel proof with
  | .error .typeError => .error .typeError
  | .error .assertionError => .error .assertionError
  | .ok none => .error .unfinished
  | .ok (some result) => .ok result

/-- Recalculate proof derivation and validate its append-only lifecycle chain;
the recalculation may take `fuel` attempts. -/
def verifyFairnessProof (fuel : Nat) (outcomeId ownerId : Uuid) :
    Prog (RevealedFairnessProof × List RewardBand × PyStr × Bool) := do
  let proofModel ← getFairnessProofByOutcome outcomeId
  let retrieved ← retrieveFairnessProof env outcomeId ownerId
  let proofModel ← orRaise .notFound proofModel
  let result ← Program.ofExcept (verdictOf env fuel (publicProof retrieved.1 retrieved.2))
  if ¬result.verified then return (retrieved.1, retrieved.2, result.code, false)
  else do
    let events ← listFairnessProofEvents retrieved.1.proofId
    let chain ← Program.ofExcept (verifyFairnessEventChain env proofModel events)
    return (retrieved.1, retrieved.2, chain.2, chain.1)

end RngGamePlatform
