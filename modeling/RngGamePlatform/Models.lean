/-
Module: RngGamePlatform.Models
Purpose: The rows of the server-authoritative domain and its failures.
Trusted boundary: human-reviewed semantics
Main exports: Player, Game, GameConfigVersion, GameSession, Outcome, Reward,
  FinalScore, FairnessProof, FairnessSeedCustody, FairnessProofEvent,
  Constraint, ServiceError
-/
import RngGamePlatform.Encoding.Json
import RngGamePlatform.Encoding.Time

namespace RngGamePlatform

open Encoding

/-!
Rows carry the columns that the services read or write.  Instants are
microseconds since the epoch, in UTC.
-/

inductive PlayerStatus where
  | active
  | inactive
deriving DecidableEq, Repr

inductive ConfigStatus where
  | draft
  | published
  | retired
deriving DecidableEq, Repr

inductive SessionStatus where
  | active
  | completed
  | expired
  | cancelled
deriving DecidableEq, Repr

inductive OutcomeStatus where
  | accepted
  | rejected
deriving DecidableEq, Repr

inductive RewardStatus where
  | issued
  | claimed
  | expired
deriving DecidableEq, Repr

inductive SettlementStatus where
  | processing
  | completed
deriving DecidableEq, Repr

/-- Durable lifecycle states for a protocol-versioned fairness proof. -/
inductive FairnessProofStatus where
  | committed
  | revealed
  | expired
  | cancelled
deriving DecidableEq, Repr

/-- The stored text of a proof status. -/
def FairnessProofStatus.value : FairnessProofStatus → PyStr
  | .committed => py "committed"
  | .revealed => py "revealed"
  | .expired => py "expired"
  | .cancelled => py "cancelled"

/-- The stored text of a reward status. -/
def RewardStatus.value : RewardStatus → PyStr
  | .issued => py "issued"
  | .claimed => py "claimed"
  | .expired => py "expired"

structure Player where
  id : Uuid
  status : PlayerStatus
deriving DecidableEq

structure Game where
  id : Uuid
  key : PyStr
  isActive : Bool
deriving DecidableEq

structure GameConfigVersion where
  id : Uuid
  gameId : Uuid
  version : Int
  status : ConfigStatus
  payload : Json
  publishedAt : Option Int
deriving DecidableEq

structure GameSession where
  id : Uuid
  createdAt : Int
  playerId : Uuid
  gameId : Uuid
  configVersionId : Uuid
  requestId : Uuid
  requestFingerprint : PyStr
  status : SessionStatus
  expiresAt : Int
  endedAt : Option Int
  challenge : Json
deriving DecidableEq

structure Outcome where
  id : Uuid
  sessionId : Uuid
  playerId : Uuid
  gameId : Uuid
  configVersionId : Uuid
  status : OutcomeStatus
  result : Json
deriving DecidableEq

structure Reward where
  id : Uuid
  outcomeId : Option Uuid
  settlementRecipientId : Option Uuid
  playerId : Uuid
  status : RewardStatus
  value : Int
  claimedAt : Option Int
deriving DecidableEq

/-- One immutable server-derived leaderboard score for a completed session. -/
structure FinalScore where
  id : Uuid
  playerId : Uuid
  gameId : Uuid
  sessionId : Uuid
  outcomeId : Uuid
  configVersionId : Uuid
  periodStart : Int
  completedAt : Int
  finalScore : Int
deriving DecidableEq

/-- Watermark of one game period. -/
structure LeaderboardProjectionRevision where
  gameId : Uuid
  periodStart : Int
  revision : Nat
deriving DecidableEq

structure RewardTierConfig where
  id : Uuid
  gameId : Uuid
  version : Int
  payload : Json
  publishedAt : Int
deriving DecidableEq

/-- One idempotent settlement of a closed game period. -/
structure SettlementRun where
  id : Uuid
  gameId : Uuid
  periodStart : Int
  periodEnd : Int
  tierConfigId : Uuid
  tierSnapshot : Json
  status : SettlementStatus
  completedAt : Option Int
deriving DecidableEq

structure SettlementRecipient where
  id : Uuid
  runId : Uuid
  playerId : Uuid
  scoreId : Uuid
  gameId : Uuid
  periodStart : Int
  rank : Nat
  tierKey : PyStr
  rewardValue : Int
deriving DecidableEq

structure AuditRecord where
  eventType : PyStr
  entityType : PyStr
  entityId : Uuid
  evidence : Json
deriving DecidableEq

structure AnalyticsEvent where
  eventKey : PyStr
  eventType : PyStr
  playerId : Option Uuid
  payload : Json
deriving DecidableEq

/-- Publicly verifiable fairness evidence, excluding an unrevealed seed. -/
structure FairnessProof where
  id : Uuid
  sessionId : Uuid
  playerId : Uuid
  gameId : Uuid
  gameKey : PyStr
  configVersionId : Uuid
  outcomeId : Option Uuid
  status : FairnessProofStatus
  protocolVersion : PyStr
  algorithm : PyStr
  serverSeedCommitment : PyStr
  nonce : Int
  clientSeed : Option PyStr
  evaluationFingerprint : Option PyStr
  mappingVersion : PyStr
  mappingDigest : PyStr
  rawRandomValue : Option PyStr
  normalizedValue : Option Int
  derivationAttempt : Option Int
  rewardKey : Option PyStr
  rewardValue : Option Int
  evaluatedAt : Option Int
  serverSeedRevealed : Option PyStr
  revealedAt : Option Int
deriving DecidableEq

/-- Restricted unrevealed seed material. -/
structure FairnessSeedCustody where
  proofId : Uuid
  serverSeedMaterial : Bytes
deriving DecidableEq

/-- Append-only, hash-chained evidence for a fairness-proof lifecycle change. -/
structure FairnessProofEvent where
  proofId : Uuid
  sequence : Nat
  eventType : PyStr
  evidenceVersion : Nat
  payload : Json
  status : FairnessProofStatus
  previousEvidenceHash : Option PyStr
  evidenceHash : PyStr
  createdAt : Int
deriving DecidableEq

/-- A proof moved to another lifecycle state. -/
def FairnessProof.withStatus (proof : FairnessProof) (status : FairnessProofStatus) :
    FairnessProof :=
  { proof with status := status }

/-- The revealed-evidence columns of a proof are all absent. -/
def FairnessProof.Unrevealed (proof : FairnessProof) : Prop :=
  proof.outcomeId = none ∧ proof.clientSeed = none ∧
    proof.evaluationFingerprint = none ∧ proof.rawRandomValue = none ∧
    proof.normalizedValue = none ∧ proof.derivationAttempt = none ∧
    proof.rewardKey = none ∧ proof.rewardValue = none ∧
    proof.evaluatedAt = none ∧ proof.serverSeedRevealed = none ∧
    proof.revealedAt = none

/-- The revealed-evidence columns of a proof are all present. -/
def FairnessProof.FullyRevealed (proof : FairnessProof) : Prop :=
  proof.outcomeId ≠ none ∧ proof.clientSeed ≠ none ∧
    proof.evaluationFingerprint ≠ none ∧ proof.rawRandomValue ≠ none ∧
    proof.normalizedValue ≠ none ∧ proof.derivationAttempt ≠ none ∧
    proof.rewardKey ≠ none ∧ proof.rewardValue ≠ none ∧
    proof.evaluatedAt ≠ none ∧ proof.serverSeedRevealed ≠ none ∧
    proof.revealedAt ≠ none

/-- `ck_fairness_proof_lifecycle_evidence`. -/
def FairnessProof.LifecycleEvidence (proof : FairnessProof) : Prop :=
  if proof.status = .revealed then proof.FullyRevealed else proof.Unrevealed

instance (proof : FairnessProof) : Decidable proof.Unrevealed := by
  unfold FairnessProof.Unrevealed
  infer_instance

instance (proof : FairnessProof) : Decidable proof.FullyRevealed := by
  unfold FairnessProof.FullyRevealed
  infer_instance

instance (proof : FairnessProof) : Decidable proof.LifecycleEvidence := by
  unfold FairnessProof.LifecycleEvidence
  infer_instance

/-- The constraints and triggers of the tables. -/
inductive Constraint where
  | primaryKey
  | uqSessionRequest
  | uqActiveSessionPlayerGame
  | ckSessionTerminalEndedAt
  | ckSessionRequestFingerprintHex
  | uqFairnessProofSession
  | uqFairnessProofOutcome
  | ckFairnessProofHex
  | ckFairnessProofNonnegative
  | ckFairnessProofLifecycleEvidence
  | fairnessProofsFinalizedImmutable
  | uqFairnessSeedCustodyProof
  | ckFairnessSeedCustodyMaterialLength
  | uqFairnessProofEventSequence
  | ckFairnessProofEventHash
  | uqOutcomesSession
  | rewardsOutcomeIdKey
  | uqRewardsSettlementRecipient
  | ckRewardValue
  | integerOutOfRange
  | uqFinalScoresSession
  | ckFinalScoresScore
  | analyticsEventKey
  | uqSettlementGamePeriod
  | ckSettlementPeriod
  | uqSettlementRecipientPlayer
  | uqSettlementRecipientRank
  | ckSettlementRecipient
  | stringTooLong
deriving DecidableEq, Repr

/-- Failures of the version-1 fairness protocol. -/
inductive FairnessError where
  | invalidFairnessInput
  | unsupportedFairnessVersion
  | invalidFairnessSeed
  | invalidFairnessNonce
  | invalidRewardMapping
deriving DecidableEq, Repr

def FairnessError.code : FairnessError → PyStr
  | .invalidFairnessInput => py "invalid_fairness_input"
  | .unsupportedFairnessVersion => py "unsupported_fairness_version"
  | .invalidFairnessSeed => py "invalid_fairness_seed"
  | .invalidFairnessNonce => py "invalid_fairness_nonce"
  | .invalidRewardMapping => py "invalid_reward_mapping"

/-- What a service call can end with instead of a result. -/
inductive ServiceError where
  | invalidTransition
  | notFound
  | forbidden
  | inactiveGame
  | inactivePlayer
  | cooldown
  | activeSession
  | invalidPlay
  | dailySpinFairnessRequired
  | idempotencyConflict
  | sessionExpired
  | rewardUnavailable
  | leaderboardGameIneligible
  | leaderboardPeriodClosed
  | leaderboardPeriodOpen
  | leaderboardEntryNotFound
  | settlementForbidden
  /-- The database rejects a statement. -/
  | integrity (violated : Constraint)
  /-- A fairness failure that no handler translates. -/
  | fairness (error : FairnessError)
  /-- A configuration payload does not pass its schema. -/
  | validation
  | zeroDivision
  | indexError
  /-- A key is asked of a JSON value that is no object. -/
  | attributeError
  /-- A text to be hashed has a character outside ASCII. -/
  | unicodeEncodeError
  /-- A text to be compared with a digest has a character outside ASCII. -/
  | typeError
  /-- The selection of a reward ends without a band. -/
  | assertionError
  /-- The rejection loop has not ended within the given number of attempts. -/
  | unfinished
deriving DecidableEq, Repr

end RngGamePlatform
