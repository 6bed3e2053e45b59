/-
Module: RngGamePlatform.Database
Purpose: The tables, their row locks, and the statements that change them under
  their constraints and triggers.
Trusted boundary: human-reviewed semantics
Main exports: Database, Target, LockMode, Lock, Lock.conflicts, checked,
  insertSession, updateSession, insertProof, updateProof, insertCustody,
  deleteCustody, insertEvent, insertOutcome, insertReward, updateReward,
  insertScore, insertRun, updateRun, insertRecipient, insertAudit, insertAnalytics
-/
import RngGamePlatform.Models
import RngGamePlatform.Relational.Table

namespace RngGamePlatform

open Encoding Relational

/-- The committed tables. -/
structure Database where
  players : List Player
  games : List Game
  configs : List GameConfigVersion
  sessions : List GameSession
  proofs : List FairnessProof
  custodies : List FairnessSeedCustody
  events : List FairnessProofEvent
  outcomes : List Outcome
  rewards : List Reward
  scores : List FinalScore
  revisions : List LeaderboardProjectionRevision
  tierConfigs : List RewardTierConfig
  runs : List SettlementRun
  recipients : List SettlementRecipient
  audits : List AuditRecord
  analytics : List AnalyticsEvent
deriving DecidableEq

/-- What a lock protects: a row by its key, or an advisory key. -/
inductive Target where
  | advisory (key : Int)
  | player (id : Uuid)
  | game (id : Uuid)
  | config (id : Uuid)
  | session (id : Uuid)
  | proof (id : Uuid)
  | event (proofId : Uuid) (sequence : Nat)
  | outcome (id : Uuid)
  | reward (id : Uuid)
  | score (id : Uuid)
  | revision (gameId : Uuid) (periodStart : Int)
  | analytics (eventKey : PyStr)
  | run (id : Uuid)
  | recipient (id : Uuid)
deriving DecidableEq

/-- Row-lock modes.  An inserted row and an advisory lock count as `forUpdate`;
an `UPDATE` takes `forNoKeyUpdate`, the check of a foreign key `forKeyShare` on
the row it refers to. -/
inductive LockMode where
  | forUpdate
  | forNoKeyUpdate
  | forKeyShare
deriving DecidableEq, Repr

structure Lock where
  target : Target
  mode : LockMode
deriving DecidableEq

/-- Whether two modes exclude each other on one row. -/
def LockMode.excludes : LockMode → LockMode → Bool
  | .forUpdate, _ => true
  | _, .forUpdate => true
  | .forNoKeyUpdate, .forNoKeyUpdate => true
  | _, _ => false

/-- Whether two transactions cannot hold both locks. -/
def Lock.conflicts (one other : Lock) : Bool :=
  one.target = other.target && one.mode.excludes other.mode

theorem Lock.conflicts_symm (one other : Lock) :
    one.conflicts other = other.conflicts one := by
  have modes : one.mode.excludes other.mode = other.mode.excludes one.mode := by
    cases one.mode <;> cases other.mode <;> rfl
  simp [Lock.conflicts, modes, eq_comm]

namespace Database

/-- Refuse a change with the first constraint that fails. -/
def checked (checks : List (Constraint × Bool)) (changed : Database) :
    Except ServiceError Database :=
  match checks.find? fun check => !check.2 with
  | some check => .error (.integrity check.1)
  | none => .ok changed

theorem checked_eq_ok {checks : List (Constraint × Bool)}
    {changed result : Database} :
    checked checks changed = .ok result ↔
      (∀ check ∈ checks, check.2 = true) ∧ changed = result := by
  unfold checked
  cases found : checks.find? fun check => !check.2 with
  | some check =>
      have member := List.mem_of_find?_eq_some found
      have fails := List.find?_some found
      simp only [reduceCtorEq, false_iff, not_and]
      intro all
      simp [all check member] at fails
  | none =>
      rw [List.find?_eq_none] at found
      simp only [Except.ok.injEq, iff_and_self]
      intro _ check member
      simpa using found check member

/-- A failed check names a constraint of the list. -/
theorem checked_eq_error {checks : List (Constraint × Bool)} {changed : Database}
    {error : ServiceError} (fails : checked checks changed = .error error) :
    ∃ violated, (violated, false) ∈ checks ∧ error = .integrity violated := by
  unfold checked at fails
  cases found : checks.find? fun check => !check.2 with
  | none => simp [found] at fails
  | some check =>
      have member := List.mem_of_find?_eq_some found
      have isFalse := List.find?_some found
      rcases check with ⟨violated, holds⟩
      simp only [Bool.not_eq_true'] at isFalse
      subst isFalse
      simp only [found, Except.error.injEq] at fails
      exact ⟨violated, member, fails.symm⟩

/-- 64 lowercase hexadecimal digits. -/
def isHex64 (text : PyStr) : Bool := text.length = 64 ∧ IsHex text

/-- `ck_session_terminal_ended_at`. -/
def sessionEnded (row : GameSession) : Bool :=
  (row.status = .active ∧ row.endedAt = none) ∨
    (row.status ≠ .active ∧ row.endedAt ≠ none)

/-- Another active session of the same player and game. -/
def activeElsewhere (row : GameSession) (rows : List GameSession) : Bool :=
  rows.any fun other =>
    other.id ≠ row.id ∧ other.playerId = row.playerId ∧
      other.gameId = row.gameId ∧ other.status = .active

def insertSession (row : GameSession) (db : Database) :
    Except ServiceError Database :=
  checked
    [(.primaryKey, (lookup GameSession.id row.id db.sessions).isNone),
      (.uqSessionRequest,
        (lookup GameSession.requestId row.requestId db.sessions).isNone),
      (.uqActiveSessionPlayerGame,
        !(row.status = .active && activeElsewhere row db.sessions)),
      (.ckSessionTerminalEndedAt, sessionEnded row),
      (.ckSessionRequestFingerprintHex, isHex64 row.requestFingerprint)]
    { db with sessions := db.sessions ++ [row] }

def updateSession (row : GameSession) (db : Database) :
    Except ServiceError Database :=
  checked
    [(.uqActiveSessionPlayerGame,
        !(row.status = .active && activeElsewhere row db.sessions)),
      (.ckSessionTerminalEndedAt, sessionEnded row)]
    { db with sessions := replace GameSession.id row db.sessions }

/-- The check constraints of one proof row. -/
def proofChecks (row : FairnessProof) : List (Constraint × Bool) :=
  [(.ckFairnessProofNonnegative,
      0 ≤ row.nonce ∧ 0 ≤ row.normalizedValue.getD 0 ∧
        0 ≤ row.derivationAttempt.getD 0 ∧ 0 ≤ row.rewardValue.getD 0),
    (.ckFairnessProofHex,
      isHex64 row.serverSeedCommitment ∧ isHex64 row.mappingDigest ∧
        row.rawRandomValue.all isHex64 ∧ row.serverSeedRevealed.all isHex64 ∧
        row.evaluationFingerprint.all isHex64),
    (.ckFairnessProofLifecycleEvidence, row.LifecycleEvidence)]

def insertProof (row : FairnessProof) (db : Database) :
    Except ServiceError Database :=
  checked
    ((.primaryKey, (lookup FairnessProof.id row.id db.proofs).isNone) ::
      (.uqFairnessProofSession,
        (lookup FairnessProof.sessionId row.sessionId db.proofs).isNone) ::
      proofChecks row)
    { db with proofs := db.proofs ++ [row] }

/-- The `protect_finalized_fairness_proof` trigger on an update. -/
def protectFinalizedFairnessProof (old new : FairnessProof) : Bool :=
  old.status = .committed ∧
    (new.status = .revealed ∨ new.status = .expired ∨ new.status = .cancelled)

/-- `UPDATE fairness_proofs`; the services update only rows they have locked. -/
def updateProof (row : FairnessProof) (db : Database) :
    Except ServiceError Database :=
  checked
    ((.fairnessProofsFinalizedImmutable,
        (lookup FairnessProof.id row.id db.proofs).all fun old =>
          protectFinalizedFairnessProof old row) ::
      (.uqFairnessProofOutcome,
        row.outcomeId.all fun outcome =>
          db.proofs.all fun other =>
            other.id = row.id ∨ other.outcomeId ≠ some outcome) ::
      proofChecks row)
    { db with proofs := replace FairnessProof.id row db.proofs }

def insertCustody (row : FairnessSeedCustody) (db : Database) :
    Except ServiceError Database :=
  checked
    [(.uqFairnessSeedCustodyProof,
        (lookup FairnessSeedCustody.proofId row.proofId db.custodies).isNone),
      (.ckFairnessSeedCustodyMaterialLength, row.serverSeedMaterial.length = 32)]
    { db with custodies := db.custodies ++ [row] }

def deleteCustody (proofId : Uuid) (db : Database) : Database :=
  { db with custodies := remove FairnessSeedCustody.proofId proofId db.custodies }

def insertEvent (row : FairnessProofEvent) (db : Database) :
    Except ServiceError Database :=
  checked
    [(.uqFairnessProofEventSequence,
        db.events.all fun other =>
          other.proofId ≠ row.proofId ∨ other.sequence ≠ row.sequence),
      (.ckFairnessProofEventHash,
        ((row.sequence = 0 ∧ row.previousEvidenceHash = none) ∨
            (0 < row.sequence ∧ row.previousEvidenceHash.any isHex64)) ∧
          isHex64 row.evidenceHash)]
    { db with events := db.events ++ [row] }

def insertOutcome (row : Outcome) (db : Database) : Except ServiceError Database :=
  checked
    [(.primaryKey, (lookup Outcome.id row.id db.outcomes).isNone),
      (.uqOutcomesSession,
        (lookup Outcome.sessionId row.sessionId db.outcomes).isNone)]
    { db with outcomes := db.outcomes ++ [row] }

/-- The range of the `INTEGER` columns. -/
def fitsInteger (value : Int) : Bool := -2 ^ 31 ≤ value ∧ value < 2 ^ 31

def insertReward (row : Reward) (db : Database) : Except ServiceError Database :=
  checked
    [(.integerOutOfRange, fitsInteger row.value),
      (.primaryKey, (lookup Reward.id row.id db.rewards).isNone),
      (.rewardsOutcomeIdKey,
        row.outcomeId = none ∨
          (lookup Reward.outcomeId row.outcomeId db.rewards).isNone),
      (.uqRewardsSettlementRecipient,
        row.settlementRecipientId = none ∨
          (lookup Reward.settlementRecipientId row.settlementRecipientId
            db.rewards).isNone),
      (.ckRewardValue, 0 ≤ row.value)]
    { db with rewards := db.rewards ++ [row] }

def updateReward (row : Reward) (db : Database) : Except ServiceError Database :=
  .ok { db with rewards := replace Reward.id row db.rewards }

/-- The revision rows after `advance_leaderboard_projection_revision` for one
inserted score. -/
def advanceRevision (gameId : Uuid) (periodStart : Int) :
    List LeaderboardProjectionRevision → List LeaderboardProjectionRevision
  | [] => [⟨gameId, periodStart, 1⟩]
  | row :: rows =>
      if row.gameId = gameId ∧ row.periodStart = periodStart then
        { row with revision := row.revision + 1 } :: rows
      else row :: advanceRevision gameId periodStart rows

/-- `INSERT INTO final_scores` with its trigger. -/
def insertScore (row : FinalScore) (db : Database) :
    Except ServiceError Database :=
  checked
    [(.primaryKey, (lookup FinalScore.id row.id db.scores).isNone),
      (.uqFinalScoresSession,
        (lookup FinalScore.sessionId row.sessionId db.scores).isNone),
      (.ckFinalScoresScore, 0 ≤ row.finalScore ∧ row.finalScore ≤ 1000000)]
    { db with
      scores := db.scores ++ [row]
      revisions := advanceRevision row.gameId row.periodStart db.revisions }

/-- The run of a game and period. -/
def runOf (gameId : Uuid) (periodStart : Int) (db : Database) :
    Option SettlementRun :=
  db.runs.find? fun row => row.gameId = gameId ∧ row.periodStart = periodStart

def insertRun (row : SettlementRun) (db : Database) : Except ServiceError Database :=
  checked
    [(.primaryKey, (lookup SettlementRun.id row.id db.runs).isNone),
      (.uqSettlementGamePeriod, (runOf row.gameId row.periodStart db).isNone),
      (.ckSettlementPeriod, row.periodEnd = row.periodStart + days 7)]
    { db with runs := db.runs ++ [row] }

/-- The services update only a run they have read under the lock of its game. -/
def updateRun (row : SettlementRun) (db : Database) : Except ServiceError Database :=
  checked [(.ckSettlementPeriod, row.periodEnd = row.periodStart + days 7)]
    { db with runs := replace SettlementRun.id row db.runs }

def insertRecipient (row : SettlementRecipient) (db : Database) :
    Except ServiceError Database :=
  checked
    [(.integerOutOfRange, fitsInteger row.rank ∧ fitsInteger row.rewardValue),
      (.stringTooLong, row.tierKey.length ≤ 40),
      (.primaryKey, (lookup SettlementRecipient.id row.id db.recipients).isNone),
      (.uqSettlementRecipientPlayer,
        db.recipients.all fun other =>
          other.runId ≠ row.runId ∨ other.playerId ≠ row.playerId),
      (.uqSettlementRecipientRank,
        db.recipients.all fun other =>
          other.runId ≠ row.runId ∨ other.rank ≠ row.rank),
      (.ckSettlementRecipient, 0 < row.rank ∧ 0 ≤ row.rewardValue)]
    { db with recipients := db.recipients ++ [row] }

def insertAudit (row : AuditRecord) (db : Database) : Database :=
  { db with audits := db.audits ++ [row] }

def insertAnalytics (row : AnalyticsEvent) (db : Database) :
    Except ServiceError Database :=
  checked
    [(.analyticsEventKey,
        (lookup AnalyticsEvent.eventKey row.eventKey db.analytics).isNone)]
    { db with analytics := db.analytics ++ [row] }

end Database

end RngGamePlatform
