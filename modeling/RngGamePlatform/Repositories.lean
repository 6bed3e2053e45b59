/-
Module: RngGamePlatform.Repositories
Purpose: The database queries of the services and the locks they take.
Trusted boundary: human-reviewed semantics
Main exports: Prog, lockPlayer, lockSession, lockSessionRequestId,
  lockExpiredActiveSessions, latestSession, lockFairnessProofBySession,
  lockRewardBySession, addSession, addOutcome, addReward, addFinalScore,
  settlementRecipients, addSettlementRecipient, addSettlementReward
-/
import RngGamePlatform.Database
import RngGamePlatform.Relational.Ordering
import RngGamePlatform.Transactions.Program

namespace RngGamePlatform

open Encoding Relational Transactions

/-- A transaction program over the tables; clock readings are instants. -/
abbrev Prog (ρ : Type) := Program Database Lock Int ServiceError ρ

def forUpdate (target : Target) : Lock := ⟨target, .forUpdate⟩
def forNoKeyUpdate (target : Target) : Lock := ⟨target, .forNoKeyUpdate⟩
def forKeyShare (target : Target) : Lock := ⟨target, .forKeyShare⟩

/-- A query without locks. -/
def read {α : Type} (answer : Database → α) : Prog α :=
  Program.query (fun _ => []) answer

/-- A query of one row with `FOR UPDATE` on it. -/
def readForUpdate {ρ : Type} (target : ρ → Target) (answer : Database → Option ρ) :
    Prog (Option ρ) :=
  Program.query
    (fun db => (answer db).toList.map fun row => forUpdate (target row)) answer

section Players

def playerById (id : Uuid) (db : Database) : Option Player :=
  lookup Player.id id db.players

def getPlayer (id : Uuid) : Prog (Option Player) := read (playerById id)

def lockPlayer (id : Uuid) : Prog (Option Player) :=
  readForUpdate (fun row => .player row.id) (playerById id)

end Players

section Games

def getGame (key : PyStr) : Prog (Option Game) :=
  read fun db => lookup Game.key key db.games

def gameById (id : Uuid) (db : Database) : Option Game := lookup Game.id id db.games

def getGameById (id : Uuid) : Prog (Option Game) := read (gameById id)

def lockGameById (id : Uuid) : Prog (Option Game) :=
  readForUpdate (fun row => .game row.id) (gameById id)

def configById (id : Uuid) (db : Database) : Option GameConfigVersion :=
  lookup GameConfigVersion.id id db.configs

def getConfigById (id : Uuid) : Prog (Option GameConfigVersion) :=
  read (configById id)

/-- The row of the highest version. -/
def highestVersion : List GameConfigVersion → Option GameConfigVersion
  | [] => none
  | row :: rows =>
      match highestVersion rows with
      | none => some row
      | some best => if row.version < best.version then some best else some row

def getActiveConfig (gameId : Uuid) : Prog (Option GameConfigVersion) :=
  read fun db => highestVersion (db.configs.filter fun row =>
    row.gameId = gameId ∧ row.status = .published)

end Games

section Sessions

def sessionById (id : Uuid) (db : Database) : Option GameSession :=
  lookup GameSession.id id db.sessions

def sessionByRequest (requestId : Uuid) (db : Database) : Option GameSession :=
  lookup GameSession.requestId requestId db.sessions

def getSessionByRequest (requestId : Uuid) : Prog (Option GameSession) :=
  read (sessionByRequest requestId)

/-- The first eight bytes of a request id as a signed integer. -/
def requestLockKey (requestId : Uuid) : Int := (requestId.extractLsb' 64 64).toInt

/-- Serialize globally scoped session idempotency keys across players. -/
def lockSessionRequestId (requestId : Uuid) : Prog Unit :=
  Program.query (fun _ => [forUpdate (.advisory (requestLockKey requestId))])
    fun _ => ()

/-- A session that is active although its deadline has passed. -/
def elapsed (playerId gameId : Uuid) (now : Int) (row : GameSession) : Bool :=
  row.playerId = playerId ∧ row.gameId = gameId ∧ row.status = .active ∧
    row.expiresAt ≤ now

def elapsedSessions (playerId gameId : Uuid) (now : Int) (db : Database) :
    List GameSession :=
  db.sessions.filter (elapsed playerId gameId now)

/-- Lock elapsed active sessions so that services can finalize them. -/
def lockExpiredActiveSessions (playerId gameId : Uuid) (now : Int) :
    Prog (List GameSession) :=
  Program.query
    (fun db => (elapsedSessions playerId gameId now db).map fun row =>
      forUpdate (.session row.id))
    (elapsedSessions playerId gameId now)

/-- The order by creation instant and then id. -/
def newer (one other : GameSession) : Bool :=
  other.createdAt < one.createdAt ∨
    other.createdAt = one.createdAt ∧ other.id < one.id

/-- The newest row. -/
def newest : List GameSession → Option GameSession
  | [] => none
  | row :: rows =>
      match newest rows with
      | none => some row
      | some best => if newer best row then some best else some row

def ofPlayerAndGame (playerId gameId : Uuid) (row : GameSession) : Bool :=
  row.playerId = playerId ∧ row.gameId = gameId

def latestSessionRow (playerId gameId : Uuid) (db : Database) :
    Option GameSession :=
  newest (db.sessions.filter (ofPlayerAndGame playerId gameId))

def latestSession (playerId gameId : Uuid) : Prog (Option GameSession) :=
  read (latestSessionRow playerId gameId)

def getSession (id : Uuid) : Prog (Option GameSession) := read (sessionById id)

def lockSession (id : Uuid) : Prog (Option GameSession) :=
  readForUpdate (fun row => .session row.id) (sessionById id)

/-- `INSERT INTO game_sessions`; refreshing the new row reads nothing else. -/
def addSession (row : GameSession) : Prog Unit :=
  Program.update
    (fun _ => [forUpdate (.session row.id), forKeyShare (.player row.playerId),
      forKeyShare (.config row.configVersionId)])
    (Database.insertSession row)

end Sessions

section Outcomes

def outcomeBySession (sessionId : Uuid) (db : Database) : Option Outcome :=
  lookup Outcome.sessionId sessionId db.outcomes

def getOutcomeBySession (sessionId : Uuid) : Prog (Option Outcome) :=
  read (outcomeBySession sessionId)

def outcomeById (id : Uuid) (db : Database) : Option Outcome :=
  lookup Outcome.id id db.outcomes

def getOutcome (id : Uuid) : Prog (Option Outcome) := read (outcomeById id)

def addOutcome (row : Outcome) : Prog Unit :=
  Program.update
    (fun _ => [forUpdate (.outcome row.id), forKeyShare (.session row.sessionId)])
    (Database.insertOutcome row)

def rewardByOutcome (outcomeId : Uuid) (db : Database) : Option Reward :=
  lookup Reward.outcomeId (some outcomeId) db.rewards

/-- The reward joined with the outcome of a session. -/
def rewardBySession (sessionId : Uuid) (db : Database) :
    Option (Outcome × Reward) := do
  let outcome ← outcomeBySession sessionId db
  let reward ← rewardByOutcome outcome.id db
  return (outcome, reward)

/-- Load the reward of a session without taking a write lock. -/
def getRewardBySession (sessionId : Uuid) : Prog (Option Reward) :=
  read fun db => (rewardBySession sessionId db).map Prod.snd

/-- `FOR UPDATE` on a join locks the rows of both tables. -/
def lockRewardBySession (sessionId : Uuid) : Prog (Option Reward) :=
  Program.query
    (fun db => (rewardBySession sessionId db).toList.flatMap fun pair =>
      [forUpdate (.outcome pair.1.id), forUpdate (.reward pair.2.id)])
    fun db => (rewardBySession sessionId db).map Prod.snd

def addReward (row : Reward) : Prog Unit :=
  Program.update
    (fun _ => forUpdate (.reward row.id) ::
      row.outcomeId.toList.map fun outcome => forKeyShare (.outcome outcome))
    (Database.insertReward row)

/-- The rewards of a player, newest first; `createdAt` tells their creation. -/
def listPlayerRewards (createdAt : Uuid → Int) (playerId : Uuid) (limit offset : Nat) :
    Prog (List Reward) :=
  read fun db => ((orderBy
    [descending fun row => createdAt row.id, descending fun row => row.id.toNat]
    (db.rewards.filter fun row => row.playerId = playerId)).drop offset).take limit

/-- The record of an accepted outcome. -/
def getOutcomeAudit (outcomeId : Uuid) : Prog (Option AuditRecord) :=
  read fun db => db.audits.find? fun row =>
    row.entityType = py "outcome" ∧ row.entityId = outcomeId ∧
      row.eventType = py "outcome_accepted"

end Outcomes

section FairnessProofs

def proofBySession (sessionId : Uuid) (db : Database) : Option FairnessProof :=
  lookup FairnessProof.sessionId sessionId db.proofs

/-- Lock the one proof bound to a session for replay-safe evaluation. -/
def lockFairnessProofBySession (sessionId : Uuid) : Prog (Option FairnessProof) :=
  readForUpdate (fun row => .proof row.id) (proofBySession sessionId)

def getFairnessProofBySession (sessionId : Uuid) : Prog (Option FairnessProof) :=
  read (proofBySession sessionId)

def proofById (id : Uuid) (db : Database) : Option FairnessProof :=
  lookup FairnessProof.id id db.proofs

/-- Lock one proof by its public identifier. -/
def lockFairnessProof (id : Uuid) : Prog (Option FairnessProof) :=
  readForUpdate (fun row => .proof row.id) (proofById id)

/-- The owner and the session of a proof, read before any lock. -/
def getFairnessProof (id : Uuid) : Prog (Option (Uuid × Uuid)) :=
  read fun db => (proofById id db).map fun row => (row.playerId, row.sessionId)

def getFairnessProofByOutcome (outcomeId : Uuid) : Prog (Option FairnessProof) :=
  read fun db => lookup FairnessProof.outcomeId (some outcomeId) db.proofs

def custodyByProof (proofId : Uuid) (db : Database) :
    Option FairnessSeedCustody :=
  lookup FairnessSeedCustody.proofId proofId db.custodies

def getFairnessSeedCustody (proofId : Uuid) : Prog (Option FairnessSeedCustody) :=
  read (custodyByProof proofId)

/-- The events of a proof, by sequence. -/
def eventsOf (proofId : Uuid) (db : Database) : List FairnessProofEvent :=
  (db.events.filter fun row => row.proofId = proofId).mergeSort
    fun one other => one.sequence ≤ other.sequence

def listFairnessProofEvents (proofId : Uuid) : Prog (List FairnessProofEvent) :=
  read (eventsOf proofId)

def latestEvent (proofId : Uuid) (db : Database) : Option FairnessProofEvent :=
  (eventsOf proofId db).getLast?

/-- Lock the latest append-only event to extend its durable hash chain. -/
def lockLatestFairnessProofEvent (proofId : Uuid) :
    Prog (Option FairnessProofEvent) :=
  readForUpdate (fun row => .event row.proofId row.sequence) (latestEvent proofId)

def addFairnessProof (row : FairnessProof) : Prog Unit :=
  Program.update
    (fun _ => [forUpdate (.proof row.id), forKeyShare (.session row.sessionId),
      forKeyShare (.game row.gameId)])
    (Database.insertProof row)

def addFairnessSeedCustody (row : FairnessSeedCustody) : Prog Unit :=
  Program.update (fun _ => [forKeyShare (.proof row.proofId)])
    (Database.insertCustody row)

end FairnessProofs

section Scores

def scoreBySession (sessionId : Uuid) (db : Database) : Option FinalScore :=
  lookup FinalScore.sessionId sessionId db.scores

def getFinalScoreBySession (sessionId : Uuid) : Prog (Option FinalScore) :=
  read (scoreBySession sessionId)

def revisionRow (gameId : Uuid) (periodStart : Int) (db : Database) :
    Option LeaderboardProjectionRevision :=
  db.revisions.find? fun row => row.gameId = gameId ∧ row.periodStart = periodStart

/-- `INSERT INTO final_scores`.  The trigger locks the revision row; only when it
inserts that row does the foreign key check read the game row. -/
def addFinalScore (row : FinalScore) : Prog Unit :=
  Program.update
    (fun db =>
      [forUpdate (.score row.id), forKeyShare (.session row.sessionId),
        forKeyShare (.outcome row.outcomeId),
        forNoKeyUpdate (.revision row.gameId row.periodStart)] ++
      (if (revisionRow row.gameId row.periodStart db).isSome then []
        else [forKeyShare (.game row.gameId)]))
    (Database.insertScore row)

end Scores

section Settlements

/-- The tiers of the highest version that was published in time. -/
def tiersInForce (gameId : Uuid) (periodEnd : Int) (db : Database) :
    Option RewardTierConfig :=
  (orderBy [descending RewardTierConfig.version]
    (db.tierConfigs.filter fun row =>
      row.gameId = gameId ∧ row.publishedAt ≤ periodEnd)).head?

def settlementTierConfig (gameId : Uuid) (periodEnd : Int) :
    Prog (Option RewardTierConfig) := read (tiersInForce gameId periodEnd)

def settlementRun (gameId : Uuid) (periodStart : Int) : Prog (Option SettlementRun) :=
  read (Database.runOf gameId periodStart)

/-- The recipients of a run, by rank. -/
def recipientsOf (runId : Uuid) (db : Database) : List SettlementRecipient :=
  orderBy [ascending SettlementRecipient.rank]
    (db.recipients.filter fun row => row.runId = runId)

def settlementRecipients (runId : Uuid) : Prog (List SettlementRecipient) :=
  read (recipientsOf runId)

/-- An existing settlement reward, for a resumption after an interruption. -/
def settlementReward (recipientId : Uuid) : Prog (Option Reward) :=
  read fun db => lookup Reward.settlementRecipientId (some recipientId) db.rewards

/-- `INSERT INTO settlement_runs`; tier configurations cannot change. -/
def addSettlementRun (row : SettlementRun) : Prog Unit :=
  Program.update (fun _ => [forUpdate (.run row.id)]) (Database.insertRun row)

def saveSettlementRun (row : SettlementRun) : Prog Unit :=
  Program.update (fun _ => [forNoKeyUpdate (.run row.id)]) (Database.updateRun row)

def addSettlementRecipient (row : SettlementRecipient) : Prog Unit :=
  Program.update
    (fun _ => [forUpdate (.recipient row.id), forKeyShare (.run row.runId),
      forKeyShare (.score row.scoreId)])
    (Database.insertRecipient row)

/-- The reward of a recipient. -/
def recipientReward (rewardId : Uuid) (recipient : SettlementRecipient) : Reward where
  id := rewardId
  outcomeId := none
  settlementRecipientId := some recipient.id
  playerId := recipient.playerId
  status := .issued
  value := recipient.rewardValue
  claimedAt := none

def addSettlementReward (rewardId : Uuid) (recipient : SettlementRecipient) :
    Prog Reward := do
  Program.update
    (fun _ => [forUpdate (.reward rewardId), forKeyShare (.recipient recipient.id)])
    (Database.insertReward (recipientReward rewardId recipient))
  return recipientReward rewardId recipient

end Settlements

section Evidence

def text (value : PyStr) : Json := .str value
def idText (id : Uuid) : Json := .str (uuidStr id)

def sessionAudit (row : GameSession) : AuditRecord where
  eventType := py "session_started"
  entityType := py "session"
  entityId := row.id
  evidence := Json.object
    [(py "player_id", idText row.playerId),
      (py "game_id", idText row.gameId),
      (py "config_version_id", idText row.configVersionId),
      (py "request_id", idText row.requestId),
      (py "expires_at", text (isoformat row.expiresAt))]

def sessionStartedEvent (row : GameSession) (gameKey : PyStr) : AnalyticsEvent where
  eventKey := py "session_started:" ++ uuidStr row.id
  eventType := py "session_started"
  playerId := some row.playerId
  payload := Json.object
    [(py "session_id", idText row.id),
      (py "game_key", text gameKey),
      (py "config_version_id", idText row.configVersionId)]

def outcomeAudit (row : Outcome) (playerId : Uuid) (gameKey : PyStr) :
    AuditRecord where
  eventType := py "outcome_accepted"
  entityType := py "outcome"
  entityId := row.id
  evidence := Json.object
    [(py "session_id", idText row.sessionId),
      (py "player_id", idText playerId),
      (py "game_key", text gameKey),
      (py "config_version_id", idText row.configVersionId),
      (py "result", row.result)]

def gamePlayedEvent (row : Outcome) (playerId : Uuid) (gameKey : PyStr) :
    AnalyticsEvent where
  eventKey := py "game_played:" ++ uuidStr row.id
  eventType := py "game_played"
  playerId := some playerId
  payload := Json.object
    [(py "outcome_id", idText row.id),
      (py "session_id", idText row.sessionId),
      (py "game_key", text gameKey),
      (py "config_version_id", idText row.configVersionId)]

def rewardEvidence (row : Reward) (gameKey : PyStr) : Json :=
  Json.object
    [(py "reward_id", idText row.id),
      (py "outcome_id", Json.ofOption idText row.outcomeId),
      (py "settlement_recipient_id",
        Json.ofOption idText row.settlementRecipientId),
      (py "player_id", idText row.playerId),
      (py "value", .int row.value),
      (py "status", text row.status.value),
      (py "game_key", text gameKey)]

def rewardAudit (row : Reward) (eventType gameKey : PyStr) : AuditRecord where
  eventType := eventType
  entityType := py "reward"
  entityId := row.id
  evidence := rewardEvidence row gameKey

def rewardEvent (row : Reward) (eventType gameKey : PyStr) : AnalyticsEvent where
  eventKey := eventType ++ py ":" ++ uuidStr row.id
  eventType := eventType
  playerId := some row.playerId
  payload := rewardEvidence row gameKey

def scoreEvidence (row : FinalScore) (gameKey : PyStr) : Json :=
  Json.object
    [(py "score_id", idText row.id),
      (py "session_id", idText row.sessionId),
      (py "outcome_id", idText row.outcomeId),
      (py "player_id", idText row.playerId),
      (py "game_key", text gameKey),
      (py "config_version_id", idText row.configVersionId),
      (py "period_start", text (isoformat row.periodStart)),
      (py "completed_at", text (isoformat row.completedAt)),
      (py "final_score", .int row.finalScore)]

def scoreAudit (row : FinalScore) (gameKey : PyStr) : AuditRecord where
  eventType := py "final_score_submitted"
  entityType := py "final_score"
  entityId := row.id
  evidence := scoreEvidence row gameKey

def scoreEvent (row : FinalScore) (gameKey : PyStr) : AnalyticsEvent where
  eventKey := py "final_score_submitted:" ++ uuidStr row.id
  eventType := py "final_score_submitted"
  playerId := some row.playerId
  payload := scoreEvidence row gameKey

/-- The audit record of a completed settlement. -/
def settledAudit (row : SettlementRun) (gameKey : PyStr) (periodStart periodEnd : Int)
    (recipientCount : Nat) : AuditRecord where
  eventType := py "leaderboard_settled"
  entityType := py "settlement_run"
  entityId := row.id
  evidence := Json.object
    [(py "game_key", text gameKey),
      (py "period_start", text (isoformat periodStart)),
      (py "period_end", text (isoformat periodEnd)),
      (py "tier_config_id", idText row.tierConfigId),
      (py "recipient_count", .int recipientCount)]

/-- The locks of an analytics row: its unique key, and its player. -/
def analyticsLocks (event : AnalyticsEvent) : List Lock :=
  forUpdate (.analytics event.eventKey) ::
    event.playerId.toList.map fun player => forKeyShare (.player player)

/-- Append audit and analytics rows in one flush. -/
def insertEvidence (audits : List AuditRecord) (events : List AnalyticsEvent)
    (db : Database) : Except ServiceError Database :=
  events.foldlM (fun state event => Database.insertAnalytics event state)
    (audits.foldl (fun state audit => Database.insertAudit audit state) db)

end Evidence

end RngGamePlatform
