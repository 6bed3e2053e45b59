/-
Module: RngGamePlatform.Services.Sessions
Purpose: Session lifecycle commands and queries.
Trusted boundary: human-reviewed semantics
Main exports: createSession, retrieveSession, retrievePlayerGameState,
  cancelSession
-/
import RngGamePlatform.Services.Common

namespace RngGamePlatform

open Encoding Relational Transactions

/-- Owner-scoped durable recovery state for one player and game. -/
structure PlayerGameState where
  serverTime : Int
  nextPlayAt : Option Int
  gameKey : PyStr
  gameSession : Option GameSession
  outcome : Option Outcome
  reward : Option Reward
  fairnessProof : Option FairnessProof
  finalScore : Option FinalScore
deriving DecidableEq

/-- The values that a session creation draws: its id and a skill sequence. -/
structure SessionDraw where
  sessionId : Uuid
  sequence : List Int
deriving DecidableEq

variable (env : Platform)

def createSessionFingerprint (playerId : Uuid) (gameKey : PyStr) : PyStr :=
  requestFingerprint env.crypto (py "create_session")
    [(py "player_id", idText playerId), (py "game_key", text gameKey)]

/-- Finalize sessions one after the other. -/
def finalizeExpiredSessions : List GameSession → Int → Prog Unit
  | [], _ => .ret ()
  | gameSession :: rest, now => do
      let _changed ← finalizeExpiredSession env.crypto gameSession now none
      finalizeExpiredSessions rest now

/-- The payload of a stored configuration version. -/
def loadedPayload (configVersionId : Uuid) : Prog GameConfigPayload := do
  let found ← getConfigById configVersionId
  let config ← orRaise .notFound found
  byRules .invalidPlay (validatedConfig env.schema config)

/-- When the cooldown of a session is over. -/
def availableAt (latest : GameSession) (payload : GameConfigPayload) : Int :=
  latest.createdAt + seconds payload.cooldownSeconds

/-- Refuse a new session while the latest one is active or cooling down. -/
def checkLatest (latest : Option GameSession) (now : Int) : Prog Unit :=
  match latest with
  | none => .ret ()
  | some latest => do
      require .activeSession (latest.status ≠ .active)
      let payload ← loadedPayload env latest.configVersionId
      require .cooldown (availableAt latest payload ≤ now)

/-- The row of a new session. -/
def newSession (requestId playerId : Uuid) (game : Game)
    (config : GameConfigVersion) (payload : GameConfigPayload)
    (fingerprint : PyStr) (challenge : Json) (sessionId : Uuid)
    (createdAt now : Int) : GameSession where
  id := sessionId
  createdAt := createdAt
  playerId := playerId
  gameId := game.id
  configVersionId := config.id
  requestId := requestId
  requestFingerprint := fingerprint
  status := .active
  expiresAt := now + seconds payload.durationSeconds
  endedAt := none
  challenge := challenge

/-- Insert a session and its evidence, and commit. -/
def storeSession (row : GameSession) (gameKey : PyStr) : Prog GameSession := do
  addSession row
  Program.update (fun _ => analyticsLocks (sessionStartedEvent row gameKey))
    (insertEvidence [sessionAudit row] [sessionStartedEvent row gameKey])
  commitWork
  return row

/-- The creation of a session that its request id has not created yet. -/
def createNewSession (requestId : Uuid) (player : Player) (gameKey : PyStr)
    (draw : SessionDraw) (startedAt : Int) : Prog GameSession := do
  require .inactivePlayer (player.status = .active)
  let foundGame ← getGame gameKey
  let game ← orRaise .notFound foundGame
  require .inactiveGame (game.isActive = true)
  let foundConfig ← getActiveConfig game.id
  let config ← orRaise .notFound foundConfig
  let now ← clock
  let expiredSessions ← lockExpiredActiveSessions player.id game.id now
  finalizeExpiredSessions env expiredSessions now
  let latest ← latestSession player.id game.id
  checkLatest env latest now
  let payload ← byRules .invalidPlay (validatedConfig env.schema config)
  let rules ← byRules .invalidPlay (rulesFor game.key)
  storeSession
    (newSession requestId player.id game config payload
      (createSessionFingerprint env player.id gameKey)
      (createChallenge draw.sequence rules) draw.sessionId startedAt now)
    game.key

/-- `created_at` of the new row is the start of the transaction, which is its
first statement. -/
def createSession (requestId playerId ownerId : Uuid) (gameKey : PyStr)
    (draw : SessionDraw) : Prog GameSession := do
  require .forbidden (playerId = ownerId)
  let startedAt ← clock
  lockSessionRequestId requestId
  let foundPlayer ← lockPlayer playerId
  let player ← orRaise .notFound foundPlayer
  let existing ← getSessionByRequest requestId
  match existing with
  | some existing => do
      require .idempotencyConflict
        (existing.requestFingerprint = createSessionFingerprint env playerId gameKey)
      commitWork
      return existing
  | none => createNewSession env requestId player gameKey draw startedAt

/-- Lock a session of the given owner. -/
def lockOwnedSession (sessionId ownerId : Uuid) : Prog GameSession := do
  let found ← lockSession sessionId
  let gameSession ← orRaise .notFound found
  require .forbidden (gameSession.playerId = ownerId)
  return gameSession

def retrieveSession (sessionId ownerId : Uuid) : Prog GameSession := do
  let gameSession ← lockOwnedSession sessionId ownerId
  let now ← clock
  let finalized ← finalizeExpiredSession env.crypto gameSession now none
  if finalized.1 then do
    commitWork
    return finalized.2
  else return finalized.2

/-- When the next play is possible, if the latest session still cools down. -/
def nextPlayAt (latest : Option GameSession) (now : Int) : Prog (Option Int) :=
  match latest with
  | none => .ret none
  | some latest => do
      let payload ← loadedPayload env latest.configVersionId
      return if now < availableAt latest payload then
        some (availableAt latest payload) else none

/-- The recovery state of a game without any session. -/
def emptyState (now : Int) (gameKey : PyStr) : PlayerGameState where
  serverTime := now
  nextPlayAt := none
  gameKey := gameKey
  gameSession := none
  outcome := none
  reward := none
  fairnessProof := none
  finalScore := none

/-- The recovery state of a game whose latest session is `latest`. -/
def roundState (now : Int) (nextPlay : Option Int) (gameKey : PyStr)
    (latest : GameSession) (outcome : Option Outcome) (reward : Option Reward)
    (fairnessProof : Option FairnessProof) (finalScore : Option FinalScore) :
    PlayerGameState where
  serverTime := now
  nextPlayAt := nextPlay
  gameKey := gameKey
  gameSession := some latest
  outcome := outcome
  reward := reward
  fairnessProof := fairnessProof
  finalScore := finalScore

/-- Read the rows of the latest session one after the other. -/
def readRound (now : Int) (nextPlay : Option Int) (gameKey : PyStr)
    (latest : GameSession) : Prog PlayerGameState := do
  let outcome ← getOutcomeBySession latest.id
  let reward ← getRewardBySession latest.id
  let fairnessProof ← getFairnessProofBySession latest.id
  let finalScore ← getFinalScoreBySession latest.id
  return roundState now nextPlay gameKey latest outcome reward fairnessProof
    finalScore

/-- The reads of the recovery state after the elapsed sessions are finalized. -/
def readState (playerId : Uuid) (game : Game) (now : Int) :
    Prog PlayerGameState := do
  let latest ← latestSession playerId game.id
  let nextPlay ← nextPlayAt env latest now
  match latest with
  | none => return emptyState now game.key
  | some latest => readRound now nextPlay game.key latest

/-- Compose authoritative state needed to recover an interrupted browser
operation. -/
def retrievePlayerGameState (playerId ownerId : Uuid) (gameKey : PyStr) :
    Prog PlayerGameState := do
  require .forbidden (playerId = ownerId)
  let foundPlayer ← lockPlayer playerId
  let player ← orRaise .notFound foundPlayer
  let foundGame ← getGame gameKey
  let game ← orRaise .notFound foundGame
  let foundConfig ← getActiveConfig game.id
  let _config ← orRaise .notFound foundConfig
  let now ← clock
  let expiredSessions ← lockExpiredActiveSessions player.id game.id now
  finalizeExpiredSessions env expiredSessions now
  let state ← readState env player.id game now
  if expiredSessions = [] then return state
  else do
    commitWork
    return state

/-- End the proof of a cancelled session, if it is still committed, and write
the session. -/
def endCancelledProof (cancelled : GameSession) (now : Int) :
    Option FairnessProof → Prog Unit
  | none => saveSession cancelled
  | some proof => do
      let changed ←
        endCommittedFairnessProof env.crypto cancelled proof .cancelled now
      if changed then .ret () else saveSession cancelled

/-- Cancel the locked session and the proof it may have. -/
def cancelLocked (gameSession : GameSession) (now : Int) : Prog GameSession := do
  let cancelled ← Program.ofExcept (cancelActive gameSession now)
  let proof ← lockFairnessProofBySession cancelled.id
  endCancelledProof env cancelled now proof
  commitWork
  return cancelled

def cancelSession (sessionId ownerId : Uuid) : Prog GameSession := do
  let gameSession ← lockOwnedSession sessionId ownerId
  let now ← clock
  let finalized ← finalizeExpiredSession env.crypto gameSession now none
  if finalized.1 then do
    commitWork
    return finalized.2
  else cancelLocked env finalized.2 now

end RngGamePlatform
