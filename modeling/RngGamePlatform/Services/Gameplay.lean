/-
Module: RngGamePlatform.Services.Gameplay
Purpose: Direct plays, and claims of their rewards.
Trusted boundary: human-reviewed semantics
Main exports: rewardValue, playSession, retrieveOutcomeAudit, claimReward,
  claimSessionReward, playerRewards
-/
import RngGamePlatform.Services.Fairness

namespace RngGamePlatform

open Encoding Relational Transactions

variable (env : Platform)

/-- Derive an entitlement only from an accepted outcome and its immutable
config. -/
def rewardValue (config : GameConfigVersion) (outcome : Outcome)
    (gameKey : PyStr) : Except RulesError Int := do
  let payload ← validatedConfig env.schema config
  let rules ← rulesFor (if gameKey = [] then payload.gameType else gameKey)
  definitionRewardValue env.schema config outcome rules

/-- The values that a play draws. -/
structure PlayDraw where
  outcomeId : Uuid
  rewardId : Uuid
deriving DecidableEq

/-- The accepted outcome of a direct play. -/
def playedOutcome (gameSession : GameSession) (outcomeId : Uuid) (result : Json) :
    Outcome where
  id := outcomeId
  sessionId := gameSession.id
  playerId := gameSession.playerId
  gameId := gameSession.gameId
  configVersionId := gameSession.configVersionId
  status := .accepted
  result := result

/-- Answer a play of a session that is not active any more: only a completed
direct game may recognize its own retry. -/
def replayPlay (gameSession : GameSession) (intent : PlayIntent) : Prog Outcome :=
  if gameSession.status ≠ .completed then raise .invalidTransition
  else do
    let foundGame ← getGameById gameSession.gameId
    let foundOutcome ← getOutcomeBySession gameSession.id
    match foundGame, foundOutcome with
    | some game, some outcome => do
        let rules ← byRules .invalidPlay (rulesFor game.key)
        let retry :=
          if rules.mode = .direct then retryMatches outcome intent rules else none
        match retry with
        | some true => do
            commitWork
            return outcome
        | some false => raise .idempotencyConflict
        | none => raise .invalidTransition
    | _, _ => raise .invalidTransition

/-- Write the rows of an accepted play, and commit. -/
def storePlay (gameSession : GameSession) (game : Game) (config : GameConfigVersion)
    (ownerId : Uuid) (result : Json) (draw : PlayDraw) (now : Int) :
    Prog Outcome := do
  let outcome := playedOutcome gameSession draw.outcomeId result
  addOutcome outcome
  let value ← byRules .invalidPlay (rewardValue env config outcome game.key)
  let reward := issuedReward outcome draw.rewardId ownerId value
  addReward reward
  completePlay (completed gameSession now) outcome reward ownerId game.key
  commitWork
  return outcome

/-- Evaluate the play of an active session. -/
def playActive (gameSession : GameSession) (ownerId : Uuid) (intent : PlayIntent)
    (provider : OutcomeProvider) (draw : PlayDraw) (now : Int) : Prog Outcome := do
  let loaded ← gameAndConfig .notFound gameSession.gameId
    gameSession.configVersionId
  let rules ← byRules .invalidPlay (rulesFor loaded.1.key)
  require .dailySpinFairnessRequired (rules.mode ≠ .fairness)
  let result ← byRules .invalidPlay
    (evaluatePlay env.schema gameSession loaded.2 intent provider now rules)
  storePlay env gameSession loaded.1 loaded.2 ownerId result draw now

def playSession (sessionId ownerId : Uuid) (intent : PlayIntent)
    (provider : OutcomeProvider) (draw : PlayDraw) : Prog Outcome := do
  let found ← lockSession sessionId
  let gameSession ← orRaise .notFound found
  require .forbidden (gameSession.playerId = ownerId)
  let now ← clock
  let finalized ← finalizeExpiredSession env.crypto gameSession now none
  if finalized.1 then do
    commitWork
    raise .sessionExpired
  else if finalized.2.status ≠ .active then replayPlay finalized.2 intent
  else playActive env finalized.2 ownerId intent provider draw now

def retrieveOutcomeAudit (outcomeId ownerId : Uuid) : Prog (Outcome × Json) := do
  let owned ← ownedOutcome outcomeId ownerId
  let found ← getOutcomeAudit outcomeId
  let audit ← orRaise .notFound found
  return (owned.1, audit.evidence)

/-- The issued-to-claimed transition; nothing for an idempotent retry. -/
def claimReward (reward : Reward) (now : Int) :
    Except ServiceError (Option Reward) :=
  if reward.status = .claimed then .ok none
  else if reward.status ≠ .issued then .error .rewardUnavailable
  else .ok (some { reward with status := .claimed, claimedAt := some now })

/-- The key of the game that a reward was won in. -/
def gameKeyOfReward (rewardId : Uuid) (db : Database) : Option PyStr := do
  let reward ← lookup Reward.id rewardId db.rewards
  let outcomeId ← reward.outcomeId
  let outcome ← outcomeById outcomeId db
  let gameSession ← sessionById outcome.sessionId db
  let game ← gameById gameSession.gameId db
  return game.key

def gameKeyForReward (rewardId : Uuid) : Prog (Option PyStr) :=
  read (gameKeyOfReward rewardId)

/-- The last flush of a claim. -/
def flushClaim (reward : Reward) (gameKey : PyStr) (db : Database) :
    Except ServiceError Database := do
  let db ← Database.updateReward reward db
  insertEvidence [rewardAudit reward (py "reward_claimed") gameKey]
    [rewardEvent reward (py "reward_claimed") gameKey] db

def saveClaim (reward : Reward) (gameKey : PyStr) : Prog Unit :=
  Program.update
    (fun _ => forNoKeyUpdate (.reward reward.id) ::
      analyticsLocks (rewardEvent reward (py "reward_claimed") gameKey))
    (flushClaim reward gameKey)

/-- Why a session has no reward to claim. -/
def missingReward (sessionId ownerId : Uuid) : Prog Reward := do
  let found ← getSession sessionId
  let gameSession ← orRaise .notFound found
  require .forbidden (gameSession.playerId = ownerId)
  raise .rewardUnavailable

/-- Claim a locked reward. -/
def claimLocked (reward : Reward) (ownerId : Uuid) : Prog Reward := do
  require .forbidden (reward.playerId = ownerId)
  let now ← clock
  let changed ← Program.ofExcept (claimReward reward now)
  match changed with
  | none => do
      commitWork
      return reward
  | some claimed => do
      let found ← gameKeyForReward claimed.id
      let gameKey ← orRaise .notFound found
      saveClaim claimed gameKey
      commitWork
      return claimed

def claimSessionReward (sessionId ownerId : Uuid) : Prog Reward := do
  let found ← lockRewardBySession sessionId
  match found with
  | none => missingReward sessionId ownerId
  | some reward => claimLocked reward ownerId

def playerRewards (createdAt : Uuid → Int) (playerId ownerId : Uuid)
    (limit offset : Nat) : Prog (List Reward) := do
  require .forbidden (playerId = ownerId)
  let found ← getPlayer playerId
  let _player ← orRaise .notFound found
  listPlayerRewards createdAt playerId limit offset

end RngGamePlatform
