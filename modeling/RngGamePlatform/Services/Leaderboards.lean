/-
Module: RngGamePlatform.Services.Leaderboards
Purpose: Final scores, their periods and their canonical ranks.
Trusted boundary: human-reviewed semantics
Main exports: leaderboardPeriod, submitFinalScore, eligibleLeaderboardGame,
  canonicalLeaderboard, leaderboardProjectionFacts, canonicalPlayerRank
-/
import RngGamePlatform.Rankings
import RngGamePlatform.Services.Common

namespace RngGamePlatform

open Encoding Relational Transactions

variable (env : Platform)

/-- The inclusive ISO-week start and exclusive end in UTC. -/
def leaderboardPeriod (completedAt : Int) : Int × Int :=
  (weekStart completedAt, weekStart completedAt + days 7)

/-- The row of a new score. -/
def newScore (gameSession : GameSession) (game : Game) (outcome : Outcome)
    (config : GameConfigVersion) (ownerId scoreId : Uuid) (endedAt value : Int) :
    FinalScore where
  id := scoreId
  playerId := ownerId
  gameId := game.id
  sessionId := gameSession.id
  outcomeId := outcome.id
  configVersionId := config.id
  periodStart := (leaderboardPeriod endedAt).1
  completedAt := endedAt
  finalScore := value

/-- Insert a score and its evidence, and commit. -/
def storeScore (score : FinalScore) (gameKey : PyStr) :
    Prog (FinalScore × Bool × PyStr) := do
  addFinalScore score
  Program.update (fun _ => analyticsLocks (scoreEvent score gameKey))
    (insertEvidence [scoreAudit score gameKey] [scoreEvent score gameKey])
  commitWork
  return (score, true, gameKey)

/-- Derive and store the score of a session that has none. -/
def submitNew (gameSession : GameSession) (ownerId scoreId : Uuid) :
    Prog (FinalScore × Bool × PyStr) := do
  let foundPlayer ← getPlayer ownerId
  let player ← orRaise .notFound foundPlayer
  require .inactivePlayer (player.status = .active)
  let foundGame ← getGameById gameSession.gameId
  let game ← orRaise .notFound foundGame
  let rules ← byRules .leaderboardGameIneligible (leaderboardRulesFor game.key)
  require .invalidTransition (gameSession.status = .completed)
  let endedAt ← orRaise .invalidTransition gameSession.endedAt
  let foundOutcome ← getOutcomeBySession gameSession.id
  let outcome ← orRaise .invalidTransition foundOutcome
  require .invalidTransition (outcome.status = .accepted)
  let foundConfig ← getConfigById gameSession.configVersionId
  let config ← orRaise .notFound foundConfig
  let value ← byRules .invalidPlay (leaderboardScore env.schema config outcome rules)
  let now ← clock
  require .leaderboardPeriodClosed (now < (leaderboardPeriod endedAt).2)
  storeScore (newScore gameSession game outcome config ownerId scoreId endedAt value)
    game.key

/-- Create one server-derived score and its evidence in one durable
transaction. -/
def submitFinalScore (sessionId ownerId scoreId : Uuid) :
    Prog (FinalScore × Bool × PyStr) := do
  let found ← lockSession sessionId
  let gameSession ← orRaise .notFound found
  require .forbidden (gameSession.playerId = ownerId)
  let existing ← getFinalScoreBySession sessionId
  match existing with
  | some existing => do
      let foundGame ← getGameById gameSession.gameId
      let game ← orRaise .notFound foundGame
      commitWork
      return (existing, false, game.key)
  | none => submitNew env gameSession ownerId scoreId

def eligibleLeaderboardGame (gameKey : PyStr) : Prog Game := do
  let found ← getGame gameKey
  let game ← orRaise .notFound found
  require .inactiveGame (game.isActive = true)
  let _rules ← byRules .leaderboardGameIneligible (leaderboardRulesFor game.key)
  return game

/-- An active player who reads a leaderboard. -/
def activePlayer (playerId : Uuid) : Prog Unit := do
  let found ← getPlayer playerId
  let player ← orRaise .notFound found
  require .inactivePlayer (player.status = .active)

def canonicalLeaderboard (ownerId : Uuid) (gameKey : PyStr) (periodStart : Int)
    (limit offset : Nat) (after : Option ScoreKey) : Prog (Game × List FinalScore) := do
  activePlayer ownerId
  let game ← eligibleLeaderboardGame gameKey
  let scores ← read
    (listCanonicalScores game.id periodStart (some limit) offset after)
  return (game, scores)

/-- The durable facts that validate a projection. -/
def leaderboardProjectionFacts (ownerId : Uuid) (gameKey : PyStr) (periodStart : Int)
    (playerId : Option Uuid) : Prog (Game × Nat × Nat) := do
  require .forbidden (playerId.all fun playerId => playerId = ownerId)
  activePlayer ownerId
  let game ← eligibleLeaderboardGame gameKey
  let count ← read (countCanonicalScores game.id periodStart)
  let revision ← read (leaderboardProjectionRevision game.id periodStart)
  return (game, count, revision)

def canonicalPlayerRank (playerId ownerId : Uuid) (gameKey : PyStr)
    (periodStart : Int) : Prog (FinalScore × Nat) := do
  require .forbidden (playerId = ownerId)
  activePlayer playerId
  let game ← eligibleLeaderboardGame gameKey
  let found ← read (playerCanonicalRank playerId game.id periodStart)
  orRaise .leaderboardEntryNotFound found

end RngGamePlatform
