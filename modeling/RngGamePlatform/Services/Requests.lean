/-
Module: RngGamePlatform.Services.Requests
Purpose: The requests of the platform as one concurrent system.
Trusted boundary: human-reviewed semantics
Main exports: Call, Result, body, CatalogueOnly, ServiceSystem, ServiceReachable
-/
import RngGamePlatform.Services.Gameplay
import RngGamePlatform.Services.Leaderboards
import RngGamePlatform.Services.Sessions
import RngGamePlatform.Transactions.System

namespace RngGamePlatform

open Encoding Relational Transactions

/-- A request with its arguments and the random values it will draw. -/
inductive Call where
  | createSession (requestId playerId ownerId : Uuid) (gameKey : PyStr)
      (draw : SessionDraw)
  | retrieveSession (sessionId ownerId : Uuid)
  | retrievePlayerGameState (playerId ownerId : Uuid) (gameKey : PyStr)
  | cancelSession (sessionId ownerId : Uuid)
  | commitFairness (sessionId ownerId : Uuid) (draw : CommitDraw)
  | evaluateFairness (proofId ownerId : Uuid) (clientSeed : PyStr)
      (draw : EvaluateDraw)
  | playSession (sessionId ownerId : Uuid) (intent : PlayIntent)
      (provider : OutcomeProvider) (draw : PlayDraw)
  | submitFinalScore (sessionId ownerId scoreId : Uuid)
  | claimSessionReward (sessionId ownerId : Uuid)

/-- What a request returns. -/
inductive Result where
  | session (row : GameSession)
  | state (state : PlayerGameState)
  | proof (row : FairnessProof)
  | evaluation (outcome : Outcome) (reward : Reward) (proof : FairnessProof)
  | outcome (row : Outcome)
  | score (row : FinalScore) (created : Bool) (gameKey : PyStr)
  | reward (row : Reward)
deriving DecidableEq

/-- The program of a request. -/
def body (env : Platform) : Call → Prog Result
  | .createSession requestId playerId ownerId gameKey draw =>
      .session <$> createSession env requestId playerId ownerId gameKey draw
  | .retrieveSession sessionId ownerId =>
      .session <$> retrieveSession env sessionId ownerId
  | .retrievePlayerGameState playerId ownerId gameKey =>
      .state <$> retrievePlayerGameState env playerId ownerId gameKey
  | .cancelSession sessionId ownerId =>
      .session <$> cancelSession env sessionId ownerId
  | .commitFairness sessionId ownerId draw =>
      .proof <$> commitFairness env sessionId ownerId draw
  | .evaluateFairness proofId ownerId clientSeed draw =>
      (fun rows => .evaluation rows.1 rows.2.1 rows.2.2) <$>
        evaluateFairness env proofId ownerId clientSeed draw
  | .playSession sessionId ownerId intent provider draw =>
      .outcome <$> playSession env sessionId ownerId intent provider draw
  | .submitFinalScore sessionId ownerId scoreId =>
      (fun rows => .score rows.1 rows.2.1 rows.2.2) <$>
        submitFinalScore env sessionId ownerId scoreId
  | .claimSessionReward sessionId ownerId =>
      .reward <$> claimSessionReward sessionId ownerId

/-- A database with a catalogue and nothing played yet. -/
structure CatalogueOnly (db : Database) : Prop where
  sessions : db.sessions = []
  proofs : db.proofs = []
  custodies : db.custodies = []
  events : db.events = []
  outcomes : db.outcomes = []
  rewards : db.rewards = []
  scores : db.scores = []
  revisions : db.revisions = []

abbrev ServiceThread := Thread Database Lock Int ServiceError Call Result

abbrev ServiceSystem := System Database Lock Int ServiceError Call Result

/-- The states that some interleaving of requests reaches, from a catalogue,
when every step is one that `allowed` admits. -/
abbrev ServiceReachable (env : Platform)
    (allowed : ServiceSystem → Label Int Call → Prop) : ServiceSystem → Prop :=
  Reachable Lock.conflicts (body env) CatalogueOnly allowed

end RngGamePlatform
