/-
Module: RngGamePlatform.Services.Platform
Purpose: The requests together with the settlement and the reads of the platform,
  as one concurrent system.
Trusted boundary: human-reviewed semantics
Main exports: Operation, Answer, operate, NothingYet, PlatformSystem,
  PlatformReachable
-/
import RngGamePlatform.Services.Requests
import RngGamePlatform.Services.Settlement

namespace RngGamePlatform

open Encoding Relational Transactions

/-- A call of the services with its arguments and the random values it draws. -/
inductive Operation where
  | request (call : Call)
  | settleLeaderboard (gameKey : PyStr) (periodStart : Int) (authorized : Bool)
      (draw : SettlementDraw)
  | retrieveFairnessProof (outcomeId ownerId : Uuid)
  | verifyFairnessProof (fuel : Nat) (outcomeId ownerId : Uuid)
  | retrieveOutcomeAudit (outcomeId ownerId : Uuid)
  | playerRewards (createdAt : Uuid → Int) (playerId ownerId : Uuid)
      (limit offset : Nat)
  | canonicalLeaderboard (ownerId : Uuid) (gameKey : PyStr) (periodStart : Int)
      (limit offset : Nat) (after : Option ScoreKey)
  | leaderboardProjectionFacts (ownerId : Uuid) (gameKey : PyStr) (periodStart : Int)
      (playerId : Option Uuid)
  | canonicalPlayerRank (playerId ownerId : Uuid) (gameKey : PyStr) (periodStart : Int)

/-- What a call returns. -/
inductive Answer where
  | result (value : Result)
  | settlement (run : SettlementRun) (recipients : List SettlementRecipient)
  | revealed (proof : RevealedFairnessProof) (bands : List RewardBand)
  | verified (proof : RevealedFairnessProof) (bands : List RewardBand)
      (code : PyStr) (valid : Bool)
  | outcomeAudit (outcome : Outcome) (evidence : Json)
  | rewards (rows : List Reward)
  | leaderboard (game : Game) (scores : List FinalScore)
  | projectionFacts (game : Game) (count revision : Nat)
  | rank (score : FinalScore) (rank : Nat)

/-- The program of a call. -/
def operate (env : Platform) : Operation → Prog Answer
  | .request call => .result <$> body env call
  | .settleLeaderboard gameKey periodStart authorized draw =>
      (fun pair => .settlement pair.1 pair.2) <$>
        settleLeaderboard gameKey periodStart authorized draw
  | .retrieveFairnessProof outcomeId ownerId =>
      (fun pair => .revealed pair.1 pair.2) <$>
        retrieveFairnessProof env outcomeId ownerId
  | .verifyFairnessProof fuel outcomeId ownerId =>
      (fun verdict => .verified verdict.1 verdict.2.1 verdict.2.2.1 verdict.2.2.2) <$>
        verifyFairnessProof env fuel outcomeId ownerId
  | .retrieveOutcomeAudit outcomeId ownerId =>
      (fun pair => .outcomeAudit pair.1 pair.2) <$>
        retrieveOutcomeAudit outcomeId ownerId
  | .playerRewards createdAt playerId ownerId limit offset =>
      .rewards <$> playerRewards createdAt playerId ownerId limit offset
  | .canonicalLeaderboard ownerId gameKey periodStart limit offset after =>
      (fun pair => .leaderboard pair.1 pair.2) <$>
        canonicalLeaderboard ownerId gameKey periodStart limit offset after
  | .leaderboardProjectionFacts ownerId gameKey periodStart playerId =>
      (fun facts => .projectionFacts facts.1 facts.2.1 facts.2.2) <$>
        leaderboardProjectionFacts ownerId gameKey periodStart playerId
  | .canonicalPlayerRank playerId ownerId gameKey periodStart =>
      (fun pair => .rank pair.1 pair.2) <$>
        canonicalPlayerRank playerId ownerId gameKey periodStart

/-- A database with a catalogue and nothing played, settled or recorded yet. -/
structure NothingYet (db : Database) : Prop where
  catalogue : CatalogueOnly db
  runs : db.runs = []
  recipients : db.recipients = []
  audits : db.audits = []
  analytics : db.analytics = []

abbrev PlatformSystem := System Database Lock Int ServiceError Operation Answer

/-- The states that some interleaving of calls reaches from a catalogue. -/
abbrev PlatformReachable (env : Platform) : PlatformSystem → Prop :=
  Reachable Lock.conflicts (operate env) NothingYet fun _ _ => True

/-- The committed states that some interleaving of calls reaches. -/
def ReachableState (env : Platform) (db : Database) : Prop :=
  ∃ system, PlatformReachable env system ∧ system.db = db

end RngGamePlatform
