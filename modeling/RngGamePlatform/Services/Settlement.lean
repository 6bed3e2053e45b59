/-
Module: RngGamePlatform.Services.Settlement
Purpose: The settlement of a closed leaderboard period.
Trusted boundary: human-reviewed semantics
Main exports: SettlementDraw, payloadTiers, coversRank, tierReward, settleRanks,
  settleLeaderboard
-/
import RngGamePlatform.Services.Leaderboards

namespace RngGamePlatform

open Encoding Relational Transactions

/-- The random ids that one settlement may draw; a recipient and a reward have
theirs by rank. -/
structure SettlementDraw where
  runId : Uuid
  recipientId : Nat → Uuid
  rewardId : Nat → Uuid

def eligibleSettlementGame (gameKey : PyStr) : Prog Game := do
  let game ← eligibleLeaderboardGame gameKey
  let _rules ← byRules .leaderboardGameIneligible (settlementRulesFor game.key)
  return game

section Tiers

/-- The list under the key `tiers` of a payload. -/
def payloadTiers (payload : Json) : Except ServiceError (List Json) :=
  match payload with
  | .obj _ =>
      match payload.get? (py "tiers") with
      | some (.arr tiers) => .ok tiers
      | _ => .error .invalidPlay
  | _ => .error .attributeError

/-- The value of a field that is an `int`, which truth values are too. -/
def intField (key : PyStr) (item : Json) : Option Int :=
  match item.get? key with
  | some (.int value) => some value
  | some (.bool value) => some (if value then 1 else 0)
  | _ => none

/-- The item is a tier whose ranks include `rank`. -/
def coversRank (rank : Nat) (item : Json) : Bool :=
  match intField (py "min_rank") item, intField (py "max_rank") item with
  | some minRank, some maxRank => minRank ≤ rank ∧ rank ≤ maxRank
  | _, _ => false

/-- The key and the value that a tier awards. -/
def tierReward (tier : Json) : Except ServiceError (PyStr × Int) :=
  match tier.get? (py "key"), intField (py "reward_value") tier with
  | some (.str key), some value =>
      if value < 0 then .error .invalidPlay else .ok (key, value)
  | _, _ => .error .invalidPlay

end Tiers

section Recipients

/-- The row of a new recipient. -/
def newRecipient (run : SettlementRun) (score : FinalScore) (rank : Nat)
    (tierKey : PyStr) (rewardValue : Int) (recipientId : Uuid) :
    SettlementRecipient where
  id := recipientId
  runId := run.id
  playerId := score.playerId
  scoreId := score.id
  gameId := score.gameId
  periodStart := score.periodStart
  rank := rank
  tierKey := tierKey
  rewardValue := rewardValue

/-- `recipients_by_score.get`; the last recipient of a score is kept. -/
def recipientByScore (scoreId : Uuid) (recipients : List SettlementRecipient) :
    Option SettlementRecipient :=
  recipients.reverse.find? fun row => row.scoreId = scoreId

/-- The recipient that exists for the score of `row`, or else `row` itself after
its insertion. -/
def findOrAddRecipient (row : SettlementRecipient)
    (recipients : List SettlementRecipient) :
    Prog (SettlementRecipient × List SettlementRecipient) :=
  match recipientByScore row.scoreId recipients with
  | some recipient => .ret (recipient, recipients)
  | none => do
      addSettlementRecipient row
      return (row, recipients ++ [row])

/-- Give a recipient its reward, unless it has one. -/
def issueReward (recipient : SettlementRecipient) (gameKey : PyStr)
    (rewardId : Uuid) : Prog Unit := do
  let found ← settlementReward recipient.id
  match found with
  | some _ => return ()
  | none => do
      let reward ← addSettlementReward rewardId recipient
      let eventType := py "settlement_reward_issued"
      Program.update (fun _ => analyticsLocks (rewardEvent reward eventType gameKey))
        (insertEvidence [rewardAudit reward eventType gameKey]
          [rewardEvent reward eventType gameKey])

/-- Settle the ranked scores one after the other. -/
def settleRanks (run : SettlementRun) (tiers : List Json) (gameKey : PyStr)
    (draw : SettlementDraw) :
    List (FinalScore × Nat) → List SettlementRecipient → Prog Unit
  | [], _ => .ret ()
  | (score, rank) :: scores, recipients =>
      match tiers.find? (coversRank rank) with
      | none => settleRanks run tiers gameKey draw scores recipients
      | some tier => do
          let (key, value) ← Program.ofExcept (tierReward tier)
          let (recipient, recipients) ← findOrAddRecipient
            (newRecipient run score rank key value (draw.recipientId rank)) recipients
          issueReward recipient gameKey (draw.rewardId rank)
          settleRanks run tiers gameKey draw scores recipients

end Recipients

section Runs

/-- The row of a new run. -/
def newRun (gameId : Uuid) (periodStart periodEnd : Int) (config : RewardTierConfig)
    (runId : Uuid) : SettlementRun where
  id := runId
  gameId := gameId
  periodStart := periodStart
  periodEnd := periodEnd
  tierConfigId := config.id
  tierSnapshot := config.payload
  status := .processing
  completedAt := none

/-- The run to go on with and its tiers: the unfinished one, or a new one. -/
def openRun (existing : Option SettlementRun) (gameId : Uuid)
    (periodStart periodEnd : Int) (runId : Uuid) :
    Prog (SettlementRun × List Json) :=
  match existing with
  | none => do
      let found ← settlementTierConfig gameId periodEnd
      let config ← orRaise .notFound found
      let tiers ← Program.ofExcept (payloadTiers config.payload)
      let run := newRun gameId periodStart periodEnd config runId
      addSettlementRun run
      return (run, tiers)
  | some run => do
      let tiers ← Program.ofExcept (payloadTiers run.tierSnapshot)
      return (run, tiers)

def completedRun (run : SettlementRun) (now : Int) : SettlementRun :=
  { run with status := .completed, completedAt := some now }

/-- Complete a run, write its audit record and commit. -/
def completeRun (run : SettlementRun) (gameKey : PyStr)
    (periodStart periodEnd now : Int) :
    Prog (SettlementRun × List SettlementRecipient) := do
  let run := completedRun run now
  saveSettlementRun run
  let recipients ← settlementRecipients run.id
  Program.update (fun _ => [])
    (insertEvidence
      [settledAudit run gameKey periodStart periodEnd recipients.length] [])
  commitWork
  return (run, recipients)

/-- Settle or resume a run whose period is over. -/
def settlePeriod (existing : Option SettlementRun) (game : Game)
    (periodStart now : Int) (draw : SettlementDraw) :
    Prog (SettlementRun × List SettlementRecipient) := do
  let periodEnd := periodStart + days 7
  let (run, tiers) ← openRun existing game.id periodStart periodEnd draw.runId
  let scores ← read (listSettlementScores game.id periodStart)
  let existingRecipients ← settlementRecipients run.id
  settleRanks run tiers game.key draw (scores.zipIdx 1) existingRecipients
  completeRun run game.key periodStart periodEnd now

def SettlementRun.isCompleted (run : SettlementRun) : Bool := run.status = .completed

/-- Return a completed run, or settle its period if that is over. -/
def settleOnce (existing : Option SettlementRun) (game : Game) (periodStart : Int)
    (draw : SettlementDraw) : Prog (SettlementRun × List SettlementRecipient) :=
  match existing.filter SettlementRun.isCompleted with
  | some run => do
      let recipients ← settlementRecipients run.id
      commitWork
      return (run, recipients)
  | none => do
      let now ← clock
      require .leaderboardPeriodOpen (periodStart + days 7 ≤ now)
      settlePeriod existing game periodStart now draw

/-- Settle deterministic unique-player ranks once for a closed period. -/
def settleLeaderboard (gameKey : PyStr) (periodStart : Int) (authorized : Bool)
    (draw : SettlementDraw) : Prog (SettlementRun × List SettlementRecipient) := do
  require .settlementForbidden (authorized = true)
  require .invalidPlay (weekStart periodStart = periodStart)
  let game ← eligibleSettlementGame gameKey
  let _locked ← lockGameById game.id
  let existing ← settlementRun game.id periodStart
  settleOnce existing game periodStart draw

end Runs

end RngGamePlatform
