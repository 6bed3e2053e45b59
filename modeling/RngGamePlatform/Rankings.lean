/-
Module: RngGamePlatform.Rankings
Purpose: The ranking queries of a leaderboard.
Trusted boundary: human-reviewed semantics
Main exports: ofBoard, ScoreKey, listCanonicalScores, listSettlementScores,
  countCanonicalScores, leaderboardProjectionRevision, playerCanonicalRank
-/
import RngGamePlatform.Repositories
import RngGamePlatform.Relational.Ordering

namespace RngGamePlatform

open Encoding Relational Transactions

/-- The score belongs to the game and period. -/
def ofBoard (gameId : Uuid) (periodStart : Int) (row : FinalScore) : Bool :=
  row.gameId = gameId ∧ row.periodStart = periodStart

/-- The columns of the ranking order; UUIDs compare by their bytes. -/
def rankingOrder : List (FinalScore → FinalScore → Ordering) :=
  [descending FinalScore.finalScore, ascending FinalScore.completedAt,
    ascending fun row => row.sessionId.toNat]

/-- The place behind which a page starts: score, completion and session. -/
abbrev ScoreKey := Int × Int × Uuid

/-- The condition of a keyset page. -/
def behind (after : ScoreKey) (row : FinalScore) : Bool :=
  row.finalScore < after.1 ∨
    row.finalScore = after.1 ∧ after.2.1 < row.completedAt ∨
    row.finalScore = after.1 ∧ row.completedAt = after.2.1 ∧
      after.2.2.toNat < row.sessionId.toNat

def listCanonicalScores (gameId : Uuid) (periodStart : Int) (limit : Option Nat)
    (offset : Nat) (after : Option ScoreKey) (db : Database) : List FinalScore :=
  let rows := db.scores.filter (ofBoard gameId periodStart)
  let rows := match after with
    | some after => rows.filter (behind after)
    | none => rows
  let rows := orderBy
    [descending FinalScore.finalScore, ascending FinalScore.completedAt,
      ascending fun row => row.sessionId.toNat] rows
  let rows := rows.drop offset
  match limit with
  | some limit => rows.take limit
  | none => rows

/-- Each player's deterministic best score in canonical rank order. -/
def listSettlementScores (gameId : Uuid) (periodStart : Int) (db : Database) :
    List FinalScore :=
  let rankedForPlayer := rowNumbers FinalScore.playerId rankingOrder
    (db.scores.filter (ofBoard gameId periodStart))
  let joined := join (fun row ranked => ranked.1.id = row.id) db.scores rankedForPlayer
  orderBy rankingOrder
    ((joined.filter fun pair => pair.2.2 = 1).map Prod.fst)

def countCanonicalScores (gameId : Uuid) (periodStart : Int) (db : Database) : Nat :=
  (db.scores.filter (ofBoard gameId periodStart)).length

/-- The durable generation of one game period. -/
def leaderboardProjectionRevision (gameId : Uuid) (periodStart : Int)
    (db : Database) : Nat :=
  match db.revisions.find? fun row =>
      row.gameId = gameId ∧ row.periodStart = periodStart with
  | some row => row.revision
  | none => 0

def playerCanonicalRank (playerId gameId : Uuid) (periodStart : Int) (db : Database) :
    Option (FinalScore × Nat) :=
  let ranked := rowNumbers (fun _ => ())
    [descending FinalScore.finalScore, ascending FinalScore.completedAt,
      ascending fun row => row.sessionId.toNat]
    (db.scores.filter (ofBoard gameId periodStart))
  let joined := join (fun row ranked => ranked.1.id = row.id) db.scores ranked
  let rows := orderBy [ascending fun pair : FinalScore × (FinalScore × Nat) => pair.2.2]
    (joined.filter fun pair => pair.1.playerId = playerId)
  rows.head?.map fun pair => (pair.1, pair.2.2)

end RngGamePlatform
