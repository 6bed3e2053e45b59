/-
Module: RngGamePlatform.Projections.Reader
Purpose: The leaderboard entries that are shown, of a row of the database or of a member
  that the projection holds.
Trusted boundary: human-reviewed semantics
Main exports: LeaderboardEntry, databaseEntry, fromTimestamp, projectedEntry
-/
import RngGamePlatform.Projections.Rebuild

namespace RngGamePlatform

open Encoding

structure LeaderboardEntry where
  rank : Int
  scoreId : Uuid
  sessionId : Uuid
  publicLabel : PyStr
  isCurrentPlayer : Bool
  finalScore : Int
  completedAt : Int
deriving DecidableEq

def databaseEntry (score : FinalScore) (rank : Int) (publicLabel : PyStr) (ownerId : Uuid) :
    LeaderboardEntry where
  rank := rank
  scoreId := score.id
  sessionId := score.sessionId
  publicLabel := publicLabel
  isCurrentPlayer := decide (score.playerId = ownerId)
  finalScore := score.finalScore
  completedAt := score.completedAt

/-- `datetime.fromtimestamp(completed_us / 1_000_000, UTC)`: the microsecond nearest to
the correctly rounded quotient. -/
def fromTimestamp (completedUs : Int) : Int :=
  let magnitude : Int := (Binary64.ofQuotient completedUs.natAbs 1000000).nearestTimes 1000000
  if completedUs < 0 then -magnitude else magnitude

/-- The entry of a row that the projection holds; none when an identifier of it is not
one. -/
def projectedEntry (unicode : UnicodeDigits) (row : MemberFields) (publicLabel : PyStr)
    (ownerId : Uuid) : Option LeaderboardEntry := do
  let scoreId ← uuidOf unicode row.scoreId
  let sessionId ← uuidOf unicode row.sessionId
  let playerId ← uuidOf unicode row.playerId
  some
    { rank := row.rank
      scoreId := scoreId
      sessionId := sessionId
      publicLabel := publicLabel
      isCurrentPlayer := decide (playerId = ownerId)
      finalScore := row.finalScore
      completedAt := fromTimestamp row.completedAtUs }

end RngGamePlatform
