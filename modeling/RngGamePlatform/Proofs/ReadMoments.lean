/-
Module: RngGamePlatform.Proofs.ReadMoments
Purpose: What the leaderboard reads answer in a run was so at a moment of the run while
  the request was in flight.
Trusted boundary: none
Main exports: rowsAfter, listCanonicalScores_eq, ReadAnswer, reads_of_moments
-/
import RngGamePlatform.Proofs.ProjectedPages

namespace RngGamePlatform

open Encoding Relational Transactions

section Reads

variable {env : Platform} {moments : PlatformMoments env}

/-- The rows of a board behind a place, or all of them. -/
def rowsAfter (after : Option ScoreKey) (board : List FinalScore) : List FinalScore :=
  match after with
  | none => board
  | some place => board.filter (behind place)

/-- A listing is a slice of the ranked rows behind its place. -/
theorem listCanonicalScores_eq (moments : PlatformMoments env) (moment : Nat) (gameId : Uuid)
    (periodStart : Int) (limit offset : Nat) (after : Option ScoreKey) :
    listCanonicalScores gameId periodStart (some limit) offset after (moments.db moment) =
      ((rowsAfter after (rankedBoard gameId periodStart (moments.db moment))).drop
        offset).take limit := by
  have ranking := moments_ranking moments moment gameId periodStart
  cases after with
  | none => exact listCanonicalScores_slice ranking offset limit
  | some place =>
      simp only [listCanonicalScores, (ranking.filter _).orderBy_eq rankingOrder_follows,
        rowsAfter]

/-- What the answer to a leaderboard read says of the run: it was so at moments between the
beginning and the end of the request. -/
inductive ReadAnswer (moments : PlatformMoments env) (begins ends : Nat) :
    Operation → Answer → Prop where
  | listed {ownerId : Uuid} {gameKey : PyStr} {periodStart : Int} {limit offset : Nat}
      {after : Option ScoreKey} {game : Game} (isGame : GameOf moments gameKey game)
      (moment : Nat) (notBefore : begins ≤ moment) (notAfter : moment ≤ ends) :
      ReadAnswer moments begins ends
        (.canonicalLeaderboard ownerId gameKey periodStart limit offset after)
        (.leaderboard game (((rowsAfter after
          (rankedBoard game.id periodStart (moments.db moment))).drop offset).take limit))
  | ranked {playerId : Uuid} {gameKey : PyStr} {periodStart : Int} {game : Game}
      {score : FinalScore} {index : Nat} (isGame : GameOf moments gameKey game)
      (moment : Nat) (notBefore : begins ≤ moment) (notAfter : moment ≤ ends)
      (isEntry : (rankedBoard game.id periodStart (moments.db moment))[index]? = some score)
      (ofPlayer : score.playerId = playerId)
      (best : ∀ other ∈ (rankedBoard game.id periodStart (moments.db moment)).take index,
        other.playerId ≠ playerId) :
      ReadAnswer moments begins ends (.canonicalPlayerRank playerId playerId gameKey periodStart)
        (.rank score (index + 1))
  | facts {ownerId : Uuid} {gameKey : PyStr} {periodStart : Int} {playerId : Option Uuid}
      {game : Game} (isGame : GameOf moments gameKey game)
      (counted revised : Nat) (notBefore : begins ≤ counted) (inOrder : counted ≤ revised)
      (notAfter : revised ≤ ends) :
      ReadAnswer moments begins ends
        (.leaderboardProjectionFacts ownerId gameKey periodStart playerId)
        (.projectionFacts game (rankedBoard game.id periodStart (moments.db counted)).length
          (rankedBoard game.id periodStart (moments.db revised)).length)

/-- The operations that read a leaderboard. -/
def Operation.readsBoard : Operation → Bool
  | .canonicalLeaderboard .. | .canonicalPlayerRank .. | .leaderboardProjectionFacts .. => true
  | _ => false

theorem canonicalLeaderboard_ok {ownerId : Uuid} {gameKey : PyStr} {periodStart : Int}
    {limit offset begins ends : Nat} {after : Option ScoreKey} {listed : Game × List FinalScore}
    (observes : (canonicalLeaderboard ownerId gameKey periodStart limit offset after).Observes
      moments.db begins (.ok listed) ends) :
    GameOf moments gameKey listed.1 ∧ begins ≤ ends ∧
      listed.2 = ((rowsAfter after (rankedBoard listed.1.id periodStart (moments.db ends))).drop
        offset).take limit := by
  have inOrder := observes.le
  obtain ⟨_, first, active, observes⟩ := observes.bind_ok
  obtain ⟨game, second, eligible, observes⟩ := observes.bind_ok
  obtain ⟨scores, third, listing, observes⟩ := observes.bind_ok
  obtain ⟨rfl, rfl⟩ := observes.ret_ok
  refine ⟨(eligibleLeaderboardGame_ok eligible).1, inOrder, ?_⟩
  exact listing.query_ok.2.trans (listCanonicalScores_eq _ _ _ _ _ _ _)

theorem canonicalPlayerRank_ok {playerId ownerId : Uuid} {gameKey : PyStr} {periodStart : Int}
    {begins ends : Nat} {ranked : FinalScore × Nat}
    (observes : (canonicalPlayerRank playerId ownerId gameKey periodStart).Observes moments.db
      begins (.ok ranked) ends) :
    playerId = ownerId ∧ begins ≤ ends ∧ ∃ game, GameOf moments gameKey game ∧
      playerCanonicalRank playerId game.id periodStart (moments.db ends) = some ranked := by
  have inOrder := observes.le
  obtain ⟨_, first, required, observes⟩ := observes.bind_ok
  obtain ⟨_, second, active, observes⟩ := observes.bind_ok
  obtain ⟨game, third, eligible, observes⟩ := observes.bind_ok
  obtain ⟨found, fourth, read, raised⟩ := observes.bind_ok
  obtain ⟨isFound, rfl⟩ := raised.orRaise_ok
  exact ⟨required.require_ok.1, inOrder, game, (eligibleLeaderboardGame_ok eligible).1,
    read.query_ok.2.symm.trans isFound⟩

/-- A leaderboard read that a request of any run answers was so while the request was in
flight. -/
theorem reads_of_moments (moments : PlatformMoments env) {begins ends index : Nat}
    {operation : Operation} {answer : Answer} (isRead : operation.readsBoard = true)
    (started : (moments.system begins).threads[index]? =
      some (Thread.fresh (operate env) operation))
    (before : begins ≤ ends)
    (ended : StatusAt (moments.system ends) index (.finished (.ok answer))) :
    ReadAnswer moments begins ends operation answer := by
  have reader : ReaderAt (moments.system begins) index (operate env operation) :=
    ⟨⟨_, started, rfl, rfl, rfl⟩⟩
  cases operation with
  | canonicalLeaderboard ownerId gameKey periodStart limit offset after =>
      obtain ⟨last, inTime, observes⟩ := moments.observed before reader
        (canonicalLeaderboard_reads _ _ _ _ _ _).map ended
      obtain ⟨listed, listing, rfl⟩ := observes.map_ok
      obtain ⟨isGame, inOrder, isListing⟩ := canonicalLeaderboard_ok listing
      rw [isListing]
      exact .listed isGame last inOrder inTime
  | canonicalPlayerRank playerId ownerId gameKey periodStart =>
      obtain ⟨last, inTime, observes⟩ := moments.observed before reader
        (canonicalPlayerRank_reads _ _ _ _).map ended
      obtain ⟨ranked, ranking, rfl⟩ := observes.map_ok
      obtain ⟨rfl, inOrder, game, isGame, found⟩ := canonicalPlayerRank_ok ranking
      obtain ⟨score, rank⟩ := ranked
      obtain ⟨index, rfl, ofPlayer, isEntry, best⟩ := playerCanonicalRank_ok found
      exact .ranked isGame last inOrder inTime isEntry ofPlayer best
  | leaderboardProjectionFacts ownerId gameKey periodStart playerId =>
      obtain ⟨last, inTime, observes⟩ := moments.observed before reader
        (leaderboardProjectionFacts_reads _ _ _ _).map ended
      obtain ⟨facts, factual, rfl⟩ := observes.map_ok
      obtain ⟨isGame, counted, inOrder, notAfter, isCount, isRevision⟩ :=
        leaderboardProjectionFacts_ok factual
      rw [isCount, isRevision]
      exact .facts isGame counted last inOrder notAfter inTime
  | _ => cases isRead

end Reads

namespace Sample

/-- After the score is submitted, the player's rank is read. -/
def rankedLabels : List (Label Int Operation) :=
  scoredLabels ++ calling (.canonicalPlayerRank 1 1 (py "daily_spin") (-259200000000)) 4 4 5000

/-- The rank that a request has answered. -/
def answeredRank (thread : Thread Database Lock Int ServiceError Operation Answer) :
    Option (FinalScore × Nat) :=
  match thread.status with
  | .finished (.ok (.rank score rank)) => some (score, rank)
  | _ => none

/-- The rank that a system has answered to the read. -/
def answeredRead (system : PlatformSystem) : Option (FinalScore × Nat) :=
  system.threads[4]?.bind answeredRank

theorem ranked_followed : (operated rankedLabels).map answeredRead =
    some (some (spinScore, 1)) := by
  decide +kernel

/-- The moments of the run. -/
def rankedMoments : PlatformMoments platform := .along catalogue_reachable rankedLabels

theorem ranked_started :
    (rankedMoments.system (scoredLabels.length + 1)).threads[4]? =
      some (Thread.fresh (operate platform)
        (.canonicalPlayerRank 1 1 (py "daily_spin") (-259200000000))) := by
  obtain ⟨system, isRun, facts⟩ := Option.map_eq_some_iff.mp scored_followed
  have isFourth : system.threads.length = 4 := (Prod.mk.inj facts).2
  exact isFourth ▸ Moments.along_start _ isRun

theorem ranked_ended :
    StatusAt (rankedMoments.system rankedLabels.length) 4
      (.finished (.ok (.rank spinScore 1))) := by
  obtain ⟨system, isRun, answered⟩ := Option.map_eq_some_iff.mp ranked_followed
  have isLast : rankedMoments.system rankedLabels.length = system :=
    Moments.along_last _ isRun
  rw [isLast]
  obtain ⟨thread, found, isRank⟩ := Option.bind_eq_some_iff.mp answered
  refine ⟨thread, found, ?_⟩
  unfold answeredRank at isRank
  split at isRank
  · next score rank isStatus =>
      cases isRank
      exact isStatus
  · cases isRank

end Sample

/-- A rank that a run answers after a score was submitted. -/
theorem reads_of_moments_ranked :
    ReadAnswer Sample.rankedMoments (Sample.scoredLabels.length + 1) Sample.rankedLabels.length
      (.canonicalPlayerRank 1 1 (py "daily_spin") (-259200000000))
      (.rank Sample.spinScore 1) :=
  reads_of_moments Sample.rankedMoments rfl Sample.ranked_started (by decide)
    Sample.ranked_ended

end RngGamePlatform
