/-
Module: RngGamePlatform.Proofs.Standings
Purpose: The standings of a closed period, its reward tiers, and what every
  player is awarded.
Trusted boundary: none
Main exports: Standings, Standings.unique, standings_settlementScores, Tier,
  TiersOf, Award, awards, mem_awards, Standings.ranked_eq
-/
import RngGamePlatform.Proofs.OneRanking
import RngGamePlatform.Services.Settlement

namespace RngGamePlatform

open Encoding Relational Transactions

section Standings

/-- The best score of every player, from the first rank on. -/
structure Standings (scores best : List FinalScore) : Prop where
  player : ∀ row ∈ scores, ∃ top ∈ best, top.playerId = row.playerId
  score : ∀ top ∈ best, top ∈ scores
  top : ∀ top ∈ best, ∀ row ∈ scores, row.playerId = top.playerId →
    rankKey top ≤ rankKey row
  once : best.Pairwise fun one other => one.playerId ≠ other.playerId
  ordered : best.Pairwise fun one other => rankKey one < rankKey other

variable {scores best best' : List FinalScore}

/-- A board has one standings list. -/
theorem Standings.unique (sessions : Relational.Unique FinalScore.sessionId scores)
    (standings : Standings scores best) (standings' : Standings scores best') :
    best = best' := by
  have within : ∀ {one other : List FinalScore}, Standings scores one →
      Standings scores other → ∀ row ∈ one, row ∈ other := by
    intro one other isOne isOther row member
    obtain ⟨top, inOther, samePlayer⟩ := isOther.player row (isOne.score row member)
    have below := isOther.top top inOther row (isOne.score row member) samePlayer.symm
    have above := isOne.top row member top (isOther.score top inOther) samePlayer
    have same := sessions.eq (isOne.score row member) (isOther.score top inOther)
      (rankKey_injective (le_antisymm above below))
    exact same ▸ inOther
  have nodup : ∀ {one : List FinalScore}, Standings scores one → one.Nodup :=
    fun isOne => isOne.once.imp fun differs same => differs (congrArg _ same)
  refine List.Perm.eq_of_pairwise ?_ standings.ordered standings'.ordered ?_
  · intro one other _ _ before after
    exact absurd after before.not_gt
  · rw [List.perm_ext_iff_of_nodup (nodup standings) (nodup standings')]
    intro row
    exact ⟨within standings standings' row, within standings' standings row⟩

variable {gameId : Uuid} {periodStart : Int} {db : Database}

/-- The settlement query lists the standings of its board. -/
theorem standings_settlementScores (ids : Relational.Unique FinalScore.id db.scores)
    (sessions : Relational.Unique FinalScore.sessionId db.scores) :
    Standings (db.scores.filter (ofBoard gameId periodStart))
      (listSettlementScores gameId periodStart db) := by
  have boardSessions : ((db.scores.filter (ofBoard gameId periodStart)).map
      FinalScore.sessionId).Nodup := Unique.iff_nodup.mp (sessions.filter _)
  obtain ⟨board, queries⟩ := queries_describe_one_ranking gameId periodStart db
    (Unique.iff_nodup.mp ids) boardSessions
  have ranking := queries.ranking
  rw [queries.settlement]
  constructor
  case player =>
    intro row member
    have inBoard := ranking.mem_iff.mpr member
    have own : row ∈ board.filter fun other => other.playerId = row.playerId :=
      List.mem_filter.mpr ⟨inBoard, by simp⟩
    obtain ⟨top, isHead⟩ := Option.isSome_iff_exists.mp
      (List.isSome_head?.mpr (List.ne_nil_of_mem own))
    have samePlayer := (List.mem_filter.mp (List.mem_of_mem_head? isHead)).2
    simp only [decide_eq_true_eq] at samePlayer
    refine ⟨top, mem_firsts.mpr ?_, samePlayer⟩
    rw [samePlayer]
    exact isHead
  case score =>
    intro top member
    exact ranking.mem_iff.mp ((firsts_sublist _ _).subset member)
  case top =>
    intro top member row inScores samePlayer
    have isHead := mem_firsts.mp member
    have own : row ∈ board.filter fun other => other.playerId = top.playerId :=
      List.mem_filter.mpr ⟨ranking.mem_iff.mpr inScores, by simp [samePlayer]⟩
    have increasing := ranking.increasing.filter
      fun other : FinalScore => decide (other.playerId = top.playerId)
    cases rows : board.filter fun other => decide (other.playerId = top.playerId) with
    | nil => rw [rows] at own; cases own
    | cons head rest =>
        rw [rows] at isHead own increasing
        cases isHead
        rcases List.mem_cons.mp own with isTop | isLater
        · exact isTop ▸ le_refl _
        · exact ((List.pairwise_cons.mp increasing).1 row isLater).le
  case once => exact firsts_apart _ _
  case ordered => exact ranking.increasing.sublist (firsts_sublist _ _)

end Standings

section Tiers

/-- A tier that the columns of a recipient can hold. -/
structure Tier where
  key : PyStr
  minRank : Int
  maxRank : Int
  rewardValue : Int
  short : key.length ≤ 40
  nonneg : 0 ≤ rewardValue
  fits : rewardValue < 2 ^ 31

/-- The tier includes the rank. -/
def Tier.covers (rank : Nat) (tier : Tier) : Bool :=
  tier.minRank ≤ rank ∧ rank ≤ tier.maxRank

/-- The item has the fields of the tier. -/
structure Describes (item : Json) (tier : Tier) : Prop where
  key : item.get? (py "key") = some (.str tier.key)
  minRank : item.get? (py "min_rank") = some (.int tier.minRank)
  maxRank : item.get? (py "max_rank") = some (.int tier.maxRank)
  rewardValue : item.get? (py "reward_value") = some (.int tier.rewardValue)

/-- The payload lists the tiers, in order. -/
def TiersOf (payload : Json) (tiers : List Tier) : Prop :=
  ∃ items, payload.get? (py "tiers") = some (.arr items) ∧
    List.Forall₂ Describes items tiers

variable {item payload : Json} {tier : Tier} {items : List Json} {tiers : List Tier}
  {rank : Nat}

theorem Describes.coversRank (describes : Describes item tier) :
    coversRank rank item = tier.covers rank := by
  simp [RngGamePlatform.coversRank, intField, describes.minRank, describes.maxRank,
    Tier.covers]

theorem Describes.tierReward (describes : Describes item tier) :
    tierReward item = .ok (tier.key, tier.rewardValue) := by
  simp [RngGamePlatform.tierReward, intField, describes.key, describes.rewardValue,
    tier.nonneg]

/-- The search among the items finds the first tier that includes the rank. -/
theorem find_coversRank (described : List.Forall₂ Describes items tiers) (rank : Nat) :
    (items.find? (coversRank rank) = none ∧ tiers.find? (Tier.covers rank) = none) ∨
      ∃ item tier, items.find? (coversRank rank) = some item ∧
        tiers.find? (Tier.covers rank) = some tier ∧ Describes item tier := by
  induction described with
  | nil => exact Or.inl ⟨rfl, rfl⟩
  | @cons item tier items tiers describes _ ih =>
      simp only [List.find?_cons, describes.coversRank]
      cases covers : tier.covers rank with
      | true => exact Or.inr ⟨item, tier, rfl, rfl, describes⟩
      | false => exact ih

theorem payloadTiers_eq_ok (described : TiersOf payload tiers) :
    ∃ items, payloadTiers payload = .ok items ∧ List.Forall₂ Describes items tiers := by
  obtain ⟨items, listed, all⟩ := described
  refine ⟨items, ?_, all⟩
  cases payload with
  | obj fields => simp [payloadTiers, listed]
  | _ => simp [Json.get?] at listed

end Tiers

section Awards

/-- What a settlement gives to one player. -/
structure Award where
  playerId : Uuid
  scoreId : Uuid
  rank : Nat
  tierKey : PyStr
  rewardValue : Int
deriving DecidableEq

/-- What a recipient row records. -/
def SettlementRecipient.award (row : SettlementRecipient) : Award where
  playerId := row.playerId
  scoreId := row.scoreId
  rank := row.rank
  tierKey := row.tierKey
  rewardValue := row.rewardValue

def awardOf (score : FinalScore) (rank : Nat) (tier : Tier) : Award where
  playerId := score.playerId
  scoreId := score.id
  rank := rank
  tierKey := tier.key
  rewardValue := tier.rewardValue

/-- The award of a rank, when some tier includes it: the first such tier decides. -/
def rankAward (tiers : List Tier) (ranked : FinalScore × Nat) : Option Award :=
  (tiers.find? (Tier.covers ranked.2)).map (awardOf ranked.1 ranked.2)

/-- The awards of the ranks `1, 2, …` of the standings. -/
def awards (tiers : List Tier) (best : List FinalScore) : List Award :=
  (best.zipIdx 1).filterMap (rankAward tiers)

variable {tiers : List Tier} {best : List FinalScore} {award : Award}
  {one other : FinalScore × Nat}

/-- The awarded ranks fit their column. -/
def RanksFit (tiers : List Tier) (best : List FinalScore) : Prop :=
  ∀ award ∈ awards tiers best, award.rank < 2 ^ 31

theorem mem_awards : award ∈ awards tiers best ↔
    ∃ score rank tier, (score, rank) ∈ best.zipIdx 1 ∧
      tiers.find? (Tier.covers rank) = some tier ∧ award = awardOf score rank tier := by
  simp only [awards, List.mem_filterMap, rankAward, Option.map_eq_some_iff, Prod.exists]
  constructor
  · rintro ⟨score, rank, ranked, tier, found, rfl⟩
    exact ⟨score, rank, tier, ranked, found, rfl⟩
  · rintro ⟨score, rank, tier, ranked, found, rfl⟩
    exact ⟨score, rank, ranked, tier, found, rfl⟩

/-- Ranks are strictly increasing along the standings. -/
theorem ranks_increase (best : List FinalScore) (start : Nat) :
    (best.zipIdx start).Pairwise fun one other => one.2 < other.2 := by
  rw [List.pairwise_iff_getElem]
  intro i j inI inJ before
  simp only [List.getElem_zipIdx]
  omega

/-- One rank has one score. -/
theorem ranked_eq (inOne : one ∈ best.zipIdx 1) (inOther : other ∈ best.zipIdx 1)
    (same : one.2 = other.2) : one = other := by
  have apart : Relational.Unique Prod.snd (best.zipIdx 1) :=
    (ranks_increase best 1).imp fun before => before.ne
  exact apart.eq inOne inOther same

/-- One player has one rank. -/
theorem Standings.ranked_eq {scores : List FinalScore} (standings : Standings scores best)
    (inOne : one ∈ best.zipIdx 1) (inOther : other ∈ best.zipIdx 1)
    (same : one.1.playerId = other.1.playerId) : one = other := by
  have apart : Relational.Unique (fun ranked : FinalScore × Nat => ranked.1.playerId)
      (best.zipIdx 1) := by
    have players := Unique.iff_nodup.mp standings.once
    rw [Unique.iff_nodup]
    have firsts : (best.zipIdx 1).map (fun ranked => ranked.1.playerId) =
        best.map FinalScore.playerId := by
      rw [← List.zipIdx_map_fst 1 best, List.map_map]
      simp
    rw [firsts]
    exact players
  exact apart.eq inOne inOther same

end Awards

end RngGamePlatform
