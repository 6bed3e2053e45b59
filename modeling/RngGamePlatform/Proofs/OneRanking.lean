/-
Module: RngGamePlatform.Proofs.OneRanking
Purpose: All ranking queries of a leaderboard describe one total order.
Trusted boundary: none
Main exports: rankKey, rankingOrder_follows, RankingQueries, pagesFrom,
  listCanonicalScores_slice, queries_describe_one_ranking
-/
import RngGamePlatform.Proofs.Lifecycle
import RngGamePlatform.Rankings
import Mathlib.Data.Prod.Lex

namespace RngGamePlatform

open Encoding Relational

section Order

/-- The ranking key: the score descending, then the completion and the session
ascending. -/
def rankKey (row : FinalScore) : ℤ ×ₗ ℤ ×ₗ ℕ :=
  toLex (-row.finalScore, toLex (row.completedAt, row.sessionId.toNat))

/-- The key in terms of the columns. -/
theorem rankKey_lt {one other : FinalScore} : rankKey one < rankKey other ↔
    other.finalScore < one.finalScore ∨
      one.finalScore = other.finalScore ∧ (one.completedAt < other.completedAt ∨
        one.completedAt = other.completedAt ∧
          one.sessionId.toNat < other.sessionId.toNat) := by
  simp only [rankKey, Prod.Lex.toLex_lt_toLex, neg_lt_neg_iff, neg_inj]

theorem rankKey_injective {one other : FinalScore} (same : rankKey one = rankKey other) :
    one.sessionId = other.sessionId := by
  have pairs := congrArg (fun key => (ofLex (ofLex key).2).2) same
  exact BitVec.eq_of_toNat_eq pairs

/-- The columns of the queries follow the key. -/
theorem rankingOrder_follows : Follows rankKey
    [descending FinalScore.finalScore, ascending FinalScore.completedAt,
      ascending fun row => row.sessionId.toNat] := by
  intro one other
  rw [← not_lt, rankKey_lt]
  simp only [precedes, descending, ascending]
  split
  · next isLess =>
      have less := compare_lt_iff_lt.mp isLess
      simp only [true_iff, not_or, not_and]
      omega
  · next isGreater =>
      have greater := compare_gt_iff_gt.mp isGreater
      simp only [Bool.false_eq_true, false_iff, not_not]
      exact Or.inl greater
  · next isSame =>
      have same := compare_eq_iff_eq.mp isSame
      split
      · next isLess =>
          have less := compare_lt_iff_lt.mp isLess
          simp only [true_iff, not_or, not_and]
          omega
      · next isGreater =>
          have greater := compare_gt_iff_gt.mp isGreater
          simp only [Bool.false_eq_true, false_iff, not_not]
          exact Or.inr ⟨same, Or.inl greater⟩
      · next isSame' =>
          have same' := compare_eq_iff_eq.mp isSame'
          split
          · next isLess =>
              have less := compare_lt_iff_lt.mp isLess
              simp only [true_iff, not_or, not_and]
              omega
          · next isGreater =>
              have greater := compare_gt_iff_gt.mp isGreater
              simp only [Bool.false_eq_true, false_iff, not_not]
              exact Or.inr ⟨same, Or.inr ⟨same'.symm, greater⟩⟩
          · next isSame'' =>
              have same'' := compare_eq_iff_eq.mp isSame''
              simp only [true_iff, not_or, not_and]
              omega

/-- The condition of a keyset page is to have a greater key. -/
theorem behind_iff {place row : FinalScore} :
    behind (place.finalScore, place.completedAt, place.sessionId) row =
      decide (rankKey place < rankKey row) := by
  rw [Bool.eq_iff_iff, decide_eq_true_eq, rankKey_lt]
  simp only [behind, decide_eq_true_eq]
  constructor
  · rintro (lower | ⟨same, later⟩ | ⟨same, same', after⟩)
    · exact Or.inl lower
    · exact Or.inr ⟨same.symm, Or.inl later⟩
    · exact Or.inr ⟨same.symm, Or.inr ⟨same'.symm, after⟩⟩
  · rintro (lower | ⟨same, later | ⟨same', after⟩⟩)
    · exact Or.inl lower
    · exact Or.inr (Or.inl ⟨same.symm, later⟩)
    · exact Or.inr (Or.inr ⟨same.symm, same'.symm, after⟩)

end Order

section Queries

/-- The place of a row in the ranking, as a page is asked for. -/
def placeOf (row : FinalScore) : ScoreKey :=
  (row.finalScore, row.completedAt, row.sessionId)

/-- The pages that a reader sees who passes the last entry of each page on. -/
def pagesFrom (gameId : Uuid) (periodStart : Int) (limit : Nat) (db : Database) :
    Nat → Option ScoreKey → List (List FinalScore)
  | 0, _ => []
  | fuel + 1, after =>
      let page := listCanonicalScores gameId periodStart (some limit) 0 after db
      match page.getLast? with
      | none => []
      | some last =>
          page :: pagesFrom gameId periodStart limit db fuel (some (placeOf last))

/-- The queries of one board in terms of its ranking. -/
structure RankingQueries (gameId : Uuid) (periodStart : Int) (db : Database)
    (board : List FinalScore) : Prop where
  ranking : IsRanking rankKey (db.scores.filter (ofBoard gameId periodStart)) board
  slice : ∀ offset limit,
    listCanonicalScores gameId periodStart (some limit) offset none db =
      (board.drop offset).take limit
  after : ∀ index row, board[index]? = some row → ∀ limit,
    listCanonicalScores gameId periodStart (some limit) 0 (some (placeOf row)) db =
      (board.drop (index + 1)).take limit
  /-- The pages visit every entry once and in order, and then end. -/
  pages : ∀ limit, 1 ≤ limit → ∀ fuel, board.length < fuel →
    (pagesFrom gameId periodStart limit db fuel none).flatten = board
  rank : ∀ playerId, playerCanonicalRank playerId gameId periodStart db =
    (board.zipIdx 1).find? fun pair => pair.1.playerId = playerId
  unranked : ∀ playerId, playerCanonicalRank playerId gameId periodStart db = none ↔
    ∀ row ∈ board, row.playerId ≠ playerId
  settlement : listSettlementScores gameId periodStart db =
    firsts FinalScore.playerId board

variable {gameId : Uuid} {periodStart : Int} {db : Database} {board : List FinalScore}

/-- Without a place the query lists a slice of the ranking. -/
theorem listCanonicalScores_slice
    (ranking : IsRanking rankKey (db.scores.filter (ofBoard gameId periodStart)) board)
    (offset limit : Nat) :
    listCanonicalScores gameId periodStart (some limit) offset none db =
      (board.drop offset).take limit := by
  simp only [listCanonicalScores, ranking.orderBy_eq rankingOrder_follows]

/-- Behind a place the query lists the ranking from the next position on. -/
theorem listCanonicalScores_after
    (ranking : IsRanking rankKey (db.scores.filter (ofBoard gameId periodStart)) board)
    {index : Nat} {row : FinalScore} (found : board[index]? = some row) (limit : Nat) :
    listCanonicalScores gameId periodStart (some limit) 0 (some (placeOf row)) db =
      (board.drop (index + 1)).take limit := by
  have conditions : behind (placeOf row) =
      fun other => decide (rankKey row < rankKey other) :=
    funext fun other => behind_iff
  simp only [listCanonicalScores, conditions,
    (ranking.filter _).orderBy_eq rankingOrder_follows, ranking.after found,
    List.drop_zero]

/-- The pages from a position on are the rest of the ranking. -/
theorem pagesFrom_flatten
    (ranking : IsRanking rankKey (db.scores.filter (ofBoard gameId periodStart)) board)
    {limit : Nat} (positive : 1 ≤ limit) {fuel position : Nat} {after : Option ScoreKey}
    (enough : board.length < position + fuel)
    (rest : listCanonicalScores gameId periodStart (some limit) 0 after db =
      (board.drop position).take limit) :
    (pagesFrom gameId periodStart limit db fuel after).flatten = board.drop position := by
  induction fuel generalizing position after with
  | zero =>
      rw [List.drop_eq_nil_of_le (by omega)]
      rfl
  | succ fuel ih =>
      simp only [pagesFrom, rest]
      cases isLast : ((board.drop position).take limit).getLast? with
      | none =>
          have empty := List.getLast?_eq_none_iff.mp isLast
          rcases List.take_eq_nil_iff.mp empty with isZero | isEmpty
          · omega
          · simp [isEmpty]
      | some last =>
          have found : ((board.drop position).take limit)[
              ((board.drop position).take limit).length - 1]? = some last := by
            rw [← List.getLast?_eq_getElem?]
            exact isLast
          have long := List.length_take_le limit (board.drop position)
          have notEmpty : 0 < ((board.drop position).take limit).length :=
            List.length_pos_of_mem (List.mem_of_getLast? isLast)
          generalize isLength : ((board.drop position).take limit).length = size at *
          have inBoard : board[position + (size - 1)]? = some last := by
            rw [List.getElem?_take_of_lt (by omega), List.getElem?_drop] at found
            exact found
          have next := listCanonicalScores_after ranking inBoard limit
          have bound : position + (size - 1) < board.length :=
            (List.getElem?_eq_some_iff.mp inBoard).1
          have behindPage := @ih (position + (size - 1) + 1) _ (by omega) next
          rw [List.flatten_cons, behindPage]
          have split := List.take_append_drop size (board.drop position)
          rw [List.drop_drop] at split
          have page : (board.drop position).take limit = (board.drop position).take size := by
            rw [← isLength, List.length_take, List.take_eq_take_iff, List.length_drop]
            omega
          rw [page, show position + (size - 1) + 1 = position + size by omega]
          exact split

/-- The queries of a board whose scores have ids and sessions of their own. -/
theorem queries_describe_one_ranking (gameId : Uuid) (periodStart : Int) (db : Database)
    (ids : (db.scores.map FinalScore.id).Nodup)
    (sessions : ((db.scores.filter (ofBoard gameId periodStart)).map
      FinalScore.sessionId).Nodup) :
    ∃ board, RankingQueries gameId periodStart db board := by
  have apart : ((db.scores.filter (ofBoard gameId periodStart)).map rankKey).Nodup := by
    have injective : ∀ one other : FinalScore, rankKey one = rankKey other →
        one.sessionId = other.sessionId := fun _ _ => rankKey_injective
    rw [List.Nodup, List.pairwise_map] at sessions ⊢
    exact sessions.imp fun different same => different (injective _ _ same)
  have ranking := exists_ranking rankingOrder_follows apart
  have inTable : ∀ row ∈ db.scores.filter (ofBoard gameId periodStart), row ∈ db.scores :=
    fun row member => (List.mem_filter.mp member).1
  have rank : ∀ playerId, playerCanonicalRank playerId gameId periodStart db =
      ((orderBy rankingOrder (db.scores.filter (ofBoard gameId periodStart))).zipIdx
        1).find? fun pair => pair.1.playerId = playerId := by
    intro playerId
    have joined := ranking.join_rank rankingOrder_follows
      (fun row => decide (row.playerId = playerId)) ids inTable
    simp only [playerCanonicalRank, joined, List.head?_map, List.head?_filter,
      Option.map_map]
    exact congrFun Option.map_id _
  refine ⟨_,
    { ranking := ranking
      slice := listCanonicalScores_slice ranking
      after := fun index row found limit => listCanonicalScores_after ranking found limit
      pages := fun limit positive fuel enough => ?_
      rank := rank
      unranked := fun playerId => ?_
      settlement := ranking.join_firsts rankingOrder_follows FinalScore.playerId ids inTable }⟩
  · have first := listCanonicalScores_slice ranking 0 limit
    have long : (orderBy rankingOrder
        (db.scores.filter (ofBoard gameId periodStart))).length < 0 + fuel := by
      rw [Nat.zero_add]
      exact enough
    have all := pagesFrom_flatten ranking positive long first
    rwa [List.drop_zero] at all
  · rw [rank playerId, List.find?_eq_none]
    constructor
    · intro none row member isPlayer
      obtain ⟨index, found⟩ := List.getElem?_of_mem member
      have numbered : (row, index + 1) ∈ (orderBy rankingOrder
          (db.scores.filter (ofBoard gameId periodStart))).zipIdx 1 := by
        rw [List.mem_zipIdx_iff_le_and_getElem?_sub]
        exact ⟨Nat.le_add_left 1 index, found⟩
      exact none _ numbered (by simpa using isPlayer)
    · intro none pair member
      simpa using none pair.1 (List.fst_mem_of_mem_zipIdx member)

end Queries

namespace Sample

/-- Three scores of one week; two players, and a tie in the score. -/
def scored : Database :=
  { catalogue with
    scores :=
      [⟨41, 1, 4, 51, 61, 20, 0, 1000, 70⟩, ⟨42, 5, 4, 52, 62, 20, 0, 900, 90⟩,
        ⟨43, 1, 4, 53, 63, 20, 0, 800, 90⟩] }

end Sample

/-- The queries of a board of three scores. -/
theorem queries_describe_one_ranking_scored :
    playerCanonicalRank 1 4 0 Sample.scored =
        some (⟨43, 1, 4, 53, 63, 20, 0, 800, 90⟩, 1) ∧
      ∃ board, RankingQueries 4 0 Sample.scored board :=
  ⟨by decide +kernel,
    queries_describe_one_ranking 4 0 Sample.scored (by decide +kernel) (by decide +kernel)⟩

end RngGamePlatform
