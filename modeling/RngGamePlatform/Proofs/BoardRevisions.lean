/-
Module: RngGamePlatform.Proofs.BoardRevisions
Purpose: The ranked boards of a game period over a whole run: their entries stay in
  their order, and the revision that the insert trigger advances counts them.
Trusted boundary: none
Main exports: Inscribes, Statement.inscribes, Revised, rankedBoard, rankedBoard_ranking,
  BoardGrows, PlatformMoments, rankedBoard_sublist, BoardHistory, board_history,
  pagesOver, PagesFollow, pagesDuring, pages_during_run
-/
import RngGamePlatform.Proofs.EvidenceConservation
import RngGamePlatform.Proofs.OneRanking
import RngGamePlatform.Proofs.WrittenTables
import Mathlib.Data.List.NodupEquivFin

namespace RngGamePlatform

open Encoding Relational Transactions

variable {env : Platform} {db db' : Database}

/-! ### One statement -/

/-- A score was added, and the trigger has advanced its revision. -/
structure ScoreAdded (row : FinalScore) (db db' : Database) : Prop where
  scores : db'.scores = db.scores ++ [row]
  revisions : db'.revisions =
    Database.advanceRevision row.gameId row.periodStart db.revisions

/-- Nothing was done to the scores. -/
structure ScoresKept (db db' : Database) : Prop where
  scores : db'.scores = db.scores
  revisions : db'.revisions = db.revisions

/-- What one statement does to the catalogue and the boards. -/
structure Inscribes (db db' : Database) : Prop where
  players : db'.players = db.players
  games : db'.games = db.games
  configs : db'.configs = db.configs
  boards : ScoresKept db db' ∨ ∃ row, ScoreAdded row db db'

theorem Statement.inscribes {change : Database → Except ServiceError Database}
    (isStatement : Statement change) (changed : change db = .ok db') : Inscribes db db' := by
  cases isStatement with
  | session row =>
      obtain ⟨_, rfl⟩ := Database.insertSession_ok.mp changed
      exact ⟨rfl, rfl, rfl, .inl ⟨rfl, rfl⟩⟩
  | sessionChange row =>
      obtain ⟨_, rfl⟩ := Database.updateSession_ok.mp changed
      exact ⟨rfl, rfl, rfl, .inl ⟨rfl, rfl⟩⟩
  | proof row =>
      obtain ⟨_, rfl⟩ := Database.insertProof_ok.mp changed
      exact ⟨rfl, rfl, rfl, .inl ⟨rfl, rfl⟩⟩
  | custody row =>
      obtain ⟨_, rfl⟩ := Database.insertCustody_ok.mp changed
      exact ⟨rfl, rfl, rfl, .inl ⟨rfl, rfl⟩⟩
  | event row =>
      obtain ⟨_, rfl⟩ := Database.insertEvent_ok.mp changed
      exact ⟨rfl, rfl, rfl, .inl ⟨rfl, rfl⟩⟩
  | termination gameSession proof event =>
      obtain ⟨first, ended, changed⟩ := bind_eq_ok.mp changed
      obtain ⟨second, updated, inserted⟩ := bind_eq_ok.mp changed
      obtain ⟨_, rfl⟩ := Database.updateSession_ok.mp ended
      obtain ⟨_, rfl⟩ := Database.updateProof_ok.mp updated
      obtain ⟨_, rfl⟩ := Database.insertEvent_ok.mp inserted
      exact ⟨rfl, rfl, rfl, .inl ⟨rfl, rfl⟩⟩
  | reveal proof event =>
      obtain ⟨first, updated, inserted⟩ := bind_eq_ok.mp changed
      obtain ⟨_, rfl⟩ := Database.updateProof_ok.mp updated
      obtain ⟨_, rfl⟩ := Database.insertEvent_ok.mp inserted
      exact ⟨rfl, rfl, rfl, .inl ⟨rfl, rfl⟩⟩
  | outcome row =>
      obtain ⟨_, rfl⟩ := Database.insertOutcome_ok.mp changed
      exact ⟨rfl, rfl, rfl, .inl ⟨rfl, rfl⟩⟩
  | reward row =>
      obtain ⟨_, rfl⟩ := Database.insertReward_ok.mp changed
      exact ⟨rfl, rfl, rfl, .inl ⟨rfl, rfl⟩⟩
  | completion gameSession outcome reward playerId gameKey =>
      obtain ⟨first, updated, evidence⟩ := bind_eq_ok.mp changed
      obtain ⟨_, rfl⟩ := Database.updateSession_ok.mp updated
      obtain ⟨_, rfl⟩ := insertEvidence_ok.mp evidence
      exact ⟨rfl, rfl, rfl, .inl ⟨rfl, rfl⟩⟩
  | claim reward gameKey =>
      obtain ⟨first, updated, evidence⟩ := bind_eq_ok.mp changed
      cases updated
      obtain ⟨_, rfl⟩ := insertEvidence_ok.mp evidence
      exact ⟨rfl, rfl, rfl, .inl ⟨rfl, rfl⟩⟩
  | score row =>
      obtain ⟨_, rfl⟩ := Database.insertScore_ok.mp changed
      exact ⟨rfl, rfl, rfl, .inr ⟨row, rfl, rfl⟩⟩
  | run row =>
      obtain ⟨_, rfl⟩ := Database.insertRun_ok.mp changed
      exact ⟨rfl, rfl, rfl, .inl ⟨rfl, rfl⟩⟩
  | runChange row =>
      obtain ⟨_, rfl⟩ := Database.updateRun_ok.mp changed
      exact ⟨rfl, rfl, rfl, .inl ⟨rfl, rfl⟩⟩
  | recipient row =>
      obtain ⟨_, rfl⟩ := Database.insertRecipient_ok.mp changed
      exact ⟨rfl, rfl, rfl, .inl ⟨rfl, rfl⟩⟩
  | evidence audits events =>
      obtain ⟨_, rfl⟩ := insertEvidence_ok.mp changed
      exact ⟨rfl, rfl, rfl, .inl ⟨rfl, rfl⟩⟩

/-! ### The revisions -/

/-- The revision of a board among the rows of the revisions. -/
def revisionIn (gameId : Uuid) (periodStart : Int)
    (rows : List LeaderboardProjectionRevision) : Nat :=
  match rows.find? fun row => row.gameId = gameId ∧ row.periodStart = periodStart with
  | some row => row.revision
  | none => 0

/-- The trigger advances the revision of the board of the score, and no other. -/
theorem revisionIn_advance (gameId : Uuid) (periodStart : Int) (row : FinalScore)
    (rows : List LeaderboardProjectionRevision) :
    revisionIn gameId periodStart
        (Database.advanceRevision row.gameId row.periodStart rows) =
      revisionIn gameId periodStart rows + if ofBoard gameId periodStart row then 1 else 0 := by
  induction rows with
  | nil =>
      by_cases isBoard : row.gameId = gameId ∧ row.periodStart = periodStart
      · simp [Database.advanceRevision, revisionIn, ofBoard, isBoard]
      · simp [Database.advanceRevision, revisionIn, ofBoard, isBoard]
  | cons head rest ih =>
      simp only [Database.advanceRevision]
      split
      · next here =>
          by_cases isBoard : row.gameId = gameId ∧ row.periodStart = periodStart
          · simp [revisionIn, ofBoard, here.1, here.2, isBoard]
          · simp [revisionIn, ofBoard, here.1, here.2, isBoard]
      · next elsewhere =>
          by_cases isFirst : head.gameId = gameId ∧ head.periodStart = periodStart
          · have notBoard : ¬(row.gameId = gameId ∧ row.periodStart = periodStart) := by
              rintro ⟨rfl, rfl⟩
              exact elsewhere isFirst
            simp [revisionIn, ofBoard, isFirst, notBoard]
          · simpa [revisionIn, isFirst] using ih

/-- The revision of every board is the number of its scores. -/
def Revised (db : Database) : Prop :=
  ∀ gameId periodStart, leaderboardProjectionRevision gameId periodStart db =
    countCanonicalScores gameId periodStart db

theorem Revised.kept (revised : Revised db) (kept : ScoresKept db db') : Revised db' := by
  intro gameId periodStart
  have before := revised gameId periodStart
  simp only [leaderboardProjectionRevision, countCanonicalScores] at before ⊢
  rw [kept.scores, kept.revisions]
  exact before

theorem Revised.added {row : FinalScore} (revised : Revised db)
    (added : ScoreAdded row db db') : Revised db' := by
  intro gameId periodStart
  have before : revisionIn gameId periodStart db.revisions = _ := revised gameId periodStart
  have after := revisionIn_advance gameId periodStart row db.revisions
  have isRevision : leaderboardProjectionRevision gameId periodStart db' =
      revisionIn gameId periodStart db'.revisions := rfl
  rw [isRevision, added.revisions, after, before, countCanonicalScores, countCanonicalScores,
    added.scores, List.filter_append, List.length_append]
  cases isBoard : ofBoard gameId periodStart row <;> simp [isBoard]

theorem Inscribes.revised (inscribes : Inscribes db db') (revised : Revised db) :
    Revised db' := by
  rcases inscribes.boards with kept | ⟨row, added⟩
  · exact revised.kept kept
  · exact revised.added added

theorem NothingYet.revised (empty : NothingYet db) : Revised db := by
  intro gameId periodStart
  simp [leaderboardProjectionRevision, countCanonicalScores, empty.catalogue.revisions,
    empty.catalogue.scores]

/-- In every reachable state the revisions count the scores. -/
theorem revised_of_reachable {system : PlatformSystem}
    (reachable : PlatformReachable env system) : Revised system.db := by
  obtain ⟨start, begins, written⟩ := reachable.written operate_executes
  exact written.keeps
    (fun _ isStatement _ _ revised changed => (isStatement.inscribes changed).revised revised)
    begins.revised

/-! ### The boards -/

/-- The ranked board of a game period. -/
def rankedBoard (gameId : Uuid) (periodStart : Int) (db : Database) : List FinalScore :=
  listCanonicalScores gameId periodStart none 0 none db

theorem rankedBoard_length (gameId : Uuid) (periodStart : Int) (db : Database) :
    (rankedBoard gameId periodStart db).length = countCanonicalScores gameId periodStart db :=
  (orderBy_perm _ _).length_eq

/-- The board of tables whose scores have sessions of their own. -/
theorem rankedBoard_ranking (sessions : Unique FinalScore.sessionId db.scores)
    (gameId : Uuid) (periodStart : Int) :
    IsRanking rankKey (db.scores.filter (ofBoard gameId periodStart))
      (rankedBoard gameId periodStart db) := by
  apply exists_ranking rankingOrder_follows
  have apart := sessions.filter (ofBoard gameId periodStart)
  rw [List.Nodup, List.pairwise_map]
  exact apart.imp fun different same => different (rankKey_injective same)

/-- Scores are only added, and the catalogue stays. -/
structure BoardGrows (db db' : Database) : Prop where
  players : db'.players = db.players
  games : db'.games = db.games
  configs : db'.configs = db.configs
  scores : db.scores <+: db'.scores

theorem BoardGrows.refl (db : Database) : BoardGrows db db :=
  ⟨rfl, rfl, rfl, List.prefix_rfl⟩

theorem BoardGrows.trans {later : Database} (first : BoardGrows db db')
    (second : BoardGrows db' later) : BoardGrows db later :=
  ⟨second.players.trans first.players, second.games.trans first.games,
    second.configs.trans first.configs, first.scores.trans second.scores⟩

theorem Inscribes.grows (inscribes : Inscribes db db') : BoardGrows db db' := by
  refine ⟨inscribes.players, inscribes.games, inscribes.configs, ?_⟩
  rcases inscribes.boards with kept | ⟨row, added⟩
  · exact kept.scores ▸ List.prefix_rfl
  · exact added.scores ▸ List.prefix_append _ _

/-- The moments of one run of the platform. -/
abbrev PlatformMoments (env : Platform) := Moments Lock.conflicts (operate env) NothingYet

section Runs

variable (moments : PlatformMoments env)

theorem moments_grow {earlier later : Nat} (before : earlier ≤ later) :
    BoardGrows (moments.db earlier) (moments.db later) :=
  (moments.written operate_executes before).related .refl .trans
    fun _ isStatement _ _ changed => (isStatement.inscribes changed).grows

theorem moments_revised (moment : Nat) : Revised (moments.db moment) :=
  revised_of_reachable (moments.reachable moment)

theorem moments_sessions (moment : Nat) :
    Unique FinalScore.sessionId (moments.db moment).scores := by
  obtain ⟨⟨calls, consistent⟩, _⟩ := (platform_sound (moments.reachable moment)).inv
  exact consistent.keys.scoreSessions

theorem moments_ranking (moment : Nat) (gameId : Uuid) (periodStart : Int) :
    IsRanking rankKey ((moments.db moment).scores.filter (ofBoard gameId periodStart))
      (rankedBoard gameId periodStart (moments.db moment)) :=
  rankedBoard_ranking (moments_sessions moments moment) gameId periodStart

/-- The entries of a board stay, in their order. -/
theorem rankedBoard_sublist {earlier later : Nat} (before : earlier ≤ later) (gameId : Uuid)
    (periodStart : Int) : (rankedBoard gameId periodStart (moments.db earlier)).Sublist
      (rankedBoard gameId periodStart (moments.db later)) := by
  obtain ⟨news, isLater⟩ := (moments_grow moments before).scores
  have ranking := moments_ranking moments later gameId periodStart
  rw [← isLater, List.filter_append] at ranking
  exact (moments_ranking moments earlier gameId periodStart).sublist ranking

/-- What the revisions of a board say about its entries at two moments of a run. -/
structure BoardHistory (gameId : Uuid) (periodStart : Int) (db db' : Database) : Prop where
  /-- The revision counts the entries, before and after. -/
  counts : leaderboardProjectionRevision gameId periodStart db =
    (rankedBoard gameId periodStart db).length
  counts' : leaderboardProjectionRevision gameId periodStart db' =
    (rankedBoard gameId periodStart db').length
  /-- The same revision is the same board. -/
  same : leaderboardProjectionRevision gameId periodStart db' =
      leaderboardProjectionRevision gameId periodStart db →
    rankedBoard gameId periodStart db' = rankedBoard gameId periodStart db
  /-- No entry leaves the board, changes, moves up or overtakes another. -/
  kept : (rankedBoard gameId periodStart db).Sublist (rankedBoard gameId periodStart db')
  ranks : ∀ (index : Nat) (row : FinalScore),
    (rankedBoard gameId periodStart db)[index]? = some row →
    ∃ index' ≥ index, (rankedBoard gameId periodStart db')[index']? = some row

/-- An entry of a sublist stands at least as far back in the list. -/
theorem sublist_getElem? {α : Type} {fewer more : List α} (sublist : fewer.Sublist more)
    {index : Nat} {row : α} (found : fewer[index]? = some row) :
    ∃ index' ≥ index, more[index']? = some row := by
  obtain ⟨places, same⟩ := List.sublist_iff_exists_orderEmbedding_getElem?_eq.mp sublist
  exact ⟨places index, places.strictMono.le_apply, (same index).symm.trans found⟩

/-- In every run, the revision of a board counts its entries at every moment, the same
revision at two moments is the same board, and entries never leave, change, move up or
overtake each other. -/
theorem board_history {earlier later : Nat} (before : earlier ≤ later) (gameId : Uuid)
    (periodStart : Int) :
    BoardHistory gameId periodStart (moments.db earlier) (moments.db later) := by
  have counted : ∀ moment, leaderboardProjectionRevision gameId periodStart
      (moments.db moment) = (rankedBoard gameId periodStart (moments.db moment)).length := by
    intro moment
    rw [rankedBoard_length]
    exact moments_revised moments moment gameId periodStart
  have kept := rankedBoard_sublist moments before gameId periodStart
  constructor
  case counts => exact counted earlier
  case counts' => exact counted later
  case kept => exact kept
  case ranks => exact fun index row found => sublist_getElem? kept found
  case same =>
    intro sameRevision
    rw [counted, counted] at sameRevision
    exact (kept.eq_of_length sameRevision.symm).symm

end Runs

/-! ### Pages read during a run -/

/-- The pages that a reader sees who passes the last entry of each page on, while the
tables change from page to page; there are no more when one is empty. -/
def pagesOver (gameId : Uuid) (periodStart : Int) (limit : Nat) :
    List Database → Option ScoreKey → List (List FinalScore)
  | [], _ => []
  | db :: later, after =>
      let page := listCanonicalScores gameId periodStart (some limit) 0 after db
      match page.getLast? with
      | none => [page]
      | some last => page :: pagesOver gameId periodStart limit later (some (placeOf last))

/-- The rows of a board behind a row, or all of them. -/
def rowsBehind (last : Option FinalScore) (rows : List FinalScore) : List FinalScore :=
  match last with
  | none => rows
  | some last => rows.filter fun row => decide (rankKey last < rankKey row)

theorem mem_rowsBehind {last : Option FinalScore} {rows : List FinalScore} {row : FinalScore} :
    row ∈ rowsBehind last rows ↔
      row ∈ rows ∧ ∀ place, last = some place → rankKey place < rankKey row := by
  cases last with
  | none => simp [rowsBehind]
  | some place => simp [rowsBehind]

theorem rowsBehind_sublist (last : Option FinalScore) (rows : List FinalScore) :
    (rowsBehind last rows).Sublist rows := by
  cases last with
  | none => exact List.Sublist.refl rows
  | some place => exact List.filter_sublist

/-- A page is the beginning of the rows behind its place. -/
theorem page_eq (sessions : Unique FinalScore.sessionId db.scores) (gameId : Uuid)
    (periodStart : Int) (limit : Nat) (last : Option FinalScore) :
    listCanonicalScores gameId periodStart (some limit) 0 (last.map placeOf) db =
      (rowsBehind last (rankedBoard gameId periodStart db)).take limit := by
  have ranking := rankedBoard_ranking sessions gameId periodStart
  cases last with
  | none => exact listCanonicalScores_slice ranking 0 limit
  | some place =>
      have conditions : behind (placeOf place) =
          fun other => decide (rankKey place < rankKey other) :=
        funext fun other => behind_iff
      simp only [listCanonicalScores, Option.map_some, conditions,
        (ranking.filter _).orderBy_eq rankingOrder_follows, List.drop_zero, rowsBehind]

section Pages

variable (moments : PlatformMoments env) (gameId : Uuid) (periodStart : Int)

/-- What the pages of a reader from a place on have in common. -/
structure PagesFollow (limit : Nat) (last : Option FinalScore) (times : List Nat)
    (pages : List (List FinalScore)) : Prop where
  /-- Their entries come in the order of the ranking, each once, behind the place. -/
  ordered : pages.flatten.Pairwise fun one other => rankKey one < rankKey other
  behind : ∀ row ∈ pages.flatten, ∀ place, last = some place → rankKey place < rankKey row
  /-- Each was on the board when some page was read. -/
  genuine : ∀ row ∈ pages.flatten, ∃ time ∈ times,
    row ∈ rankedBoard gameId periodStart (moments.db time)
  /-- After a short page none of the entries that were there at the first page is
  missing. -/
  complete : ∀ first ∈ times.head?, (∃ page ∈ pages, page.length < limit) →
    ∀ row ∈ rowsBehind last (rankedBoard gameId periodStart (moments.db first)),
      row ∈ pages.flatten

variable {limit : Nat}

/-- The first rows of a ranked list end with the greatest of them, and what is not
greater is among them. -/
theorem mem_take_iff {rows : List FinalScore} {final : FinalScore}
    (increasing : rows.Pairwise fun one other => rankKey one < rankKey other)
    (isFinal : (rows.take limit).getLast? = some final) {row : FinalScore} :
    row ∈ rows.take limit ↔ row ∈ rows ∧ rankKey row ≤ rankKey final := by
  have split := List.take_append_drop limit rows
  have parts := List.pairwise_append.mp (split.symm ▸ increasing)
  have inPage : final ∈ rows.take limit := List.mem_of_getLast? isFinal
  constructor
  · intro member
    refine ⟨List.mem_of_mem_take member, ?_⟩
    obtain ⟨others, isPage⟩ := List.getLast?_eq_some_iff.mp isFinal
    rw [isPage] at member parts
    rcases List.mem_append.mp member with before | isLast
    · exact le_of_lt ((List.pairwise_append.mp parts.1).2.2 row before final (by simp))
    · rw [List.mem_singleton.mp isLast]
  · rintro ⟨member, below⟩
    rw [← split] at member
    rcases List.mem_append.mp member with inTake | inDrop
    · exact inTake
    · exact absurd below (parts.2.2 final inPage row inDrop).not_ge

variable {moments gameId periodStart}

/-- The entries of a page and of the pages behind its last entry. -/
theorem PagesFollow.cons {last : Option FinalScore} {time : Nat} {later : List Nat}
    {final : FinalScore} {pages : List (List FinalScore)}
    (increasing : (time :: later).Pairwise (· ≤ ·))
    (isFinal : ((rowsBehind last
      (rankedBoard gameId periodStart (moments.db time))).take limit).getLast? = some final)
    (stops : later = [] → pages = [])
    (rest : PagesFollow moments gameId periodStart limit (some final) later pages) :
    PagesFollow moments gameId periodStart limit last (time :: later)
      ((rowsBehind last (rankedBoard gameId periodStart (moments.db time))).take limit ::
        pages) := by
  have ranked : (rowsBehind last (rankedBoard gameId periodStart (moments.db time))).Pairwise
      fun one other => rankKey one < rankKey other :=
    (moments_ranking moments time gameId periodStart).increasing.sublist
      (rowsBehind_sublist _ _)
  have inPage : ∀ {row}, row ∈ (rowsBehind last (rankedBoard gameId periodStart
      (moments.db time))).take limit ↔ _ := mem_take_iff ranked isFinal
  have isBehind : ∀ row ∈ pages.flatten, rankKey final < rankKey row :=
    fun row member => rest.behind row member final rfl
  constructor
  case ordered =>
    rw [List.flatten_cons, List.pairwise_append]
    refine ⟨ranked.sublist (List.take_sublist _ _), rest.ordered, ?_⟩
    exact fun row member other follows =>
      lt_of_le_of_lt (inPage.mp member).2 (isBehind other follows)
  case behind =>
    intro row member place isLast
    rw [List.flatten_cons] at member
    rcases List.mem_append.mp member with here | follows
    · exact (mem_rowsBehind.mp (inPage.mp here).1).2 place isLast
    · have finalBehind := inPage.mp (List.mem_of_getLast? isFinal)
      exact ((mem_rowsBehind.mp finalBehind.1).2 place isLast).trans (isBehind row follows)
  case genuine =>
    intro row member
    rw [List.flatten_cons] at member
    rcases List.mem_append.mp member with here | follows
    · exact ⟨time, List.mem_cons_self, (mem_rowsBehind.mp (inPage.mp here).1).1⟩
    · obtain ⟨at', isTime, onBoard⟩ := rest.genuine row follows
      exact ⟨at', List.mem_cons_of_mem _ isTime, onBoard⟩
  case complete =>
    intro first isFirst short row member
    cases isFirst
    rw [List.flatten_cons, List.mem_append]
    obtain ⟨onBoard, behindLast⟩ := mem_rowsBehind.mp member
    obtain ⟨page, isPage, isShort⟩ := short
    rcases List.mem_cons.mp isPage with rfl | inPages
    · left
      rw [List.length_take] at isShort
      rwa [List.take_of_length_le (by omega)]
    · rcases le_or_gt (rankKey row) (rankKey final) with here | follows
      · exact .inl (inPage.mpr ⟨member, here⟩)
      · right
        cases later with
        | nil => simp [stops rfl] at inPages
        | cons next later =>
            have sooner : time ≤ next := (List.pairwise_cons.mp increasing).1 next (by simp)
            refine rest.complete next rfl ⟨page, inPages, isShort⟩ row ?_
            apply mem_rowsBehind.mpr
            refine ⟨(rankedBoard_sublist moments sooner gameId periodStart).subset onBoard, ?_⟩
            intro place isFinal'
            cases isFinal'
            exact follows

/-- The pages of a reader during a run, from a place on. -/
theorem pagesOver_follow {times : List Nat} (increasing : times.Pairwise (· ≤ ·))
    (last : Option FinalScore) :
    PagesFollow moments gameId periodStart limit last times
      (pagesOver gameId periodStart limit (times.map moments.db) (last.map placeOf)) := by
  induction times generalizing last with
  | nil =>
      exact ⟨.nil, by simp [pagesOver], by simp [pagesOver], by simp⟩
  | cons time later ih =>
      have page := page_eq (moments_sessions moments time) gameId periodStart limit last
      simp only [List.map_cons, pagesOver, page]
      cases isFinal : ((rowsBehind last
          (rankedBoard gameId periodStart (moments.db time))).take limit).getLast? with
      | some final =>
          refine PagesFollow.cons increasing isFinal ?_
            (ih (List.pairwise_cons.mp increasing).2 (some final))
          rintro rfl
          rfl
      | none =>
          have empty := List.getLast?_eq_none_iff.mp isFinal
          rw [empty]
          refine ⟨.nil, by simp, by simp, ?_⟩
          intro first isFirst short row member
          cases isFirst
          rcases List.take_eq_nil_iff.mp empty with isZero | isEmpty
          · simp [isZero] at short
          · rw [isEmpty] at member
            cases member

variable (moments gameId periodStart limit) in
/-- The pages of a reader who begins with the first entry, at the moments `times` of a run. -/
def pagesDuring (times : List Nat) : List (List FinalScore) :=
  pagesOver gameId periodStart limit (times.map moments.db) none

/-- A reader who passes the last entry of each page on, at increasing moments of any run,
sees entries of the board in the order of the ranking and none twice; and once a page is
short, every entry that was there at the first page was seen. -/
theorem pages_during_run (moments : PlatformMoments env) (gameId : Uuid) (periodStart : Int)
    (limit : Nat) {times : List Nat} (increasing : times.Pairwise (· ≤ ·)) :
    (pagesDuring moments gameId periodStart limit times).flatten.Pairwise
        (fun one other => rankKey one < rankKey other) ∧
      (∀ row ∈ (pagesDuring moments gameId periodStart limit times).flatten,
        ∃ time ∈ times, row ∈ rankedBoard gameId periodStart (moments.db time)) ∧
      ((∃ page ∈ pagesDuring moments gameId periodStart limit times, page.length < limit) →
        ∀ first ∈ times.head?, ∀ row ∈ rankedBoard gameId periodStart (moments.db first),
          row ∈ (pagesDuring moments gameId periodStart limit times).flatten) := by
  have follow : PagesFollow moments gameId periodStart limit none times
      (pagesDuring moments gameId periodStart limit times) :=
    pagesOver_follow increasing none
  exact ⟨follow.ordered, follow.genuine,
    fun short first isFirst row member => follow.complete first isFirst short row member⟩

end Pages

namespace Sample

/-- A daily spin is created, committed and evaluated, and its score is submitted. -/
def scoredLabels : List (Label Int Operation) :=
  calling (.request spin) 0 13 1000 ++ calling (.request commitSpin) 1 10 2000 ++
    calling (.request evaluateSpin) 2 14 3000 ++
      calling (.request (.submitFinalScore 32 1 45)) 3 11 4000

/-- The score of the spin. -/
def spinScore : FinalScore := ⟨45, 1, 2, 32, 34, 18, -259200000000, 3000, 10⟩

theorem scored_followed : (operated scoredLabels).map (fun system =>
    ((system.db.scores, system.db.revisions), system.threads.length)) =
      some (([spinScore], [⟨2, -259200000000, 1⟩]), 4) := by
  decide +kernel

theorem catalogue_reachable : PlatformReachable platform ⟨catalogue, []⟩ :=
  .start catalogue nothing_yet

/-- The moments of the run. -/
def scoredMoments : PlatformMoments platform := .along catalogue_reachable scoredLabels

/-- The last moment of the run. -/
theorem scoredMoments_last :
    (scoredMoments.db scoredLabels.length).scores = [spinScore] ∧
      (scoredMoments.db scoredLabels.length).revisions = [⟨2, -259200000000, 1⟩] := by
  obtain ⟨system, isRun, facts⟩ := Option.map_eq_some_iff.mp scored_followed
  have isLast : scoredMoments.system scoredLabels.length = system :=
    Moments.along_last _ isRun
  rw [Moments.db, isLast]
  exact Prod.mk.inj (Prod.mk.inj facts).1

theorem scoredMoments_board :
    rankedBoard 2 (-259200000000) (scoredMoments.db scoredLabels.length) = [spinScore] := by
  simp only [rankedBoard, listCanonicalScores, scoredMoments_last.1]
  decide +kernel

/-- More than the cooldown later the player spins again, and submits that score too. -/
def spunTwiceLabels : List (Label Int Operation) :=
  scoredLabels ++
    (calling (.request (.createSession 51 1 1 (py "daily_spin") ⟨52, []⟩)) 4 13 70000000 ++
      calling (.request (.commitFairness 52 1 ⟨53, seed⟩)) 5 10 70002000 ++
      calling (.request (.evaluateFairness 53 1 (py "lucky") ⟨54, 55, 8⟩)) 6 14 70003000 ++
      calling (.request (.submitFinalScore 52 1 65)) 7 11 70004000)

/-- The score of the second spin: as many points, later. -/
def secondScore : FinalScore := ⟨65, 1, 2, 52, 54, 18, -259200000000, 70003000, 10⟩

theorem twice_followed : (operated spunTwiceLabels).map (fun system => system.db.scores) =
    some [spinScore, secondScore] := by
  decide +kernel

/-- The moments of the run with both spins. -/
def twiceMoments : PlatformMoments platform := .along catalogue_reachable spunTwiceLabels

theorem twiceMoments_first :
    (twiceMoments.db scoredLabels.length).scores = [spinScore] := by
  obtain ⟨system, isRun, facts⟩ := Option.map_eq_some_iff.mp scored_followed
  have isFirst : twiceMoments.system scoredLabels.length = system :=
    Moments.along_then _ isRun
  rw [Moments.db, isFirst]
  exact (Prod.mk.inj (Prod.mk.inj facts).1).1

theorem twiceMoments_last :
    (twiceMoments.db spunTwiceLabels.length).scores = [spinScore, secondScore] := by
  obtain ⟨system, isRun, scores⟩ := Option.map_eq_some_iff.mp twice_followed
  have isLast : twiceMoments.system spunTwiceLabels.length = system :=
    Moments.along_last _ isRun
  rw [Moments.db, isLast]
  exact scores

/-- The boards after the first and after the second spin. -/
theorem twiceMoments_boards :
    rankedBoard 2 (-259200000000) (twiceMoments.db scoredLabels.length) = [spinScore] ∧
      rankedBoard 2 (-259200000000) (twiceMoments.db spunTwiceLabels.length) =
        [spinScore, secondScore] := by
  simp only [rankedBoard, listCanonicalScores, twiceMoments_first, twiceMoments_last]
  decide +kernel

theorem scored_before_twice : scoredLabels.length ≤ spunTwiceLabels.length := by
  rw [spunTwiceLabels, List.length_append]
  exact Nat.le_add_right _ _

end Sample

/-- The board of the first spin is the beginning of that of both spins. -/
theorem board_history_scored :
    rankedBoard 2 (-259200000000) (Sample.twiceMoments.db Sample.scoredLabels.length) =
        [Sample.spinScore] ∧
      rankedBoard 2 (-259200000000) (Sample.twiceMoments.db Sample.spunTwiceLabels.length) =
        [Sample.spinScore, Sample.secondScore] ∧
      BoardHistory 2 (-259200000000) (Sample.twiceMoments.db Sample.scoredLabels.length)
        (Sample.twiceMoments.db Sample.spunTwiceLabels.length) :=
  ⟨Sample.twiceMoments_boards.1, Sample.twiceMoments_boards.2,
    board_history Sample.twiceMoments Sample.scored_before_twice 2 (-259200000000)⟩

namespace Sample

/-- The first page is read before the second spin, the others after it. -/
def twiceTimes : List Nat :=
  [scoredLabels.length, spunTwiceLabels.length, spunTwiceLabels.length]

theorem twiceTimes_increasing : twiceTimes.Pairwise (· ≤ ·) := by
  simp [twiceTimes, scored_before_twice]

theorem pages_of_scores {early late : Database} (first : early.scores = [spinScore])
    (second : late.scores = [spinScore, secondScore]) :
    pagesOver 2 (-259200000000) 1 [early, late, late] none =
      [[spinScore], [secondScore], []] := by
  simp only [pagesOver, listCanonicalScores, first, second]
  decide +kernel

theorem twiceTimes_pages : pagesDuring twiceMoments 2 (-259200000000) 1 twiceTimes =
    [[spinScore], [secondScore], []] :=
  pages_of_scores twiceMoments_first twiceMoments_last

end Sample

/-- A page before the second spin, a page with its score after it, and an empty one. -/
theorem pages_during_run_scored :
    pagesDuring Sample.twiceMoments 2 (-259200000000) 1 Sample.twiceTimes =
        [[Sample.spinScore], [Sample.secondScore], []] ∧
      (∀ row ∈ (pagesDuring Sample.twiceMoments 2 (-259200000000) 1 Sample.twiceTimes).flatten,
        ∃ time ∈ Sample.twiceTimes,
          row ∈ rankedBoard 2 (-259200000000) (Sample.twiceMoments.db time)) ∧
      ∀ row ∈ rankedBoard 2 (-259200000000) (Sample.twiceMoments.db Sample.scoredLabels.length),
        row ∈ (pagesDuring Sample.twiceMoments 2 (-259200000000) 1 Sample.twiceTimes).flatten := by
  obtain ⟨-, genuine, complete⟩ := pages_during_run Sample.twiceMoments 2 (-259200000000) 1
    Sample.twiceTimes_increasing
  have isShort : [] ∈ pagesDuring Sample.twiceMoments 2 (-259200000000) 1 Sample.twiceTimes := by
    rw [Sample.twiceTimes_pages]
    exact List.mem_cons_of_mem _ (List.mem_cons_of_mem _ List.mem_cons_self)
  exact ⟨Sample.twiceTimes_pages, genuine,
    complete ⟨[], isShort, Nat.one_pos⟩ Sample.scoredLabels.length rfl⟩

end RngGamePlatform
