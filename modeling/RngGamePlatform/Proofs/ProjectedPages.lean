/-
Module: RngGamePlatform.Proofs.ProjectedPages
Purpose: The leaderboard pages and ranks that are shown beside a run of the platform are
  those of PostgreSQL, whatever Redis answers.
Trusted boundary: none
Main exports: periodKeyOf_injective, Rebuild, Rebuild.signing, shownAs, Trusted,
  ShownPage, shown_pages, ShownRank, shown_ranks
-/
import RngGamePlatform.Encoding.Instants
import RngGamePlatform.Proofs.BoardRevisions
import RngGamePlatform.Proofs.ProjectionAuthenticity
import RngGamePlatform.Transactions.Reading

namespace RngGamePlatform

open Encoding Relational Transactions

/-! ### The texts of a scope -/

section Scopes

/-- Periods are told apart by their texts. -/
theorem periodKeyOf_injective {one other : Int} (monday : weekStart one = one)
    (otherMonday : weekStart other = other) (same : periodKeyOf one = periodKeyOf other) :
    one = other := by
  have midnight : ∀ {start : Int}, weekStart start = start →
      start = days 1 * dayNumber start := by
    intro start isStart
    simp only [weekStart, dayNumber, days, seconds] at isStart ⊢
    omega
  have early : ∀ {start : Int}, weekStart start = start → start % days 1 / seconds 1 = 0 := by
    intro start isStart
    simp only [weekStart, dayNumber, days, seconds] at isStart ⊢
    omega
  obtain ⟨⟨low, high⟩, lowDay, highDay⟩ := civil_bounds (dayNumber one)
  obtain ⟨⟨low', high'⟩, lowDay', highDay'⟩ := civil_bounds (dayNumber other)
  simp only [periodKeyOf, early monday, early otherMonday] at same
  have dates := List.append_cancel_right (List.append_cancel_right (List.append_cancel_right
    (List.append_cancel_right (List.append_cancel_right same))))
  have month := @length_zeroPadded 2 _ (by decide) low (by omega)
  have month' := @length_zeroPadded 2 _ (by decide) low' (by omega)
  have day := @length_zeroPadded 2 _ (by decide) lowDay (by omega)
  have day' := @length_zeroPadded 2 _ (by decide) lowDay' (by omega)
  obtain ⟨upToMonth, sameDay⟩ := List.append_inj' dates (by rw [day, day'])
  obtain ⟨sameYear, sameMonth⟩ := List.append_inj' upToMonth (by rw [month, month'])
  have sameCivil : civil (dayNumber one) = civil (dayNumber other) :=
    Prod.ext (zeroPadded_injective sameYear)
      (Prod.ext (zeroPadded_injective sameMonth) (zeroPadded_injective sameDay))
  rw [midnight monday, midnight otherMonday, civil_injective sameCivil]

/-- The keys of games with leaderboards are basic texts. -/
theorem basic_of_leaderboardRules {gameKey : PyStr} {rules : GameKey}
    (isRules : leaderboardRulesFor gameKey = .ok rules) : Basic gameKey := by
  have isValue : ∃ key : GameKey, gameKey = key.value := by
    unfold leaderboardRulesFor rulesFor at isRules
    split_ifs at isRules with daily prediction skill
    · exact ⟨_, daily⟩
    · exact ⟨_, prediction⟩
    · exact ⟨_, skill⟩
  obtain ⟨key, rfl⟩ := isValue
  cases key with
  | dailySpin => exact basic_py "daily_spin" (by decide)
  | predictionCard => exact basic_py "prediction_card" (by decide)
  | skillCheck => exact basic_py "skill_check" (by decide)

end Scopes

/-! ### Rebuilds -/

section Rebuilds

variable {env : Platform} {moments : PlatformMoments env} {crypto : Crypto}

/-- The games of a run stay. -/
theorem moments_games (moments : PlatformMoments env) (one other : Nat) :
    (moments.db one).games = (moments.db other).games :=
  (moments_grow moments (Nat.zero_le one)).games.trans
    (moments_grow moments (Nat.zero_le other)).games.symm

/-- As many entries at two moments are the same entries. -/
theorem rankedBoard_determined (moments : PlatformMoments env) {one other : Nat} {gameId : Uuid}
    {periodStart : Int}
    (same : (rankedBoard gameId periodStart (moments.db one)).length =
      (rankedBoard gameId periodStart (moments.db other)).length) :
    rankedBoard gameId periodStart (moments.db one) =
      rankedBoard gameId periodStart (moments.db other) := by
  rcases Nat.le_total one other with before | before
  · exact (rankedBoard_sublist moments before gameId periodStart).eq_of_length same
  · exact ((rankedBoard_sublist moments before gameId periodStart).eq_of_length same.symm).symm

/-- One rebuild of a board beside a run of the platform: its keys and its scope, and the
board and the revision that it has read, with the moments of its first and last read. -/
structure Rebuild (moments : PlatformMoments env) (crypto : Crypto) where
  integrity : ProjectionIntegrity
  redisKeyNamespace : PyStr
  unicode : UnicodeDigits
  gameKey : PyStr
  periodStart : Int
  monday : weekStart periodStart = periodStart
  generation : Uuid
  begins : Nat
  ends : Nat
  scores : List FinalScore
  revision : Nat
  read : (rebuildReads gameKey periodStart).Observes moments.db begins
    (.ok (some (scores, revision))) ends

namespace Rebuild

variable (rebuild : Rebuild moments crypto)

def settings : RebuildSettings where
  crypto := crypto
  integrity := rebuild.integrity
  redisKeyNamespace := rebuild.redisKeyNamespace
  gameKey := rebuild.gameKey
  periodKey := periodKeyOf rebuild.periodStart
  unicode := rebuild.unicode
  timestampMicros := floatMicros

def contract : ProjectionGeneration :=
  contractOf rebuild.settings (uuidStr rebuild.generation) rebuild.revision rebuild.scores.length

/-- The fields of the members, in the order of the board. -/
def members : List MemberFields :=
  (rebuild.scores.zipIdx 1).map fun numbered => fieldsOf rebuild.settings numbered.1 numbered.2

/-- A rebuild has read the board of its game at some moment. -/
theorem scores_eq : ∃ rules game moment, leaderboardRulesFor rebuild.gameKey = .ok rules ∧
    lookup Game.key rebuild.gameKey (moments.db moment).games = some game ∧
      rebuild.scores = rankedBoard game.id rebuild.periodStart (moments.db moment) := by
  have reads := rebuild.read
  unfold rebuildReads at reads
  cases isRules : leaderboardRulesFor rebuild.gameKey with
  | error error =>
      rw [isRules] at reads
      cases reads.ret_ok.1
  | ok rules =>
      rw [isRules] at reads
      obtain ⟨found, first, readsGame, reads⟩ := reads.bind_ok
      obtain ⟨-, isFound⟩ := readsGame.query_ok
      cases found with
      | none => cases reads.ret_ok.1
      | some game =>
          obtain ⟨scores, second, readsScores, reads⟩ := reads.bind_ok
          obtain ⟨-, isScores⟩ := readsScores.query_ok
          obtain ⟨revision, third, -, reads⟩ := reads.bind_ok
          cases reads.ret_ok.1
          refine ⟨rules, game, second, rfl, ?_, isScores⟩
          rw [moments_games moments second first]
          exact isFound.symm

theorem members_getElem? (index : Nat) : rebuild.members[index]? =
    rebuild.scores[index]?.map fun score => fieldsOf rebuild.settings score (index + 1) := by
  rw [members, List.getElem?_map, List.getElem?_zipIdx, Option.map_map, Nat.add_comm]
  rfl

theorem members_length : rebuild.members.length = rebuild.scores.length := by
  rw [members, List.length_map, List.length_zipIdx]

/-- What a rebuild signs. -/
def signing : Signing crypto where
  secret := rebuild.integrity.current
  contract := rebuild.contract
  members := rebuild.members
  keyId := rfl
  version := rfl
  scope :=
    { gameKey := by
        obtain ⟨rules, -, -, isRules, -⟩ := rebuild.scores_eq
        exact basic_of_leaderboardRules isRules
      periodStart := basic_periodKeyOf _
      generation := basic_uuidStr _ }
  canonical := by
    intro fields member
    obtain ⟨numbered, isNumbered, rfl⟩ := List.mem_map.mp member
    have fromOne : (1 : Int) ≤ numbered.2 := by
      exact_mod_cast List.le_snd_of_mem_zipIdx isNumbered
    exact ⟨⟨_, rfl⟩, ⟨_, rfl⟩, ⟨_, rfl⟩, fromOne⟩
  ranks := by
    intro index fields found
    rw [rebuild.members_getElem?] at found
    obtain ⟨score, -, rfl⟩ := Option.map_eq_some_iff.mp found
    exact Int.natCast_succ index
  count := by
    rw [rebuild.members_length]
    rfl

end Rebuild

end Rebuilds

/-! ### Rows of a board -/

section Rows

/-- The results of calls that give what a function gives. -/
theorem mapM_results {α β : Type} {f : α → Option β} {g : α → β} {list : List α}
    {results : List β} (given : ∀ a ∈ list, ∀ b, f a = some b → b = g a)
    (mapped : list.mapM f = some results) : results = list.map g := by
  have calls := mapM_eq_some_iff.mp mapped
  induction calls with
  | nil => rfl
  | cons isFirst _ ih =>
      have rest := ih (fun a member => given a (List.mem_cons_of_mem _ member))
        (mapM_eq_some_iff.mpr ‹_›)
      rw [List.map_cons, given _ List.mem_cons_self _ isFirst, rest]

/-- A slice of the numbered rows is the slice, numbered from its place. -/
theorem slice_zipIdx {α : Type} (rows : List α) (offset limit first : Nat) :
    ((rows.zipIdx first).drop offset).take limit =
      ((rows.drop offset).take limit).zipIdx (first + offset) := by
  apply List.ext_getElem?
  intro index
  simp only [List.getElem?_take, List.getElem?_drop, List.getElem?_zipIdx]
  split
  · cases rows[offset + index]? with
    | none => rfl
    | some row => simp only [Option.map_some, Nat.add_assoc]
  · rfl

end Rows

/-! ### Projected entries -/

section Entries

variable {env : Platform} {moments : PlatformMoments env} {reader : ProjectionReader}
  {publicLabel : Uuid → PyStr} {ownerId : Uuid} {begins ends : Nat}

/-- An entry as its source shows it: Redis holds the instant as a rounded number. -/
def shownAs : PageSource → LeaderboardEntry → LeaderboardEntry
  | .postgresql, entry => entry
  | .redis, entry => { entry with completedAt := fromTimestamp (floatMicros entry.completedAt) }

/-- A row of a rebuild is shown as the entry of the score. -/
theorem shownEntry_fieldsOf {settings : RebuildSettings}
    (asFloat : settings.timestampMicros = floatMicros) {score : FinalScore} {rank : Nat}
    {label : PyStr} {entry : LeaderboardEntry}
    (shown : shownEntry reader (fieldsOf settings score rank) label ownerId = some entry) :
    entry = shownAs .redis (databaseEntry score rank label ownerId) := by
  simp only [shownEntry, projectedEntry, fieldsOf, uuidOf_uuidStr, asFloat, Option.bind_eq_bind,
    Option.bind_some] at shown
  split_ifs at shown
  exact (Option.some.inj shown).symm

/-- The entries of projected rows of a board are those of the board. -/
theorem projectedEntries_shown {settings : RebuildSettings}
    (asFloat : settings.timestampMicros = floatMicros) {numbered : List (FinalScore × Nat)}
    {selected : List LeaderboardEntry}
    (observes : (projectedEntries reader publicLabel ownerId
      (numbered.map fun row => fieldsOf settings row.1 row.2)).Observes moments.db begins
        (.ok (some selected)) ends) :
    selected = numbered.map fun row => shownAs .redis
      (databaseEntry row.1 row.2 (publicLabel row.1.playerId) ownerId) := by
  unfold projectedEntries at observes
  cases ofPlayers : (numbered.map fun row => fieldsOf settings row.1 row.2).mapM
      fun row => uuidOf reader.unicode row.playerId with
  | none =>
      rw [ofPlayers] at observes
      cases observes.ret_ok.1
  | some playerIds =>
      rw [ofPlayers] at observes
      obtain ⟨labels, middle, labelled, shown⟩ := observes.bind_ok
      have isLabels : labels = publicLabel := by
        obtain ⟨known, later, -, labelled⟩ := labelled.bind_ok
        obtain ⟨checked, last, -, labelled⟩ := labelled.bind_ok
        exact labelled.ret_ok.1
      rw [isLabels] at shown
      have mapped := shown.ret_ok.1.symm
      have isPlayers : playerIds = numbered.map fun row => row.1.playerId := by
        rw [List.mapM_map] at ofPlayers
        refine mapM_results ?_ ofPlayers
        intro row _ playerId isPlayer
        simp only [Function.comp_def, fieldsOf, uuidOf_uuidStr, Option.some.injEq] at isPlayer
        exact isPlayer.symm
      rw [isPlayers, List.zip_map', List.mapM_map] at mapped
      refine mapM_results ?_ mapped
      exact fun row _ entry isEntry => shownEntry_fieldsOf asFloat isEntry

end Entries

/-! ### What a reader is shown -/

section Shown

variable {env : Platform} {moments : PlatformMoments env} {reader : ProjectionReader}
  {publicLabel : Uuid → PyStr} {ownerId playerId : Uuid} {gameKey : PyStr} {periodStart : Int}
  {offset limit begins ends : Nat}

/-- A game has the key at some moment, and so at every one. -/
def GameOf (moments : PlatformMoments env) (gameKey : PyStr) (game : Game) : Prop :=
  ∀ moment, lookup Game.key gameKey (moments.db moment).games = some game

theorem gameOf_of_moment {game : Game} {moment : Nat}
    (found : lookup Game.key gameKey (moments.db moment).games = some game) :
    GameOf moments gameKey game := by
  intro other
  rw [moments_games moments other moment]
  exact found

theorem GameOf.unique {game other : Game} (one : GameOf moments gameKey game)
    (two : GameOf moments gameKey other) : game = other :=
  Option.some.inj ((one 0).symm.trans (two 0))

theorem eligibleLeaderboardGame_ok {game : Game}
    (observes : (eligibleLeaderboardGame gameKey).Observes moments.db begins (.ok game) ends) :
    GameOf moments gameKey game ∧ begins ≤ ends := by
  refine ⟨?_, observes.le⟩
  obtain ⟨found, first, readsGame, observes⟩ := observes.bind_ok
  obtain ⟨raised, second, isFound, observes⟩ := observes.bind_ok
  obtain ⟨-, third, -, observes⟩ := observes.bind_ok
  obtain ⟨-, fourth, -, observes⟩ := observes.bind_ok
  obtain ⟨rfl, -⟩ := observes.ret_ok
  exact gameOf_of_moment (readsGame.query_ok.2.symm.trans isFound.orRaise_ok.1)

/-- The facts are of the game: the count is of a moment during the read, and the revision
counts the entries at its end. -/
theorem leaderboardProjectionFacts_ok {player : Option Uuid} {facts : Game × Nat × Nat}
    (observes : (leaderboardProjectionFacts ownerId gameKey periodStart player).Observes
      moments.db begins (.ok facts) ends) :
    GameOf moments gameKey facts.1 ∧ ∃ moment, begins ≤ moment ∧ moment ≤ ends ∧
      facts.2.1 = (rankedBoard facts.1.id periodStart (moments.db moment)).length ∧
      facts.2.2 = (rankedBoard facts.1.id periodStart (moments.db ends)).length := by
  obtain ⟨_, first, required, observes⟩ := observes.bind_ok
  obtain ⟨_, second, active, observes⟩ := observes.bind_ok
  obtain ⟨game, third, eligible, observes⟩ := observes.bind_ok
  obtain ⟨count, fourth, counted, observes⟩ := observes.bind_ok
  obtain ⟨revision, fifth, revised, observes⟩ := observes.bind_ok
  obtain ⟨rfl, rfl⟩ := observes.ret_ok
  obtain ⟨isGame, -⟩ := eligibleLeaderboardGame_ok eligible
  obtain ⟨-, isCount⟩ := counted.query_ok
  obtain ⟨-, isRevision⟩ := revised.query_ok
  refine ⟨isGame, fourth, ?_, revised.le, isCount.trans (rankedBoard_length _ _ _).symm, ?_⟩
  swap
  · rw [rankedBoard_length]
    exact isRevision.trans (moments_revised moments _ _ _)
  exact required.le.trans (active.le.trans (eligible.le.trans counted.le))

/-- The rebuilds of a reader have generations of their own, and nobody else signs. -/
structure Trusted (reader : ProjectionReader) (rebuilds : List (Rebuild moments reader.crypto)) :
    Prop where
  generations : (rebuilds.map Rebuild.generation).Nodup
  unforged : ∀ reads integrity, reader.configured = some (reads, integrity) →
    Unforged reader.unicode reads integrity (rebuilds.map Rebuild.signing)

variable {rebuilds : List (Rebuild moments reader.crypto)}

theorem Trusted.apart (trusted : Trusted reader rebuilds) :
    GenerationsApart (rebuilds.map Rebuild.signing) := by
  intro one isOne other isOther same
  obtain ⟨rebuild, member, rfl⟩ := List.mem_map.mp isOne
  obtain ⟨rebuild', member', rfl⟩ := List.mem_map.mp isOther
  rw [List.inj_on_of_nodup_map trusted.generations member member' (uuidStr_injective same)]

/-- A rebuild of as many entries as the board of a moment has its entries. -/
theorem Rebuild.scores_of_length {rebuild : Rebuild moments reader.crypto} {game : Game}
    {moment : Nat} (monday : weekStart periodStart = periodStart)
    (isGame : GameOf moments gameKey game) (sameKey : rebuild.contract.gameKey = gameKey)
    (samePeriod : rebuild.contract.periodStart = periodKeyOf periodStart)
    (sameLength : rebuild.members.length =
      (rankedBoard game.id periodStart (moments.db moment)).length) :
    rebuild.scores = rankedBoard game.id periodStart (moments.db moment) := by
  obtain ⟨rules, own, readAt, -, found, isBoard⟩ := rebuild.scores_eq
  have isKey : rebuild.gameKey = gameKey := sameKey
  have isPeriod : rebuild.periodStart = periodStart :=
    periodKeyOf_injective rebuild.monday monday samePeriod
  rw [isKey] at found
  have isOwn : own = game := (gameOf_of_moment found).unique isGame
  rw [isPeriod, isOwn] at isBoard
  rw [rebuild.members_length, isBoard] at sameLength
  rw [isBoard]
  exact rankedBoard_determined moments sameLength

/-- The rows that Redis gives of a page are those of the board. -/
theorem page_rows (trusted : Trusted reader rebuilds)
    (monday : weekStart periodStart = periodStart) {game : Game} {moment count revision : Nat}
    (isGame : GameOf moments gameKey game)
    (isCount : count = (rankedBoard game.id periodStart (moments.db moment)).length)
    {rows : List MemberFields}
    (read : reader.page gameKey periodStart offset limit count revision = some rows) :
    ∃ settings : RebuildSettings, settings.timestampMicros = floatMicros ∧
      rows = ((((rankedBoard game.id periodStart (moments.db moment)).drop offset).take
        limit).zipIdx (offset + 1)).map fun row => fieldsOf settings row.1 row.2 := by
  unfold ProjectionReader.page at read
  obtain ⟨⟨reads, integrity⟩, isConfigured, read⟩ := Option.bind_eq_some_iff.mp read
  obtain ⟨signing, known, sameKey, samePeriod, -, isLength, isRows⟩ :=
    projectedPage_authentic (trusted.unforged reads integrity isConfigured) trusted.apart read
  obtain ⟨rebuild, -, rfl⟩ := List.mem_map.mp known
  have isScores := rebuild.scores_of_length monday isGame sameKey samePeriod
    (isLength.trans isCount)
  refine ⟨rebuild.settings, rfl, ?_⟩
  have isMembers : rebuild.signing.members =
      (rebuild.scores.zipIdx 1).map fun row => fieldsOf rebuild.settings row.1 row.2 := rfl
  rw [isRows, isMembers, ← List.map_drop, ← List.map_take, slice_zipIdx, isScores,
    Nat.add_comm 1 offset]

/-- The page of the database is one of its board at a moment during the read. -/
theorem databasePage_ok {page : LeaderboardPage}
    (observes : (databasePage publicLabel ownerId gameKey periodStart offset limit).Observes
      moments.db begins (.ok page) ends) :
    ∃ game moment, GameOf moments gameKey game ∧ begins ≤ moment ∧ moment ≤ ends ∧
      page = pageOf .postgresql limit (databaseEntries publicLabel ownerId (offset + 1)
        (((rankedBoard game.id periodStart (moments.db moment)).drop offset).take
          (limit + 1))) := by
  obtain ⟨listed, first, listing, observes⟩ := observes.bind_ok
  obtain ⟨labels, second, labelling, observes⟩ := observes.bind_ok
  obtain ⟨rfl, rfl⟩ := observes.ret_ok
  obtain ⟨_, third, active, listing⟩ := listing.bind_ok
  obtain ⟨game, fourth, eligible, listing⟩ := listing.bind_ok
  obtain ⟨scores, fifth, scored, listing⟩ := listing.bind_ok
  obtain ⟨rfl, rfl⟩ := listing.ret_ok
  obtain ⟨-, isScores⟩ := scored.query_ok
  refine ⟨game, first, (eligibleLeaderboardGame_ok eligible).1,
    active.le.trans (eligible.le.trans scored.le), labelling.le, ?_⟩
  rw [isScores, listCanonicalScores_slice (moments_ranking moments first game.id periodStart)]

/-- A page that is shown is one of the board at a moment during the read. -/
def ShownPage (moments : PlatformMoments env) (publicLabel : Uuid → PyStr) (ownerId : Uuid)
    (gameKey : PyStr) (periodStart : Int) (offset limit begins ends : Nat)
    (page : LeaderboardPage) : Prop :=
  ∃ game moment, GameOf moments gameKey game ∧ begins ≤ moment ∧ moment ≤ ends ∧
    page = pageOf page.source limit ((databaseEntries publicLabel ownerId (offset + 1)
      (((rankedBoard game.id periodStart (moments.db moment)).drop offset).take
        (limit + 1))).map (shownAs page.source))

/-- Whatever Redis answers, a page that is shown is that of PostgreSQL at a moment between
the beginning and the end of the read. -/
theorem shown_pages (trusted : Trusted reader rebuilds)
    (monday : weekStart periodStart = periodStart) {page : LeaderboardPage}
    (observes : (showPage reader publicLabel ownerId gameKey periodStart offset limit).Observes
      moments.db begins (.ok page) ends) :
    ShownPage moments publicLabel ownerId gameKey periodStart offset limit begins ends page := by
  obtain ⟨facts, first, factual, observes⟩ := observes.bind_ok
  obtain ⟨isGame, moment, after, before, isCount, -⟩ := leaderboardProjectionFacts_ok factual
  obtain ⟨projected, second, projecting, observes⟩ := observes.bind_ok
  cases projected with
  | none =>
      obtain ⟨game, moment, ofGame, after, before, isPage⟩ := databasePage_ok observes
      refine ⟨game, moment, ofGame, (factual.le.trans projecting.le).trans after, before, ?_⟩
      have plain : shownAs .postgresql = id := rfl
      have isSource : page.source = .postgresql := by rw [isPage]; rfl
      rw [isSource, plain, List.map_id]
      exact isPage
  | some selected =>
      obtain ⟨rfl, rfl⟩ := observes.ret_ok
      refine ⟨facts.1, moment, isGame, after, before.trans projecting.le, ?_⟩
      cases read : reader.page gameKey periodStart offset (limit + 1) facts.2.1 facts.2.2 with
      | none =>
          rw [read] at projecting
          cases projecting.ret_ok.1
      | some rows =>
          rw [read] at projecting
          obtain ⟨settings, asFloat, isRows⟩ := page_rows trusted monday isGame isCount read
          have isSelected := projectedEntries_shown asFloat (isRows ▸ projecting)
          rw [isSelected, databaseEntries, List.map_map]
          rfl

/-! ### Ranks -/

theorem projectedPlayerRank_row (trusted : Trusted reader rebuilds)
    (monday : weekStart periodStart = periodStart) {game : Game} {moment count revision : Nat}
    (isGame : GameOf moments gameKey game)
    (isCount : count = (rankedBoard game.id periodStart (moments.db moment)).length)
    {row : MemberFields}
    (read : reader.rank gameKey periodStart playerId count revision = some row) :
    ∃ settings : RebuildSettings, settings.timestampMicros = floatMicros ∧
      ∃ (index : Nat) (score : FinalScore), score.playerId = playerId ∧
        (rankedBoard game.id periodStart (moments.db moment))[index]? = some score ∧
          row = fieldsOf settings score (index + 1) := by
  unfold ProjectionReader.rank at read
  obtain ⟨⟨reads, integrity⟩, isConfigured, read⟩ := Option.bind_eq_some_iff.mp read
  obtain ⟨signing, known, sameKey, samePeriod, -, isLength, isPlayer, index, -, isEntry⟩ :=
    projectedPlayerRank_authentic (trusted.unforged reads integrity isConfigured) trusted.apart
      read
  obtain ⟨rebuild, -, rfl⟩ := List.mem_map.mp known
  have isScores := rebuild.scores_of_length monday isGame sameKey samePeriod
    (isLength.trans isCount)
  have isMember := (rebuild.members_getElem? index).symm.trans isEntry
  obtain ⟨score, isScore, rfl⟩ := Option.map_eq_some_iff.mp isMember
  exact ⟨rebuild.settings, rfl, index, score, uuidStr_injective isPlayer, isScores ▸ isScore, rfl⟩

/-- The rank of a player in the database is that of the first entry of the player. -/
theorem playerCanonicalRank_ok {gameId : Uuid} {moment : Nat} {score : FinalScore} {rank : Nat}
    (found : playerCanonicalRank playerId gameId periodStart (moments.db moment) =
      some (score, rank)) :
    ∃ index : Nat, rank = index + 1 ∧ score.playerId = playerId ∧
      (rankedBoard gameId periodStart (moments.db moment))[index]? = some score ∧
      ∀ other ∈ (rankedBoard gameId periodStart (moments.db moment)).take index,
        other.playerId ≠ playerId := by
  obtain ⟨_, ledger⟩ := (platform_sound (moments.reachable moment)).inv
  have inTable : ∀ row ∈ (moments.db moment).scores.filter (ofBoard gameId periodStart),
      row ∈ (moments.db moment).scores := fun row member => (List.mem_filter.mp member).1
  have ids : ((moments.db moment).scores.map FinalScore.id).Nodup :=
    Unique.iff_nodup.mp ledger.scoreIds
  have joined := (moments_ranking moments moment gameId periodStart).join_rank
    rankingOrder_follows (fun row => decide (row.playerId = playerId)) ids inTable
  simp only [playerCanonicalRank, joined, List.head?_map, List.head?_filter, Option.map_map,
    Option.map_eq_some_iff] at found
  obtain ⟨pair, isFirst, isPair⟩ := found
  cases isPair
  obtain ⟨ofPlayer, before, after, whole, others⟩ := List.find?_eq_some_iff_append.mp isFirst
  obtain ⟨ahead, rest, isBoard, isAhead, isRest⟩ := List.zipIdx_eq_append_iff.mp whole
  cases rest with
  | nil => cases isRest
  | cons first rest =>
      rw [List.zipIdx_cons] at isRest
      obtain ⟨isScore, -⟩ := List.cons.inj isRest
      cases isScore
      refine ⟨ahead.length, Nat.add_comm _ _, of_decide_eq_true ofPlayer, ?_, ?_⟩
      · rw [isBoard, List.getElem?_append_right (Nat.le_refl _), Nat.sub_self]
        rfl
      · intro other inFront isPlayer
        rw [isBoard, List.take_left] at inFront
        obtain ⟨place, inRange, isOther⟩ := List.mem_iff_getElem.mp inFront
        have numbered : (other, 1 + place) ∈ before := by
          rw [isAhead, List.mk_mem_zipIdx_iff_le_and_getElem?_sub]
          refine ⟨by omega, ?_⟩
          rw [Nat.add_sub_cancel_left, List.getElem?_eq_getElem inRange, isOther]
        have notPlayer := others _ numbered
        simp [isPlayer] at notPlayer

/-- A rank that is shown is that of an entry of the player on the board at a moment during
the read, and in the database that of the best one. -/
def ShownRank (moments : PlatformMoments env) (publicLabel : Uuid → PyStr)
    (playerId ownerId : Uuid) (gameKey : PyStr) (periodStart : Int) (begins ends : Nat)
    (rank : LeaderboardRank) : Prop :=
  ∃ game moment index score, GameOf moments gameKey game ∧ begins ≤ moment ∧ moment ≤ ends ∧
    (rankedBoard game.id periodStart (moments.db moment))[index]? = some score ∧
    score.playerId = playerId ∧
    (rank.source = .postgresql →
      ∀ other ∈ (rankedBoard game.id periodStart (moments.db moment)).take index,
        other.playerId ≠ playerId) ∧
    rank.entry = shownAs rank.source
      (databaseEntry score (index + 1 : Nat) (publicLabel playerId) ownerId)

theorem databaseRank_ok {rank : LeaderboardRank}
    (observes : (databaseRank publicLabel playerId ownerId gameKey periodStart).Observes
      moments.db begins (.ok rank) ends) :
    ShownRank moments publicLabel playerId ownerId gameKey periodStart begins ends rank := by
  obtain ⟨ranked, first, ranking, observes⟩ := observes.bind_ok
  obtain ⟨labels, second, labelling, observes⟩ := observes.bind_ok
  obtain ⟨rfl, rfl⟩ := observes.ret_ok
  have isLabels : labels = publicLabel := by
    obtain ⟨known, later, -, labelled⟩ := labelling.bind_ok
    obtain ⟨checked, last, -, labelled⟩ := labelled.bind_ok
    exact labelled.ret_ok.1
  obtain ⟨_, third, required, ranking⟩ := ranking.bind_ok
  obtain ⟨_, fourth, active, ranking⟩ := ranking.bind_ok
  obtain ⟨game, fifth, eligible, ranking⟩ := ranking.bind_ok
  obtain ⟨found, sixth, read, raised⟩ := ranking.bind_ok
  obtain ⟨isFound, rfl⟩ := raised.orRaise_ok
  obtain ⟨-, isRank⟩ := read.query_ok
  obtain ⟨score, number⟩ := ranked
  obtain ⟨index, rfl, ofPlayer, atIndex, best⟩ :=
    playerCanonicalRank_ok (isRank.symm.trans isFound)
  refine ⟨game, first, index, score, (eligibleLeaderboardGame_ok eligible).1, ?_, labelling.le,
    atIndex, ofPlayer, fun _ => best, ?_⟩
  · exact required.le.trans (active.le.trans (eligible.le.trans read.le))
  · rw [isLabels, ofPlayer]
    rfl

/-- Whatever Redis answers, a rank that is shown is that of an entry of the player on the
board of PostgreSQL at a moment between the beginning and the end of the read. -/
theorem shown_ranks (trusted : Trusted reader rebuilds)
    (monday : weekStart periodStart = periodStart) {rank : LeaderboardRank}
    (observes : (showRank reader publicLabel playerId ownerId gameKey periodStart).Observes
      moments.db begins (.ok rank) ends) :
    ShownRank moments publicLabel playerId ownerId gameKey periodStart begins ends rank := by
  obtain ⟨facts, first, factual, observes⟩ := observes.bind_ok
  obtain ⟨isGame, moment, after, before, isCount, -⟩ := leaderboardProjectionFacts_ok factual
  obtain ⟨projected, second, projecting, observes⟩ := observes.bind_ok
  cases head : projected.bind List.head? with
  | none =>
      rw [head] at observes
      obtain ⟨game, moment, index, score, isGame, after, shown⟩ := databaseRank_ok observes
      exact ⟨game, moment, index, score, isGame,
        (factual.le.trans projecting.le).trans after, shown⟩
  | some entry =>
      rw [head] at observes
      obtain ⟨rfl, rfl⟩ := observes.ret_ok
      cases read : reader.rank gameKey periodStart playerId facts.2.1 facts.2.2 with
      | none =>
          rw [read] at projecting
          rw [projecting.ret_ok.1] at head
          cases head
      | some row =>
          rw [read] at projecting
          obtain ⟨settings, asFloat, index, score, ofPlayer, atIndex, rfl⟩ :=
            projectedPlayerRank_row trusted monday isGame isCount read
          cases projected with
          | none => cases head
          | some selected =>
              have isSelected := @projectedEntries_shown _ _ _ _ _ _ _ _ asFloat
                [(score, index + 1)] _ projecting
              rw [isSelected] at head
              cases head
              refine ⟨facts.1, moment, index, score, isGame, after,
                before.trans projecting.le, atIndex, ofPlayer, ?_, ?_⟩
              · intro isDatabase
                cases isDatabase
              · rw [← ofPlayer]

end Shown

namespace Sample

/-- The catalogue at the last moment of the run. -/
theorem scoredMoments_catalogue :
    (scoredMoments.db scoredLabels.length).players = catalogue.players ∧
      (scoredMoments.db scoredLabels.length).games = catalogue.games := by
  have grown := moments_grow scoredMoments (Nat.zero_le scoredLabels.length)
  have first : scoredMoments.db 0 = catalogue :=
    congrArg System.db (Moments.along_first catalogue_reachable scoredLabels)
  rw [first] at grown
  exact ⟨grown.players, grown.games⟩

def dailySpin : Game := ⟨2, py "daily_spin", true⟩

theorem spin_scores : listCanonicalScores 2 (-259200000000) none 0 none
    (scoredMoments.db scoredLabels.length) = [spinScore] := scoredMoments_board

theorem spin_revision : leaderboardProjectionRevision 2 (-259200000000)
    (scoredMoments.db scoredLabels.length) = 1 := by
  simp only [leaderboardProjectionRevision, scoredMoments_last.2]
  decide

theorem spin_game : lookup Game.key (py "daily_spin")
    (scoredMoments.db scoredLabels.length).games = some dailySpin := by
  rw [scoredMoments_catalogue.2]
  decide

theorem spin_player : playerById 1 (scoredMoments.db scoredLabels.length) =
    some ⟨1, .active⟩ := by
  rw [playerById, scoredMoments_catalogue.1]
  decide

/-- A query at the last moment. -/
theorem asked {α : Type} {answer : Database → α} {found : α}
    (isFound : answer (scoredMoments.db scoredLabels.length) = found) :
    (read answer).Observes scoredMoments.db scoredLabels.length (.ok found)
      scoredLabels.length :=
  isFound ▸ .query (Nat.le_refl _)

theorem spin_rules : leaderboardRulesFor (py "daily_spin") = .ok .dailySpin := by decide

/-- A rebuild at the last moment. -/
def spinRebuild : Rebuild scoredMoments signedOnly where
  integrity := writer
  redisKeyNamespace := []
  unicode := id
  gameKey := py "daily_spin"
  periodStart := -259200000000
  monday := by decide
  generation := 9
  begins := scoredLabels.length
  ends := scoredLabels.length
  scores := [spinScore]
  revision := 1
  read := by
    unfold rebuildReads
    rw [spin_rules]
    refine .bind (asked spin_game) ?_
    refine .bind (asked spin_scores) ?_
    refine .bind (asked spin_revision) ?_
    exact .ret

theorem spinRebuild_messages : spinRebuild.signing.messages = spinMessages := by
  decide +kernel

theorem spin_trusted : Trusted spinReader [spinRebuild] where
  generations := List.nodup_singleton _
  unforged := by
    intro reads integrity configured
    cases configured
    intro secret isSecret payload _ shows
    refine ⟨spinRebuild.signing, List.mem_singleton.mpr rfl, ?_, ?_⟩
    · exact (List.mem_singleton.mp isSecret).symm
    · exact spinRebuild_messages ▸ signed_of_shown shows

theorem spin_active : (activePlayer 1).Observes scoredMoments.db scoredLabels.length (.ok ())
    scoredLabels.length := by
  unfold activePlayer
  refine .bind (asked spin_player) ?_
  refine .bind .ret ?_
  exact .require rfl

theorem spin_eligible : (eligibleLeaderboardGame (py "daily_spin")).Observes scoredMoments.db
    scoredLabels.length (.ok dailySpin) scoredLabels.length := by
  unfold eligibleLeaderboardGame
  refine .bind (asked spin_game) ?_
  refine .bind .ret ?_
  refine .bind (.require rfl) ?_
  have rules : (byRules .leaderboardGameIneligible (leaderboardRulesFor dailySpin.key)).Observes
      scoredMoments.db scoredLabels.length (.ok GameKey.dailySpin) scoredLabels.length := .ret
  exact .bind rules .ret

theorem spin_count : countCanonicalScores 2 (-259200000000)
    (scoredMoments.db scoredLabels.length) = 1 := by
  rw [← rankedBoard_length, scoredMoments_board, List.length_singleton]

theorem spin_facts {player : Option Uuid} (own : player.all (fun id => id = 1) = true) :
    (leaderboardProjectionFacts 1 (py "daily_spin") (-259200000000) player).Observes
      scoredMoments.db scoredLabels.length (.ok (dailySpin, 1, 1)) scoredLabels.length := by
  unfold leaderboardProjectionFacts
  refine .bind (.require own) ?_
  refine .bind spin_active ?_
  refine .bind spin_eligible ?_
  refine .bind (asked spin_count) ?_
  refine .bind (asked spin_revision) ?_
  exact .ret

/-- The entry, with the label that the player is given. -/
def spinEntry : LeaderboardEntry where
  rank := 1
  scoreId := 45
  sessionId := 32
  publicLabel := py "Player 1"
  isCurrentPlayer := true
  finalScore := 10
  completedAt := 3000

theorem spin_projected : (projectedEntries spinReader (fun _ => py "Player 1") 1
    [spinFields]).Observes scoredMoments.db scoredLabels.length (.ok (some [spinEntry]))
      scoredLabels.length := by
  unfold projectedEntries
  have players : [spinFields].mapM (fun row => uuidOf spinReader.unicode row.playerId) =
      some [1] := by decide +kernel
  rw [players]
  have known : ([1] : List Uuid).all (fun id =>
      (playerById id (scoredMoments.db scoredLabels.length)).isSome) = true := by
    simp only [List.all_cons, spin_player]
    rfl
  have labelled : (publicLeaderboardLabels (fun _ => py "Player 1") [1]).Observes
      scoredMoments.db scoredLabels.length (.ok fun _ => py "Player 1") scoredLabels.length :=
    .bind (asked known) (.bind (.require rfl) .ret)
  refine .bind labelled ?_
  · have shown : ([spinFields].zip [1]).mapM (fun row => shownEntry spinReader row.1
        (py "Player 1") 1) = some [spinEntry] := by decide +kernel
    exact shown ▸ .ret

/-- The page that Redis gives. -/
def shownSpinPage : LeaderboardPage := pageOf .redis 1 [spinEntry]

theorem spin_shown : (showPage spinReader (fun _ => py "Player 1") 1 (py "daily_spin")
    (-259200000000) 0 1).Observes scoredMoments.db scoredLabels.length (.ok shownSpinPage)
      scoredLabels.length := by
  unfold showPage
  refine .bind (spin_facts rfl) ?_
  rw [spin_page]
  refine .bind spin_projected ?_
  exact .ret

/-- The rank that Redis gives. -/
def shownSpinRank : LeaderboardRank := ⟨.redis, spinEntry⟩

theorem spin_ranked : (showRank spinReader (fun _ => py "Player 1") 1 1 (py "daily_spin")
    (-259200000000)).Observes scoredMoments.db scoredLabels.length (.ok shownSpinRank)
      scoredLabels.length := by
  unfold showRank
  refine .bind (spin_facts rfl) ?_
  simp only [spin_rank]
  refine .bind spin_projected ?_
  exact .ret

end Sample

/-- A page of Redis is that of the database, and so is a rank. -/
theorem shown_pages_spin :
    ShownPage Sample.scoredMoments (fun _ => py "Player 1") 1 (py "daily_spin") (-259200000000)
      0 1 Sample.scoredLabels.length Sample.scoredLabels.length Sample.shownSpinPage :=
  shown_pages Sample.spin_trusted (by decide) Sample.spin_shown

theorem shown_ranks_spin :
    ShownRank Sample.scoredMoments (fun _ => py "Player 1") 1 1 (py "daily_spin")
      (-259200000000) Sample.scoredLabels.length Sample.scoredLabels.length Sample.shownSpinRank :=
  shown_ranks Sample.spin_trusted (by decide) Sample.spin_ranked

end RngGamePlatform
