/-
Module: RngGamePlatform.Projections.Pages
Purpose: The leaderboard pages and ranks that are shown: of answers of Redis that pass
  every check against the database and the signatures, or else of the database.
Trusted boundary: human-reviewed semantics
Main exports: periodKeyOf, ProjectionReads, rangeOf, storeReads, ProjectionReader,
  validatedGeneration, projectedPage, projectedPlayerRank, LeaderboardPage, LeaderboardRank,
  showPage, showRank, rebuildReads
-/
import RngGamePlatform.Projections.Reader
import RngGamePlatform.Services.Leaderboards

namespace RngGamePlatform

open Encoding Relational Stores Transactions

/-- The text of a period start in the format `%Y%m%dT%H%M%SZ`. -/
def periodKeyOf (periodStart : Int) : PyStr :=
  let date := civil (dayNumber periodStart)
  let second := periodStart % days 1 / seconds 1
  zeroPadded 4 date.1 ++ zeroPadded 2 date.2.1 ++ zeroPadded 2 date.2.2 ++ py "T" ++
    zeroPadded 2 (second / 3600) ++ zeroPadded 2 (second / 60 % 60) ++
      zeroPadded 2 (second % 60) ++ py "Z"

example : periodKeyOf (seconds 1783900800) = py "20260713T000000Z" := by decide

/-! ### Reads of the projection -/

/-- What Redis answers to the commands of one read; none for a `RedisError`. -/
structure ProjectionReads where
  get : PyStr → Option (Option PyStr)
  hgetall : PyStr → Option TextDict
  zcard : PyStr → Option Int
  /-- The entries of a range of ranks, with their scores. -/
  zrange : PyStr → (start stop : Int) → Option (List (PyStr × PyFloat))
  hget : PyStr → PyStr → Option (Option PyStr)
  zscore : PyStr → PyStr → Option (Option PyFloat)
  zrank : PyStr → PyStr → Option (Option Int)
  /-- A dict has each of its names once. -/
  names : ∀ key fields, hgetall key = some fields → (fields.map Prod.fst).Nodup

/-- The names of a dict differ. -/
theorem dictOf_names {ν : Type} (entries : List (PyStr × ν)) :
    ((dictOf entries).map Prod.fst).Nodup := by
  have step : ∀ kept : List (PyStr × ν), (kept.map Prod.fst).Nodup →
      ((entries.foldl (fun kept entry =>
        if entry.1 ∈ kept.map Prod.fst then
          kept.map fun other => if other.1 = entry.1 then entry else other
        else kept ++ [entry]) kept).map Prod.fst).Nodup := by
    induction entries with
    | nil => exact fun _ nodup => nodup
    | cons entry rest ih =>
        intro kept nodup
        apply ih
        dsimp only
        split
        · have names : (kept.map fun other => if other.1 = entry.1 then entry else other).map
              Prod.fst = kept.map Prod.fst := by
            rw [List.map_map]
            apply List.map_congr_left
            intro other _
            simp only [Function.comp_apply]
            split
            · next same => exact same.symm
            · rfl
          rw [names]
          exact nodup
        · next absent =>
            rw [List.map_append, List.nodup_append]
            refine ⟨nodup, List.nodup_singleton _, ?_⟩
            intro one inKept other isEntry same
            rw [List.mem_singleton.mp isEntry] at same
            exact absent (same ▸ inKept)
  exact step [] List.nodup_nil

/-- The entries between two ranks, which count from the end when they are negative. -/
def rangeOf {α : Type} (start stop : Int) (entries : List α) : List α :=
  let size : Int := entries.length
  let first := if start < 0 then max 0 (size + start) else start
  let last := if stop < 0 then size + stop else stop
  (entries.drop first.toNat).take (last - first + 1).toNat

/-- The answers of a store that fails at no command; a command fails on a key of another
kind. -/
def storeReads (cache : Cache) : ProjectionReads where
  get := fun key =>
    match cache key with
    | none => some none
    | some ⟨.text value, _⟩ => some (some value)
    | some _ => none
  hgetall := fun key =>
    match cache key with
    | none => some []
    | some ⟨.hash fields, _⟩ => some (dictOf fields)
    | some _ => none
  zcard := fun key =>
    match cache key with
    | none => some 0
    | some ⟨.sortedSet set, _⟩ => some set.card
    | some _ => none
  zrange := fun key start stop =>
    match cache key with
    | none => some []
    | some ⟨.sortedSet set, _⟩ =>
        some ((rangeOf start stop set.range).map fun entry : PyStr × Int =>
          (entry.1, .finite entry.2))
    | some _ => none
  hget := fun key name =>
    match cache key with
    | none => some none
    | some ⟨.hash fields, _⟩ =>
        some ((fields.reverse.find? fun field => field.1 = name).map Prod.snd)
    | some _ => none
  zscore := fun key member =>
    match cache key with
    | none => some none
    | some ⟨.sortedSet set, _⟩ =>
        some ((set.score? member).map fun score : Int => .finite score)
    | some _ => none
  zrank := fun key member =>
    match cache key with
    | none => some none
    | some ⟨.sortedSet set, _⟩ => some ((set.rank? member).map fun rank : Nat => (rank : Int))
    | some _ => none
  names := by
    intro key fields answered
    split at answered
    · cases answered
      exact List.nodup_nil
    · cases answered
      exact dictOf_names _
    · cases answered

/-- A reader of the projection: its hash functions, its client and keys if they are
configured, and the namespace of its keys. -/
structure ProjectionReader where
  crypto : Crypto
  unicode : UnicodeDigits
  redisKeyNamespace : PyStr
  client : Option ProjectionReads
  integrity : Option ProjectionIntegrity

section Reading

variable (reader : ProjectionReader) (reads : ProjectionReads)
  (integrity : ProjectionIntegrity)

/-- The current generation, if its metadata is authentic and says what the database says.
None also stands for the exceptions that the readers of a page or a rank catch. -/
def validatedGeneration (gameKey periodStart : PyStr) (expectedCount expectedRevision : Nat) :
    Option (ProjectionGeneration × ProjectionKeys) := do
  let pointer ← reads.get (leaderboardPointerKey gameKey periodStart reader.redisKeyNamespace)
  let generation := uuidStr (← uuidOf reader.unicode (← pointer))
  let keys := projectionGenerationKeys gameKey periodStart generation reader.redisKeyNamespace
  let fields ← reads.hgetall keys.metadata
  let cardinality ← reads.zcard keys.members
  let contract ← (← (verifyMetadata reader.crypto reader.unicode integrity fields gameKey
    periodStart generation expectedRevision expectedCount).toOption)
  if cardinality = expectedCount then some (contract, keys) else none

/-- A member that is authentic and has the given rank. -/
def memberAt (contract : ProjectionGeneration) (member : PyStr) (score : PyFloat)
    (rank : Int) : Option MemberFields := do
  let fields ← (← (parseMember reader.crypto reader.unicode integrity contract member
    score).toOption)
  if fields.rank = rank then some fields else none

/-- Read and authenticate only one requested projection page. -/
def projectedPage (gameKey periodStart : PyStr) (offset limit : Nat)
    (expectedCount expectedRevision : Nat) : Option (List MemberFields) := do
  let (contract, keys) ← validatedGeneration reader reads integrity gameKey periodStart
    expectedCount expectedRevision
  let rows ← reads.zrange keys.members offset (offset + limit - 1)
  if rows.length = min limit (expectedCount - offset) then
    (rows.zipIdx (offset + 1)).mapM fun row =>
      memberAt reader integrity contract row.1.1 row.1.2 row.2
  else none

/-- Read one authenticated player member and its rank without scanning Redis. -/
def projectedPlayerRank (gameKey periodStart playerId : PyStr)
    (expectedCount expectedRevision : Nat) : Option MemberFields := do
  let (contract, keys) ← validatedGeneration reader reads integrity gameKey periodStart
    expectedCount expectedRevision
  let member ← (← reads.hget keys.players playerId)
  let score ← (← reads.zscore keys.members member)
  let rank ← (← reads.zrank keys.members member)
  let fields ← memberAt reader integrity contract member score (rank + 1)
  if fields.playerId = playerId then some fields else none

end Reading

/-- The client and the keys of a reader that has both. -/
def ProjectionReader.configured (reader : ProjectionReader) :
    Option (ProjectionReads × ProjectionIntegrity) := do
  let reads ← reader.client
  let integrity ← reader.integrity
  return (reads, integrity)

/-! ### Pages and ranks -/

inductive PageSource where
  | postgresql
  | redis
deriving DecidableEq

/-- One transport-ready page selected by the projection policy. -/
structure LeaderboardPage where
  source : PageSource
  items : List LeaderboardEntry
  hasMore : Bool
deriving DecidableEq

/-- One transport-ready player rank selected by the projection policy. -/
structure LeaderboardRank where
  source : PageSource
  entry : LeaderboardEntry
deriving DecidableEq

/-- The page of the selected entries, of which one more than the limit was asked for. -/
def pageOf (source : PageSource) (limit : Nat) (selected : List LeaderboardEntry) :
    LeaderboardPage where
  source := source
  items := selected.take limit
  hasMore := limit < selected.length

/-- The first and the last microsecond that a `datetime` can have. -/
def datetimeRange : Int × Int := (-62135596800000000, 253402300799999999)

section Showing

variable (reader : ProjectionReader) (publicLabel : Uuid → PyStr)

/-- The entry of a projected row; none for a `ValueError`. -/
def shownEntry (row : MemberFields) (label : PyStr) (ownerId : Uuid) :
    Option LeaderboardEntry := do
  let entry ← projectedEntry reader.unicode row label ownerId
  if datetimeRange.1 ≤ entry.completedAt ∧ entry.completedAt ≤ datetimeRange.2 then some entry
  else none

/-- The generated labels of players, who must all exist. -/
def publicLeaderboardLabels (playerIds : List Uuid) : Prog (Uuid → PyStr) := do
  let known ← read fun db => playerIds.all fun id => (playerById id db).isSome
  require .notFound (known = true)
  return publicLabel

/-- The entries of projected rows; none when a row cannot be shown. -/
def projectedEntries (ownerId : Uuid) (rows : List MemberFields) :
    Prog (Option (List LeaderboardEntry)) :=
  match rows.mapM fun row => uuidOf reader.unicode row.playerId with
  | none => .ret none
  | some playerIds => do
      let labels ← publicLeaderboardLabels publicLabel playerIds
      return (rows.zip playerIds).mapM fun row => shownEntry reader row.1 (labels row.2) ownerId

/-- The entries of what Redis has given. -/
def givenEntries (ownerId : Uuid) : Option (List MemberFields) →
    Prog (Option (List LeaderboardEntry))
  | some rows => projectedEntries reader publicLabel ownerId rows
  | none => .ret none

/-- The entries of scores from a rank on. -/
def databaseEntries (ownerId : Uuid) (first : Nat) (scores : List FinalScore) :
    List LeaderboardEntry :=
  (scores.zipIdx first).map fun numbered =>
    databaseEntry numbered.1 numbered.2 (publicLabel numbered.1.playerId) ownerId

/-- The page of the database. -/
def databasePage (ownerId : Uuid) (gameKey : PyStr) (periodStart : Int)
    (offset limit : Nat) : Prog LeaderboardPage := do
  let listed ← canonicalLeaderboard ownerId gameKey periodStart (limit + 1) offset none
  let _labels ← publicLeaderboardLabels publicLabel (listed.2.map FinalScore.playerId)
  return pageOf .postgresql limit (databaseEntries publicLabel ownerId (offset + 1) listed.2)

/-- The rows that Redis gives of a page, if a reader has all it needs. -/
def ProjectionReader.page (gameKey : PyStr) (periodStart : Int) (offset limit : Nat)
    (count revision : Nat) : Option (List MemberFields) := do
  let (reads, integrity) ← reader.configured
  projectedPage reader reads integrity gameKey (periodKeyOf periodStart) offset limit count
    revision

/-- A page of the leaderboard, from Redis only after PostgreSQL validates its complete
generation. -/
def showPage (ownerId : Uuid) (gameKey : PyStr) (periodStart : Int)
    (offset limit : Nat) : Prog LeaderboardPage := do
  let facts ← leaderboardProjectionFacts ownerId gameKey periodStart none
  let projected ← givenEntries reader publicLabel ownerId
    (reader.page gameKey periodStart offset (limit + 1) facts.2.1 facts.2.2)
  match projected with
  | some selected => return pageOf .redis limit selected
  | none => databasePage publicLabel ownerId gameKey periodStart offset limit

/-- The row that Redis gives of a player, if a reader has all it needs. -/
def ProjectionReader.rank (gameKey : PyStr) (periodStart : Int) (playerId : Uuid)
    (count revision : Nat) : Option MemberFields := do
  let (reads, integrity) ← reader.configured
  projectedPlayerRank reader reads integrity gameKey (periodKeyOf periodStart)
    (uuidStr playerId) count revision

/-- The rank of a player in the database. -/
def databaseRank (playerId ownerId : Uuid) (gameKey : PyStr) (periodStart : Int) :
    Prog LeaderboardRank := do
  let ranked ← canonicalPlayerRank playerId ownerId gameKey periodStart
  let labels ← publicLeaderboardLabels publicLabel [ranked.1.playerId]
  return ⟨.postgresql, databaseEntry ranked.1 ranked.2 (labels ranked.1.playerId) ownerId⟩

/-- The rank of a player, from Redis only after PostgreSQL validates its complete
generation. -/
def showRank (playerId ownerId : Uuid) (gameKey : PyStr) (periodStart : Int) :
    Prog LeaderboardRank := do
  let facts ← leaderboardProjectionFacts ownerId gameKey periodStart (some playerId)
  let projected ← givenEntries reader publicLabel ownerId
    ((reader.rank gameKey periodStart playerId facts.2.1 facts.2.2).map fun row => [row])
  match projected.bind List.head? with
  | some entry => return ⟨.redis, entry⟩
  | none => databaseRank publicLabel playerId ownerId gameKey periodStart

end Showing

/-! ### What a rebuild reads -/

/-- The board and the revision that a rebuild reads, in two statements; none for its
`ValueError`. -/
def rebuildReads (gameKey : PyStr) (periodStart : Int) :
    Prog (Option (List FinalScore × Nat)) :=
  match leaderboardRulesFor gameKey with
  | .error _ => .ret none
  | .ok _ => do
      let found ← getGame gameKey
      match found with
      | none => return none
      | some game => do
          let scores ← read (listCanonicalScores game.id periodStart none 0 none)
          let revision ← read (leaderboardProjectionRevision game.id periodStart)
          return some (scores, revision)

end RngGamePlatform
