/-
Module: RngGamePlatform.Projections.Rebuild
Purpose: The rebuild of a Redis leaderboard, step by step, next to other rebuilds of
  the same board.
Trusted boundary: human-reviewed semantics
Main exports: floatMicros, RebuildSettings, memberOf, encodedBoard,
  publishGeneration, projectionMatches, expirePrevious, deleteGeneration, RebuildStep,
  RebuildState, RebuildState.step, RebuildState.after
-/
import RngGamePlatform.Models
import RngGamePlatform.Projections.Integrity
import RngGamePlatform.Stores.Redis

namespace RngGamePlatform

open Encoding Stores

/-- `int(instant.timestamp() * 1_000_000)` of an instant in microseconds: the seconds
are a correctly rounded quotient, and the product is rounded and truncated. -/
def floatMicros (instant : Int) : Int :=
  let magnitude : Int := ((Binary64.ofQuotient instant.natAbs 1000000).times 1000000).trunc
  if instant < 0 then -magnitude else magnitude

/-- An instant of 2026 is its own count of microseconds; one of 2039 is not. -/
example : floatMicros 1784700000000003 = 1784700000000003 ∧
    floatMicros 2200000000000003 = 2200000000000002 := by decide +kernel

/-- What the rebuilds of one board share: the hash functions, the signing keys, the key
namespace, the game and the period, the Unicode digits, and the microseconds of an
instant. -/
structure RebuildSettings where
  crypto : Crypto
  integrity : ProjectionIntegrity
  redisKeyNamespace : PyStr
  gameKey : PyStr
  periodKey : PyStr
  unicode : UnicodeDigits
  timestampMicros : Int → Int

section Rebuilding

variable (settings : RebuildSettings)

def generationKeys (generation : PyStr) : ProjectionKeys :=
  projectionGenerationKeys settings.gameKey settings.periodKey generation
    settings.redisKeyNamespace

def pointerKey : PyStr :=
  leaderboardPointerKey settings.gameKey settings.periodKey settings.redisKeyNamespace

def ProjectionKeys.all (keys : ProjectionKeys) : List PyStr :=
  [keys.members, keys.metadata, keys.players]

/-- The fields of the member of a score. -/
def fieldsOf (score : FinalScore) (rank : Nat) : MemberFields where
  completedAtUs := settings.timestampMicros score.completedAt
  sessionId := uuidStr score.sessionId
  scoreId := uuidStr score.id
  playerId := uuidStr score.playerId
  finalScore := score.finalScore
  rank := rank

/-- The member, the Redis score and the player of a score. -/
def memberOf (contract : ProjectionGeneration) (score : FinalScore) (rank : Nat) :
    PyStr × Int × PyStr :=
  (encodeMember settings.crypto settings.integrity contract (fieldsOf settings score rank),
    -score.finalScore, uuidStr score.playerId)

def encodedBoard (contract : ProjectionGeneration) (scores : List FinalScore) :
    List (PyStr × Int × PyStr) :=
  (scores.zipIdx 1).map fun numbered => memberOf settings contract numbered.1 numbered.2

/-- The contract of a generation. -/
def contractOf (generation : PyStr) (revision : Nat) (count : Nat) : ProjectionGeneration where
  gameKey := settings.gameKey
  periodStart := settings.periodKey
  generation := generation
  revision := revision
  count := count
  keyId := currentKeyId settings.crypto settings.integrity

/-- A dict of the entries; a later entry of a key changes its value. -/
def dictOf {ν : Type} (entries : List (PyStr × ν)) : List (PyStr × ν) :=
  entries.foldl (fun kept entry =>
    if entry.1 ∈ kept.map Prod.fst then
      kept.map fun other => if other.1 = entry.1 then entry else other
    else kept ++ [entry]) []

/-- `setdefault` of the entries; the first entry of a key stays. -/
def setDefaults (entries : List (PyStr × PyStr)) : TextDict :=
  entries.foldl (fun kept entry =>
    if entry.1 ∈ kept.map Prod.fst then kept else kept ++ [entry]) []

abbrev Cache := Redis.Store PyStr Int

/-- The transaction that writes a generation and names it. -/
def publishGeneration (generation : PyStr) (revision : Nat) (scores : List FinalScore)
    (cache : Cache) : Cache :=
  let keys := generationKeys settings generation
  let contract := contractOf settings generation revision scores.length
  let encoded := encodedBoard settings contract scores
  let members := dictOf (encoded.map fun entry => (entry.1, entry.2.1))
  let players := setDefaults (encoded.map fun entry => (entry.2.2, entry.1))
  let cache := if members = [] then cache else Redis.zadd keys.members members cache
  let cache := if players = [] then cache else Redis.hset keys.players players cache
  let cache := Redis.hset keys.metadata
    (metadata settings.crypto settings.integrity contract) cache
  Redis.set (pointerKey settings) generation cache

/-- The entries that the projection must have, in order. -/
def expectedProjection (generation : PyStr) (revision : Nat) (scores : List FinalScore) :
    List (PyStr × Int) :=
  (encodedBoard settings (contractOf settings generation revision scores.length) scores).map
    fun entry => (entry.1, entry.2.1)

/-- The comparison of the projection with the board. -/
def projectionMatches (generation : PyStr) (revision : Nat) (scores : List FinalScore)
    (cache : Cache) : Bool :=
  Redis.zrange (generationKeys settings generation).members cache =
    expectedProjection settings generation revision scores

/-- The transaction that gives the keys of the previous generation a time to live. -/
def expirePrevious (generation : PyStr) (previous : Option PyStr) (cache : Cache) : Cache :=
  match previous.bind (uuidOf settings.unicode) with
  | some id =>
      if uuidStr id ≠ generation then
        let keys := generationKeys settings (uuidStr id)
        Redis.expire keys.players (Redis.expire keys.metadata
          (Redis.expire keys.members cache))
      else cache
  | none => cache

/-- Delete the keys of a generation. -/
def deleteGeneration (generation : PyStr) (cache : Cache) : Cache :=
  Redis.delete (generationKeys settings generation).all cache

end Rebuilding

/-! ### Runs next to each other -/

/-- Where a rebuild stands: before its publication, after it, after its comparison,
after the time to live of the previous generation, in the handler of an exception, or
at its end. -/
inductive RebuildPhase where
  | building
  | published
  | verified
  | cleaned
  | raising
  | ended
deriving DecidableEq

/-- One rebuild: its generation, the pointer that it has read, where it stands, and
what it has published. -/
structure RebuildRun where
  generation : Uuid
  previous : Option PyStr
  phase : RebuildPhase
  /-- The revision and the board of its publication. -/
  publication : Option (Nat × List FinalScore)

/-- A step of one of the rebuilds, or of Redis. -/
inductive RebuildStep where
  /-- A rebuild with a generation of its own reads the pointer. -/
  | start (generation : Uuid)
  /-- It publishes the board that it has read from PostgreSQL. -/
  | publish (index revision : Nat) (scores : List FinalScore)
  | verify (index : Nat)
  | clean (index : Nat)
  | returns (index : Nat)
  /-- An exception at any step after the pointer was read. -/
  | raises (index : Nat)
  /-- The handler deletes the own keys, and raises the exception again. -/
  | delete (index : Nat)
  /-- The handler's deletion fails itself. -/
  | deleteFails (index : Nat)
  /-- A time to live ends. -/
  | lapse (key : PyStr)
deriving DecidableEq

structure RebuildState where
  cache : Cache
  runs : List RebuildRun

namespace RebuildState

variable (settings : RebuildSettings)

/-- An empty cache before all rebuilds. -/
def start : RebuildState := ⟨Redis.empty, []⟩

/-- One rebuild changes the cache and itself. -/
def advance (state : RebuildState) (index : Nat) (cache : Cache) (run : RebuildRun) :
    RebuildState :=
  ⟨cache, state.runs.set index run⟩

/-- One step; none where the rebuild does not stand there. -/
def step (state : RebuildState) : RebuildStep → Option RebuildState
  | .start generation =>
      if state.runs.any (·.generation = generation) then none
      else some ⟨state.cache, state.runs ++
        [⟨generation, Redis.get (pointerKey settings) state.cache, .building, none⟩]⟩
  | .publish index revision scores => do
      let run ← state.runs[index]?
      if run.phase ≠ .building then none
      else some (state.advance index
        (publishGeneration settings (uuidStr run.generation) revision scores state.cache)
        { run with phase := .published, publication := some (revision, scores) })
  | .verify index => do
      let run ← state.runs[index]?
      let publication ← run.publication
      if run.phase ≠ .published then none
      else
        let holds := projectionMatches settings (uuidStr run.generation) publication.1
          publication.2 state.cache
        some (state.advance index state.cache
          { run with phase := if holds then .verified else .raising })
  | .clean index => do
      let run ← state.runs[index]?
      if run.phase ≠ .verified then none
      else some (state.advance index
        (expirePrevious settings (uuidStr run.generation) run.previous state.cache)
        { run with phase := .cleaned })
  | .returns index => do
      let run ← state.runs[index]?
      if run.phase ≠ .cleaned then none
      else some (state.advance index state.cache { run with phase := .ended })
  | .raises index => do
      let run ← state.runs[index]?
      if run.phase = .raising ∨ run.phase = .ended then none
      else some (state.advance index state.cache { run with phase := .raising })
  | .delete index => do
      let run ← state.runs[index]?
      if run.phase ≠ .raising then none
      else some (state.advance index
        (deleteGeneration settings (uuidStr run.generation) state.cache)
        { run with phase := .ended })
  | .deleteFails index => do
      let run ← state.runs[index]?
      if run.phase ≠ .raising then none
      else some (state.advance index state.cache { run with phase := .ended })
  | .lapse key => some { state with cache := Redis.lapse key state.cache }

/-- The state after a history of steps, most recent first. -/
def after : List RebuildStep → Option RebuildState
  | [] => some start
  | taken :: earlier => (after earlier).bind fun state => step settings state taken

end RebuildState

end RngGamePlatform
