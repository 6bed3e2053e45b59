/-
Module: RngGamePlatform.Projections.Namespaces
Purpose: The key namespaces of the Redis projection: which are accepted, what is stored
  under them, and how one is cleared.
Trusted boundary: human-reviewed semantics
Main exports: validateRedisKeyNamespace, Cleanup, clearRedisNamespace, FullIteration,
  keysUnder
-/
import RngGamePlatform.Projections.Rebuild
import RngGamePlatform.Stores.Glob

namespace RngGamePlatform

open Encoding Stores

/-- A value that the settings or the cleanup refuse. -/
inductive NamespaceError where
  | invalid
  | empty
deriving DecidableEq

def validCharacters : PyStr :=
  py "abcdefghijklmnopqrstuvwxyzABCDEFGHIJKLMNOPQRSTUVWXYZ0123456789-_"

def IsAllowed (value : PyStr) : Prop := ∀ c ∈ value, c ∈ validCharacters

instance (value : PyStr) : Decidable (IsAllowed value) :=
  List.decidableBAll _ value

/-- Keep configured namespaces safe for exact prefix scanning. -/
def validateRedisKeyNamespace (value : PyStr) : Except NamespaceError PyStr :=
  if value ≠ [] ∧ (96 < value.length ∨ ¬IsAllowed value) then
    .error .invalid
  else .ok value

/-- The special characters of `MATCH`. -/
def redisGlob : Glob.Special CodePoint where
  star := codePoint '*'
  question := codePoint '?'
  opening := codePoint '['
  closing := codePoint ']'
  caret := codePoint '^'
  hyphen := codePoint '-'
  escape := codePoint '\\'

/-! ### The cleanup -/

/-- How many keys `DEL` removes. -/
def countStored (keys : List PyStr) (cache : Cache) : Nat :=
  (keys.dedup.filter fun key => (cache key).isSome).length

/-- A cleanup under way: the keys that it has collected, and its count. -/
structure Cleanup where
  cache : Cache
  keys : List PyStr := []
  deleted : Nat := 0

namespace Cleanup

/-- Delete the collected keys. -/
def flush (cleanup : Cleanup) : Cleanup where
  cache := Redis.delete cleanup.keys cleanup.cache
  keys := []
  deleted := cleanup.deleted + countStored cleanup.keys cleanup.cache

/-- Collect a key. -/
def collect (batchSize : Nat) (cleanup : Cleanup) (key : PyStr) : Cleanup :=
  let collected := { cleanup with keys := cleanup.keys ++ [key] }
  if batchSize ≤ collected.keys.length then collected.flush else collected

end Cleanup

/-- The cleanup after the keys that the scan has answered. -/
def scanned (batchSize : Nat) (cache : Cache) (answers : List PyStr) : Cleanup :=
  answers.foldl (Cleanup.collect batchSize) { cache := cache }

/-- Delete only keys owned by one nonempty namespace; `answers` are the keys that
`scan_iter` gives, one after the other. -/
def clearRedisNamespace (batchSize : Nat) (cache : Cache) (resolved : PyStr)
    (answers : List PyStr) : Except NamespaceError Cleanup :=
  if resolved = [] then .error .empty
  else
    let cleanup := scanned batchSize cache answers
    .ok (if cleanup.keys ≠ [] then cleanup.flush else cleanup)

def scanPattern (resolved : PyStr) : PyStr := resolved ++ py ":*"

/-- What `SCAN` promises of a full iteration: its answers match the pattern, and a
matching key that was stored from its beginning to its end is among them, perhaps more
than once. -/
structure FullIteration (batchSize : Nat) (cache : Cache) (resolved : PyStr)
    (answers : List PyStr) : Prop where
  matching : ∀ key ∈ answers, Glob.globMatch redisGlob (scanPattern resolved) key = true
  complete : ∀ key, Glob.globMatch redisGlob (scanPattern resolved) key = true →
    (cache key).isSome → ((scanned batchSize cache answers).cache key).isSome → key ∈ answers

/-! ### The keys of a namespace -/

/-- The keys of one generation of a board, and those that its generations share. -/
def boardKeys (gameKey periodStart generation resolved : PyStr) : List PyStr :=
  leaderboardKey gameKey periodStart resolved ::
    leaderboardPointerKey gameKey periodStart resolved ::
      (projectionGenerationKeys gameKey periodStart generation resolved).all

/-- Everything that is stored under a namespace. -/
def keysUnder (resolved : PyStr) : Set PyStr :=
  {key | ∃ gameKey periodStart generation, key ∈ boardKeys gameKey periodStart generation resolved}

end RngGamePlatform
