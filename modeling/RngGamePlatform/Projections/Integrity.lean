/-
Module: RngGamePlatform.Projections.Integrity
Purpose: Keys, signatures and members of the Redis leaderboard projection.
Trusted boundary: human-reviewed semantics
Main exports: ProjectionGeneration, ProjectionKeys, projectionGenerationKeys,
  ProjectionIntegrity, metadata, verifyMetadata, MemberFields, encodeMember, parseMember
-/
import RngGamePlatform.Encoding.Parsing
import RngGamePlatform.Rng

namespace RngGamePlatform

open Encoding

/-! ### Keys -/

def projectionEncodingVersion : PyStr := py "v2"

/-- Authenticated contract for one complete leaderboard generation. -/
structure ProjectionGeneration where
  gameKey : PyStr
  periodStart : PyStr
  generation : PyStr
  revision : Int
  count : Int
  encodingVersion : PyStr := projectionEncodingVersion
  keyId : PyStr := []
deriving DecidableEq

def namespacedKey (key resolved : PyStr) : PyStr :=
  if resolved = [] then key else resolved ++ py ":" ++ key

/-- The stable scope key for one game and period. -/
def leaderboardKey (gameKey periodStart resolved : PyStr) : PyStr :=
  namespacedKey (py "leaderboard:" ++ projectionEncodingVersion ++ py ":" ++ gameKey ++
    py ":" ++ periodStart) resolved

/-- The atomic current-generation pointer key. -/
def leaderboardPointerKey (gameKey periodStart resolved : PyStr) : PyStr :=
  leaderboardKey gameKey periodStart resolved ++ py ":current"

/-- Redis keys belonging to one immutable projection generation. -/
structure ProjectionKeys where
  members : PyStr
  metadata : PyStr
  players : PyStr

def projectionGenerationKeys (gameKey periodStart generation resolved : PyStr) :
    ProjectionKeys :=
  let base := leaderboardKey gameKey periodStart resolved ++ py ":generation:" ++ generation
  { members := base ++ py ":members"
    metadata := base ++ py ":metadata"
    players := base ++ py ":players" }

/-! ### Signatures -/

def canonicalPayload (payload : Json) : Bytes := encodeAscii payload.dumps

/-- The rotatable HMAC keys, as the bytes of their secrets. -/
structure ProjectionIntegrity where
  current : Bytes
  previous : Option Bytes

section Integrity

variable (crypto : Crypto) (unicode : UnicodeDigits)

/-- A non-secret identifier used to select a rotation key. -/
def projectionKeyId (secret : Bytes) : PyStr := (crypto.sha256 secret).hex.take 16

variable (integrity : ProjectionIntegrity)

/-- The keys by their identifiers; the previous key is set last. -/
def verificationKeys : List (PyStr × Bytes) :=
  (integrity.previous.toList ++ [integrity.current]).map fun secret =>
    (projectionKeyId crypto secret, secret)

def currentKeyId : PyStr := projectionKeyId crypto integrity.current

def projectionDigest (secret : Bytes) (payload : Json) : PyStr :=
  (crypto.hmacSha256 secret (canonicalPayload payload)).hex

/-- A hash of Redis, or a dict of texts. -/
abbrev TextDict := List (PyStr × PyStr)

/-- The dict as a JSON object. -/
def jsonOfDict (fields : TextDict) : Json :=
  Json.object (fields.map fun field => (field.1, .str field.2))

/-- The fields of the metadata before the signature. -/
def metadataFields (contract : ProjectionGeneration) : TextDict :=
  [(py "game_key", contract.gameKey),
    (py "period_start", contract.periodStart),
    (py "generation", contract.generation),
    (py "revision", decimal contract.revision),
    (py "count", decimal contract.count),
    (py "encoding_version", contract.encodingVersion),
    (py "key_id", currentKeyId crypto integrity)]

/-- Redis hash fields authenticated by the current key. -/
def metadata (contract : ProjectionGeneration) : TextDict :=
  let fields := metadataFields crypto integrity contract
  fields ++
    [(py "signature", projectionDigest crypto integrity.current (jsonOfDict fields))]

/-- The names of the metadata. -/
def metadataNames : List PyStr :=
  [py "game_key", py "period_start", py "generation", py "revision", py "count",
    py "encoding_version", py "key_id", py "signature"]

/-- The signature, the secret and the contract that the fields name; none for a
`KeyError` or a `ValueError`. -/
def readMetadata (fields : TextDict) : Option (PyStr × Bytes × ProjectionGeneration) := do
  let signature ← fields.lookup (py "signature")
  let unsigned := fields.filter fun field => field.1 ≠ py "signature"
  let secret ← (verificationKeys crypto integrity).lookup (← unsigned.lookup (py "key_id"))
  let gameKey ← unsigned.lookup (py "game_key")
  let periodStart ← unsigned.lookup (py "period_start")
  let generation ← unsigned.lookup (py "generation")
  let revision ← pyInt unicode 10 (← unsigned.lookup (py "revision"))
  let count ← pyInt unicode 10 (← unsigned.lookup (py "count"))
  let encodingVersion ← unsigned.lookup (py "encoding_version")
  let keyId ← unsigned.lookup (py "key_id")
  return (signature, secret,
    ⟨gameKey, periodStart, generation, revision, count, encodingVersion, keyId⟩)

/-- Validate scope, generation, durable facts, version, and signature. -/
def verifyMetadata (fields : TextDict) (gameKey periodStart generation : PyStr)
    (expectedRevision expectedCount : Int) :
    Except DigestError (Option ProjectionGeneration) := do
  let unsigned := fields.filter fun field => field.1 ≠ py "signature"
  match readMetadata crypto unicode integrity fields with
  | none => return none
  | some (signature, secret, contract) =>
      let names := fields.map Prod.fst
      if ¬(names.all (· ∈ metadataNames) ∧ metadataNames.all (· ∈ names)) then
        return none
      if !(← compareDigest signature
          (projectionDigest crypto secret (jsonOfDict unsigned))) then
        return none
      if contract.gameKey ≠ gameKey ∨ contract.periodStart ≠ periodStart ∨
          contract.generation ≠ generation ∨ contract.revision ≠ expectedRevision ∨
          contract.count ≠ expectedCount ∨
          contract.encodingVersion ≠ projectionEncodingVersion then
        return none
      return some contract

/-- The response and ordering fields of a member. -/
structure MemberFields where
  completedAtUs : Int
  sessionId : PyStr
  scoreId : PyStr
  playerId : PyStr
  finalScore : Int
  rank : Int
deriving DecidableEq

/-- What the signature of a member is taken of. -/
def memberPayload (contract : ProjectionGeneration) (fields : MemberFields) : Json :=
  Json.object
    [(py "encoding_version", .str contract.encodingVersion),
      (py "game_key", .str contract.gameKey),
      (py "period_start", .str contract.periodStart),
      (py "generation", .str contract.generation),
      (py "completed_at_us", .int fields.completedAtUs),
      (py "session_id", .str fields.sessionId),
      (py "score_id", .str fields.scoreId),
      (py "player_id", .str fields.playerId),
      (py "final_score", .int fields.finalScore),
      (py "rank", .int fields.rank)]

/-- Encode deterministic ordering fields with a generation-bound signature. -/
def encodeMember (contract : ProjectionGeneration) (fields : MemberFields) : PyStr :=
  let base := zeroPadded 20 fields.completedAtUs ++ py ":" ++ fields.sessionId ++ py ":" ++
    fields.scoreId ++ py ":" ++ fields.playerId
  base ++ py ":" ++ zeroPadded 20 fields.rank ++ py ":" ++
    projectionDigest crypto integrity.current (memberPayload contract fields)

/-- A float by its value. -/
inductive PyFloat where
  | finite (value : Rat)
  | infinite (negative : Bool)
  | nan
deriving DecidableEq

/-- The integer that a finite float is. -/
def PyFloat.integer? : PyFloat → Option Int
  | .finite value => if value.den = 1 then some value.num else none
  | _ => none

/-- `text.split(separator, limit)`. -/
def splitAt (separator : CodePoint) : (limit : Nat) → PyStr → List PyStr
  | 0, text => [text]
  | limit + 1, text =>
      let first := text.takeWhile (· ≠ separator)
      match text.dropWhile (· ≠ separator) with
      | [] => [first]
      | _ :: rest => first :: splitAt separator limit rest

/-- The fields, the signature and the secret that a member names; none for a
`KeyError` or a `ValueError`, and for a number with another text than its own. -/
def readMember (contract : ProjectionGeneration) (member : PyStr) (redisScore : PyFloat) :
    Option (MemberFields × PyStr × Bytes) :=
  match splitAt (codePoint ':') 5 member with
  | [completedText, sessionId, scoreId, playerId, rankText, signature] => do
      let completedAtUs ← pyInt unicode 10 completedText
      if completedText ≠ zeroPadded 20 completedAtUs then none
      let rank ← pyInt unicode 10 rankText
      if rank < 1 ∨ rankText ≠ zeroPadded 20 rank then none
      let sessionId ← uuidOf unicode sessionId
      let scoreId ← uuidOf unicode scoreId
      let playerId ← uuidOf unicode playerId
      let negated ← redisScore.integer?
      let secret ← (verificationKeys crypto integrity).lookup contract.keyId
      return (⟨completedAtUs, uuidStr sessionId, uuidStr scoreId, uuidStr playerId,
        -negated, rank⟩, signature, secret)
  | _ => none

/-- Validate one member and return its response and ordering fields. -/
def parseMember (contract : ProjectionGeneration) (member : PyStr)
    (redisScore : PyFloat) : Except DigestError (Option MemberFields) := do
  match readMember crypto unicode integrity contract member redisScore with
  | none => return none
  | some (fields, signature, secret) =>
      let expected := projectionDigest crypto secret (memberPayload contract fields)
      if ← compareDigest signature expected then return some fields else return none

end Integrity

end RngGamePlatform
