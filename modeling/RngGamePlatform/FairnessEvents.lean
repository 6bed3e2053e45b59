/-
Module: RngGamePlatform.FairnessEvents
Purpose: Construction and hashing of fairness lifecycle evidence.
Trusted boundary: human-reviewed semantics
Main exports: fairnessEventHashV1, fairnessEventHash, commitEventPayload,
  terminalEventPayload, revealedEventPayload
-/
import RngGamePlatform.Rng

namespace RngGamePlatform

open Encoding

/-- The lines of version-1 evidence. -/
def fairnessEventLinesV1 (proofId : Uuid) (sequence : Nat) (eventType : PyStr)
    (status : FairnessProofStatus) (createdAt : Int)
    (previousEvidenceHash : Option PyStr) : PyStr :=
  py "RNG-GAME-PLATFORM-PVF-EVENT/1\n" ++
    py "proof_id=" ++ uuidStr proofId ++ py "\n" ++
    py "sequence=" ++ decimal sequence ++ py "\n" ++
    py "event_type=" ++ eventType ++ py "\n" ++
    py "status=" ++ status.value ++ py "\n" ++
    py "created_at=" ++ timestamp createdAt ++ py "\n" ++
    py "previous_evidence_hash=" ++ previousEvidenceHash.getD [] ++ py "\n"

/-- The frozen v1 append-only event hash from explicit UTC evidence; none when the
evidence has no ASCII encoding. -/
def fairnessEventHashV1 (crypto : Crypto) (proofId : Uuid) (sequence : Nat)
    (eventType : PyStr) (status : FairnessProofStatus) (createdAt : Int)
    (previousEvidenceHash : Option PyStr) : Option PyStr :=
  (encodeStrictAscii (fairnessEventLinesV1 proofId sequence eventType status createdAt
    previousEvidenceHash)).map fun encoded => (crypto.sha256 encoded).hex

/-- The complete v2 lifecycle payload bound by canonical JSON evidence. -/
def fairnessEventHash (crypto : Crypto) (proofId : Uuid) (sequence : Nat)
    (eventType : PyStr) (status : FairnessProofStatus) (createdAt : Int)
    (previousEvidenceHash : Option PyStr) (payload : Json) : PyStr :=
  let evidence := Json.object
    [(py "created_at", .str (timestamp createdAt)),
      (py "event_type", .str eventType),
      (py "payload", payload),
      (py "previous_evidence_hash", Json.ofOption .str previousEvidenceHash),
      (py "proof_id", .str (uuidStr proofId)),
      (py "sequence", .int sequence),
      (py "status", .str status.value)]
  (crypto.sha256 (encodeAscii
    (py "RNG-GAME-PLATFORM-PVF-EVENT/2\n" ++ Json.dumps evidence))).hex

/-- The fields of the commit payload. -/
def commitEventFields (proof : FairnessProof) : List (PyStr × Json) :=
  [(py "algorithm", .str proof.algorithm),
    (py "config_version_id", .str (uuidStr proof.configVersionId)),
    (py "game_key", .str proof.gameKey),
    (py "mapping_digest", .str proof.mappingDigest),
    (py "mapping_version", .str proof.mappingVersion),
    (py "nonce", .int proof.nonce),
    (py "protocol_version", .str proof.protocolVersion),
    (py "server_seed_commitment", .str proof.serverSeedCommitment),
    (py "session_id", .str (uuidStr proof.sessionId))]

def commitEventPayload (proof : FairnessProof) : Json :=
  Json.object (commitEventFields proof)

def terminalEventPayload (proof : FairnessProof) (now : Int) : Json :=
  Json.object (commitEventFields proof ++
    [(py "terminal_at", .str (timestamp now))])

def revealedEventPayload (proof : FairnessProof) : Json :=
  Json.object (commitEventFields proof ++
    [(py "client_seed", Json.ofOption .str proof.clientSeed),
      (py "derivation_attempt", Json.ofOption .int proof.derivationAttempt),
      (py "evaluated_at",
        Json.ofOption (fun moment => .str (timestamp moment)) proof.evaluatedAt),
      (py "evaluation_fingerprint",
        Json.ofOption .str proof.evaluationFingerprint),
      (py "normalized_value", Json.ofOption .int proof.normalizedValue),
      (py "outcome_id",
        Json.ofOption (fun id => .str (uuidStr id)) proof.outcomeId),
      (py "raw_random_value", Json.ofOption .str proof.rawRandomValue),
      (py "revealed_at",
        Json.ofOption (fun moment => .str (timestamp moment)) proof.revealedAt),
      (py "reward_key", Json.ofOption .str proof.rewardKey),
      (py "reward_value", Json.ofOption .int proof.rewardValue),
      (py "server_seed_revealed",
        Json.ofOption .str proof.serverSeedRevealed)])

end RngGamePlatform
