/-
Module: RngGamePlatform.Proofs.Fingerprints
Purpose: A request fingerprint binds the intent of the request, as far as the hash
  function has no collision among the texts that a run hashes.
Trusted boundary: none
Main exports: intentText, CollisionFree, createSession_intent,
  evaluateFairness_intent
-/
import RngGamePlatform.Encoding.Readable
import RngGamePlatform.Services.Requests

namespace RngGamePlatform

open Encoding Relational Transactions

/-- The canonical text whose hash binds a call to its intent. -/
def intentText : Call → Option PyStr
  | .createSession _ playerId _ gameKey _ =>
      some (requestIntent (py "create_session")
        [(py "player_id", idText playerId), (py "game_key", text gameKey)])
  | .evaluateFairness proofId _ clientSeed _ =>
      some (requestIntent (py "evaluate_fairness")
        [(py "proof_id", idText proofId), (py "client_seed", text clientSeed)])
  | _ => none

/-- The hash function has no collision among the canonical texts of the calls. -/
def CollisionFree (env : Platform) (calls : List Call) : Prop :=
  ∀ one ∈ calls.filterMap intentText, ∀ other ∈ calls.filterMap intentText,
    env.crypto.sha256 (encodeAscii one) = env.crypto.sha256 (encodeAscii other) →
      one = other

section Texts

/-- The operation and the input of a canonical text. -/
theorem requestIntent_injective {operation : PyStr}
    {one other : List (PyStr × Json)} (basicOperation : Basic operation)
    (basic : ∀ field ∈ one, Basic field.1 ∧ field.2.IsBasic)
    (same : requestIntent operation one = requestIntent operation other) :
    Json.object one = Json.object other := by
  have isBasic : (Json.object [(py "operation", .str operation),
      (py "input", Json.object one)]).IsBasic := by
    refine Json.isBasic_object fun field member => ?_
    simp only [List.mem_cons, List.not_mem_nil, or_false] at member
    rcases member with rfl | rfl
    · exact ⟨basic_py "operation" rfl, basicOperation⟩
    · exact ⟨basic_py "input" rfl, Json.isBasic_object basic⟩
  have whole := Json.dumps_injective isBasic same
  have input := congrArg (Json.get? (py "input")) whole
  simpa [Json.get?_object] using input

/-- The two values of an input with two keys. -/
theorem object_two_injective {key key' : PyStr} {a b a' b' : Json}
    (different : key' ≠ key)
    (same : Json.object [(key, a), (key', b)] = Json.object [(key, a'), (key', b')]) :
    a = a' ∧ b = b' := by
  have first := congrArg (Json.get? key) same
  have second := congrArg (Json.get? key') same
  simp only [Json.get?_object, List.reverse_cons, List.reverse_nil, List.nil_append,
    List.cons_append, List.find?_cons, different, decide_false, decide_true,
    Option.map_some, Option.some.injEq] at first second
  exact ⟨first, second⟩

/-- Only the keys of the three games are registered. -/
theorem basic_of_rules {gameKey : PyStr} {rules : GameKey}
    (isRules : rulesFor gameKey = .ok rules) : Basic gameKey := by
  unfold rulesFor at isRules
  split at isRules
  · next same => exact same ▸ basic_py "daily_spin" rfl
  · split at isRules
    · next same => exact same ▸ basic_py "prediction_card" rfl
    · split at isRules
      · next same => exact same ▸ basic_py "skill_check" rfl
      · cases isRules

/-- The bytes of a character are among the bytes of its text. -/
theorem utf8Bytes_of_encodeUtf8 {value : PyStr} {encoded : Bytes}
    (isEncoded : encodeUtf8 value = some encoded) {c : CodePoint} (member : c ∈ value) :
    ∃ bytes, utf8Bytes c = some bytes ∧ ∀ byte ∈ bytes, byte ∈ encoded := by
  unfold encodeUtf8 at isEncoded
  rcases Option.map_eq_some_iff.mp isEncoded with ⟨parts, isParts, rfl⟩
  clear isEncoded
  induction value generalizing parts with
  | nil => cases member
  | cons head tail ih =>
      simp only [List.mapM_cons, Option.bind_eq_bind, Option.bind_eq_some_iff,
        Option.pure_def, Option.some.injEq] at isParts
      rcases isParts with ⟨bytes, isHead, rest, isRest, rfl⟩
      rcases List.mem_cons.mp member with rfl | inTail
      · exact ⟨bytes, isHead, fun byte inBytes => by simp [inBytes]⟩
      · rcases ih inTail rest isRest with ⟨bytes', isBytes, within⟩
        exact ⟨bytes', isBytes, fun byte inBytes => by
          rw [List.flatten_cons]
          exact List.mem_append_right _ (within byte inBytes)⟩

/-- A valid client seed is printable ASCII. -/
theorem basic_of_clientSeed {clientSeed : PyStr} {encoded : Bytes}
    (valid : validateClientSeed clientSeed = .ok encoded) : Basic clientSeed := by
  unfold validateClientSeed at valid
  split at valid
  · cases valid
  · next bytes isEncoded =>
      split at valid
      · next printable =>
          refine basic_of_ascii fun c member => ?_
          rcases utf8Bytes_of_encodeUtf8 isEncoded member with ⟨part, isPart, within⟩
          have bound : ∀ byte ∈ part, byte.toNat ≤ 0x7E := fun byte inPart =>
            (printable.2.2 byte (within byte inPart)).2
          by_contra large
          have limit : c.val < 0x110000 := c.isLt
          unfold utf8Bytes at isPart
          simp only at isPart
          split at isPart
          · omega
          · split at isPart
            · cases isPart
              have first := bound _ List.mem_cons_self
              simp only [UInt8.toNat_ofNat'] at first
              omega
            · split at isPart
              · cases isPart
              · split at isPart
                · cases isPart
                  have first := bound _ List.mem_cons_self
                  simp only [UInt8.toNat_ofNat'] at first
                  omega
                · cases isPart
                  have first := bound _ List.mem_cons_self
                  simp only [UInt8.toNat_ofNat'] at first
                  omega
      · cases valid

/-- A derivation has a valid client seed. -/
theorem basic_of_derived {crypto : Crypto} {fuel : Nat} {seed : Bytes}
    {clientSeed : PyStr} {nonce : Int} {configVersionId sessionId : Uuid}
    {bands : List RewardBand}
    {gameKey protocolVersion algorithm mappingVersion : PyStr}
    {derivation : DailySpinDerivation}
    (derived : deriveDailySpin crypto fuel seed clientSeed nonce configVersionId
      sessionId bands gameKey protocolVersion algorithm mappingVersion =
        .ok (some derivation)) : Basic clientSeed := by
  obtain ⟨bytes, valid⟩ := clientSeed_of_derived derived
  exact basic_of_clientSeed valid

end Texts

section Intents

variable {env : Platform} {calls : List Call}

theorem CollisionFree.cancel (free : CollisionFree env calls) {one other : Call}
    {textOne textOther : PyStr} (inOne : one ∈ calls) (inOther : other ∈ calls)
    (isOne : intentText one = some textOne)
    (isOther : intentText other = some textOther)
    (same : (env.crypto.sha256 (encodeAscii textOne)).hex =
      (env.crypto.sha256 (encodeAscii textOther)).hex) : textOne = textOther := by
  refine free textOne (List.mem_filterMap.mpr ⟨one, inOne, isOne⟩) textOther
    (List.mem_filterMap.mpr ⟨other, inOther, isOther⟩) ?_
  exact Subtype.ext (hexOfBytes_injective same)

/-- A creation fingerprint binds the player and the game. -/
theorem createSession_intent (free : CollisionFree env calls)
    {requestId playerId ownerId requestId' playerId' ownerId' : Uuid}
    {gameKey gameKey' : PyStr} {draw draw' : SessionDraw} {rules : GameKey}
    (inOne : .createSession requestId playerId ownerId gameKey draw ∈ calls)
    (inOther : .createSession requestId' playerId' ownerId' gameKey' draw' ∈ calls)
    (isRules : rulesFor gameKey = .ok rules)
    (same : createSessionFingerprint env playerId gameKey =
      createSessionFingerprint env playerId' gameKey') :
    playerId = playerId' ∧ gameKey = gameKey' := by
  have sameText := free.cancel inOne inOther rfl rfl same
  have sameInput := requestIntent_injective (basic_py "create_session" rfl)
    (fun field member => by
      simp only [List.mem_cons, List.not_mem_nil, or_false] at member
      rcases member with rfl | rfl
      · exact ⟨basic_py "player_id" rfl, basic_uuidStr playerId⟩
      · exact ⟨basic_py "game_key" rfl, basic_of_rules isRules⟩) sameText
  rcases object_two_injective (by decide) sameInput with ⟨samePlayer, sameKey⟩
  exact ⟨uuidStr_injective (Json.str.inj samePlayer), Json.str.inj sameKey⟩

/-- An evaluation fingerprint binds the client seed. -/
theorem evaluateFairness_intent (free : CollisionFree env calls)
    {proofId ownerId proofId' ownerId' : Uuid} {clientSeed clientSeed' : PyStr}
    {draw draw' : EvaluateDraw}
    (inOne : .evaluateFairness proofId ownerId clientSeed draw ∈ calls)
    (inOther : .evaluateFairness proofId' ownerId' clientSeed' draw' ∈ calls)
    (basic : Basic clientSeed)
    (same : evaluationFingerprintOf env proofId clientSeed =
      evaluationFingerprintOf env proofId' clientSeed') : clientSeed = clientSeed' := by
  have sameText := free.cancel inOne inOther rfl rfl same
  have sameInput := requestIntent_injective (basic_py "evaluate_fairness" rfl)
    (fun field member => by
      simp only [List.mem_cons, List.not_mem_nil, or_false] at member
      rcases member with rfl | rfl
      · exact ⟨basic_py "proof_id" rfl, basic_uuidStr proofId⟩
      · exact ⟨basic_py "client_seed" rfl, basic⟩) sameText
  exact Json.str.inj (object_two_injective (by decide) sameInput).2

end Intents

end RngGamePlatform
