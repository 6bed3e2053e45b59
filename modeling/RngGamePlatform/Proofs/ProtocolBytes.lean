/-
Module: RngGamePlatform.Proofs.ProtocolBytes
Purpose: The byte formats of the protocol can be read in one way only: reward maps with
  the same bytes and derivations with the same message are the same.
Trusted boundary: none
Main exports: reward_map_encoding_injective, DerivationInputs, DerivationInputs.message,
  derivation_message_injective
-/
import RngGamePlatform.Encoding.Collation
import RngGamePlatform.Proofs.BindingProof

namespace RngGamePlatform

open Encoding

/-! ### The reward map -/

/-- Accepted reward maps with the same bytes are the same map. -/
theorem reward_map_encoding_injective :
    Set.InjOn dailySpinMappingBytes {bands | validateRewardBands bands = .ok ()} := by
  intro one acceptedOne other _ same
  have isOne : ∃ bytes, dailySpinMappingBytes one = .ok bytes :=
    ⟨_, bind_eq_ok.mpr ⟨(), acceptedOne, rfl⟩⟩
  obtain ⟨bytes, isOne⟩ := isOne
  exact dailySpinMappingBytes_injective isOne (same ▸ isOne)

namespace Sample

/-- A map whose only key imitates the lines of a second band. -/
def imitatingBands : List RewardBand :=
  [⟨py "a\nreward[0].weight=1\nreward[0].value=1\nreward[1].key=1:b", 1, 1⟩]

def twoBands : List RewardBand := [⟨py "a", 1, 1⟩, ⟨py "b", 1, 1⟩]

end Sample

/-- A key cannot pass for the lines after it. -/
theorem reward_map_encoding_injective_imitating :
    dailySpinMappingBytes Sample.imitatingBands ≠ dailySpinMappingBytes Sample.twoBands := by
  intro same
  have accepted : validateRewardBands Sample.imitatingBands = .ok () := by decide +kernel
  have accepted' : validateRewardBands Sample.twoBands = .ok () := by decide +kernel
  have isSame := reward_map_encoding_injective accepted accepted' same
  exact absurd (congrArg List.length isSame) (by decide)

/-! ### The derivation message -/

/-- What a derivation message is built from. -/
structure DerivationInputs where
  clientSeed : PyStr
  nonce : Int
  configVersionId : Uuid
  sessionId : Uuid
  mappingDigest : PyStr
  attempt : Nat
  gameKey : PyStr
deriving DecidableEq

namespace DerivationInputs

/-- The message of the inputs, if they are accepted. -/
def message (inputs : DerivationInputs) : Except FairnessError Bytes :=
  dailySpinDerivationMessage inputs.clientSeed inputs.nonce inputs.configVersionId
    inputs.sessionId inputs.mappingDigest inputs.attempt inputs.gameKey

/-- What the validators have found, for the client seed in bytes. -/
structure Checked (inputs : DerivationInputs) (seedBytes : Bytes) : Prop where
  gameKey : inputs.gameKey = dailySpinGameKey
  clientSeed : encodeUtf8 inputs.clientSeed = some seedBytes
  digest : inputs.mappingDigest.length = 64 ∧ IsHex inputs.mappingDigest

theorem Checked.ascii {inputs : DerivationInputs} {seedBytes : Bytes}
    (checked : inputs.Checked seedBytes) : ∀ c ∈ inputs.mappingDigest, c.val < 128 :=
  fun c member => (line_hex checked.digest.2 c member).1

theorem validateClientSeed_ok {clientSeed : PyStr} {seedBytes : Bytes}
    (accepted : validateClientSeed clientSeed = .ok seedBytes) :
    encodeUtf8 clientSeed = some seedBytes := by
  unfold validateClientSeed at accepted
  split at accepted
  · cases accepted
  · next encoded isEncoded =>
      split at accepted
      · cases accepted
        exact isEncoded
      · cases accepted

theorem validateDigest_ok {value : PyStr} (accepted : validateDigest value = .ok ()) :
    value.length = 64 ∧ IsHex value := by
  unfold validateDigest at accepted
  split at accepted
  · next isDigest => exact isDigest
  · cases accepted

/-- The lines from the configuration on. -/
def lines (inputs : DerivationInputs) (seedBytes : Bytes) : Bytes :=
  encodeAscii (py "config_version_id=") ++ (encodeAscii (uuidStr inputs.configVersionId) ++
    (encodeAscii (py "\n") ++ (encodeAscii (py "session_id=") ++
    (encodeAscii (uuidStr inputs.sessionId) ++ (encodeAscii (py "\n") ++
    (encodeAscii (py "client_seed=") ++ (encodeAscii (decimal seedBytes.length) ++
    (encodeAscii (py ":") ++ (seedBytes ++ (encodeAscii (py "\n") ++
    (encodeAscii (py "nonce=") ++ (encodeAscii (decimal inputs.nonce) ++
    (encodeAscii (py "\n") ++ (encodeAscii (py "purpose=daily_spin\n") ++
    (encodeAscii (py "mapping_version=daily-spin-weighted-reward-v1\n") ++
    (encodeAscii (py "mapping_digest=") ++ (encodeAscii inputs.mappingDigest ++
    (encodeAscii (py "\n") ++ (encodeAscii (py "attempt=") ++
    (encodeAscii (decimal inputs.attempt) ++
      (encodeAscii (py "\n") ++ [])))))))))))))))))))))

/-- The lines that all messages begin with. -/
def firstLines : Bytes :=
  encodeAscii (py "RNG-GAME-PLATFORM-PVF/1\n") ++
    (encodeAscii (py "algorithm=hmac-sha256\n") ++
    (encodeAscii (py "protocol=rng-game-platform-pvf-v1\n") ++
    encodeAscii (py "game_key=10:daily_spin\n")))

/-- The message of accepted inputs. -/
theorem message_ok {inputs : DerivationInputs} {bytes : Bytes}
    (built : inputs.message = .ok bytes) :
    ∃ seedBytes, inputs.Checked seedBytes ∧ bytes = firstLines ++ inputs.lines seedBytes := by
  obtain ⟨_, supported, rest⟩ := bind_eq_ok.mp built
  obtain ⟨seedBytes, seedOk, rest⟩ := bind_eq_ok.mp rest
  obtain ⟨_, _, rest⟩ := bind_eq_ok.mp rest
  obtain ⟨_, digestOk, isBytes⟩ := bind_eq_ok.mp rest
  have isGame := (supported_eq supported).1
  refine ⟨seedBytes, ⟨isGame, validateClientSeed_ok seedOk, validateDigest_ok digestOk⟩, ?_⟩
  rw [← Except.ok.inj isBytes, isGame]
  unfold lines firstLines
  simp only [encodeAscii_append, List.append_assoc, List.append_nil]
  rfl

/-- The lines are read back as the inputs. -/
theorem lines_injective {one other : DerivationInputs} {seedOne seedOther : Bytes}
    (checkedOne : one.Checked seedOne) (checkedOther : other.Checked seedOther)
    (same : one.lines seedOne = other.lines seedOther) : one = other := by
  have ascii : ∀ id : Uuid, ∀ c ∈ uuidStr id, c.val < 128 :=
    fun id c member => (line_uuidStr id c member).1
  have lengths : ∀ id id' : Uuid, (uuidStr id).length = (uuidStr id').length :=
    fun id id' => (length_uuidStr id).trans (length_uuidStr id').symm
  unfold lines at same
  obtain ⟨configs, same⟩ := asciiBytes_cancel (ascii _) (ascii _) (lengths _ _)
    (List.append_cancel_left same)
  obtain ⟨sessions, same⟩ := asciiBytes_cancel (ascii _) (ascii _) (lengths _ _)
    (List.append_cancel_left (List.append_cancel_left same))
  obtain ⟨seeds, same⟩ :=
    prefixedBytes_cancel (List.append_cancel_left (List.append_cancel_left same))
  obtain ⟨nonces, same⟩ := decimalBytes_cancel (delimited_newline _) (delimited_newline _)
    (List.append_cancel_left (List.append_cancel_left same))
  obtain ⟨digests, same⟩ := asciiBytes_cancel checkedOne.ascii checkedOther.ascii
    (checkedOne.digest.1.trans checkedOther.digest.1.symm)
    (List.append_cancel_left (List.append_cancel_left
      (List.append_cancel_left (List.append_cancel_left same))))
  obtain ⟨attempts, -⟩ := decimalBytes_cancel (delimited_newline _) (delimited_newline _)
    (List.append_cancel_left (List.append_cancel_left same))
  have clientSeeds : one.clientSeed = other.clientSeed :=
    encodeUtf8_injective checkedOne.clientSeed (seeds ▸ checkedOther.clientSeed)
  have gameKeys : one.gameKey = other.gameKey :=
    checkedOne.gameKey.trans checkedOther.gameKey.symm
  have attempts' : one.attempt = other.attempt := Int.ofNat.inj attempts
  cases one
  cases other
  simp only [DerivationInputs.mk.injEq]
  exact ⟨clientSeeds, nonces, uuidStr_injective configs, uuidStr_injective sessions, digests,
    attempts', gameKeys⟩

end DerivationInputs

/-- Accepted inputs with the same message are the same. -/
theorem derivation_message_injective :
    Set.InjOn DerivationInputs.message {inputs | ∃ bytes, inputs.message = .ok bytes} := by
  rintro one ⟨bytes, built⟩ other - same
  obtain ⟨seedOne, checkedOne, isOne⟩ := DerivationInputs.message_ok built
  obtain ⟨seedOther, checkedOther, isOther⟩ := DerivationInputs.message_ok (same ▸ built)
  exact DerivationInputs.lines_injective checkedOne checkedOther
    (List.append_cancel_left (isOne.symm.trans isOther))

namespace Sample

/-- Inputs whose client seed ends in what looks like a nonce and an attempt. -/
def imitatingInputs : DerivationInputs where
  clientSeed := py "5:luckynonce=1attempt=12"
  nonce := 2
  configVersionId := 18
  sessionId := 32
  mappingDigest := List.replicate 64 (codePoint '0')
  attempt := 1
  gameKey := dailySpinGameKey

/-- The inputs of the nonce and the attempt that the others pretend to have, and the other
way round. -/
def imitatedInputs : DerivationInputs :=
  { imitatingInputs with
    clientSeed := py "5:luckynonce=2attempt=1"
    nonce := 1
    attempt := 12 }

theorem imitations_accepted : (imitatingInputs.message.isOk && imitatedInputs.message.isOk) =
    true := by
  decide +kernel

end Sample

theorem DerivationInputs.accepted_of_isOk {inputs : DerivationInputs}
    (isOk : inputs.message.isOk = true) : ∃ bytes, inputs.message = .ok bytes := by
  cases built : inputs.message with
  | error error =>
      rw [built] at isOk
      cases isOk
  | ok bytes => exact ⟨bytes, rfl⟩

/-- A client seed cannot pass for the lines of another nonce and attempt. -/
theorem derivation_message_injective_imitating :
    Sample.imitatingInputs.message ≠ Sample.imitatedInputs.message := by
  obtain ⟨imitating, imitated⟩ := Bool.and_eq_true_iff.mp Sample.imitations_accepted
  intro same
  have isSame := derivation_message_injective (DerivationInputs.accepted_of_isOk imitating)
    (DerivationInputs.accepted_of_isOk imitated) same
  exact absurd (congrArg DerivationInputs.attempt isSame) (by decide)

end RngGamePlatform
