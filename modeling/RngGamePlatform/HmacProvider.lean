/-
Module: RngGamePlatform.HmacProvider
Purpose: The internal outcome provider of the direct games.
Trusted boundary: human-reviewed semantics
Main exports: outcomeKey, uniformLimit, acceptedResidue, hmacUniform
-/
import RngGamePlatform.GameRules

namespace RngGamePlatform

open Encoding

/-- The exceptions of the provider. -/
inductive ProviderError where
  | valueError
  | unicodeEncodeError
  | overflowError
deriving DecidableEq, Repr

/-- The key of a provider; a short secret is refused. -/
def outcomeKey (secret : PyStr) : Except ProviderError Bytes :=
  match encodeUtf8 secret with
  | none => .error .unicodeEncodeError
  | some key => if key.length < 32 then .error .valueError else .ok key

/-- The four big-endian bytes of a counter. -/
def counterBytes (counter : Nat) : Bytes :=
  [UInt8.ofNat (counter / 2 ^ 24), UInt8.ofNat (counter / 2 ^ 16),
    UInt8.ofNat (counter / 2 ^ 8), UInt8.ofNat counter]

/-- The acceptance limit of a bound. -/
def uniformLimit (upperBound : Nat) : Nat := 2 ^ 256 - 2 ^ 256 % upperBound

/-- The residue of a digest below the acceptance limit; none above it. -/
def acceptedResidue (upperBound : Nat) (digest : Digest) : Option Nat :=
  let raw := bigEndian digest.val
  if raw < uniformLimit upperBound then some (raw % upperBound) else none

/-- Rejection sampling from `counter` on, for at most `fuel` digests. -/
def uniformFrom (crypto : Crypto) (key base : Bytes) (upperBound : Nat) :
    (fuel counter : Nat) → Except ProviderError (Option DerivedValue)
  | 0, _ => .ok none
  | fuel + 1, counter =>
      if 2 ^ 32 ≤ counter then .error .overflowError
      else
        let digest := crypto.hmacSha256 key (base ++ counterBytes counter)
        match acceptedResidue upperBound digest with
        | some value => .ok (some ⟨value, digest.hex⟩)
        | none => uniformFrom crypto key base upperBound fuel (counter + 1)

/-- `HmacOutcomeProvider.uniform`: an unbiased bounded integer, within `fuel`
digests. -/
def hmacUniform (crypto : Crypto) (key : Bytes) (fuel : Nat) (sessionId : Uuid)
    (gameKey : PyStr) (configVersionId : Uuid) (purpose : PyStr) (upperBound : Int) :
    Except ProviderError (Option DerivedValue) :=
  if upperBound ≤ 0 then .error .valueError
  else
    let colon := py ":"
    match encodeUtf8 (uuidStr sessionId ++ colon ++ gameKey ++ colon ++
        uuidStr configVersionId ++ colon ++ purpose) with
    | none => .error .unicodeEncodeError
    | some base => uniformFrom crypto key base upperBound.toNat fuel 0

end RngGamePlatform
