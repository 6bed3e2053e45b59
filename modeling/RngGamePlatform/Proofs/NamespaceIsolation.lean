/-
Module: RngGamePlatform.Proofs.NamespaceIsolation
Purpose: Which namespaces of the Redis projection are isolated from each other.
Trusted boundary: none
Main exports: CleanedUp, scanned_swept, clear_swept, owner, KeysApart,
  namespaces_isolated, reserved_namespace_leaks
-/
import Mathlib.Order.CompletePartialOrder
import RngGamePlatform.Projections.Namespaces

namespace RngGamePlatform

open Encoding Stores

section Clearing

variable {batchSize : Nat} {cache : Cache} {resolved : PyStr} {answers : List PyStr}

/-- What a cleanup has done: a key that the scan has answered is collected or gone, and
every other key is as it was. -/
structure CleanedUp (cache : Cache) (answers : List PyStr) (cleanup : Cleanup) : Prop where
  collected : ∀ key ∈ cleanup.keys, key ∈ answers
  answered : ∀ key ∈ answers, key ∈ cleanup.keys ∨ cleanup.cache key = none
  kept : ∀ key, key ∈ answers ∧ cleanup.cache key = none ∨ cleanup.cache key = cache key

theorem CleanedUp.flush {cleanup : Cleanup} (swept : CleanedUp cache answers cleanup) :
    CleanedUp cache answers cleanup.flush := by
  have gone : ∀ key ∈ cleanup.keys, cleanup.flush.cache key = none :=
    fun _ inKeys => if_pos inKeys
  have same : ∀ key ∉ cleanup.keys, cleanup.flush.cache key = cleanup.cache key :=
    fun _ notInKeys => if_neg notInKeys
  constructor
  case collected => exact nofun
  case answered =>
    intro key inAnswers
    right
    by_cases inKeys : key ∈ cleanup.keys
    · exact gone key inKeys
    · rw [same key inKeys]
      exact (swept.answered key inAnswers).resolve_left inKeys
  case kept =>
    intro key
    by_cases inKeys : key ∈ cleanup.keys
    · exact Or.inl ⟨swept.collected key inKeys, gone key inKeys⟩
    · rw [same key inKeys]
      exact swept.kept key

theorem CleanedUp.collect {cleanup : Cleanup} (swept : CleanedUp cache answers cleanup)
    (key : PyStr) :
    CleanedUp cache (answers ++ [key]) (cleanup.collect batchSize key) := by
  have more : CleanedUp cache (answers ++ [key])
      { cleanup with keys := cleanup.keys ++ [key] } := by
    constructor
    case collected =>
      intro other inKeys
      rcases List.mem_append.mp inKeys with before | isNew
      · exact List.mem_append_left _ (swept.collected other before)
      · exact List.mem_append_right _ isNew
    case answered =>
      intro other inAnswers
      rcases List.mem_append.mp inAnswers with before | isNew
      · exact (swept.answered other before).imp_left (List.mem_append_left _)
      · exact Or.inl (List.mem_append_right _ isNew)
    case kept =>
      intro other
      exact (swept.kept other).imp_left fun ⟨before, gone⟩ =>
        ⟨List.mem_append_left _ before, gone⟩
  unfold Cleanup.collect
  simp only
  split
  · exact more.flush
  · exact more

/-- The cleanup after any answers. -/
theorem scanned_swept : CleanedUp cache answers (scanned batchSize cache answers) := by
  have run : ∀ (later before : List PyStr) (cleanup : Cleanup), CleanedUp cache before cleanup →
      CleanedUp cache (before ++ later) (later.foldl (Cleanup.collect batchSize) cleanup) := by
    intro later
    induction later with
    | nil =>
        intro before cleanup swept
        rwa [List.append_nil]
    | cons key later ih =>
        intro before cleanup swept
        have next := ih (before ++ [key]) (cleanup.collect batchSize key) (swept.collect key)
        rwa [List.append_assoc] at next
  exact run answers [] _ ⟨nofun, nofun, fun _ => Or.inr rfl⟩

/-- Clearing removes the answered keys and no others. -/
theorem clear_swept {cleanup : Cleanup}
    (cleared : clearRedisNamespace batchSize cache resolved answers = .ok cleanup) :
    (∀ key ∈ answers, cleanup.cache key = none) ∧
      ∀ key ∉ answers, cleanup.cache key = cache key := by
  have final : CleanedUp cache answers cleanup ∧ cleanup.keys = [] := by
    unfold clearRedisNamespace at cleared
    split at cleared
    · cases cleared
    · cases cleared
      split
      · exact ⟨scanned_swept.flush, rfl⟩
      · next empty => exact ⟨scanned_swept, not_not.mp empty⟩
  obtain ⟨swept, empty⟩ := final
  constructor
  · intro key inAnswers
    apply (swept.answered key inAnswers).resolve_left
    rw [empty]
    exact List.not_mem_nil
  · intro key notAnswered
    exact (swept.kept key).resolve_left fun ⟨inAnswers, _⟩ => notAnswered inAnswers

end Clearing

/-! ### The keys under the pattern -/

section Keys

variable {resolved other key : PyStr}

/-- The characters of an accepted namespace. -/
theorem accepted_iff_valid : validateRedisKeyNamespace resolved = .ok resolved ↔
    resolved = [] ∨ resolved.length ≤ 96 ∧ ∀ c ∈ resolved, c ∈ validCharacters := by
  unfold validateRedisKeyNamespace
  split
  · next refused =>
      obtain ⟨nonempty, wrong⟩ := refused
      simp only [reduceCtorEq, nonempty, false_or, false_iff, not_and]
      intro short valid
      rcases wrong with long | foreign
      · omega
      · exact foreign valid
  · next passes =>
      simp only [true_iff]
      by_cases empty : resolved = []
      · exact Or.inl empty
      · simp only [ne_eq, empty, not_false_eq_true, true_and, not_or, not_lt, not_not] at passes
        exact Or.inr passes

theorem accepted_py (literal : String) (short : literal.toList.length ≤ 96)
    (valid : literal.toList.all (fun char => (String.toList
      "abcdefghijklmnopqrstuvwxyzABCDEFGHIJKLMNOPQRSTUVWXYZ0123456789-_").contains char) =
        true) :
    validateRedisKeyNamespace (py literal) = .ok (py literal) := by
  apply accepted_iff_valid.mpr
  right
  constructor
  · exact (List.length_map _).trans_le short
  · intro c member
    obtain ⟨char, inLiteral, rfl⟩ := List.mem_map.mp member
    exact List.mem_map_of_mem
      (List.contains_iff_mem.mp (List.all_eq_true.mp valid char inLiteral))

/-- The characters of a namespace stand for themselves, and none is the colon. -/
theorem valid_plain {c : CodePoint} (valid : c ∈ validCharacters) :
    Glob.Plain redisGlob c ∧ c ≠ codePoint ':' := by
  have ordinary : ∀ char ∈ (String.toList
      "abcdefghijklmnopqrstuvwxyzABCDEFGHIJKLMNOPQRSTUVWXYZ0123456789-_"),
      char.toNat ∉ [42, 63, 91, 92, 58] := by
    have checked : (String.toList
        "abcdefghijklmnopqrstuvwxyzABCDEFGHIJKLMNOPQRSTUVWXYZ0123456789-_").all
        (fun char => char.toNat ∉ [42, 63, 91, 92, 58]) = true := by
      decide +kernel
    intro char inLiteral
    exact of_decide_eq_true (List.all_eq_true.mp checked char inLiteral)
  obtain ⟨char, inLiteral, isCode⟩ := List.mem_map.mp valid
  have notSpecial := ordinary char inLiteral
  have isValue : c.val = char.toNat := by
    rw [← isCode]
    rfl
  have other : ∀ special : CodePoint, special.val ∈ [42, 63, 91, 92, 58] → c ≠ special := by
    intro special isSpecial same
    rw [same] at isValue
    exact notSpecial (isValue ▸ isSpecial)
  exact ⟨⟨other _ (by decide), other _ (by decide), other _ (by decide), other _ (by decide)⟩,
    other _ (by decide)⟩

theorem valid_of_accepted (accepted : validateRedisKeyNamespace resolved = .ok resolved) :
    ∀ c ∈ resolved, c ∈ validCharacters := by
  rcases accepted_iff_valid.mp accepted with rfl | ⟨_, valid⟩
  · exact nofun
  · exact valid

/-- The pattern of a namespace selects the keys that begin with it and a colon. -/
theorem scanPattern_iff (accepted : validateRedisKeyNamespace resolved = .ok resolved) :
    Glob.globMatch redisGlob (scanPattern resolved) key = true ↔
      resolved ++ py ":" <+: key := by
  have isPattern : scanPattern resolved = resolved ++ py ":" ++ [redisGlob.star] := by
    rw [List.append_assoc]
    rfl
  rw [isPattern]
  apply Glob.globMatch_prefix
  intro c member
  rcases List.mem_append.mp member with inNamespace | isColon
  · exact (valid_plain (valid_of_accepted accepted c inNamespace)).1
  · rw [List.mem_singleton.mp isColon]
    unfold Glob.Plain
    decide

/-- What stands before the first colon of a key. -/
def owner (resolved : PyStr) : PyStr :=
  if resolved = [] then py "leaderboard" else resolved

/-- Every key goes on from the scope key of its board. -/
theorem key_extends (inKeys : key ∈ keysUnder resolved) :
    ∃ gameKey periodStart rest, key = leaderboardKey gameKey periodStart resolved ++ rest := by
  obtain ⟨gameKey, periodStart, generation, member⟩ := inKeys
  refine ⟨gameKey, periodStart, ?_⟩
  simp only [boardKeys, ProjectionKeys.all, List.mem_cons, List.not_mem_nil, or_false] at member
  rcases member with rfl | rfl | rfl | rfl | rfl
  · exact ⟨[], (List.append_nil _).symm⟩
  · exact ⟨_, rfl⟩
  · exact ⟨_, (List.append_assoc _ _ _).trans (List.append_assoc _ _ _)⟩
  · exact ⟨_, (List.append_assoc _ _ _).trans (List.append_assoc _ _ _)⟩
  · exact ⟨_, (List.append_assoc _ _ _).trans (List.append_assoc _ _ _)⟩

theorem key_owner (inKeys : key ∈ keysUnder resolved) :
    owner resolved ++ py ":" <+: key := by
  obtain ⟨gameKey, periodStart, rest, rfl⟩ := key_extends inKeys
  apply List.IsPrefix.trans _ (List.prefix_append _ rest)
  unfold leaderboardKey namespacedKey owner
  split
  · refine ⟨py "v2:" ++ gameKey ++ py ":" ++ periodStart, ?_⟩
    simp only [List.append_assoc]
    rfl
  · exact List.prefix_append _ _

/-- The owner of a key has no colon. -/
theorem owner_plain (accepted : validateRedisKeyNamespace resolved = .ok resolved) :
    codePoint ':' ∉ owner resolved := by
  unfold owner
  split
  · decide
  · intro member
    exact (valid_plain (valid_of_accepted accepted _ member)).2 rfl

/-- A key under both prefixes makes them equal. -/
theorem owner_unique {one two : PyStr} (plainOne : codePoint ':' ∉ one)
    (plainTwo : codePoint ':' ∉ two) (underOne : one ++ py ":" <+: key)
    (underTwo : two ++ py ":" <+: key) : one = two := by
  obtain ⟨x, isKey⟩ := underOne
  obtain ⟨y, alsoKey⟩ := underTwo
  have same : one ++ codePoint ':' :: x = two ++ codePoint ':' :: y := by
    rw [← alsoKey, List.append_assoc, List.append_assoc] at isKey
    exact isKey
  exact (colon_cancel plainOne plainTwo same).1

end Keys

/-! ### Isolation -/

/-- One namespace can be cleared without the other: its keys are gone, the other's are as
they were, and none is common. -/
structure KeysApart (own other : PyStr) : Prop where
  clears : ∀ batchSize cache answers, 1 ≤ batchSize →
    FullIteration batchSize cache own answers →
      ∃ cleanup, clearRedisNamespace batchSize cache own answers = .ok cleanup ∧
        (∀ key ∈ keysUnder own, cleanup.cache key = none) ∧
        ∀ key ∈ keysUnder other, cleanup.cache key = cache key
  apart : Disjoint (keysUnder own) (keysUnder other)

section Isolation

variable {own other : PyStr}

/-- A nonempty namespace is cleared of all its keys, and of the keys that begin as they
do. -/
theorem clear_prefix {batchSize : Nat} {cache : Cache} {answers : List PyStr}
    (accepted : validateRedisKeyNamespace own = .ok own) (nonempty : own ≠ [])
    (full : FullIteration batchSize cache own answers) :
    ∃ cleanup, clearRedisNamespace batchSize cache own answers = .ok cleanup ∧
      (∀ key, own ++ py ":" <+: key → cleanup.cache key = none) ∧
      ∀ key, ¬own ++ py ":" <+: key → cleanup.cache key = cache key := by
  have cleared : ∃ cleanup, clearRedisNamespace batchSize cache own answers = .ok cleanup := by
    unfold clearRedisNamespace
    rw [if_neg nonempty]
    exact ⟨_, rfl⟩
  obtain ⟨cleanup, isCleanup⟩ := cleared
  obtain ⟨gone, kept⟩ := clear_swept isCleanup
  refine ⟨cleanup, isCleanup, ?_, ?_⟩
  · intro key isUnder
    by_cases answered : key ∈ answers
    · exact gone key answered
    -- A key that is not answered stays as it was: if it was stored, it was stored
    -- throughout the scan, which would have answered it.
    rw [kept key answered]
    by_contra stored
    have isStored : (cache key).isSome := Option.isSome_iff_ne_none.mpr stored
    have throughout : ((scanned batchSize cache answers).cache key).isSome := by
      rwa [(scanned_swept.kept key).resolve_left fun ⟨inAnswers, _⟩ => answered inAnswers]
    exact answered
      (full.complete key ((scanPattern_iff accepted).mpr isUnder) isStored throughout)
  · intro key notUnder
    apply kept
    intro answered
    exact notUnder ((scanPattern_iff accepted).mp (full.matching key answered))

/-- Namespaces with different owners are isolated. -/
theorem isolated_of_owners (acceptedOwn : validateRedisKeyNamespace own = .ok own)
    (acceptedOther : validateRedisKeyNamespace other = .ok other) (nonempty : own ≠ [])
    (different : own ≠ owner other) : KeysApart own other := by
  have isOwner : owner own = own := if_neg nonempty
  have notUnder : ∀ key ∈ keysUnder other, ¬own ++ py ":" <+: key := by
    intro key inOther isUnder
    exact different (owner_unique (isOwner ▸ owner_plain acceptedOwn)
      (owner_plain acceptedOther) isUnder (key_owner inOther))
  have underOwn : ∀ key ∈ keysUnder own, own ++ py ":" <+: key := by
    intro key inOwn
    have isUnder := key_owner inOwn
    rwa [isOwner] at isUnder
  constructor
  case clears =>
    intro batchSize cache answers _ full
    obtain ⟨cleanup, isCleanup, gone, kept⟩ := clear_prefix acceptedOwn nonempty full
    exact ⟨cleanup, isCleanup, fun key inOwn => gone key (underOwn key inOwn),
      fun key inOther => kept key (notUnder key inOther)⟩
  case apart =>
    rw [Set.disjoint_left]
    intro key inOwn inOther
    exact notUnder key inOther (underOwn key inOwn)

/-- A database with one key. -/
def onlyKey (key : PyStr) : Cache := Redis.set key (py "generation") Redis.empty

/-- The scan answers the only key, when it begins with the namespace. -/
theorem onlyKey_full {key : PyStr} (accepted : validateRedisKeyNamespace own = .ok own)
    (isUnder : own ++ py ":" <+: key) (batchSize : Nat) :
    FullIteration batchSize (onlyKey key) own [key] := by
  constructor
  case matching =>
    intro other member
    rw [List.mem_singleton.mp member]
    exact (scanPattern_iff accepted).mpr isUnder
  case complete =>
    intro other _ stored _
    by_contra notKey
    have missing : onlyKey key other = none := if_neg (mt List.mem_singleton.mpr notKey)
    rw [missing] at stored
    cases stored

/-- A namespace is not isolated from one with a key that begins with it. -/
theorem not_isolated_of_key {key : PyStr} (accepted : validateRedisKeyNamespace own = .ok own)
    (nonempty : own ≠ []) (isUnder : own ++ py ":" <+: key) (inOther : key ∈ keysUnder other) :
    ¬KeysApart own other := by
  intro isolated
  have full := onlyKey_full accepted isUnder 1
  obtain ⟨cleanup, isCleanup, _, kept⟩ :=
    isolated.clears 1 (onlyKey key) [key] (Nat.le_refl 1) full
  obtain ⟨_, again, gone, _⟩ := clear_prefix accepted nonempty full
  cases isCleanup.symm.trans again
  have isStored : onlyKey key key = some ⟨.text (py "generation"), false⟩ := if_pos rfl
  have lost := (gone key isUnder).symm.trans ((kept key inOther).trans isStored)
  cases lost

end Isolation

/-- Clearing a nonempty namespace removes its keys and leaves those of another accepted
namespace alone, and the two share no key, if and only if they are not the word with
which the keys outside every namespace begin, and the empty namespace. -/
theorem namespaces_isolated (own other : PyStr)
    (acceptedOwn : validateRedisKeyNamespace own = .ok own)
    (acceptedOther : validateRedisKeyNamespace other = .ok other) (nonempty : own ≠ [])
    (different : own ≠ other) :
    KeysApart own other ↔ ¬(own = py "leaderboard" ∧ other = []) := by
  constructor
  · rintro isolated ⟨rfl, rfl⟩
    have inOther : leaderboardKey [] [] [] ∈ keysUnder [] := ⟨[], [], [], List.mem_cons_self⟩
    exact not_isolated_of_key acceptedOwn nonempty (key_owner inOther) inOther isolated
  · intro notReserved
    apply isolated_of_owners acceptedOwn acceptedOther nonempty
    unfold owner
    split
    · next isEmpty => exact fun isReserved => notReserved ⟨isReserved, isEmpty⟩
    · exact different

theorem namespaces_isolated_staging :
    KeysApart (py "staging") (py "production") ∧ KeysApart (py "staging") [] := by
  have accepted := accepted_py "staging" (by decide) rfl
  have acceptedOther := accepted_py "production" (by decide) rfl
  have notReserved : py "staging" ≠ py "leaderboard" := by decide
  constructor
  · exact (namespaces_isolated _ _ accepted acceptedOther (by decide) (by decide)).mpr
      fun ⟨reserved, _⟩ => notReserved reserved
  · exact (namespaces_isolated _ _ accepted rfl (by decide) (by decide)).mpr
      fun ⟨reserved, _⟩ => notReserved reserved

/-- Clearing the namespace `leaderboard` removes the pointer of a board that is stored
without a namespace. -/
theorem reserved_namespace_leaks :
    let pointer := leaderboardPointerKey (py "daily_spin") (py "20260706T000000Z") []
    validateRedisKeyNamespace (py "leaderboard") = .ok (py "leaderboard") ∧
      validateRedisKeyNamespace [] = .ok [] ∧
      pointer ∈ keysUnder [] ∧ (onlyKey pointer pointer).isSome = true ∧
      FullIteration 100 (onlyKey pointer) (py "leaderboard") [pointer] ∧
      ((clearRedisNamespace 100 (onlyKey pointer) (py "leaderboard") [pointer]).map
        fun cleanup => (cleanup.cache pointer).isSome) = .ok false := by
  have accepted := accepted_py "leaderboard" (by decide) rfl
  have inKeys : leaderboardPointerKey (py "daily_spin") (py "20260706T000000Z") [] ∈ keysUnder [] :=
    ⟨_, _, [], List.mem_cons_of_mem _ List.mem_cons_self⟩
  refine ⟨accepted, rfl, inKeys, ?_, onlyKey_full accepted (key_owner inKeys) 100, ?_⟩
  · decide +kernel
  · decide +kernel

end RngGamePlatform
