/-
Module: RngGamePlatform.Web.OperationJournal
Purpose: The browser's record of unfinished operations, one entry a player and game.
Trusted boundary: human-reviewed semantics
Main exports: PendingAction, JournalEntry, Journal.get, Journal.save, Journal.discard,
  Journal.merge, Journal.get_merge, Journal.get_discard
-/
import RngGamePlatform.Models
import RngGamePlatform.Encoding.Collation

namespace RngGamePlatform

open Encoding

/-- The step that a component wants to take up again. -/
inductive PendingAction where
  | createSession
  | commit
  | evaluate
  | play
  | submitScore
  | claim
deriving DecidableEq

/-- One entry; what a component has not written is null.  The instant of the last
change is left out: nothing reads it. -/
structure JournalEntry where
  requestId : Option Uuid := none
  sessionId : Option Uuid := none
  commitmentId : Option Uuid := none
  clientSeed : Option PyStr := none
  outcome : Option Outcome := none
  pendingAction : Option PendingAction := none
  /-- The digits of Memory Rush; the other components write none. -/
  actions : Option (List Int) := none
deriving DecidableEq

/-- The stored object: the entries under their keys. -/
def Journal : Type := PyStr → Option JournalEntry

namespace Journal

def empty : Journal := fun _ => none

def entryKey (playerId : Uuid) (gameKey : PyStr) : PyStr :=
  uuidStr playerId ++ py ":" ++ gameKey

variable (journal : Journal) (playerId : Uuid) (gameKey : PyStr)

def get : Option JournalEntry := journal (entryKey playerId gameKey)

def save (operation : JournalEntry) : Journal := fun key =>
  if key = entryKey playerId gameKey then some operation else journal key

def discard : Journal := fun key =>
  if key = entryKey playerId gameKey then none else journal key

/-- `saveJournal` of the components: change some fields of the entry of the player, if
there is one. -/
def merge (player : Option Uuid) (values : JournalEntry → JournalEntry) : Journal :=
  match player with
  | none => journal
  | some playerId =>
      journal.save playerId gameKey (values ((journal.get playerId gameKey).getD {}))

variable {journal playerId gameKey}

/-- Players do not share entries. -/
theorem entryKey_injective {other : Uuid}
    (same : entryKey playerId gameKey = entryKey other gameKey) : playerId = other := by
  simp only [entryKey, List.append_assoc] at same
  obtain ⟨texts, -⟩ := List.append_inj same
    ((length_uuidStr playerId).trans (length_uuidStr other).symm)
  exact uuidStr_injective texts

theorem get_save {other : Uuid} {operation : JournalEntry} :
    (journal.save playerId gameKey operation).get other gameKey =
      if other = playerId then some operation else journal.get other gameKey := by
  unfold get save
  by_cases same : other = playerId
  · rw [if_pos same, if_pos (by rw [same])]
  · rw [if_neg same, if_neg fun keys => same (entryKey_injective keys)]

theorem get_discard {other : Uuid} :
    (journal.discard playerId gameKey).get other gameKey =
      if other = playerId then none else journal.get other gameKey := by
  unfold get discard
  by_cases same : other = playerId
  · rw [if_pos same, if_pos (by rw [same])]
  · rw [if_neg same, if_neg fun keys => same (entryKey_injective keys)]

/-- A merge changes the entry of its player only. -/
theorem get_merge {player : Option Uuid} {values : JournalEntry → JournalEntry}
    {other : Uuid} :
    (journal.merge gameKey player values).get other gameKey =
      if player = some other then
        some (values ((journal.get other gameKey).getD {}))
      else journal.get other gameKey := by
  cases player with
  | none => simp only [merge, reduceCtorEq, if_false]
  | some playerId =>
      simp only [merge, get_save, Option.some.injEq]
      by_cases same : other = playerId
      · rw [if_pos same, if_pos same.symm, same]
      · rw [if_neg same, if_neg (Ne.symm same)]

end Journal

end RngGamePlatform
