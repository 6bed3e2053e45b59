/-
Module: RngGamePlatform.Web.PlayerStore
Purpose: The browser's list of local players and the validation of the current one.
Trusted boundary: human-reviewed semantics
Main exports: StoredPlayer, PlayerStore, PlayerStore.save, PlayerStore.perform,
  PlayerStore.after
-/
import RngGamePlatform.Encoding.Text

namespace RngGamePlatform

open Encoding

/-- A player record as the server sends it and the browser stores it. -/
structure StoredPlayer where
  id : PyStr
  displayName : PyStr
deriving DecidableEq

/-- `validationPromise`: none, a request in flight, or an answer that its first
caller has not taken yet. -/
inductive Validation where
  | idle
  | requested (id : PyStr)
  | answered
deriving DecidableEq

/-- The stored value, newest player first, and the state of the validation. -/
structure PlayerStore where
  currentId : Option PyStr := none
  players : List StoredPlayer := []
  validation : Validation := .idle
deriving DecidableEq

/-- The answer to the request of a validation. -/
inductive ValidationAnswer where
  | validated (player : StoredPlayer)
  | failed (code : PyStr)
deriving DecidableEq

namespace PlayerStore

def current (store : PlayerStore) : Option StoredPlayer :=
  store.players.find? fun player => some player.id = store.currentId

/-- Put a player first, select it and keep eight. -/
def save (store : PlayerStore) (player : StoredPlayer) : PlayerStore :=
  let players := store.players.filter fun candidate => candidate.id ≠ player.id
  { store with
    currentId := some player.id
    players := (player :: players).take 8 }

def select (store : PlayerStore) (playerId : PyStr) : PlayerStore :=
  match store.players.find? fun candidate => candidate.id = playerId with
  | none => store
  | some _ => { store with currentId := some playerId }

/-- Forget a player; when it was the current one, the first of the others is
(an empty id counts as none). -/
def remove (store : PlayerStore) (playerId : PyStr) : PlayerStore :=
  let players := store.players.filter fun player => player.id ≠ playerId
  let currentId :=
    if store.currentId = some playerId then
      (players.head?.map (·.id)).filter fun id => id ≠ []
    else store.currentId
  { store with currentId, players }

def clear (store : PlayerStore) : PlayerStore :=
  { store with currentId := none, players := [] }

/-- The codes on which a validated player is removed. -/
def isGone (code : PyStr) : Bool :=
  code = py "not_found" || code = py "forbidden"

/-- A call of `validateCurrent` up to its first suspension: it requests the
current player unless a validation is under way or nobody is current. -/
def validateCurrent (store : PlayerStore) : PlayerStore :=
  match store.validation with
  | .idle =>
      match store.current with
      | none => store
      | some player => { store with validation := .requested player.id }
  | _ => store

/-- The rest of a validation, on the answer to its request. -/
def receive (store : PlayerStore) (requested : PyStr) (answer : ValidationAnswer) :
    PlayerStore :=
  let settled := { store with validation := .answered }
  match answer with
  | .validated player => settled.save player
  | .failed code => if isGone code then settled.remove requested else settled

end PlayerStore

/-- An operation on the store, or a step of a validation. -/
inductive PlayerAction where
  | save (player : StoredPlayer)
  | select (playerId : PyStr)
  | remove (playerId : PyStr)
  | clear
  | validateCurrent
  | answered (answer : ValidationAnswer)
  | released
deriving DecidableEq

namespace PlayerStore

/-- The store after a step.  The server answers about the player it was asked
for, and a validation has one answer. -/
def perform (store : PlayerStore) : PlayerAction → Option PlayerStore
  | .save player => some (store.save player)
  | .select playerId => some (store.select playerId)
  | .remove playerId => some (store.remove playerId)
  | .clear => some store.clear
  | .validateCurrent => some store.validateCurrent
  | .answered answer =>
      match store.validation, answer with
      | .requested id, .validated player =>
          if player.id = id then some (store.receive id answer) else none
      | .requested id, .failed _ => some (store.receive id answer)
      | _, _ => none
  | .released =>
      if store.validation = .answered then some { store with validation := .idle }
      else none

/-- The store after a history of steps, the most recent one first, from an empty
storage. -/
def after : List PlayerAction → Option PlayerStore
  | [] => some {}
  | action :: past => (after past).bind (·.perform action)

end PlayerStore

end RngGamePlatform
