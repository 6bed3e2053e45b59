/-
Module: RngGamePlatform.LeaderboardEvents
Purpose: The process-local fan-out of leaderboard invalidations.
Trusted boundary: human-reviewed semantics
Main exports: LeaderboardChange, LeaderboardSubscription, LeaderboardEventHub,
  Occurrence, LeaderboardEventHub.after
-/
import RngGamePlatform.Encoding.Text
import RngGamePlatform.Queues.KeepNewest

namespace RngGamePlatform

open Encoding

/-- Public invalidation coordinates, without score or player data. -/
structure LeaderboardChange where
  gameKey : PyStr
  periodStart : Int
deriving DecidableEq

/-- One bounded subscriber queue.  The sentinel of a shutdown is `none`. -/
structure LeaderboardSubscription where
  gameKey : PyStr
  periodStart : Int
  queueSize : Nat
  queue : List (Option LeaderboardChange) := []
  closed : Bool := false
deriving DecidableEq

namespace LeaderboardSubscription

/-- The filter of `publish`. -/
abbrev Matches (subscription : LeaderboardSubscription)
    (event : LeaderboardChange) : Prop :=
  subscription.gameKey = event.gameKey ∧
    subscription.periodStart = event.periodStart

/-- Keep the newest signal when the queue is full. -/
def offer (event : Option LeaderboardChange)
    (subscription : LeaderboardSubscription) : LeaderboardSubscription :=
  if subscription.closed then subscription
  else
    { subscription with
      queue := Queues.offer subscription.queueSize subscription.queue event }

end LeaderboardSubscription

/-- The broadcaster.  `created` holds every subscription object that it made, in
order of creation, and `subscriptions` the positions of the registered ones. -/
structure LeaderboardEventHub where
  queueSize : Nat
  positive : 0 < queueSize
  subscriptions : List Nat
  isShutdown : Bool
  created : List LeaderboardSubscription
deriving DecidableEq

namespace LeaderboardEventHub

/-- A new hub; a queue size below one is refused. -/
def create (queueSize : Int) : Option LeaderboardEventHub :=
  if small : queueSize < 1 then none
  else
    some {
      queueSize := queueSize.toNat
      positive := by omega
      subscriptions := []
      isShutdown := false
      created := [] }

/-- Offer to several subscriptions, one after another. -/
def offerTo (event : Option LeaderboardChange) (targets : List Nat)
    (created : List LeaderboardSubscription) : List LeaderboardSubscription :=
  targets.foldl (fun objects id => objects.modify id (·.offer event)) created

/-- Register a filtered bounded subscription; after a shutdown it is not
registered and only gets the sentinel. -/
def subscribe (hub : LeaderboardEventHub) (gameKey : PyStr) (periodStart : Int) :
    LeaderboardEventHub :=
  let subscription : LeaderboardSubscription :=
    { gameKey, periodStart, queueSize := hub.queueSize }
  if hub.isShutdown then
    { hub with created := hub.created ++ [subscription.offer none] }
  else
    { hub with
      created := hub.created ++ [subscription]
      subscriptions := hub.subscriptions ++ [hub.created.length] }

/-- Offer an invalidation to the registered subscriptions that it concerns. -/
def publish (hub : LeaderboardEventHub) (event : LeaderboardChange) :
    LeaderboardEventHub :=
  let concerned := hub.subscriptions.filter fun id =>
    (hub.created[id]?).any fun subscription => subscription.Matches event
  { hub with created := offerTo (some event) concerned hub.created }

/-- Forget a disconnected subscriber. -/
def unsubscribe (hub : LeaderboardEventHub) (id : Nat) : LeaderboardEventHub :=
  { hub with subscriptions := hub.subscriptions.filter (· ≠ id) }

/-- Remove a subscriber, idempotently. -/
def close (hub : LeaderboardEventHub) (id : Nat) : LeaderboardEventHub :=
  if (hub.created[id]?).any (·.closed) then hub
  else
    { hub with
      created := hub.created.modify id fun subscription =>
        { subscription with closed := true } }.unsubscribe id

/-- Close every stream, once. -/
def shutdown (hub : LeaderboardEventHub) : LeaderboardEventHub :=
  if hub.isShutdown then hub
  else
    { hub with
      isShutdown := true
      subscriptions := []
      created := offerTo none hub.subscriptions hub.created }

/-- The oldest queued item of a subscription; none while `receive` waits. -/
def receive (hub : LeaderboardEventHub) (id : Nat) :
    Option (Option LeaderboardChange × LeaderboardEventHub) := do
  let subscription ← hub.created[id]?
  let item ← subscription.queue.head?
  return (item, { hub with
    created := hub.created.set id
      { subscription with queue := subscription.queue.tail } })

end LeaderboardEventHub

/-- A call of a method and what it answered. -/
inductive Occurrence where
  | subscribed (id : Nat) (gameKey : PyStr) (periodStart : Int)
  | published (event : LeaderboardChange)
  | received (id : Nat) (item : Option LeaderboardChange)
  | closed (id : Nat)
  | shutdown
deriving DecidableEq

namespace LeaderboardEventHub

/-- The hub after a call, where the call can answer so. -/
def perform (hub : LeaderboardEventHub) :
    Occurrence → Option LeaderboardEventHub
  | .subscribed id gameKey periodStart =>
      if id = hub.created.length then some (hub.subscribe gameKey periodStart)
      else none
  | .published event => some (hub.publish event)
  | .received id item =>
      match hub.receive id with
      | some (oldest, next) => if oldest = item then some next else none
      | none => none
  | .closed id => if id < hub.created.length then some (hub.close id) else none
  | .shutdown => some hub.shutdown

/-- The hub after a history of calls, the most recent one first. -/
def after (hub : LeaderboardEventHub) :
    List Occurrence → Option LeaderboardEventHub
  | [] => some hub
  | occurrence :: past => (hub.after past).bind (·.perform occurrence)

end LeaderboardEventHub

end RngGamePlatform
