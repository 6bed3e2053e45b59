/-
Module: RngGamePlatform.Proofs.EventHub
Purpose: The invariant that ties the queues of an event hub to its history.
Trusted boundary: none
Main exports: isOpen, dismissed, itemsReceived, eventsFor, unread, offered,
  Tracked, Sound, Sound.after
-/
import Mathlib.Data.List.Nodup
import RngGamePlatform.LeaderboardEvents

namespace RngGamePlatform

open Encoding Queues

/-!
Histories are read with the most recent call first.  What a subscription is owed
is read off the history alone; the invariant then relates it to the queue.
-/

section History

variable (id : Nat)

/-- The subscription has been made, before any shutdown, and neither closed nor
shut down since. -/
def isOpen : List Occurrence → Bool
  | [] => false
  | .subscribed made _ _ :: past =>
      if made = id then decide (Occurrence.shutdown ∉ past) else isOpen past
  | .closed gone :: past => if gone = id then false else isOpen past
  | .shutdown :: _ => false
  | .published _ :: past => isOpen past
  | .received _ _ :: past => isOpen past

/-- The subscription was open at a shutdown, or made after one. -/
def dismissed : List Occurrence → Bool
  | [] => false
  | .subscribed made _ _ :: past =>
      if made = id then decide (Occurrence.shutdown ∈ past) else dismissed past
  | .shutdown :: past => isOpen id past || dismissed past
  | .published _ :: past => dismissed past
  | .received _ _ :: past => dismissed past
  | .closed _ :: past => dismissed past

/-- What `receive` answered to the subscription, oldest first. -/
def itemsReceived : List Occurrence → List (Option LeaderboardChange)
  | [] => []
  | .received taker item :: past =>
      if taker = id then itemsReceived past ++ [item] else itemsReceived past
  | .subscribed _ _ _ :: past => itemsReceived past
  | .published _ :: past => itemsReceived past
  | .closed _ :: past => itemsReceived past
  | .shutdown :: past => itemsReceived past

variable (gameKey : PyStr) (periodStart : Int)

/-- The event concerns the game and the period while the subscription is open. -/
def isFor (past : List Occurrence) (event : LeaderboardChange) : Bool :=
  isOpen id past &&
    decide (gameKey = event.gameKey ∧ periodStart = event.periodStart)

/-- The matching events published while the subscription was open, oldest
first. -/
def eventsFor : List Occurrence → List LeaderboardChange
  | [] => []
  | .published event :: past =>
      if isFor id gameKey periodStart past event then eventsFor past ++ [event]
      else eventsFor past
  | .subscribed _ _ _ :: past => eventsFor past
  | .received _ _ :: past => eventsFor past
  | .closed _ :: past => eventsFor past
  | .shutdown :: past => eventsFor past

/-- The events of `eventsFor` since the last answer of `receive`. -/
def unread : List Occurrence → List LeaderboardChange
  | [] => []
  | .published event :: past =>
      if isFor id gameKey periodStart past event then unread past ++ [event]
      else unread past
  | .received taker _ :: past => if taker = id then [] else unread past
  | .subscribed _ _ _ :: past => unread past
  | .closed _ :: past => unread past
  | .shutdown :: past => unread past

/-- Everything that was offered to the subscription: its events, and the
sentinel last. -/
def offered (log : List Occurrence) : List (Option LeaderboardChange) :=
  (eventsFor id gameKey periodStart log).map some ++
    bif dismissed id log then [none] else []

end History

/-! The invariant. -/

/-- A history in which the subscription does not occur. -/
structure Unheard (id : Nat) (log : List Occurrence) : Prop where
  notMade : ∀ gameKey periodStart, .subscribed id gameKey periodStart ∉ log
  notOpen : isOpen id log = false
  notDismissed : dismissed id log = false
  nothingReceived : itemsReceived id log = []
  nothingFor : ∀ gameKey periodStart, eventsFor id gameKey periodStart log = []
  nothingUnread : ∀ gameKey periodStart, unread id gameKey periodStart log = []

/-- A subscription object agrees with the history of its hub. -/
structure Tracked (queueSize : Nat) (log : List Occurrence) (id : Nat)
    (object : LeaderboardSubscription) : Prop where
  asked : ∀ gameKey periodStart, .subscribed id gameKey periodStart ∈ log →
    object.gameKey = gameKey ∧ object.periodStart = periodStart
  live : isOpen id log = true → object.closed = false ∧ dismissed id log = false
  size : object.queueSize = queueSize
  bounded : object.queue.length ≤ queueSize
  delivers :
    Delivers (offered id object.gameKey object.periodStart log)
      (itemsReceived id log) object.queue
  current :
    object.queue = [] → unread id object.gameKey object.periodStart log = []
  farewell :
    dismissed id log = true →
      none ∈ itemsReceived id log ∨ object.queue.getLast? = some none

/-- The hub agrees with its history. -/
structure Sound (hub : LeaderboardEventHub) (log : List Occurrence) : Prop where
  stopped : hub.isShutdown = true ↔ Occurrence.shutdown ∈ log
  emptied : hub.isShutdown = true → hub.subscriptions = []
  distinct : hub.subscriptions.Nodup
  registered : ∀ id, id ∈ hub.subscriptions ↔ isOpen id log = true
  tracked : ∀ id object, hub.created[id]? = some object →
    Tracked hub.queueSize log id object
  unheard : ∀ id, hub.created.length ≤ id → Unheard id log

namespace LeaderboardEventHub

@[simp] theorem length_offerTo (event : Option LeaderboardChange)
    (targets : List Nat) (objects : List LeaderboardSubscription) :
    (offerTo event targets objects).length = objects.length := by
  unfold offerTo
  induction targets generalizing objects with
  | nil => rfl
  | cons id rest ih =>
    rw [List.foldl_cons, ih, List.length_modify]

/-- Offers to distinct subscriptions reach each of them once. -/
theorem getElem?_offerTo (event : Option LeaderboardChange) {targets : List Nat}
    (distinct : targets.Nodup) (objects : List LeaderboardSubscription) (id : Nat) :
    (offerTo event targets objects)[id]? =
      if id ∈ targets then objects[id]?.map (·.offer event) else objects[id]? := by
  unfold offerTo
  induction targets generalizing objects with
  | nil => rfl
  | cons first rest ih =>
    obtain ⟨fresh, distinctRest⟩ := List.nodup_cons.mp distinct
    rw [List.foldl_cons, ih distinctRest, List.getElem?_modify]
    by_cases isFirst : first = id
    · subst isFirst
      simp [fresh]
    · simp [isFirst, Ne.symm isFirst]

end LeaderboardEventHub


/-! One call. -/

theorem Sound.create {queueSize : Int} {hub : LeaderboardEventHub}
    (created : LeaderboardEventHub.create queueSize = some hub) : Sound hub [] := by
  unfold LeaderboardEventHub.create at created
  split at created
  · cases created
  · cases created
    constructor
    case stopped => simp
    case emptied => simp
    case distinct => exact List.nodup_nil
    case registered => simp [isOpen]
    case tracked => intro id object found; simp at found
    case unheard =>
      intro id _
      constructor <;> simp [isOpen, dismissed, itemsReceived, eventsFor, unread]

section Steps

variable {hub : LeaderboardEventHub} {log : List Occurrence} {id : Nat}
variable {object : LeaderboardSubscription}

/-- A signal for an open subscription. -/
theorem Tracked.signal {event : LeaderboardChange}
    (tracked : Tracked hub.queueSize log id object)
    (concerned : isFor id object.gameKey object.periodStart log event = true) :
    Tracked hub.queueSize (.published event :: log) id (object.offer (some event)) := by
  have opened : isOpen id log = true := (Bool.and_eq_true_iff.mp concerned).1
  obtain ⟨notClosed, notDismissed⟩ := tracked.live opened
  have offering : object.offer (some event) =
      { object with queue := offer object.queueSize object.queue (some event) } := by
    simp [LeaderboardSubscription.offer, notClosed]
  rw [offering]
  constructor
  case asked => simpa using tracked.asked
  case live => exact fun _ => ⟨notClosed, notDismissed⟩
  case size => exact tracked.size
  case bounded =>
    rw [← tracked.size]
    exact length_offer (tracked.size ▸ hub.positive) (tracked.size ▸ tracked.bounded) _
  case delivers =>
    have delivers := tracked.delivers.offer (tracked.size ▸ hub.positive) (some event)
    simpa [offered, eventsFor, concerned, dismissed, notDismissed, itemsReceived]
      using delivers
  case current => intro emptyQueue; simp at emptyQueue
  case farewell =>
    intro wasDismissed
    rw [dismissed, notDismissed] at wasDismissed
    cases wasDismissed

/-- A signal for others. -/
theorem Tracked.otherSignal {event : LeaderboardChange}
    (tracked : Tracked hub.queueSize log id object)
    (unconcerned : isFor id object.gameKey object.periodStart log event = false) :
    Tracked hub.queueSize (.published event :: log) id object := by
  constructor
  case asked => simpa using tracked.asked
  case live => exact tracked.live
  case size => exact tracked.size
  case bounded => exact tracked.bounded
  case delivers =>
    simpa [offered, eventsFor, unconcerned, dismissed, itemsReceived]
      using tracked.delivers
  case current => simpa [unread, unconcerned] using tracked.current
  case farewell => exact tracked.farewell

theorem Sound.published (sound : Sound hub log) (event : LeaderboardChange) :
    Sound (hub.publish event) (.published event :: log) := by
  constructor
  case stopped => simpa [LeaderboardEventHub.publish] using sound.stopped
  case emptied => exact sound.emptied
  case distinct => exact sound.distinct
  case registered => exact sound.registered
  case tracked =>
    intro id object found
    simp only [LeaderboardEventHub.publish] at found
    rw [LeaderboardEventHub.getElem?_offerTo _ (sound.distinct.filter _)] at found
    cases before : hub.created[id]? with
    | none => simp [before] at found
    | some target =>
      have tracked := sound.tracked id target before
      by_cases concerned : isFor id target.gameKey target.periodStart log event = true
      · have member : id ∈ hub.subscriptions ∧ target.Matches event := by
          simpa [isFor, sound.registered] using concerned
        simp [before, member] at found
        exact found ▸ tracked.signal concerned
      · have other : ¬(id ∈ hub.subscriptions ∧ target.Matches event) := by
          simpa [isFor, sound.registered] using concerned
        simp [before, other] at found
        exact found ▸ tracked.otherSignal (Bool.eq_false_iff.mpr concerned)
  case unheard =>
    intro id outside
    have unheard := sound.unheard id (by simpa [LeaderboardEventHub.publish] using outside)
    constructor
    case notMade => simpa using unheard.notMade
    case notOpen => exact unheard.notOpen
    case notDismissed => exact unheard.notDismissed
    case nothingReceived => exact unheard.nothingReceived
    case nothingFor =>
      intro gameKey periodStart
      simp [eventsFor, isFor, unheard.notOpen, unheard.nothingFor]
    case nothingUnread =>
      intro gameKey periodStart
      simp [unread, isFor, unheard.notOpen, unheard.nothingUnread]

theorem Tracked.received {item : Option LeaderboardChange}
    {rest : List (Option LeaderboardChange)}
    (tracked : Tracked hub.queueSize log id object)
    (queued : object.queue = item :: rest) :
    Tracked hub.queueSize (.received id item :: log) id
      { object with queue := rest } := by
  have bounded := tracked.bounded
  have delivers := tracked.delivers
  rw [queued] at bounded delivers
  constructor
  case asked => simpa using tracked.asked
  case live => exact tracked.live
  case size => exact tracked.size
  case bounded => exact Nat.le_of_succ_le bounded
  case delivers =>
    have taken := delivers.take
    simpa [offered, eventsFor, dismissed, itemsReceived] using taken
  case current => simp [unread]
  case farewell =>
    intro wasDismissed
    simp only [itemsReceived, if_true, List.mem_append, List.mem_singleton]
    cases tracked.farewell wasDismissed with
    | inl seen => exact .inl (.inl seen)
    | inr last =>
      rw [queued] at last
      cases rest with
      | nil => exact .inl (.inr (by simpa using last.symm))
      | cons next rest => exact .inr (by simpa using last)

theorem Tracked.othersReceived {other : Nat} {item : Option LeaderboardChange}
    (tracked : Tracked hub.queueSize log id object) (different : other ≠ id) :
    Tracked hub.queueSize (.received other item :: log) id object := by
  constructor
  case asked => simpa using tracked.asked
  case live => exact tracked.live
  case size => exact tracked.size
  case bounded => exact tracked.bounded
  case delivers =>
    simpa [offered, eventsFor, dismissed, itemsReceived, different] using tracked.delivers
  case current => simpa [unread, different] using tracked.current
  case farewell =>
    simpa [dismissed, itemsReceived, different] using tracked.farewell

theorem Unheard.othersReceived {other : Nat} {item : Option LeaderboardChange}
    (unheard : Unheard id log) (different : other ≠ id) :
    Unheard id (.received other item :: log) := by
  constructor
  case notMade => simpa using unheard.notMade
  case notOpen => exact unheard.notOpen
  case notDismissed => exact unheard.notDismissed
  case nothingReceived => simpa [itemsReceived, different] using unheard.nothingReceived
  case nothingFor => exact unheard.nothingFor
  case nothingUnread => simpa [unread, different] using unheard.nothingUnread

/-- What `receive` does. -/
theorem LeaderboardEventHub.receive_eq_some {next : LeaderboardEventHub}
    {item : Option LeaderboardChange} (answered : hub.receive id = some (item, next)) :
    ∃ object rest, hub.created[id]? = some object ∧ object.queue = item :: rest ∧
      next = { hub with created := hub.created.set id { object with queue := rest } } := by
  simp only [LeaderboardEventHub.receive, Option.bind_eq_bind, Option.bind_eq_some_iff,
    Option.pure_def, Option.some.injEq, Prod.mk.injEq] at answered
  obtain ⟨object, found, item', head, rfl, rfl⟩ := answered
  obtain ⟨rest, queued⟩ := List.head?_eq_some_iff.mp head
  exact ⟨object, rest, found, queued, by rw [queued]; rfl⟩

theorem Sound.received {next : LeaderboardEventHub} {item : Option LeaderboardChange}
    (sound : Sound hub log) (answered : hub.receive id = some (item, next)) :
    Sound next (.received id item :: log) := by
  obtain ⟨object, rest, found, queued, rfl⟩ :=
    LeaderboardEventHub.receive_eq_some answered
  have inside : id < hub.created.length := (List.getElem?_eq_some_iff.mp found).1
  constructor
  case stopped => simpa using sound.stopped
  case emptied => exact sound.emptied
  case distinct => exact sound.distinct
  case registered => exact sound.registered
  case tracked =>
    intro reader target foundTarget
    rw [List.getElem?_set] at foundTarget
    by_cases same : id = reader
    · subst same
      simp only [if_true, inside, Option.some.injEq] at foundTarget
      exact foundTarget ▸ (sound.tracked id object found).received queued
    · rw [if_neg same] at foundTarget
      exact (sound.tracked reader target foundTarget).othersReceived same
  case unheard =>
    intro reader outside
    rw [List.length_set] at outside
    exact (sound.unheard reader outside).othersReceived (by omega)

theorem Tracked.closed {gone : Nat} {flag : Bool}
    (tracked : Tracked hub.queueSize log id object)
    (kept : gone ≠ id → flag = object.closed) :
    Tracked hub.queueSize (.closed gone :: log) id { object with closed := flag } := by
  constructor
  case asked => simpa using tracked.asked
  case live =>
    intro opened
    by_cases same : gone = id
    · simp [isOpen, same] at opened
    · rw [isOpen, if_neg same] at opened
      exact ⟨(kept same).trans (tracked.live opened).1, (tracked.live opened).2⟩
  case size => exact tracked.size
  case bounded => exact tracked.bounded
  case delivers => exact tracked.delivers
  case current => exact tracked.current
  case farewell => exact tracked.farewell

theorem Unheard.closed {gone : Nat} (unheard : Unheard id log) :
    Unheard id (.closed gone :: log) := by
  constructor
  case notMade => simpa using unheard.notMade
  case notOpen => simp [isOpen, unheard.notOpen]
  case notDismissed => exact unheard.notDismissed
  case nothingReceived => exact unheard.nothingReceived
  case nothingFor => exact unheard.nothingFor
  case nothingUnread => exact unheard.nothingUnread

theorem Sound.closed (sound : Sound hub log) (inside : id < hub.created.length) :
    Sound (hub.close id) (.closed id :: log) := by
  unfold LeaderboardEventHub.close
  have found : hub.created[id]? = some hub.created[id] := List.getElem?_eq_getElem inside
  split
  case isTrue already =>
    have closedObject : hub.created[id].closed = true := by simpa [found] using already
    constructor
    case stopped => simpa using sound.stopped
    case emptied => exact sound.emptied
    case distinct => exact sound.distinct
    case registered =>
      intro other
      rw [sound.registered, isOpen]
      split
      case isTrue same =>
        subst same
        constructor
        · intro opened
          have live := ((sound.tracked id _ found).live opened).1
          rw [closedObject] at live
          cases live
        · intro impossible
          cases impossible
      case isFalse => exact Iff.rfl
    case tracked =>
      intro other target foundTarget
      exact (sound.tracked other target foundTarget).closed fun _ => rfl
    case unheard => exact fun other outside => (sound.unheard other outside).closed
  case isFalse =>
    constructor
    case stopped => simpa [LeaderboardEventHub.unsubscribe] using sound.stopped
    case emptied =>
      intro stopped
      simp [LeaderboardEventHub.unsubscribe, sound.emptied stopped]
    case distinct => exact sound.distinct.filter _
    case registered =>
      intro other
      by_cases same : other = id
      · simp [LeaderboardEventHub.unsubscribe, isOpen, same]
      · simp [LeaderboardEventHub.unsubscribe, isOpen, same, Ne.symm same,
          sound.registered]
    case tracked =>
      intro other target foundTarget
      simp only [LeaderboardEventHub.unsubscribe, List.getElem?_modify] at foundTarget
      obtain ⟨before, foundBefore, rfl⟩ := Option.map_eq_some_iff.mp foundTarget
      by_cases same : id = other
      · rw [if_pos same]
        exact (sound.tracked other before foundBefore).closed fun distinct =>
          absurd same distinct
      · rw [if_neg same]
        exact (sound.tracked other before foundBefore).closed fun _ => rfl
    case unheard =>
      intro other outside
      simp only [LeaderboardEventHub.unsubscribe, List.length_modify] at outside
      exact (sound.unheard other outside).closed

/-- The sentinel for a subscription that is open at the shutdown. -/
theorem Tracked.dismissal (tracked : Tracked hub.queueSize log id object)
    (opened : isOpen id log = true) :
    Tracked hub.queueSize (.shutdown :: log) id (object.offer none) := by
  obtain ⟨notClosed, notDismissed⟩ := tracked.live opened
  have offering : object.offer none =
      { object with queue := offer object.queueSize object.queue none } := by
    simp [LeaderboardSubscription.offer, notClosed]
  rw [offering]
  constructor
  case asked => simpa using tracked.asked
  case live => intro stillOpen; cases stillOpen
  case size => exact tracked.size
  case bounded =>
    rw [← tracked.size]
    exact length_offer (tracked.size ▸ hub.positive) (tracked.size ▸ tracked.bounded) _
  case delivers =>
    have delivers := tracked.delivers.offer (tracked.size ▸ hub.positive) none
    simpa [offered, eventsFor, dismissed, opened, notDismissed, itemsReceived]
      using delivers
  case current => intro emptyQueue; simp at emptyQueue
  case farewell => exact fun _ => .inr (getLast?_offer _ _ _)

theorem Tracked.othersDismissal (tracked : Tracked hub.queueSize log id object)
    (notOpen : isOpen id log = false) :
    Tracked hub.queueSize (.shutdown :: log) id object := by
  constructor
  case asked => simpa using tracked.asked
  case live => intro stillOpen; cases stillOpen
  case size => exact tracked.size
  case bounded => exact tracked.bounded
  case delivers =>
    simpa [offered, eventsFor, dismissed, notOpen, itemsReceived] using tracked.delivers
  case current => exact tracked.current
  case farewell =>
    simpa [dismissed, notOpen, itemsReceived] using tracked.farewell

theorem Unheard.shutdown (unheard : Unheard id log) :
    Unheard id (.shutdown :: log) := by
  constructor
  case notMade => simpa using unheard.notMade
  case notOpen => rfl
  case notDismissed => simp [dismissed, unheard.notOpen, unheard.notDismissed]
  case nothingReceived => exact unheard.nothingReceived
  case nothingFor => exact unheard.nothingFor
  case nothingUnread => exact unheard.nothingUnread

theorem Sound.shutdown (sound : Sound hub log) :
    Sound hub.shutdown (.shutdown :: log) := by
  unfold LeaderboardEventHub.shutdown
  split
  case isTrue already =>
    have noneOpen : ∀ id, isOpen id log = false := by
      intro id
      have notRegistered : id ∉ hub.subscriptions := by simp [sound.emptied already]
      exact Bool.eq_false_iff.mpr (notRegistered ∘ (sound.registered id).mpr)
    constructor
    case stopped => simp [already]
    case emptied => exact sound.emptied
    case distinct => exact sound.distinct
    case registered => simp [sound.emptied already, isOpen]
    case tracked =>
      intro id object found
      exact (sound.tracked id object found).othersDismissal (noneOpen id)
    case unheard => exact fun id outside => (sound.unheard id outside).shutdown
  case isFalse =>
    constructor
    case stopped => simp
    case emptied => exact fun _ => rfl
    case distinct => exact List.nodup_nil
    case registered => simp [isOpen]
    case tracked =>
      intro id object found
      dsimp only at found
      rw [LeaderboardEventHub.getElem?_offerTo _ sound.distinct] at found
      cases opened : isOpen id log with
      | true =>
        rw [if_pos ((sound.registered id).mpr opened)] at found
        obtain ⟨before, foundBefore, rfl⟩ := Option.map_eq_some_iff.mp found
        exact (sound.tracked id before foundBefore).dismissal opened
      | false =>
        have notRegistered : id ∉ hub.subscriptions := by
          rw [sound.registered, opened]
          exact Bool.false_ne_true
        rw [if_neg notRegistered] at found
        exact (sound.tracked id object found).othersDismissal opened
    case unheard =>
      intro id outside
      exact (sound.unheard id (by simpa using outside)).shutdown

theorem Tracked.othersSubscribed {made : Nat} {gameKey : PyStr} {periodStart : Int}
    (tracked : Tracked hub.queueSize log id object) (different : made ≠ id) :
    Tracked hub.queueSize (.subscribed made gameKey periodStart :: log) id object := by
  constructor
  case asked => simpa [Ne.symm different] using tracked.asked
  case live => simpa [isOpen, dismissed, different] using tracked.live
  case size => exact tracked.size
  case bounded => exact tracked.bounded
  case delivers =>
    simpa [offered, eventsFor, dismissed, itemsReceived, different] using tracked.delivers
  case current => exact tracked.current
  case farewell => simpa [dismissed, itemsReceived, different] using tracked.farewell

theorem Unheard.othersSubscribed {made : Nat} {gameKey : PyStr} {periodStart : Int}
    (unheard : Unheard id log) (different : made ≠ id) :
    Unheard id (.subscribed made gameKey periodStart :: log) := by
  constructor
  case notMade => simpa [Ne.symm different] using unheard.notMade
  case notOpen => simpa [isOpen, different] using unheard.notOpen
  case notDismissed => simpa [dismissed, different] using unheard.notDismissed
  case nothingReceived => exact unheard.nothingReceived
  case nothingFor => exact unheard.nothingFor
  case nothingUnread => exact unheard.nothingUnread

/-- A new subscription of a running hub. -/
theorem Unheard.fresh (unheard : Unheard id log) (gameKey : PyStr) (periodStart : Int)
    (running : Occurrence.shutdown ∉ log) :
    Tracked hub.queueSize (.subscribed id gameKey periodStart :: log) id
      { gameKey, periodStart, queueSize := hub.queueSize } := by
  constructor
  case asked =>
    intro askedKey askedStart asked
    simpa [unheard.notMade, eq_comm] using asked
  case live => simp [dismissed, running]
  case size => rfl
  case bounded => exact Nat.zero_le _
  case delivers =>
    simpa [offered, eventsFor, dismissed, itemsReceived, running,
      unheard.nothingReceived, unheard.nothingFor] using Delivers.nil
  case current => simp [unread, unheard.nothingUnread]
  case farewell => simp [dismissed, running]

/-- A new subscription of a hub that is shut down. -/
theorem Unheard.late (unheard : Unheard id log) (gameKey : PyStr) (periodStart : Int)
    (stopped : Occurrence.shutdown ∈ log) :
    Tracked hub.queueSize (.subscribed id gameKey periodStart :: log) id
      (LeaderboardSubscription.offer none
        { gameKey, periodStart, queueSize := hub.queueSize }) := by
  have offering : LeaderboardSubscription.offer none
      { gameKey, periodStart, queueSize := hub.queueSize } =
      { gameKey, periodStart, queueSize := hub.queueSize, queue := [none] } := by
    simp [LeaderboardSubscription.offer, offer]
  rw [offering]
  constructor
  case asked =>
    intro askedKey askedStart asked
    simpa [unheard.notMade, eq_comm] using asked
  case live => simp [isOpen, stopped]
  case size => rfl
  case bounded => exact hub.positive
  case delivers =>
    refine ⟨[], ?_, ?_⟩
    · simp [offered, eventsFor, dismissed, stopped, unheard.nothingFor]
    · simp [itemsReceived, unheard.nothingReceived]
  case current => simp
  case farewell => exact fun _ => .inr rfl

/-- An appended object is one of the old ones or the last. -/
private theorem getElem?_concat_cases {objects : List LeaderboardSubscription}
    {last : LeaderboardSubscription} (found : (objects ++ [last])[id]? = some object) :
    objects[id]? = some object ∨ id = objects.length ∧ last = object := by
  rcases Nat.lt_trichotomy id objects.length with before | here | beyond
  · rw [List.getElem?_append_left before] at found
    exact .inl found
  · subst here
    rw [List.getElem?_concat_length] at found
    exact .inr ⟨rfl, Option.some.inj found⟩
  · rw [List.getElem?_eq_none (by simp; omega)] at found
    cases found

/-- The objects of a hub that made one more subscription. -/
theorem Sound.trackedWith {gameKey : PyStr} {periodStart : Int}
    {added : LeaderboardSubscription} (sound : Sound hub log)
    (new : Tracked hub.queueSize
      (.subscribed hub.created.length gameKey periodStart :: log)
      hub.created.length added)
    (found : (hub.created ++ [added])[id]? = some object) :
    Tracked hub.queueSize (.subscribed hub.created.length gameKey periodStart :: log)
      id object := by
  cases getElem?_concat_cases found with
  | inl old =>
    have before : id < hub.created.length := (List.getElem?_eq_some_iff.mp old).1
    exact (sound.tracked id object old).othersSubscribed (Nat.ne_of_gt before)
  | inr last =>
    obtain ⟨rfl, rfl⟩ := last
    exact new

theorem Sound.subscribed (sound : Sound hub log) (gameKey : PyStr) (periodStart : Int) :
    Sound (hub.subscribe gameKey periodStart)
      (.subscribed hub.created.length gameKey periodStart :: log) := by
  have newcomer := sound.unheard _ (Nat.le_refl hub.created.length)
  have others : ∀ id, hub.created.length + 1 ≤ id →
      Unheard id (.subscribed hub.created.length gameKey periodStart :: log) := by
    intro id outside
    exact (sound.unheard id (by omega)).othersSubscribed (by omega)
  unfold LeaderboardEventHub.subscribe
  split
  case isTrue stopped =>
    have recorded := sound.stopped.mp stopped
    constructor
    case stopped => simpa using sound.stopped
    case emptied => exact sound.emptied
    case distinct => exact sound.distinct
    case registered =>
      intro id
      rw [isOpen]
      split
      case isTrue => simp [sound.emptied stopped, recorded]
      case isFalse => exact sound.registered id
    case tracked =>
      exact fun id object => sound.trackedWith (newcomer.late _ _ recorded)
    case unheard => simpa using others
  case isFalse running =>
    have unrecorded : Occurrence.shutdown ∉ log := running ∘ sound.stopped.mpr
    have unregistered : hub.created.length ∉ hub.subscriptions := by
      rw [sound.registered, newcomer.notOpen]
      exact Bool.false_ne_true
    constructor
    case stopped => simpa using sound.stopped
    case emptied => exact fun stopped => absurd stopped running
    case distinct => simpa using List.Nodup.concat unregistered sound.distinct
    case registered =>
      intro id
      rw [isOpen, List.mem_append, sound.registered, List.mem_singleton]
      split
      case isTrue same => simp [same, unrecorded]
      case isFalse different => simp [Ne.symm different]
    case tracked =>
      exact fun id object => sound.trackedWith (newcomer.fresh _ _ unrecorded)
    case unheard => simpa using others

/-- Every call keeps the hub in agreement with its history. -/
theorem Sound.perform {next : LeaderboardEventHub} {occurrence : Occurrence}
    (sound : Sound hub log) (performed : hub.perform occurrence = some next) :
    Sound next (occurrence :: log) := by
  cases occurrence with
  | subscribed made gameKey periodStart =>
    simp only [LeaderboardEventHub.perform] at performed
    split at performed
    case isTrue same =>
      cases performed
      exact same ▸ sound.subscribed gameKey periodStart
    case isFalse => cases performed
  | published event =>
    cases performed
    exact sound.published event
  | received taker item =>
    simp only [LeaderboardEventHub.perform] at performed
    split at performed
    case h_1 oldest later answered =>
      split at performed
      case isTrue same =>
        cases performed
        exact same ▸ sound.received answered
      case isFalse => cases performed
    case h_2 => cases performed
  | closed gone =>
    simp only [LeaderboardEventHub.perform] at performed
    split at performed
    case isTrue inside =>
      cases performed
      exact sound.closed inside
    case isFalse => cases performed
  | shutdown =>
    cases performed
    exact sound.shutdown

end Steps

/-- The hub agrees with every history of calls. -/
theorem Sound.after {queueSize : Int} {start hub : LeaderboardEventHub}
    {log : List Occurrence} (created : LeaderboardEventHub.create queueSize = some start)
    (ran : start.after log = some hub) : Sound hub log := by
  induction log generalizing hub with
  | nil =>
    cases ran
    exact .create created
  | cons occurrence past ih =>
    obtain ⟨before, ranBefore, performed⟩ := Option.bind_eq_some_iff.mp ran
    exact (ih ranBefore).perform performed

end RngGamePlatform
