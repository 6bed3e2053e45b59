/-
Module: RngGamePlatform.Proofs.NewestSignal
Purpose: What the subscribers of an event hub get, over every history of calls.
Trusted boundary: none
Main exports: SignalsKept, newest_signal_kept
-/
import RngGamePlatform.Proofs.EventHub

namespace RngGamePlatform

open Encoding Queues

namespace LeaderboardEventHub

/-- A history splits at each of its calls. -/
theorem after_append {start hub : LeaderboardEventHub} {later past : List Occurrence}
    (ran : start.after (later ++ past) = some hub) :
    ∃ between, start.after past = some between := by
  induction later generalizing hub with
  | nil => exact ⟨hub, ran⟩
  | cons occurrence rest ih =>
    obtain ⟨before, ranBefore, _⟩ := Option.bind_eq_some_iff.mp ran
    exact ih ranBefore

/-- No call changes the size of the queues. -/
theorem queueSize_perform {hub next : LeaderboardEventHub} {occurrence : Occurrence}
    (performed : hub.perform occurrence = some next) : next.queueSize = hub.queueSize := by
  cases occurrence with
  | subscribed id gameKey periodStart =>
    simp only [perform] at performed
    split at performed
    case isTrue =>
      cases performed
      unfold subscribe
      split <;> rfl
    case isFalse => cases performed
  | published event =>
    cases performed
    rfl
  | received id item =>
    simp only [perform] at performed
    split at performed
    case h_1 oldest later answered =>
      split at performed
      case isTrue =>
        cases performed
        obtain ⟨reader, rest, -, -, rfl⟩ := receive_eq_some answered
        rfl
      case isFalse => cases performed
    case h_2 => cases performed
  | closed gone =>
    simp only [perform] at performed
    split at performed
    case isTrue =>
      cases performed
      unfold close
      split <;> rfl
    case isFalse => cases performed
  | shutdown =>
    cases performed
    unfold shutdown
    split <;> rfl

theorem queueSize_after {start hub : LeaderboardEventHub} {log : List Occurrence}
    (ran : start.after log = some hub) : hub.queueSize = start.queueSize := by
  induction log generalizing hub with
  | nil =>
    cases ran
    rfl
  | cons occurrence past ih =>
    obtain ⟨before, ranBefore, performed⟩ := Option.bind_eq_some_iff.mp ran
    exact (queueSize_perform performed).trans (ih ranBefore)

end LeaderboardEventHub

section Reading

variable {id : Nat} {past : List Occurrence} {gameKey : PyStr} {periodStart : Int}

theorem itemsReceived_append (id : Nat) (later past : List Occurrence) :
    itemsReceived id (later ++ past) = itemsReceived id past ++ itemsReceived id later := by
  induction later with
  | nil => simp [itemsReceived]
  | cons occurrence rest ih =>
    cases occurrence with
    | received taker item =>
      simp only [List.cons_append, itemsReceived, ih]
      split <;> simp
    | _ => simpa [itemsReceived] using ih

theorem eventsFor_matching {event : LeaderboardChange} {log : List Occurrence}
    (member : event ∈ eventsFor id gameKey periodStart log) :
    gameKey = event.gameKey ∧ periodStart = event.periodStart := by
  induction log with
  | nil => cases member
  | cons occurrence past ih =>
    cases occurrence with
    | published newest =>
      rw [eventsFor] at member
      split at member
      case isTrue concerned =>
        cases List.mem_append.mp member with
        | inl older => exact ih older
        | inr last =>
          cases List.mem_singleton.mp last
          exact of_decide_eq_true (Bool.and_eq_true_iff.mp concerned).2
      case isFalse => exact ih member
    | _ => exact ih member

/-- A dismissal is for good. -/
theorem dismissed_append (later : List Occurrence) (stopped : Occurrence.shutdown ∈ past)
    (before : dismissed id past = true) : dismissed id (later ++ past) = true := by
  induction later with
  | nil => exact before
  | cons occurrence rest ih =>
    cases occurrence with
    | subscribed made askedKey askedStart =>
      rw [List.cons_append, dismissed]
      split <;> simp [ih, stopped]
    | shutdown => simp [dismissed, ih]
    | _ => simpa [dismissed] using ih

/-- No subscription is open after a shutdown. -/
theorem notOpen_of_stopped {log : List Occurrence} (stopped : Occurrence.shutdown ∈ log) :
    isOpen id log = false := by
  induction log with
  | nil => cases stopped
  | cons occurrence past ih =>
    cases occurrence with
    | subscribed made askedKey askedStart =>
      have before : Occurrence.shutdown ∈ past := by simpa using stopped
      rw [isOpen]
      split <;> simp [before, ih]
    | closed gone =>
      have before : Occurrence.shutdown ∈ past := by simpa using stopped
      simp [isOpen, ih before]
    | shutdown => rfl
    | _ => simpa [isOpen] using ih (by simpa using stopped)

/-- Nothing is published to a subscription after a shutdown. -/
theorem eventsFor_append_of_stopped (later : List Occurrence)
    (stopped : Occurrence.shutdown ∈ past) :
    eventsFor id gameKey periodStart (later ++ past) =
      eventsFor id gameKey periodStart past := by
  induction later with
  | nil => rfl
  | cons occurrence rest ih =>
    cases occurrence with
    | published event =>
      have notOpen : isOpen id (rest ++ past) = false :=
        notOpen_of_stopped (List.mem_append_right _ stopped)
      simpa [eventsFor, isFor, notOpen] using ih
    | _ => simpa [eventsFor] using ih

end Reading

/-- A closed subscription only loses what `receive` takes from it. -/
theorem Sound.draining {hub next : LeaderboardEventHub} {log : List Occurrence} {id : Nat}
    {object : LeaderboardSubscription} {occurrence : Occurrence} (sound : Sound hub log)
    (performed : hub.perform occurrence = some next)
    (found : hub.created[id]? = some object) (closed : object.closed = true) :
    ∃ left, next.created[id]? = some left ∧ left.closed = true ∧
      itemsReceived id [occurrence] ++ left.queue = object.queue := by
  have inert : ∀ event, object.offer event = object := by
    intro event
    simp [LeaderboardSubscription.offer, closed]
  have inside := (List.getElem?_eq_some_iff.mp found).1
  cases occurrence with
  | subscribed made gameKey periodStart =>
    simp only [LeaderboardEventHub.perform] at performed
    split at performed
    case isTrue =>
      cases performed
      refine ⟨object, ?_, closed, rfl⟩
      unfold LeaderboardEventHub.subscribe
      split <;> simp [List.getElem?_append_left inside, found]
    case isFalse => cases performed
  | published event =>
    cases performed
    refine ⟨object, ?_, closed, rfl⟩
    simp [LeaderboardEventHub.publish,
      LeaderboardEventHub.getElem?_offerTo _ (sound.distinct.filter _), found, inert]
  | received taker item =>
    simp only [LeaderboardEventHub.perform] at performed
    split at performed
    case h_1 oldest later answered =>
      split at performed
      case isTrue same =>
        cases performed
        obtain ⟨reader, rest, foundReader, queued, rfl⟩ :=
          LeaderboardEventHub.receive_eq_some answered
        by_cases own : taker = id
        · subst own
          rw [found] at foundReader
          cases foundReader
          refine ⟨{ object with queue := rest }, ?_, closed, ?_⟩
          · simp [inside]
          · simp [itemsReceived, queued, same]
        · refine ⟨object, ?_, closed, ?_⟩
          · simp [own, found]
          · simp [itemsReceived, own]
      case isFalse => cases performed
    case h_2 => cases performed
  | closed gone =>
    simp only [LeaderboardEventHub.perform] at performed
    split at performed
    case isTrue =>
      cases performed
      refine ⟨object, ?_, closed, rfl⟩
      unfold LeaderboardEventHub.close
      split
      case isTrue => exact found
      case isFalse =>
        simp only [LeaderboardEventHub.unsubscribe, List.getElem?_modify, found]
        split <;> simp [← closed]
    case isFalse => cases performed
  | shutdown =>
    cases performed
    refine ⟨object, ?_, closed, rfl⟩
    unfold LeaderboardEventHub.shutdown
    split
    case isTrue => exact found
    case isFalse =>
      simp [LeaderboardEventHub.getElem?_offerTo _ sound.distinct, found, inert]

/-- What a subscription gets, read off the history of its hub. -/
structure SignalsKept (start : LeaderboardEventHub) (log : List Occurrence)
    (id : Nat) (object : LeaderboardSubscription) : Prop where
  /-- The filter is the one that was asked for. -/
  asked : ∀ gameKey periodStart, .subscribed id gameKey periodStart ∈ log →
    object.gameKey = gameKey ∧ object.periodStart = periodStart
  /-- The queue is no longer than the size that the hub was created with. -/
  bounded : object.queue.length ≤ start.queueSize
  /-- The queue holds matching events, and at most a sentinel after them. -/
  matching : ∃ (events : List LeaderboardChange) (sentinel : List (Option LeaderboardChange)),
    object.queue = events.map some ++ sentinel ∧
    (∀ event ∈ events, object.Matches event) ∧ (sentinel = [] ∨ sentinel = [none])
  /-- The received events are published ones, in the order of publication. -/
  inOrder : (itemsReceived id log).reduceOption.Sublist
    (eventsFor id object.gameKey object.periodStart log)
  /-- A matching event that was just published is the last of the queue. -/
  newest : ∀ event past, log = .published event :: past →
    isFor id object.gameKey object.periodStart past event = true →
    object.queue.getLast? = some (some event)
  /-- An empty queue means that nothing came since the last answer. -/
  nothingMissed :
    object.queue = [] → unread id object.gameKey object.periodStart log = []
  /-- The sentinel of a shutdown waits at the end of the queue until taken. -/
  sentinelLast : ∀ later past, log = later ++ .shutdown :: past →
    isOpen id past = true →
    none ∈ itemsReceived id later ∨ object.queue.getLast? = some none
  /-- A subscription made after a shutdown only ever gets the sentinel. -/
  sentinelOnly : ∀ later past gameKey periodStart,
    log = later ++ .subscribed id gameKey periodStart :: past →
    .shutdown ∈ past → itemsReceived id log ++ object.queue = [none]
  /-- Nothing is queued for a closed subscription: it gets what was queued when it
  was closed. -/
  drained : ∀ later past closing closed, log = later ++ .closed id :: past →
    start.after (.closed id :: past) = some closing →
    closing.created[id]? = some closed →
    itemsReceived id later ++ object.queue = closed.queue

section Subscriber

variable {start hub : LeaderboardEventHub} {log : List Occurrence} {queueSize : Nat}
variable {id : Nat} {object : LeaderboardSubscription}

theorem Tracked.received_sublist (tracked : Tracked queueSize log id object) :
    (itemsReceived id log ++ object.queue).Sublist
      (offered id object.gameKey object.periodStart log) :=
  tracked.delivers.sublist

/-- The queue is the end of what was offered. -/
theorem Tracked.matching (tracked : Tracked queueSize log id object) :
    ∃ (events : List LeaderboardChange) (sentinel : List (Option LeaderboardChange)),
      object.queue = events.map some ++ sentinel ∧
        (∀ event ∈ events, object.Matches event) ∧
        (sentinel = [] ∨ sentinel = [none]) := by
  obtain ⟨gone, split, _⟩ := tracked.delivers
  have queued : object.queue =
      (offered id object.gameKey object.periodStart log).drop gone.length := by
    rw [split, List.drop_left]
  rw [offered, List.drop_append, ← List.map_drop] at queued
  refine ⟨_, _, queued, ?_, ?_⟩
  · exact fun event member => eventsFor_matching (List.mem_of_mem_drop member)
  · cases dismissed id log with
    | true =>
      cases gone.length - ((eventsFor id object.gameKey object.periodStart log).map
          some).length with
      | zero => exact .inr rfl
      | succ n => exact .inl (by simp)
    | false => exact .inl (by simp)

theorem Tracked.inOrder (tracked : Tracked queueSize log id object) :
    (itemsReceived id log).reduceOption.Sublist
      (eventsFor id object.gameKey object.periodStart log) := by
  have events := (tracked.delivers.taken_sublist).filterMap (fun item => item)
  have sentinels : (bif dismissed id log then [none] else []).filterMap
      (fun item : Option LeaderboardChange => item) = [] := by
    cases dismissed id log <;> rfl
  rw [offered, List.filterMap_append, sentinels, List.append_nil,
    List.filterMap_map] at events
  have reduced : ∀ items : List (Option LeaderboardChange),
      items.reduceOption = items.filterMap fun item => item := fun _ => rfl
  simpa [reduced, Function.comp_def] using events

theorem Tracked.newest {event : LeaderboardChange}
    (tracked : Tracked queueSize (.published event :: log) id object)
    (concerned : isFor id object.gameKey object.periodStart log event = true) :
    object.queue.getLast? = some (some event) := by
  have waiting : object.queue ≠ [] := by
    intro emptyQueue
    have unread := tracked.current emptyQueue
    simp [RngGamePlatform.unread, concerned] at unread
  have opened : isOpen id log = true := (Bool.and_eq_true_iff.mp concerned).1
  have notDismissed : dismissed id log = false := (tracked.live opened).2
  rw [tracked.delivers.getLast? waiting]
  simp [offered, eventsFor, concerned, dismissed, notDismissed]

/-- Nothing that a subscription took while it was open was a sentinel. -/
theorem Tracked.noSentinel (tracked : Tracked queueSize log id object)
    (opened : isOpen id log = true) : none ∉ itemsReceived id log := by
  intro member
  have offering := tracked.delivers.taken_sublist.subset member
  simp [offered, (tracked.live opened).2] at offering

/-- A call only changes the list of subscriptions by adding to it. -/
theorem LeaderboardEventHub.created_of_isOpen {queueSize : Int} {past : List Occurrence}
    (created : LeaderboardEventHub.create queueSize = some start)
    (ran : start.after past = some hub) (opened : isOpen id past = true) :
    ∃ object, hub.created[id]? = some object ∧ Tracked hub.queueSize past id object := by
  have sound := Sound.after created ran
  have inside : id < hub.created.length := by
    by_contra outside
    rw [(sound.unheard id (Nat.le_of_not_lt outside)).notOpen] at opened
    cases opened
  exact ⟨hub.created[id], List.getElem?_eq_getElem inside,
    sound.tracked id _ (List.getElem?_eq_getElem inside)⟩

theorem Tracked.sentinelLast {queueSize' : Int} {later past : List Occurrence}
    (created : LeaderboardEventHub.create queueSize' = some start)
    (ran : start.after (later ++ .shutdown :: past) = some hub)
    (tracked : Tracked queueSize (later ++ .shutdown :: past) id object)
    (opened : isOpen id past = true) :
    none ∈ itemsReceived id later ∨ object.queue.getLast? = some none := by
  have wasDismissed : dismissed id (.shutdown :: past) = true := by
    simp [dismissed, opened]
  cases tracked.farewell (dismissed_append later (by simp) wasDismissed) with
  | inl taken =>
    rw [itemsReceived_append, List.mem_append] at taken
    cases taken with
    | inl early =>
      obtain ⟨_, ranShutdown⟩ := LeaderboardEventHub.after_append ran
      obtain ⟨between, ranPast, _⟩ := Option.bind_eq_some_iff.mp ranShutdown
      obtain ⟨before, _, trackedBefore⟩ :=
        LeaderboardEventHub.created_of_isOpen created ranPast opened
      exact absurd early (trackedBefore.noSentinel opened)
    | inr late => exact .inl late
  | inr last => exact .inr last

theorem Tracked.sentinelOnly {queueSize' : Int} {later past : List Occurrence}
    {gameKey : PyStr} {periodStart : Int}
    (created : LeaderboardEventHub.create queueSize' = some start)
    (ran : start.after (later ++ .subscribed id gameKey periodStart :: past) = some hub)
    (tracked : Tracked queueSize (later ++ .subscribed id gameKey periodStart :: past) id
      object)
    (stopped : Occurrence.shutdown ∈ past) :
    itemsReceived id (later ++ .subscribed id gameKey periodStart :: past) ++
      object.queue = [none] := by
  have stoppedThen : Occurrence.shutdown ∈ .subscribed id gameKey periodStart :: past :=
    List.mem_cons_of_mem _ stopped
  obtain ⟨_, ranSubscribed⟩ := LeaderboardEventHub.after_append ran
  obtain ⟨between, ranPast, performed⟩ := Option.bind_eq_some_iff.mp ranSubscribed
  have unheard : Unheard id past := by
    simp only [LeaderboardEventHub.perform] at performed
    split at performed
    case isTrue new => exact (Sound.after created ranPast).unheard id (Nat.le_of_eq new.symm)
    case isFalse => cases performed
  have wasDismissed : dismissed id (later ++ .subscribed id gameKey periodStart :: past) =
      true :=
    dismissed_append later stoppedThen (by simp [dismissed, stopped])
  have onlySentinel : offered id object.gameKey object.periodStart
      (later ++ .subscribed id gameKey periodStart :: past) = [none] := by
    rw [offered, wasDismissed, eventsFor_append_of_stopped later stoppedThen]
    simp [eventsFor, unheard.nothingFor]
  have part := tracked.received_sublist
  rw [onlySentinel, List.sublist_singleton] at part
  cases part with
  | inl nothing =>
    obtain ⟨notTaken, notQueued⟩ := List.append_eq_nil_iff.mp nothing
    have farewell := tracked.farewell wasDismissed
    rw [notTaken, notQueued] at farewell
    simp at farewell
  | inr sentinel => exact sentinel

/-- `close` leaves a closed subscription. -/
theorem LeaderboardEventHub.closed_of_close (hub : LeaderboardEventHub)
    (found : (hub.close id).created[id]? = some object) : object.closed = true := by
  unfold LeaderboardEventHub.close at found
  split at found
  case isTrue already => simpa [found] using already
  case isFalse =>
    simp only [LeaderboardEventHub.unsubscribe, List.getElem?_modify] at found
    obtain ⟨before, _, rfl⟩ := Option.map_eq_some_iff.mp found
    rw [if_pos trivial]

/-- A closed subscription gets what was queued when it was closed. -/
theorem LeaderboardEventHub.drained {queueSize : Int} {closing : LeaderboardEventHub}
    {later past : List Occurrence} {closed : LeaderboardSubscription}
    (created : LeaderboardEventHub.create queueSize = some start)
    (ran : start.after (later ++ .closed id :: past) = some hub)
    (ranClosing : start.after (.closed id :: past) = some closing)
    (found : closing.created[id]? = some closed) :
    ∃ left, hub.created[id]? = some left ∧ left.closed = true ∧
      itemsReceived id later ++ left.queue = closed.queue := by
  induction later generalizing hub with
  | nil =>
    rw [List.nil_append, ranClosing] at ran
    cases ran
    obtain ⟨before, _, performed⟩ := Option.bind_eq_some_iff.mp ranClosing
    simp only [LeaderboardEventHub.perform] at performed
    split at performed
    case isTrue =>
      cases performed
      exact ⟨closed, found, before.closed_of_close found, rfl⟩
    case isFalse => cases performed
  | cons occurrence rest ih =>
    obtain ⟨before, ranBefore, performed⟩ := Option.bind_eq_some_iff.mp ran
    obtain ⟨left, foundLeft, closedLeft, conserved⟩ := ih ranBefore
    obtain ⟨next, foundNext, closedNext, step⟩ :=
      (Sound.after created ranBefore).draining performed foundLeft closedLeft
    refine ⟨next, foundNext, closedNext, ?_⟩
    rw [← conserved, ← step, ← List.append_assoc, ← itemsReceived_append]
    rfl

end Subscriber

/-- For every queue size and every history of calls, each subscription keeps the
newest matching signal and the shutdown. -/
theorem newest_signal_kept {queueSize : Int} {start hub : LeaderboardEventHub}
    {log : List Occurrence} {id : Nat} {object : LeaderboardSubscription}
    (created : LeaderboardEventHub.create queueSize = some start)
    (ran : start.after log = some hub)
    (found : hub.created[id]? = some object) :
    SignalsKept start log id object := by
  have tracked := (Sound.after created ran).tracked id object found
  constructor
  case asked => exact tracked.asked
  case bounded => exact LeaderboardEventHub.queueSize_after ran ▸ tracked.bounded
  case matching => exact tracked.matching
  case inOrder => exact tracked.inOrder
  case newest =>
    rintro event past rfl concerned
    exact tracked.newest concerned
  case nothingMissed => exact tracked.current
  case sentinelLast =>
    rintro later past rfl opened
    exact tracked.sentinelLast created ran opened
  case sentinelOnly =>
    rintro later past gameKey periodStart rfl stopped
    exact tracked.sentinelOnly created ran stopped
  case drained =>
    rintro later past closing closed rfl ranClosing foundClosed
    obtain ⟨left, foundLeft, _, conserved⟩ :=
      LeaderboardEventHub.drained created ran ranClosing foundClosed
    rw [found] at foundLeft
    cases foundLeft
    exact conserved

/-! A hub with one place per queue. -/

namespace Sample

def narrowHub : LeaderboardEventHub where
  queueSize := 1
  positive := by decide
  subscriptions := []
  isShutdown := false
  created := []

def skillChange : LeaderboardChange := { gameKey := py "skill_check", periodStart := 0 }

/-- A subscriber that is closed before it takes its event. -/
def closedEarly : List Occurrence :=
  [.received 0 (some skillChange), .closed 0, .published skillChange,
    .subscribed 0 (py "skill_check") 0]

/-- A full queue at the shutdown. -/
def fullAtShutdown : List Occurrence :=
  [.shutdown, .published skillChange, .subscribed 0 (py "skill_check") 0]

end Sample

/-- The queue of a subscription that was closed is still received. -/
theorem closed_subscription_receives :
    ¬ ∀ (queueSize : Int) (start hub : LeaderboardEventHub) (later past : List Occurrence)
        (id : Nat),
      LeaderboardEventHub.create queueSize = some start →
      start.after (later ++ .closed id :: past) = some hub →
      itemsReceived id later = [] := by
  intro nothingMore
  have ran : (Sample.narrowHub.after Sample.closedEarly).isSome = true := by decide
  obtain ⟨hub, reached⟩ := Option.isSome_iff_exists.mp ran
  have received := nothingMore 1 Sample.narrowHub hub
    [.received 0 (some Sample.skillChange)]
    [.published Sample.skillChange, .subscribed 0 (py "skill_check") 0] 0 rfl reached
  cases received

/-- The hub with a full queue, after its shutdown. -/
theorem newest_signal_kept_full :
    SignalsKept Sample.narrowHub Sample.fullAtShutdown 0
      { gameKey := py "skill_check", periodStart := 0, queueSize := 1, queue := [none] } := by
  apply @newest_signal_kept 1 _
    { Sample.narrowHub with
      isShutdown := true
      created := [{
        gameKey := py "skill_check"
        periodStart := 0
        queueSize := 1
        queue := [none] }] }
  · rfl
  · decide
  · rfl

end RngGamePlatform
