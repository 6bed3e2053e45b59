/-
Module: RngGamePlatform.Proofs.ChainAcceptance
Purpose: Which event chains the verifier accepts for a revealed proof, and which of
  them the services write.
Trusted boundary: none
Main exports: AcceptableChain, LifecycleRun, chain_acceptance
-/
import RngGamePlatform.Proofs.EventChain
import RngGamePlatform.Proofs.EvidenceConservation

namespace RngGamePlatform

open Encoding

/-- The hash that the event at a position must link to. -/
def hashBefore (start : Option PyStr) (events : List FairnessProofEvent) :
    (position : Nat) → Option PyStr
  | 0 => start
  | earlier + 1 => events[earlier]?.map FairnessProofEvent.evidenceHash

/-- What the verifier checks of the event at one position of a chain. -/
structure AcceptableEvent (crypto : Crypto) (events : List FairnessProofEvent)
    (position : Nat) (event : FairnessProofEvent) : Prop where
  sequence : event.sequence = position
  previous : event.previousEvidenceHash = hashBefore none events position
  hashed :
    event.evidenceVersion = 1 ∧ fairnessEventHashV1 crypto event.proofId event.sequence
        event.eventType event.status event.createdAt event.previousEvidenceHash =
          some event.evidenceHash ∨
      event.evidenceVersion = 2 ∧ fairnessEventHash crypto event.proofId event.sequence
        event.eventType event.status event.createdAt event.previousEvidenceHash
          event.payload = event.evidenceHash

/-- What the verifier accepts for a revealed proof: every position on its own, the
first payload, and the status and payload of the last event.  Nothing is said of the
number of events, of their types, or of a status before the last. -/
structure AcceptableChain (crypto : Crypto) (proof : FairnessProof)
    (events : List FairnessProofEvent) : Prop where
  positions : ∀ position event, events[position]? = some event →
    AcceptableEvent crypto events position event
  first : ∃ first, events.head? = some first ∧
    (first.evidenceVersion = 2 → first.payload.Same (commitEventPayload proof))
  last : ∃ last, events.getLast? = some last ∧ last.status = .revealed ∧
    (last.evidenceVersion = 2 → last.payload.Same (revealedEventPayload proof))

/-- The two events of a revealed proof: its commitment and its reveal. -/
def LifecycleRun (proof : FairnessProof) (events : List FairnessProofEvent) : Prop :=
  events.map (fun event => (event.proofId, event.status, event.eventType)) =
    [(proof.id, .committed, py "committed"), (proof.id, .revealed, py "revealed")]

instance (proof : FairnessProof) (events : List FairnessProofEvent) :
    Decidable (LifecycleRun proof events) :=
  inferInstanceAs (Decidable (_ = _))

section Acceptance

variable {env : Platform}

theorem expectedEventHash_iff {event : FairnessProofEvent} {hash : PyStr} :
    expectedEventHash env event = .ok (some hash) ↔
      event.evidenceVersion = 1 ∧ fairnessEventHashV1 env.crypto event.proofId
          event.sequence event.eventType event.status event.createdAt
          event.previousEvidenceHash = some hash ∨
        event.evidenceVersion = 2 ∧ fairnessEventHash env.crypto event.proofId
          event.sequence event.eventType event.status event.createdAt
          event.previousEvidenceHash event.payload = hash := by
  unfold expectedEventHash
  split
  case isTrue first =>
    cases isHash : fairnessEventHashV1 env.crypto event.proofId event.sequence
      event.eventType event.status event.createdAt event.previousEvidenceHash with
    | none => simp [first]
    | some expected => simp [first]
  case isFalse notFirst =>
    split
    case isTrue second => simp [second]
    case isFalse notSecond => simp [notFirst, notSecond]

/-- A chain links when every position does. -/
theorem checkEventLinks_iff {events : List FairnessProofEvent} {sequence : Nat}
    {previous : Option PyStr} :
    checkEventLinks env sequence previous events = .ok none ↔
      ∀ position event, events[position]? = some event →
        Links env (sequence + position) (hashBefore previous events position) event := by
  induction events generalizing sequence previous with
  | nil => simp [checkEventLinks]
  | cons head rest ih =>
    rw [checkEventLinks_cons_iff, ih]
    constructor
    · rintro ⟨links, later⟩ position event found
      cases position with
      | zero =>
        cases found
        exact links
      | succ earlier =>
        have here := later earlier event found
        rw [Nat.add_right_comm] at here
        cases earlier with
        | zero => exact here
        | succ before => exact here
    · intro every
      constructor
      · exact every 0 head rfl
      · intro position event found
        have here := every (position + 1) event found
        rw [← Nat.add_assoc, Nat.add_right_comm] at here
        cases position with
        | zero => exact here
        | succ before => exact here

theorem acceptableEvent_iff {events : List FairnessProofEvent} {position : Nat}
    {event : FairnessProofEvent} :
    AcceptableEvent env.crypto events position event ↔
      Links env (0 + position) (hashBefore none events position) event := by
  rw [Nat.zero_add]
  constructor
  · intro acceptable
    exact ⟨acceptable.sequence, acceptable.previous,
      expectedEventHash_iff.mpr acceptable.hashed⟩
  · intro links
    exact ⟨links.sequence, links.previous, expectedEventHash_iff.mp links.hashed⟩

/-- The verifier accepts the acceptable chains. -/
theorem accepted_iff_acceptable {proof : FairnessProof} {events : List FairnessProofEvent}
    (revealed : proof.status = .revealed) :
    (∃ code, verifyFairnessEventChain env proof events = .ok (true, code)) ↔
      AcceptableChain env.crypto proof events := by
  rw [verifyFairnessEventChain_iff]
  constructor
  · rintro ⟨linked, first, last, isFirst, isLast, commits, reveals⟩
    constructor
    case positions =>
      intro position event found
      exact acceptableEvent_iff.mpr (checkEventLinks_iff.mp linked position event found)
    case first => exact ⟨first, isFirst, commits⟩
    case last => exact ⟨last, isLast, reveals revealed⟩
  · rintro ⟨positions, ⟨first, isFirst, commits⟩, last, isLast, reveals⟩
    constructor
    case linked =>
      rw [checkEventLinks_iff]
      intro position event found
      exact acceptableEvent_iff.mp (positions position event found)
    case bounds => exact ⟨first, last, isFirst, isLast, commits, fun _ => reveals⟩

/-- The commit payload of a proof is not its revealed payload. -/
theorem commit_payload_ne_revealed (proof : FairnessProof) :
    ¬(commitEventPayload proof).Same (revealedEventPayload proof) := by
  intro same
  have commitFixed : (commitEventPayload proof).numeric = commitEventPayload proof :=
    Json.numeric_object fun field member =>
      payload_fixed proof field (List.mem_append_left _ member)
  have revealedFixed : (revealedEventPayload proof).numeric = revealedEventPayload proof :=
    Json.numeric_object (payload_fixed proof)
  rw [Json.Same, commitFixed, revealedFixed] at same
  have seeds := congrArg (Json.get? (py "client_seed")) same
  rw [commitEventPayload, revealedEventPayload_eq, Json.get?_object, Json.get?_object]
    at seeds
  have absent : (commitEventFields proof).reverse.find?
      (fun field => decide (field.1 = py "client_seed")) = none := by
    apply List.find?_eq_none.mpr
    intro field member
    have isKey : field.1 ∈ (commitEventFields proof).map Prod.fst :=
      List.mem_map_of_mem (List.mem_reverse.mp member)
    have others : py "client_seed" ∉ (commitEventFields proof).map Prod.fst := by
      simp only [commitEventFields, List.map_cons, List.map_nil, List.mem_cons, py_inj,
        List.not_mem_nil, or_false]
      decide
    intro isSeed
    exact others (of_decide_eq_true isSeed ▸ isKey)
  have present : ((commitEventFields proof ++ revealedEventFields proof).reverse.find?
      (fun field => decide (field.1 = py "client_seed"))).isSome := by
    rw [List.find?_isSome]
    refine ⟨(py "client_seed", Json.ofOption .str proof.clientSeed), ?_, by simp⟩
    rw [List.mem_reverse]
    exact List.mem_append_right _ List.mem_cons_self
  rw [absent] at seeds
  cases found : (commitEventFields proof ++ revealedEventFields proof).reverse.find?
      (fun field => decide (field.1 = py "client_seed")) with
  | none =>
    rw [found] at present
    cases present
  | some field =>
    rw [found] at seeds
    cases seeds

/-- A chain of version 2 at both ends has two events. -/
theorem AcceptableChain.two_events {proof : FairnessProof}
    {events : List FairnessProofEvent} (acceptable : AcceptableChain env.crypto proof events)
    (second : ∀ event, events.head? = some event ∨ events.getLast? = some event →
      event.evidenceVersion = 2) : 2 ≤ events.length := by
  obtain ⟨-, ⟨first, isFirst, commits⟩, last, isLast, -, reveals⟩ := acceptable
  rcases events with _ | ⟨only, _ | ⟨next, rest⟩⟩
  · cases isFirst
  · cases isFirst
    cases isLast
    have commitPayload := commits (second first (.inl rfl))
    have revealedPayload := reveals (second first (.inr rfl))
    exact absurd (commitPayload.symm.trans revealedPayload)
      (commit_payload_ne_revealed proof)
  · simp only [List.length_cons]
    omega

end Acceptance

namespace Sample

/-- An event of version 2 of the sample proof, with its hash. -/
def hashedEvent (sequence : Nat) (eventType : PyStr) (status : FairnessProofStatus)
    (previous : PyStr) (payload : Json) : FairnessProofEvent where
  proofId := chainProof.id
  sequence := sequence
  eventType := eventType
  evidenceVersion := 2
  payload := payload
  status := status
  previousEvidenceHash := some previous
  evidenceHash := fairnessEventHash crypto chainProof.id sequence eventType status 7
    (some previous) payload
  createdAt := 7

/-- The chain of a played round, to which a cancellation and a second reveal have been
added. -/
def extendedChain : List FairnessProofEvent :=
  let committed := commitEvent platform chainProof 5
  let revealed := revealedEvent platform chainProof committed 6
  let cancelled := hashedEvent 2 (py "cancelled") .cancelled revealed.evidenceHash
    (terminalEventPayload chainProof 7)
  [committed, revealed, cancelled, hashedEvent 3 (py "revealed") .revealed
    cancelled.evidenceHash (revealedEventPayload chainProof)]

end Sample

/-- A chain that is no lifecycle run is accepted. -/
theorem extended_chain_accepted :
    Sample.chainProof.status = .revealed ∧
      (∀ event ∈ Sample.extendedChain, event.proofId = Sample.chainProof.id) ∧
      verifyFairnessEventChain Sample.platform Sample.chainProof Sample.extendedChain =
        .ok (true, py "verified") ∧
      ¬LifecycleRun Sample.chainProof Sample.extendedChain := by
  decide +kernel

/-- For a revealed proof the verifier accepts the acceptable chains and no others; of
these, the ones of version 2 at both ends have at least two events; and the chain that
the platform stores for a revealed proof is a lifecycle run and acceptable. -/
theorem chain_acceptance (env : Platform) :
    (∀ proof events, proof.status = .revealed →
      (∀ event ∈ events, event.proofId = proof.id) →
      ((∃ code, verifyFairnessEventChain env proof events = .ok (true, code)) ↔
          AcceptableChain env.crypto proof events) ∧
        (AcceptableChain env.crypto proof events →
          (∀ event, events.head? = some event ∨ events.getLast? = some event →
            event.evidenceVersion = 2) →
          2 ≤ events.length)) ∧
    (∀ db, ReachableState env db → ∀ proof ∈ db.proofs, proof.status = .revealed →
      LifecycleRun proof (chainOf proof.id db) ∧
        AcceptableChain env.crypto proof (chainOf proof.id db)) := by
  constructor
  · intro proof events revealed _
    exact ⟨accepted_iff_acceptable revealed, AcceptableChain.two_events⟩
  · rintro db ⟨system, reachable, rfl⟩ proof member revealed
    obtain ⟨calls, consistent⟩ := (platform_sound reachable).inv.1
    obtain ⟨gameSession, record, -, -, evidence⟩ := consistent.proofs proof member
    cases evidence with
    | committed status => exact absurd (revealed.symm.trans status) (by decide)
    | ended status =>
      rw [revealed] at status
      exact absurd status (by decide)
    | @revealed committedAt revealedAt _ _ _ _ _ _ chain =>
      rw [chain]
      exact ⟨rfl, (accepted_iff_acceptable revealed).mp
        ⟨_, verifyFairnessEventChain_revealed committedAt revealedAt⟩⟩

open Sample in
/-- The chain of a played round, and the proof of a run that reveals and claims. -/
theorem chain_acceptance_played :
    AcceptableChain crypto chainProof playedChain ∧ 2 ≤ playedChain.length ∧
      claimedSpin.db.proofs.map FairnessProof.status = [.revealed] ∧
      ∀ proof ∈ claimedSpin.db.proofs, LifecycleRun proof (chainOf proof.id claimedSpin.db) := by
  have statuses := claimedSpin_rows.1
  have ofProof : ∀ event ∈ playedChain, event.proofId = chainProof.id := by decide +kernel
  have second : ∀ event, playedChain.head? = some event ∨
      playedChain.getLast? = some event → event.evidenceVersion = 2 := by
    rintro event (isHead | isLast)
    · cases isHead
      rfl
    · cases isLast
      rfl
  obtain ⟨accepts, stored⟩ := chain_acceptance platform
  obtain ⟨acceptance, twoEvents⟩ := accepts chainProof playedChain rfl ofProof
  have acceptable : AcceptableChain crypto chainProof playedChain :=
    acceptance.mp ⟨_, verifyFairnessEventChain_revealed 5 6⟩
  constructor
  · exact acceptable
  · refine ⟨twoEvents acceptable second, statuses, ?_⟩
    intro proof member
    have revealed : proof.status = .revealed := by
      have isStatus := List.mem_map_of_mem (f := FairnessProof.status) member
      rw [statuses] at isStatus
      exact List.mem_singleton.mp isStatus
    exact (stored _ ⟨_, claimedSpin_reachable, rfl⟩ proof member revealed).1

end RngGamePlatform
