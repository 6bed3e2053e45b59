/-
Module: RngGamePlatform.Proofs.EventChain
Purpose: The last evidence hash of an accepted event chain binds the whole chain,
  as far as the hash function has no collision among the evidence of the chains.
Trusted boundary: none
Main exports: eventEvidence, WellFormedEvent, EvidenceApart, EventsAgree,
  checkEventLinks_concat, chains_agree, event_chain_tamper_evident
-/
import Mathlib.Data.List.Forall2
import RngGamePlatform.Encoding.Bytes
import RngGamePlatform.Encoding.Instants
import RngGamePlatform.Proofs.ProvableFairness

namespace RngGamePlatform

open Encoding

/-! What is hashed. -/

/-- The fields of version-2 evidence. -/
def eventFields (event : FairnessProofEvent) : List (PyStr × Json) :=
  [(py "created_at", .str (timestamp event.createdAt)),
    (py "event_type", .str event.eventType),
    (py "payload", event.payload),
    (py "previous_evidence_hash", Json.ofOption .str event.previousEvidenceHash),
    (py "proof_id", .str (uuidStr event.proofId)),
    (py "sequence", .int event.sequence),
    (py "status", .str event.status.value)]

/-- The canonical evidence of version 2, before it is encoded. -/
def eventJson (event : FairnessProofEvent) : Json := Json.object (eventFields event)

/-- The lines of version 1, before they are encoded. -/
def eventLines (event : FairnessProofEvent) : PyStr :=
  fairnessEventLinesV1 event.proofId event.sequence event.eventType event.status
    event.createdAt event.previousEvidenceHash

/-- The bytes that the hash of an event is taken of. -/
def eventEvidence (event : FairnessProofEvent) : Option Bytes :=
  if event.evidenceVersion = 1 then encodeStrictAscii (eventLines event)
  else if event.evidenceVersion = 2 then
    some (encodeAscii (py "RNG-GAME-PLATFORM-PVF-EVENT/2\n" ++ (eventJson event).dumps))
  else none

/-- An event as the table holds it: texts without surrogates, and a previous hash
that is absent or 64 hexadecimal digits. -/
structure WellFormedEvent (event : FairnessProofEvent) : Prop where
  eventType : Scalar event.eventType
  payload : event.payload.All Scalar
  previous : ∀ hash, event.previousEvidenceHash = some hash →
    hash.length = 64 ∧ IsHex hash

/-- The hash function has no collision among the evidence of the events. -/
def EvidenceApart (crypto : Crypto) (events : List FairnessProofEvent) : Prop :=
  ∀ one ∈ events.filterMap eventEvidence, ∀ other ∈ events.filterMap eventEvidence,
    crypto.sha256 one = crypto.sha256 other → one = other

instance (crypto : Crypto) (events : List FairnessProofEvent) :
    Decidable (EvidenceApart crypto events) :=
  List.decidableBAll _ _

/-- Two events agree on the columns that the evidence of either version names. -/
structure SameColumns (one other : FairnessProofEvent) : Prop where
  proofId : one.proofId = other.proofId
  sequence : one.sequence = other.sequence
  eventType : one.eventType = other.eventType
  status : one.status = other.status
  createdAt : one.createdAt = other.createdAt
  previousEvidenceHash : one.previousEvidenceHash = other.previousEvidenceHash

/-- Two events agree on every column that their hash binds. -/
structure EventsAgree (one other : FairnessProofEvent) : Prop
    extends SameColumns one other where
  evidenceHash : one.evidenceHash = other.evidenceHash
  evidenceVersion : one.evidenceVersion = other.evidenceVersion
  payload : one.evidenceVersion = 2 → one.payload = other.payload

section Evidence

variable {one other : FairnessProofEvent}

theorem status_value_injective {one other : FairnessProofStatus}
    (same : one.value = other.value) : one = other := by
  cases one <;> cases other <;> first | rfl | exact absurd (py_inj.mp same) (by decide)

theorem line_status (status : FairnessProofStatus) : Line status.value := by
  cases status with
  | committed => exact line_py "committed" rfl
  | revealed => exact line_py "revealed" rfl
  | expired => exact line_py "expired" rfl
  | cancelled => exact line_py "cancelled" rfl

/-- An absent previous hash has another text than a present one. -/
theorem previous_injective (wellFormedOne : WellFormedEvent one)
    (wellFormedOther : WellFormedEvent other)
    (same : one.previousEvidenceHash.getD [] = other.previousEvidenceHash.getD []) :
    one.previousEvidenceHash = other.previousEvidenceHash := by
  cases hashOne : one.previousEvidenceHash with
  | none =>
    cases hashOther : other.previousEvidenceHash with
    | none => rfl
    | some hash =>
      rw [hashOne, hashOther] at same
      have length := (wellFormedOther.previous hash hashOther).1
      rw [← show [] = hash from same] at length
      cases length
  | some hash =>
    cases hashOther : other.previousEvidenceHash with
    | none =>
      rw [hashOne, hashOther] at same
      have length := (wellFormedOne.previous hash hashOne).1
      rw [show hash = [] from same] at length
      cases length
    | some hash' =>
      rw [hashOne, hashOther] at same
      exact congrArg some same

theorem line_previous (wellFormed : WellFormedEvent one) :
    Line (one.previousEvidenceHash.getD []) := by
  cases isHash : one.previousEvidenceHash with
  | none => intro c member; cases member
  | some hash => exact line_hex (wellFormed.previous hash isHash).2

/-- The lines of version 1 are read from both ends, which leaves the event type,
itself free text, in the middle. -/
theorem eventLines_injective (wellFormedOne : WellFormedEvent one)
    (wellFormedOther : WellFormedEvent other) (same : eventLines one = eventLines other) :
    SameColumns one other := by
  unfold eventLines fairnessEventLinesV1 at same
  -- from the end: the previous hash, the instant and the status
  have withoutLast := List.append_cancel_right same
  have label := line_py "previous_evidence_hash=" rfl
  have regrouped : ∀ a b c : PyStr, a ++ b ++ c = a ++ (b ++ c) := List.append_assoc
  rw [regrouped _ (py "previous_evidence_hash="), regrouped _ (py "previous_evidence_hash=")]
    at withoutLast
  obtain ⟨upToInstant, sameHash⟩ := Line.cancel_last
    (label.append (line_previous wellFormedOne)) (label.append (line_previous wellFormedOther))
    withoutLast
  have createdLabel := line_py "created_at=" rfl
  rw [regrouped _ (py "created_at="), regrouped _ (py "created_at=")] at upToInstant
  obtain ⟨upToStatus, sameInstant⟩ := Line.cancel_last
    (createdLabel.append (line_timestamp _)) (createdLabel.append (line_timestamp _))
    upToInstant
  have statusLabel := line_py "status=" rfl
  rw [regrouped _ (py "status="), regrouped _ (py "status=")] at upToStatus
  obtain ⟨upToType, sameStatus⟩ := Line.cancel_last
    (statusLabel.append (line_status _)) (statusLabel.append (line_status _)) upToStatus
  -- from the beginning: the proof and the sequence number
  repeat rw [regrouped] at upToType
  obtain ⟨sameProof, afterProof⟩ := Line.cancel (line_uuidStr _) (line_uuidStr _)
    (List.append_cancel_left (List.append_cancel_left upToType))
  obtain ⟨sameSequence, afterSequence⟩ := Line.cancel (line_decimal _) (line_decimal _)
    (List.append_cancel_left afterProof)
  constructor
  case proofId => exact uuidStr_injective sameProof
  case sequence => exact Int.ofNat_inj.mp (decimal_injective sameSequence)
  case eventType => exact List.append_cancel_left afterSequence
  case status => exact status_value_injective (List.append_cancel_left sameStatus)
  case createdAt => exact timestamp_injective (List.append_cancel_left sameInstant)
  case previousEvidenceHash =>
    exact previous_injective wellFormedOne wellFormedOther
      (List.append_cancel_left sameHash)

theorem scalar_eventJson (wellFormed : WellFormedEvent one) :
    (eventJson one).All Scalar := by
  have key : ∀ literal : String, (literal.toList.all fun c =>
      decide (c.toNat < 128) && decide (c.toNat ≠ 10)) = true → Scalar (py literal) :=
    fun literal isPlain => (line_py literal isPlain).scalar
  have previous : (Json.ofOption .str one.previousEvidenceHash).All Scalar := by
    cases isHash : one.previousEvidenceHash with
    | none => trivial
    | some hash => exact (line_hex (wellFormed.previous hash isHash).2).scalar
  apply Json.all_object
  simp only [eventFields, List.forall_mem_cons, List.not_mem_nil, false_implies,
    implies_true, and_true]
  exact ⟨⟨key "created_at" rfl, (line_timestamp _).scalar⟩,
    ⟨key "event_type" rfl, wellFormed.eventType⟩, ⟨key "payload" rfl, wellFormed.payload⟩,
    ⟨key "previous_evidence_hash" rfl, previous⟩,
    ⟨key "proof_id" rfl, (line_uuidStr _).scalar⟩, ⟨key "sequence" rfl, trivial⟩,
    ⟨key "status" rfl, (line_status _).scalar⟩⟩

/-- The canonical JSON of version 2 binds every column. -/
theorem eventJson_injective (wellFormedOne : WellFormedEvent one)
    (wellFormedOther : WellFormedEvent other)
    (same : (eventJson one).dumps = (eventJson other).dumps) :
    SameColumns one other ∧ one.payload = other.payload := by
  have whole := Json.dumps_scalar_injective (scalar_eventJson wellFormedOne)
    (scalar_eventJson wellFormedOther) same
  have keys : ∀ event, (eventFields event).map Prod.fst = ["created_at", "event_type",
      "payload", "previous_evidence_hash", "proof_id", "sequence", "status"].map py :=
    fun _ => rfl
  have distinct : ((eventFields one).map Prod.fst).Nodup := by
    rw [keys]
    exact List.Nodup.map (fun _ _ => py_inj.mp) (by decide +kernel)
  have fields := Json.object_injective ((keys one).trans (keys other).symm) distinct whole
  simp only [eventFields, List.cons.injEq, Prod.mk.injEq, Json.str.injEq, Json.int.injEq,
    true_and, and_true] at fields
  obtain ⟨created, eventType, payload, previous, proofId, sequence, status⟩ := fields
  have sameHash : one.previousEvidenceHash = other.previousEvidenceHash :=
    Json.ofOption_injective (fun _ _ => Json.str.inj) (fun _ => nofun) previous
  exact ⟨⟨uuidStr_injective proofId, Int.ofNat_inj.mp sequence, eventType,
    status_value_injective status, timestamp_injective created, sameHash⟩, payload⟩

/-- The evidence of one version is no evidence of the other. -/
theorem versions_apart (x y : PyStr) :
    py "RNG-GAME-PLATFORM-PVF-EVENT/1\n" ++ x ≠ py "RNG-GAME-PLATFORM-PVF-EVENT/2\n" ++ y := by
  intro same
  have heads := congrArg (List.take 30) same
  have first : (py "RNG-GAME-PLATFORM-PVF-EVENT/1\n").length = 30 := by decide
  have second : (py "RNG-GAME-PLATFORM-PVF-EVENT/2\n").length = 30 := by decide
  rw [List.take_left' first, List.take_left' second, py_inj] at heads
  revert heads
  decide

/-- Events of one piece of evidence agree. -/
theorem eventEvidence_injective {bytes : Bytes} (wellFormedOne : WellFormedEvent one)
    (wellFormedOther : WellFormedEvent other) (isOne : eventEvidence one = some bytes)
    (isOther : eventEvidence other = some bytes) :
    SameColumns one other ∧ one.evidenceVersion = other.evidenceVersion ∧
      (one.evidenceVersion = 2 → one.payload = other.payload) := by
  have strict : ∀ {text : PyStr} {bytes : Bytes}, encodeStrictAscii text = some bytes →
      bytes = encodeAscii text ∧ ∀ c ∈ text, c.val < 128 := by
    intro text bytes encoded
    unfold encodeStrictAscii at encoded
    split at encoded
    case isTrue ascii =>
      cases encoded
      exact ⟨rfl, by simpa using ascii⟩
    case isFalse => cases encoded
  have second : ∀ event, ∀ c ∈ py "RNG-GAME-PLATFORM-PVF-EVENT/2\n" ++
      (eventJson event).dumps, c.val < 128 := by
    intro event c member
    cases List.mem_append.mp member with
    | inl inPrefix => exact ascii_py "RNG-GAME-PLATFORM-PVF-EVENT/2\n" rfl c inPrefix
    | inr inJson => exact ascii_dumps _ inJson
  have firstPrefix : ∀ event, py "RNG-GAME-PLATFORM-PVF-EVENT/1\n" <+: eventLines event := by
    intro event
    unfold eventLines fairnessEventLinesV1
    repeat apply List.prefix_append_of_prefix
    exact List.prefix_append _ _
  unfold eventEvidence at isOne isOther
  split at isOne
  case isTrue firstOne =>
    obtain ⟨bytesOne, asciiOne⟩ := strict isOne
    split at isOther
    case isTrue firstOther =>
      obtain ⟨bytesOther, asciiOther⟩ := strict isOther
      have sameLines := encodeAscii_injective asciiOne asciiOther
        (bytesOne.symm.trans bytesOther)
      refine ⟨eventLines_injective wellFormedOne wellFormedOther sameLines,
        firstOne.trans firstOther.symm, ?_⟩
      intro isSecond
      rw [firstOne] at isSecond
      cases isSecond
    case isFalse =>
      split at isOther
      case isTrue =>
        have sameText := encodeAscii_injective asciiOne (second other)
          (bytesOne.symm.trans (Option.some.inj isOther).symm)
        obtain ⟨rest, lines⟩ := firstPrefix one
        rw [← lines] at sameText
        exact absurd sameText (versions_apart _ _)
      case isFalse => cases isOther
  case isFalse =>
    split at isOne
    case isTrue secondOne =>
      split at isOther
      case isTrue =>
        obtain ⟨bytesOther, asciiOther⟩ := strict isOther
        have sameText := encodeAscii_injective asciiOther (second one)
          (bytesOther.symm.trans (Option.some.inj isOne).symm)
        obtain ⟨rest, lines⟩ := firstPrefix other
        rw [← lines] at sameText
        exact absurd sameText (versions_apart _ _)
      case isFalse =>
        split at isOther
        case isTrue secondOther =>
          have sameText := encodeAscii_injective (second one) (second other)
            ((Option.some.inj isOne).trans (Option.some.inj isOther).symm)
          obtain ⟨columns, payload⟩ := eventJson_injective wellFormedOne wellFormedOther
            (List.append_cancel_left sameText)
          exact ⟨columns, secondOne.trans secondOther.symm, fun _ => payload⟩
        case isFalse => cases isOther
    case isFalse => cases isOne

end Evidence

theorem EvidenceApart.of_subset {crypto : Crypto} {few all : List FairnessProofEvent}
    (apart : EvidenceApart crypto all) (part : ∀ event ∈ few, event ∈ all) :
    EvidenceApart crypto few := by
  have inAll : ∀ bytes ∈ few.filterMap eventEvidence, bytes ∈ all.filterMap eventEvidence := by
    intro bytes member
    obtain ⟨event, inSome, evidence⟩ := List.mem_filterMap.mp member
    exact List.mem_filterMap.mpr ⟨event, part event inSome, evidence⟩
  exact fun one inOne other inOther => apart one (inAll one inOne) other (inAll other inOther)

/-! From one event to its chain. -/

section Chains

variable {env : Platform}

/-- The hash of an event is taken of its evidence. -/
theorem evidence_of_hash {event : FairnessProofEvent} {hash : PyStr}
    (hashed : expectedEventHash env event = .ok (some hash)) :
    ∃ bytes, eventEvidence event = some bytes ∧ hash = (env.crypto.sha256 bytes).hex := by
  unfold expectedEventHash at hashed
  unfold eventEvidence
  split at hashed
  case isTrue first =>
    rw [if_pos first]
    split at hashed
    case h_1 expected isExpected =>
      cases hashed
      obtain ⟨bytes, encoded, rfl⟩ := Option.map_eq_some_iff.mp isExpected
      exact ⟨bytes, encoded, rfl⟩
    case h_2 => cases hashed
  case isFalse other =>
    rw [if_neg other]
    split at hashed
    case isTrue second =>
      cases hashed
      exact ⟨_, if_pos second, rfl⟩
    case isFalse => cases hashed

/-- A chain links when its first event does and the rest links to it. -/
theorem checkEventLinks_cons_iff {sequence : Nat} {previous : Option PyStr}
    {event : FairnessProofEvent} {events : List FairnessProofEvent} :
    checkEventLinks env sequence previous (event :: events) = .ok none ↔
      Links env sequence previous event ∧
        checkEventLinks env (sequence + 1) (some event.evidenceHash) events = .ok none := by
  constructor
  · intro linked
    simp only [checkEventLinks] at linked
    split at linked
    case isTrue => cases linked
    case isFalse position =>
      obtain ⟨inSequence, afterPrevious⟩ := not_or.mp position
      split at linked
      case h_1 => cases linked
      case h_2 => cases linked
      case h_3 expected hashed =>
        split at linked
        case isTrue => cases linked
        case isFalse same =>
          have isHash : expected = event.evidenceHash := Decidable.not_not.mp same
          exact ⟨⟨Decidable.not_not.mp inSequence, Decidable.not_not.mp afterPrevious,
            isHash ▸ hashed⟩, linked⟩
  · rintro ⟨links, linked⟩
    rw [checkEventLinks_cons links]
    exact linked

/-- The links of a chain with one more event. -/
theorem checkEventLinks_concat {sequence : Nat} {previous : Option PyStr}
    {events : List FairnessProofEvent} {last : FairnessProofEvent} :
    checkEventLinks env sequence previous (events ++ [last]) = .ok none ↔
      checkEventLinks env sequence previous events = .ok none ∧
        Links env (sequence + events.length)
          ((events.getLast?.map FairnessProofEvent.evidenceHash).or previous) last := by
  induction events generalizing sequence previous with
  | nil =>
    rw [List.nil_append, checkEventLinks_cons_iff]
    simp [checkEventLinks]
  | cons event rest ih =>
    have later : (rest.getLast?.map FairnessProofEvent.evidenceHash).or
        (some event.evidenceHash) =
        ((event :: rest).getLast?.map FairnessProofEvent.evidenceHash).or previous := by
      rw [List.getLast?_cons]
      cases rest.getLast? <;> rfl
    have position : sequence + 1 + rest.length = sequence + (event :: rest).length := by
      rw [List.length_cons]
      omega
    rw [List.cons_append, checkEventLinks_cons_iff, checkEventLinks_cons_iff, ih, later,
      position, and_assoc]

/-- Chains from the beginning with the same last hash agree event by event. -/
theorem chains_agree {events others : List FairnessProofEvent}
    (apart : EvidenceApart env.crypto (events ++ others))
    (wellFormed : ∀ event ∈ events ++ others, WellFormedEvent event)
    (linked : checkEventLinks env 0 none events = .ok none)
    (linkedOthers : checkEventLinks env 0 none others = .ok none)
    (sameEnd : events.getLast?.map FairnessProofEvent.evidenceHash =
      others.getLast?.map FairnessProofEvent.evidenceHash) :
    List.Forall₂ EventsAgree events others := by
  induction events using List.reverseRecOn generalizing others with
  | nil =>
    cases others with
    | nil => exact .nil
    | cons event rest =>
      rw [List.getLast?_cons] at sameEnd
      cases sameEnd
  | append_singleton earlier last ih =>
    cases others using List.reverseRecOn with
    | nil =>
      rw [List.getLast?_concat] at sameEnd
      cases sameEnd
    | append_singleton earlierOthers lastOther =>
      obtain ⟨linkedEarlier, links⟩ := checkEventLinks_concat.mp linked
      obtain ⟨linkedEarlierOthers, linksOther⟩ := checkEventLinks_concat.mp linkedOthers
      rw [List.getLast?_concat, List.getLast?_concat] at sameEnd
      have sameHash : last.evidenceHash = lastOther.evidenceHash := Option.some.inj sameEnd
      obtain ⟨bytes, evidence, isHash⟩ := evidence_of_hash links.hashed
      obtain ⟨bytesOther, evidenceOther, isHashOther⟩ := evidence_of_hash linksOther.hashed
      have member : last ∈ earlier ++ [last] ++ (earlierOthers ++ [lastOther]) := by simp
      have memberOther : lastOther ∈ earlier ++ [last] ++ (earlierOthers ++ [lastOther]) := by
        simp
      have sameEvidence : bytes = bytesOther := by
        apply apart bytes (List.mem_filterMap.mpr ⟨last, member, evidence⟩) bytesOther
          (List.mem_filterMap.mpr ⟨lastOther, memberOther, evidenceOther⟩)
        apply Subtype.ext
        apply hexOfBytes_injective
        exact isHash.symm.trans (sameHash.trans isHashOther)
      obtain ⟨columns, version, payload⟩ := eventEvidence_injective
        (wellFormed last member) (wellFormed lastOther memberOther) evidence
        (sameEvidence ▸ evidenceOther)
      have sameLength : earlier.length = earlierOthers.length := by
        have sequence := columns.sequence
        rw [links.sequence, linksOther.sequence] at sequence
        omega
      have sameEarlierEnd : earlier.getLast?.map FairnessProofEvent.evidenceHash =
          earlierOthers.getLast?.map FairnessProofEvent.evidenceHash := by
        have previous := columns.previousEvidenceHash
        rw [links.previous, linksOther.previous, Option.or_none, Option.or_none] at previous
        exact previous
      have part : ∀ event ∈ earlier ++ earlierOthers,
          event ∈ earlier ++ [last] ++ (earlierOthers ++ [lastOther]) := by
        intro event
        simp only [List.mem_append]
        rintro (inEarlier | inOthers)
        · exact .inl (.inl inEarlier)
        · exact .inr (.inl inOthers)
      have earlierAgree := ih
        (apart.of_subset part)
        (fun event inEarlier => wellFormed event (part event inEarlier))
        linkedEarlier linkedEarlierOthers sameEarlierEnd
      exact List.rel_append earlierAgree (.cons ⟨columns, sameHash, version, payload⟩ .nil)

end Chains

/-! The verifier. -/

/-- What the verifier accepts for a proof. -/
structure ChainAccepted (env : Platform) (proof : FairnessProof)
    (events : List FairnessProofEvent) : Prop where
  linked : checkEventLinks env 0 none events = .ok none
  bounds : ∃ first final, events.head? = some first ∧ events.getLast? = some final ∧
    (first.evidenceVersion = 2 → first.payload.Same (commitEventPayload proof)) ∧
    (proof.status = .revealed → final.status = .revealed ∧
      (final.evidenceVersion = 2 → final.payload.Same (revealedEventPayload proof)))

/-- The verifier answers `verified` on the accepted chains. -/
theorem verifyFairnessEventChain_iff {env : Platform} {proof : FairnessProof}
    {events : List FairnessProofEvent} :
    (∃ code, verifyFairnessEventChain env proof events = .ok (true, code)) ↔
      ChainAccepted env proof events := by
  constructor
  · rintro ⟨code, verified⟩
    unfold verifyFairnessEventChain at verified
    split at verified
    case h_1 first final isFirst isFinal =>
      split at verified
      case h_1 => cases verified
      case h_2 => cases verified
      case h_3 linked =>
        split_ifs at verified with commitMismatch stateMismatch payloadMismatch
        · cases verified
        · cases verified
        · cases verified
        · refine ⟨linked, first, final, isFirst, isFinal, ?_, ?_⟩
          · intro second
            by_contra mismatch
            exact commitMismatch ⟨second, mismatch⟩
          · intro revealed
            constructor
            · by_contra mismatch
              exact stateMismatch ⟨revealed, mismatch⟩
            · intro second
              by_contra mismatch
              exact payloadMismatch ⟨revealed, second, mismatch⟩
    case h_2 => cases verified
  · rintro ⟨linked, first, final, isFirst, isFinal, commits, reveals⟩
    refine ⟨py "verified", ?_⟩
    simp only [verifyFairnessEventChain, isFirst, isFinal, linked]
    rw [if_neg (fun mismatch => mismatch.2 (commits mismatch.1)),
      if_neg (fun mismatch => mismatch.2 (reveals mismatch.1).1),
      if_neg (fun mismatch => mismatch.2.2 ((reveals mismatch.1).2 mismatch.2.1))]

/-! The payloads of a proof. -/

/-- Two proofs agree on the fields of the commit payload. -/
structure CommitAgrees (one other : FairnessProof) : Prop where
  algorithm : one.algorithm = other.algorithm
  configVersionId : one.configVersionId = other.configVersionId
  gameKey : one.gameKey = other.gameKey
  mappingDigest : one.mappingDigest = other.mappingDigest
  mappingVersion : one.mappingVersion = other.mappingVersion
  nonce : one.nonce = other.nonce
  protocolVersion : one.protocolVersion = other.protocolVersion
  serverSeedCommitment : one.serverSeedCommitment = other.serverSeedCommitment
  sessionId : one.sessionId = other.sessionId

/-- Two proofs agree on the fields of the revealed payload, which has those of the
commit payload. -/
structure RevealedAgrees (one other : FairnessProof) : Prop
    extends CommitAgrees one other where
  clientSeed : one.clientSeed = other.clientSeed
  derivationAttempt : one.derivationAttempt = other.derivationAttempt
  evaluatedAt : one.evaluatedAt = other.evaluatedAt
  evaluationFingerprint : one.evaluationFingerprint = other.evaluationFingerprint
  normalizedValue : one.normalizedValue = other.normalizedValue
  outcomeId : one.outcomeId = other.outcomeId
  rawRandomValue : one.rawRandomValue = other.rawRandomValue
  revealedAt : one.revealedAt = other.revealedAt
  rewardKey : one.rewardKey = other.rewardKey
  rewardValue : one.rewardValue = other.rewardValue
  serverSeedRevealed : one.serverSeedRevealed = other.serverSeedRevealed

section Payloads

variable {one other : FairnessProof}

/-- The fields of the revealed payload after those of the commit payload. -/
def revealedEventFields (proof : FairnessProof) : List (PyStr × Json) :=
  [(py "client_seed", Json.ofOption .str proof.clientSeed),
    (py "derivation_attempt", Json.ofOption .int proof.derivationAttempt),
    (py "evaluated_at", Json.ofOption (fun moment => .str (timestamp moment)) proof.evaluatedAt),
    (py "evaluation_fingerprint", Json.ofOption .str proof.evaluationFingerprint),
    (py "normalized_value", Json.ofOption .int proof.normalizedValue),
    (py "outcome_id", Json.ofOption (fun id => .str (uuidStr id)) proof.outcomeId),
    (py "raw_random_value", Json.ofOption .str proof.rawRandomValue),
    (py "revealed_at", Json.ofOption (fun moment => .str (timestamp moment)) proof.revealedAt),
    (py "reward_key", Json.ofOption .str proof.rewardKey),
    (py "reward_value", Json.ofOption .int proof.rewardValue),
    (py "server_seed_revealed", Json.ofOption .str proof.serverSeedRevealed)]

theorem revealedEventPayload_eq (proof : FairnessProof) : revealedEventPayload proof =
    Json.object (commitEventFields proof ++ revealedEventFields proof) := rfl

/-- The keys of a payload are the same for every proof. -/
theorem payload_keys (proof : FairnessProof) :
    (commitEventFields proof ++ revealedEventFields proof).map Prod.fst =
      ["algorithm", "config_version_id", "game_key", "mapping_digest", "mapping_version",
        "nonce", "protocol_version", "server_seed_commitment", "session_id", "client_seed",
        "derivation_attempt", "evaluated_at", "evaluation_fingerprint", "normalized_value",
        "outcome_id", "raw_random_value", "revealed_at", "reward_key", "reward_value",
        "server_seed_revealed"].map py := rfl

theorem payload_keys_distinct (proof : FairnessProof) :
    ((commitEventFields proof ++ revealedEventFields proof).map Prod.fst).Nodup := by
  rw [payload_keys]
  exact List.Nodup.map (fun _ _ => py_inj.mp) (by decide +kernel)

/-- Payloads have texts, numbers and nulls only. -/
theorem payload_fixed (proof : FairnessProof) :
    ∀ field ∈ commitEventFields proof ++ revealedEventFields proof,
      field.2.numeric = field.2 := by
  have str : ∀ value : Option PyStr,
      (Json.ofOption .str value).numeric = Json.ofOption .str value :=
    Json.numeric_ofOption fun _ => rfl
  have int : ∀ value : Option Int,
      (Json.ofOption .int value).numeric = Json.ofOption .int value :=
    Json.numeric_ofOption fun _ => rfl
  have instant : ∀ value : Option Int,
      (Json.ofOption (fun moment => .str (timestamp moment)) value).numeric =
        Json.ofOption (fun moment => .str (timestamp moment)) value :=
    Json.numeric_ofOption fun _ => rfl
  have id : ∀ value : Option Uuid,
      (Json.ofOption (fun id => .str (uuidStr id)) value).numeric =
        Json.ofOption (fun id => .str (uuidStr id)) value :=
    Json.numeric_ofOption fun _ => rfl
  simp only [commitEventFields, revealedEventFields, List.cons_append, List.nil_append,
    List.forall_mem_cons, Json.numeric, str, int, instant, id, List.not_mem_nil,
    false_implies, implies_true, and_self]

/-- The commit payload binds its fields. -/
theorem commitEventPayload_injective
    (same : (commitEventPayload one).Same (commitEventPayload other)) :
    CommitAgrees one other := by
  have fixed : ∀ proof, (commitEventPayload proof).numeric = commitEventPayload proof :=
    fun proof => Json.numeric_object fun field member =>
      payload_fixed proof field (List.mem_append_left _ member)
  have distinct : ((commitEventFields one).map Prod.fst).Nodup :=
    (payload_keys_distinct one).sublist ((List.sublist_append_left _ _).map _)
  have keys : (commitEventFields one).map Prod.fst = (commitEventFields other).map Prod.fst :=
    rfl
  rw [Json.Same, fixed, fixed] at same
  have fields := Json.object_injective keys distinct same
  simp only [commitEventFields, List.cons.injEq, Prod.mk.injEq, Json.str.injEq,
    Json.int.injEq, true_and, and_true] at fields
  obtain ⟨algorithm, config, game, digest, version, nonce, protocol, commitment, session⟩ :=
    fields
  exact ⟨algorithm, uuidStr_injective config, game, digest, version, nonce, protocol,
    commitment, uuidStr_injective session⟩

/-- The revealed payload binds its fields. -/
theorem revealedEventPayload_injective
    (same : (revealedEventPayload one).Same (revealedEventPayload other)) :
    RevealedAgrees one other := by
  have fixed : ∀ proof, (revealedEventPayload proof).numeric = revealedEventPayload proof :=
    fun proof => Json.numeric_object (payload_fixed proof)
  rw [Json.Same, fixed, fixed] at same
  have fields := Json.object_injective ((payload_keys one).trans (payload_keys other).symm)
    (payload_keys_distinct one) same
  have lengths : (commitEventFields one).length = (commitEventFields other).length := rfl
  obtain ⟨commits, reveals⟩ := List.append_inj fields lengths
  have str : ∀ {value value' : Option PyStr}, Json.ofOption .str value =
      Json.ofOption .str value' → value = value' :=
    Json.ofOption_injective (fun _ _ => Json.str.inj) (fun _ => nofun)
  have int : ∀ {value value' : Option Int}, Json.ofOption .int value =
      Json.ofOption .int value' → value = value' :=
    Json.ofOption_injective (fun _ _ => Json.int.inj) (fun _ => nofun)
  have instant : ∀ {value value' : Option Int},
      Json.ofOption (fun moment => .str (timestamp moment)) value =
        Json.ofOption (fun moment => .str (timestamp moment)) value' → value = value' :=
    Json.ofOption_injective (fun _ _ isText => timestamp_injective (Json.str.inj isText))
      (fun _ => nofun)
  have id : ∀ {value value' : Option Uuid},
      Json.ofOption (fun id => .str (uuidStr id)) value =
        Json.ofOption (fun id => .str (uuidStr id)) value' → value = value' :=
    Json.ofOption_injective (fun _ _ isText => uuidStr_injective (Json.str.inj isText))
      (fun _ => nofun)
  have commitAgrees : CommitAgrees one other := by
    apply commitEventPayload_injective
    rw [commitEventPayload, commitEventPayload, commits]
    exact Json.Same.refl _
  simp only [revealedEventFields, List.cons.injEq, Prod.mk.injEq, true_and,
    and_true] at reveals
  obtain ⟨clientSeed, attempt, evaluated, fingerprint, normalized, outcome, raw, revealed,
    rewardKey, rewardValue, seed⟩ := reveals
  exact ⟨commitAgrees, str clientSeed, int attempt, instant evaluated, str fingerprint,
    int normalized, id outcome, str raw, instant revealed, str rewardKey, int rewardValue,
    str seed⟩

end Payloads

/-! The chain as evidence. -/

/-- Accepted chains with the same last hash are the same chain, column by column,
whatever the evidence versions of their events and whatever the proofs they were
accepted for; and revealed proofs accepted with one chain of version 2 at both ends
agree on what their payloads name. -/
theorem event_chain_tamper_evident (env : Platform) :
    (∀ proof proof' events others,
      (∃ code, verifyFairnessEventChain env proof events = .ok (true, code)) →
      (∃ code, verifyFairnessEventChain env proof' others = .ok (true, code)) →
      (∀ event ∈ events ++ others, WellFormedEvent event) →
      EvidenceApart env.crypto (events ++ others) →
      events.getLast?.map FairnessProofEvent.evidenceHash =
        others.getLast?.map FairnessProofEvent.evidenceHash →
      events.length = others.length ∧ List.Forall₂ EventsAgree events others) ∧
    (∀ proof proof' events,
      (∃ code, verifyFairnessEventChain env proof events = .ok (true, code)) →
      (∃ code, verifyFairnessEventChain env proof' events = .ok (true, code)) →
      proof.status = .revealed → proof'.status = .revealed →
      (∀ event, events.head? = some event ∨ events.getLast? = some event →
        event.evidenceVersion = 2) →
      RevealedAgrees proof proof') := by
  constructor
  · intro proof proof' events others accepted acceptedOthers wellFormed apart sameEnd
    have agree := chains_agree apart wellFormed
      (verifyFairnessEventChain_iff.mp accepted).linked
      (verifyFairnessEventChain_iff.mp acceptedOthers).linked sameEnd
    exact ⟨agree.length_eq, agree⟩
  · intro proof proof' events accepted accepted' revealed revealed' second
    obtain ⟨-, -, final, -, isFinal, -, reveals⟩ := verifyFairnessEventChain_iff.mp accepted
    obtain ⟨-, -, final', -, isFinal', -, reveals'⟩ :=
      verifyFairnessEventChain_iff.mp accepted'
    have sameFinal : final' = final := Option.some.inj (isFinal'.symm.trans isFinal)
    have atEnd := second final (.inr isFinal)
    have payload := (reveals revealed).2 atEnd
    have payload' := (reveals' revealed').2 (sameFinal ▸ atEnd)
    rw [sameFinal] at payload'
    apply revealedEventPayload_injective
    exact payload.symm.trans payload'

namespace Sample

def chainProof : FairnessProof where
  id := 7
  sessionId := 8
  playerId := 1
  gameId := 2
  gameKey := py "daily_spin"
  configVersionId := 18
  outcomeId := some 9
  status := .revealed
  protocolVersion := py "p"
  algorithm := py "a"
  serverSeedCommitment := py "c"
  nonce := 0
  clientSeed := some (py "s")
  evaluationFingerprint := some (py "f")
  mappingVersion := py "m"
  mappingDigest := py "d"
  rawRandomValue := some (py "r")
  normalizedValue := some 3
  derivationAttempt := some 0
  rewardKey := some (py "small")
  rewardValue := some 10
  evaluatedAt := some 5
  serverSeedRevealed := some (py "e")
  revealedAt := some 5

/-- The chain that the services write for a played round. -/
def playedChain : List FairnessProofEvent :=
  let committed := commitEvent platform chainProof 5
  [committed, revealedEvent platform chainProof committed 6]

/-- The chain of a round that was committed under version 1, with a payload that the hash
of that version does not bind. -/
def legacyChain (payload : Json) : List FairnessProofEvent :=
  let committed : FairnessProofEvent :=
    { commitEvent platform chainProof 5 with
      evidenceVersion := 1
      payload := payload
      evidenceHash := (fairnessEventHashV1 crypto 7 0 (py "committed") .committed 5
        none).getD [] }
  [committed, revealedEvent platform chainProof committed 6]

/-- Two such chains, whose first payloads differ. -/
def bareChain : List FairnessProofEvent := legacyChain (Json.object [])

def filledChain : List FairnessProofEvent := legacyChain (commitEventPayload chainProof)

theorem chains_wellFormed : ∀ event ∈ bareChain ++ filledChain, WellFormedEvent event := by
  have texts : ∀ event ∈ bareChain ++ filledChain, Scalar event.eventType ∧
      event.payload.All Scalar := by decide +kernel
  have hashes : ∀ event ∈ bareChain ++ filledChain, ∀ hash ∈ event.previousEvidenceHash,
      hash.length = 64 ∧ IsHex hash := by decide +kernel
  exact fun event member =>
    ⟨(texts event member).1, (texts event member).2, hashes event member⟩

end Sample

open Sample in
/-- Two chains that differ in the payload of an event of version 1 agree on what its hash
binds; and a played round's chain, with a second proof that differs from the first one only
in a column that no payload names. -/
theorem event_chain_tamper_evident_played :
    (bareChain ≠ filledChain ∧ List.Forall₂ EventsAgree bareChain filledChain) ∧
      RevealedAgrees chainProof { chainProof with playerId := 4 } := by
  have bare : ∃ code, verifyFairnessEventChain platform chainProof bareChain =
      .ok (true, code) := ⟨py "verified", by decide +kernel⟩
  have filled : ∃ code, verifyFairnessEventChain platform chainProof filledChain =
      .ok (true, code) := ⟨py "verified", by decide +kernel⟩
  have accepted : ∃ code, verifyFairnessEventChain platform chainProof playedChain =
      .ok (true, code) := ⟨py "verified", verifyFairnessEventChain_revealed 5 6⟩
  have acceptedOther : ∃ code, verifyFairnessEventChain platform
      { chainProof with playerId := 4 } playedChain = .ok (true, code) :=
    ⟨py "verified", by decide +kernel⟩
  have differ : bareChain ≠ filledChain := by
    intro same
    exact absurd (congrArg (List.map FairnessProofEvent.payload) same) (by decide +kernel)
  have second : ∀ event, playedChain.head? = some event ∨
      playedChain.getLast? = some event → event.evidenceVersion = 2 := by
    intro event isEnd
    cases isEnd with
    | inl isHead =>
      cases isHead
      rfl
    | inr isLast =>
      cases isLast
      rfl
  have evident := event_chain_tamper_evident platform
  exact ⟨⟨differ, (evident.1 chainProof chainProof bareChain filledChain bare filled
      chains_wellFormed (by decide +kernel) rfl).2⟩,
    evident.2 chainProof _ playedChain accepted acceptedOther rfl rfl second⟩

end RngGamePlatform
