/-
Module: RngGamePlatform.Proofs.ProvableFairness
Purpose: Every revealed proof of every run is verified, and its result is the one
  that the committed seed and the accepted client seed derive.
Trusted boundary: none
Main exports: Verified, Derived, Disclosure.verified, provably_fair
-/
import RngGamePlatform.Proofs.Lifecycle

namespace RngGamePlatform

open Encoding Relational Transactions

section Verification

variable {env : Platform} {calls : List Call} {db : Database} {proof : FairnessProof}
  {gameSession : GameSession} {record : CommitRecord}

/-- A read answers what the transaction sees. -/
theorem run_read {α ρ : Type} (answer : Database → α) (f : α → Prog ρ)
    (times : List Int) (committed view : Database) :
    (read answer >>= f).run times committed view =
      (f (answer view)).run times committed view := rfl

/-- The event that a hash chain accepts next. -/
structure Links (env : Platform) (sequence : Nat) (previous : Option PyStr)
    (event : FairnessProofEvent) : Prop where
  sequence : event.sequence = sequence
  previous : event.previousEvidenceHash = previous
  hashed : expectedEventHash env event = .ok (some event.evidenceHash)

theorem checkEventLinks_cons {sequence : Nat} {previous : Option PyStr}
    {event : FairnessProofEvent} {events : List FairnessProofEvent}
    (links : Links env sequence previous event) :
    checkEventLinks env sequence previous (event :: events) =
      checkEventLinks env (sequence + 1) (some event.evidenceHash) events := by
  simp [checkEventLinks, links.sequence, links.previous, links.hashed]

theorem commitEvent_links (now : Int) :
    Links env 0 none (commitEvent env proof now) := ⟨rfl, rfl, rfl⟩

theorem revealedEvent_links {previous : FairnessProofEvent} (now : Int) :
    Links env 1 (some previous.evidenceHash) (revealedEvent env proof previous now) :=
  ⟨rfl, rfl, rfl⟩

/-- The chain of a revealed proof is verified. -/
theorem verifyFairnessEventChain_revealed (committedAt now : Int) :
    verifyFairnessEventChain env proof [commitEvent env proof committedAt,
      revealedEvent env proof (commitEvent env proof committedAt) now] =
        .ok (true, py "verified") := by
  have linked : checkEventLinks env 0 none [commitEvent env proof committedAt,
      revealedEvent env proof (commitEvent env proof committedAt) now] = .ok none := by
    rw [checkEventLinks_cons (commitEvent_links committedAt),
      checkEventLinks_cons (revealedEvent_links now)]
    rfl
  simp only [verifyFairnessEventChain, List.head?_cons, List.getLast?_cons_cons,
    List.getLast?_singleton, linked]
  simp [commitEvent, revealedEvent, Json.Same.refl]

end Verification

section Derivation

/-- The outcome, the reward and the revealed columns of a proof are the ones that
its committed seed and its accepted client seed derive. -/
structure Derived (env : Platform) (calls : List Call) (db : Database)
    (proof : FairnessProof) (gameSession : GameSession) (game : Game)
    (config : GameConfigVersion) (bands : List RewardBand) (commit : CommitDraw)
    (clientSeed : PyStr) (evaluation : EvaluateDraw)
    (derivation : DailySpinDerivation) (outcome : Outcome) (reward : Reward) :
    Prop where
  ofSession : sessionById proof.sessionId db = some gameSession
  ofGame : gameById gameSession.gameId db = some game
  ofConfig : configById gameSession.configVersionId db = some config
  mapped : fairnessBands env game.key config = .ok bands
  /-- The seed was drawn by the call that committed the proof. -/
  committed : .commitFairness gameSession.id gameSession.playerId commit ∈ calls
  commitment : proof.id = commit.proofId ∧
    proof.serverSeedCommitment = (env.crypto.sha256 commit.seed.val).hex
  evaluated :
    .evaluateFairness proof.id gameSession.playerId clientSeed evaluation ∈ calls
  accepted : proof.clientSeed = some clientSeed
  derived : deriveDailySpin env.crypto evaluation.fuel commit.seed.val clientSeed 0
    gameSession.configVersionId gameSession.id bands game.key protocolVersionV1
    algorithmHmacSha256 dailySpinMappingVersionV1 = .ok (some derivation)
  ofOutcome : outcomeBySession gameSession.id db = some outcome
  bound : proof.outcomeId = some outcome.id
  result : outcome.result = Json.object
    [(py "reward_key", text derivation.reward.key),
      (py "normalized_value", .int derivation.normalizedValue),
      (py "derivation_digest", text derivation.rawDigestHex)]
  ofReward : rewardByOutcome outcome.id db = some reward
  value : reward.value = derivation.reward.value
  rewardKey : proof.rewardKey = some derivation.reward.key
  rewardValue : proof.rewardValue = some derivation.reward.value

/-- Recalculating the proof of an outcome for its owner verifies it. -/
def Verified (env : Platform) (db : Database) (outcomeId ownerId : Uuid)
    (fuel : Nat) : Prop :=
  ∃ revealed bands, (verifyFairnessProof env fuel outcomeId ownerId).run [] db db =
    some (.ok (revealed, bands, py "verified", true), db)

variable {env : Platform} {calls : List Call} {db : Database} {proof : FairnessProof}
  {gameSession : GameSession} {record : CommitRecord} {clientSeed : PyStr}
  {draw : EvaluateDraw} {derivation : DailySpinDerivation} {now : Int}

/-- All columns of a revealed proof. -/
theorem Disclosure.row
    (commitment : Commitment env calls db proof gameSession record)
    (disclosed : Disclosure env calls db proof gameSession record clientSeed draw
      derivation now) :
    proof = revealedProof (newProof gameSession record.game record.config
        proof.playerId record.draw.proofId
        (env.crypto.sha256 record.draw.seed.val).hex record.digest)
      draw.outcomeId clientSeed (evaluationFingerprintOf env proof.id clientSeed)
      derivation record.draw.seed.val now := by
  have columns := disclosed.columns
  rwa [commitment.columns] at columns

/-- What an evaluation has derived. -/
theorem evaluationOf_ok {seed : Bytes} {bands : List RewardBand} {fuel : Nat}
    (evaluated : evaluationOf env proof seed bands clientSeed fuel = .ok derivation) :
    deriveDailySpin env.crypto fuel seed clientSeed proof.nonce proof.configVersionId
      proof.sessionId bands proof.gameKey proof.protocolVersion proof.algorithm
      proof.mappingVersion = .ok (some derivation) := by
  unfold evaluationOf at evaluated
  split at evaluated
  · cases evaluated
  · cases evaluated
  · cases evaluated
  · next derived =>
      cases evaluated
      exact derived

theorem Disclosure.derives
    (commitment : Commitment env calls db proof gameSession record)
    (disclosed : Disclosure env calls db proof gameSession record clientSeed draw
      derivation now) :
    deriveDailySpin env.crypto draw.fuel record.draw.seed.val clientSeed 0
      gameSession.configVersionId gameSession.id record.bands record.game.key
      protocolVersionV1 algorithmHmacSha256 dailySpinMappingVersionV1 =
        .ok (some derivation) := by
  have derived := evaluationOf_ok disclosed.derived
  have isConfig : record.config.id = gameSession.configVersionId :=
    lookup_key commitment.config
  rw [commitment.columns] at derived
  simpa only [newProof, isConfig] using derived

/-- A proof that names an outcome is revealed. -/
theorem Evidence.disclosed {outcomeId : Uuid}
    (evidence : Evidence env calls db proof gameSession record)
    (bound : proof.outcomeId = some outcomeId) :
    ∃ clientSeed draw derivation now,
      Disclosure env calls db proof gameSession record clientSeed draw derivation now ∧
        draw.outcomeId = outcomeId := by
  cases evidence with
  | committed status whole custody chain =>
      rw [← whole] at bound
      cases bound
  | ended status whole custody chain =>
      rw [← whole] at bound
      cases bound
  | revealed status disclosed custody chain =>
      refine ⟨_, _, _, _, disclosed, ?_⟩
      rw [disclosed.columns] at bound
      exact Option.some.inj bound

/-- The proof of an outcome is the only one. -/
theorem Disclosure.proofByOutcome (consistent : Consistent env calls db)
    (member : proof ∈ db.proofs)
    (commitment : Commitment env calls db proof gameSession record)
    (disclosed : Disclosure env calls db proof gameSession record clientSeed draw
      derivation now) :
    lookup FairnessProof.outcomeId (some draw.outcomeId) db.proofs = some proof := by
  have bound : proof.outcomeId = some draw.outcomeId := by
    rw [disclosed.columns]
    rfl
  rcases lookup_isSome.mpr ⟨proof, member, bound⟩ with ⟨other, found⟩
  rw [found]
  have inDb := lookup_mem found
  rcases consistent.proofs other inDb with ⟨row, record', commitment', _, evidence⟩
  rcases evidence.disclosed (lookup_key found) with
    ⟨_, draw', _, _, disclosed', sameOutcome⟩
  have there := disclosed'.outcome
  rw [sameOutcome, disclosed.outcome] at there
  have sameSession : gameSession.id = row.id :=
    congrArg Outcome.sessionId (Option.some.inj there)
  have isSession : other.sessionId = proof.sessionId := by
    rw [← sessionById_id commitment'.session, ← sameSession,
      sessionById_id commitment.session]
  rw [consistent.keys.proofSessions.eq inDb member isSession]

/-- The public evidence of a revealed proof. -/
theorem asRevealedProof_row {outcomeId : Uuid} {fingerprint : PyStr} {seed : Bytes} :
    ∃ revealed, asRevealedProof (revealedProof proof outcomeId clientSeed fingerprint
        derivation seed now) = .ok revealed ∧
      revealed.proofId = proof.id ∧
      ∀ bands, publicProof revealed bands =
        { protocolVersion := proof.protocolVersion
          algorithm := proof.algorithm
          serverSeedCommitment := proof.serverSeedCommitment
          serverSeedHex := hexOfBytes seed
          clientSeed := clientSeed
          nonce := proof.nonce
          gameKey := proof.gameKey
          configVersionId := proof.configVersionId
          sessionId := proof.sessionId
          rewardBands := bands
          mappingVersion := proof.mappingVersion
          mappingDigest := proof.mappingDigest
          rawDigestHex := derivation.rawDigestHex
          normalizedValue := derivation.normalizedValue
          attempt := derivation.attempt
          rewardKey := derivation.reward.key
          rewardValue := derivation.reward.value } := by
  simp only [asRevealedProof, revealedProof, ne_eq, not_true_eq_false, if_false]
  exact ⟨_, rfl, rfl, fun _ => rfl⟩

/-- A disclosed proof is verified with every number of attempts that reaches the
accepted one. -/
theorem Disclosure.verified (consistent : Consistent env calls db)
    (member : proof ∈ db.proofs)
    (commitment : Commitment env calls db proof gameSession record)
    (disclosed : Disclosure env calls db proof gameSession record clientSeed draw
      derivation now) {committedAt : Int}
    (chain : chainOf proof.id db = [commitEvent env proof committedAt,
      revealedEvent env proof (commitEvent env proof committedAt) now])
    {fuel : Nat} (reaches : derivation.attempt < fuel) :
    Verified env db draw.outcomeId gameSession.playerId fuel := by
  have byOutcome := disclosed.proofByOutcome consistent member commitment
  have derived := disclosed.derives commitment
  have events := eventsOf_two chain (Nat.zero_le _)
  have isConfig : record.config.id = gameSession.configVersionId :=
    lookup_key commitment.config
  have configFound : configById record.config.id db = some record.config := by
    rw [isConfig]
    exact commitment.config
  have sessionFound : sessionById gameSession.id db = some gameSession :=
    sessionById_self commitment.session
  have digest : record.digest = derivation.mappingDigest :=
    Except.ok.inj (commitment.hashed.symm.trans (mappingDigest_of_derived derived))
  have row := disclosed.row commitment
  rcases @asRevealedProof_row (newProof gameSession record.game record.config
      proof.playerId record.draw.proofId (env.crypto.sha256 record.draw.seed.val).hex
      record.digest) clientSeed derivation now draw.outcomeId
      (evaluationFingerprintOf env proof.id clientSeed) record.draw.seed.val with
    ⟨revealed, isRevealed, isId, isPublic⟩
  rw [← row] at isRevealed
  have config : proof.configVersionId = record.config.id := by rw [row]; rfl
  have key : proof.gameKey = record.game.key := by rw [row]; rfl
  have proofId : revealed.proofId = proof.id := by rw [isId, row]; rfl
  have result : verdictOf env fuel (publicProof revealed record.bands) =
      .ok ⟨true, py "verified"⟩ := by
    rw [isPublic]
    simp only [newProof, digest, isConfig, verdictOf]
    rw [verifyDailySpinProof_of_derived derived reaches]
  refine ⟨revealed, record.bands, ?_⟩
  simp only [verifyFairnessProof, retrieveFairnessProof, ownedOutcome,
    getFairnessProofByOutcome, getOutcome, getSession, getConfigById,
    listFairnessProofEvents, bind_assoc, run_read, byOutcome, disclosed.outcome,
    revealedOutcome, orRaise, Program.orRaise, Program.ret_bind, sessionFound,
    require, Program.require, if_pos, isRevealed, Program.ofExcept, config,
    configFound, key, commitment.mapped, byRules, Program.pure_eq, result, proofId,
    events, verifyFairnessEventChain_revealed, not_true_eq_false, if_false,
    Program.run]

end Derivation

/-- Every revealed proof of a run is verified, and its outcome and reward are the
ones that the seed drawn at its commitment derives. -/
theorem provably_fair {env : Platform} {system : ServiceSystem}
    (reachable : ServiceReachable env AnyStep system) :
    ∀ proof ∈ system.db.proofs, proof.status = .revealed →
      ∃ gameSession game config bands commit clientSeed evaluation derivation outcome
        reward,
        Derived env (Discipline.calls system) system.db proof gameSession game config
          bands commit clientSeed evaluation derivation outcome reward ∧
        ∀ fuel, derivation.attempt < fuel →
          Verified env system.db outcome.id gameSession.playerId fuel := by
  have consistent := (service_sound reachable).inv.1
  intro proof member isRevealed
  rcases consistent.proofs proof member with
    ⟨gameSession, record, commitment, _, evidence⟩
  cases evidence with
  | committed status whole custody chain =>
      rw [isRevealed] at status
      cases status
  | ended status whole custody chain =>
      rw [isRevealed] at status
      rcases status with status | status <;> cases status
  | @revealed committedAt now clientSeed draw derivation status disclosed custody
      chain =>
      have row := disclosed.row commitment
      rcases disclosed.reward with ⟨reward, foundReward, value, _⟩
      refine ⟨gameSession, record.game, record.config, record.bands, record.draw,
        clientSeed, draw, derivation,
        revealedOutcome gameSession draw.outcomeId derivation, reward, ?_, ?_⟩
      rotate_left
      · intro fuel reaches
        exact disclosed.verified consistent member commitment chain reaches
      exact
        { ofSession := commitment.session
          ofGame := commitment.game
          ofConfig := commitment.config
          mapped := commitment.mapped
          committed := commitment.owner ▸ commitment.called
          commitment := ⟨by rw [row]; rfl, commitment.seed⟩
          evaluated := commitment.owner ▸ disclosed.called
          accepted := by rw [row]; rfl
          derived := disclosed.derives commitment
          ofOutcome := consistent.keys.outcomeSessions.lookup
            (lookup_mem disclosed.outcome) rfl
          bound := by rw [row]; rfl
          result := rfl
          ofReward := foundReward
          value := value
          rewardKey := by rw [row]; rfl
          rewardValue := by rw [row]; rfl }

/-- A run that reveals a proof. -/
theorem provably_fair_revealed :
    ∃ proof ∈ Sample.revealed.db.proofs, proof.status = .revealed ∧
      ∃ outcomeId ownerId fuel,
        Verified Sample.platform Sample.revealed.db outcomeId ownerId fuel := by
  have revealed : ∃ proof ∈ Sample.revealed.db.proofs, proof.status = .revealed := by
    apply List.mem_map.mp
    rw [Sample.revealed_statuses]
    exact List.mem_singleton_self _
  rcases revealed with ⟨proof, member, isRevealed⟩
  rcases provably_fair Sample.revealed_reachable proof member isRevealed with
    ⟨gameSession, _, _, _, _, _, _, derivation, outcome, _, _, verified⟩
  exact ⟨proof, member, isRevealed, outcome.id, gameSession.playerId,
    derivation.attempt + 1, verified _ (Nat.lt_succ_self _)⟩

end RngGamePlatform
