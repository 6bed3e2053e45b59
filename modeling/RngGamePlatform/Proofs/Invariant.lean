/-
Module: RngGamePlatform.Proofs.Invariant
Purpose: The invariant of the committed tables: their keys, how sessions,
  outcomes, rewards and scores hang together, and the provenance and evidence of
  every fairness proof.
Trusted boundary: none
Main exports: Keys, Rounds, Commitment, Disclosure, Evidence, ProofSound,
  Consistent, Consistent.sane, Consistent.catalogueOnly
-/
import RngGamePlatform.Proofs.Answers
import RngGamePlatform.Proofs.SessionSpecs

namespace RngGamePlatform

open Encoding Relational Transactions

/-! ### The tables and their references -/

/-- The keys of the tables. -/
structure Keys (db : Database) : Prop where
  sessionIds : Unique GameSession.id db.sessions
  sessionRequests : Unique GameSession.requestId db.sessions
  proofIds : Unique FairnessProof.id db.proofs
  proofSessions : Unique FairnessProof.sessionId db.proofs
  outcomeIds : Unique Outcome.id db.outcomes
  outcomeSessions : Unique Outcome.sessionId db.outcomes
  rewardIds : Unique Reward.id db.rewards
  rewardOutcomes : ∀ one ∈ db.rewards, ∀ other ∈ db.rewards,
    one.outcomeId ≠ none → one.outcomeId = other.outcomeId → one = other
  scoreSessions : Unique FinalScore.sessionId db.scores

/-- How the rows of the rounds refer to each other. -/
structure Rounds (db : Database) : Prop where
  activeOnce : ∀ one ∈ db.sessions, ∀ other ∈ db.sessions,
    one.status = .active → other.status = .active →
    one.playerId = other.playerId → one.gameId = other.gameId → one = other
  eventOf : ∀ event ∈ db.events, ∃ proof, proofById event.proofId db = some proof
  outcomeOf : ∀ outcome ∈ db.outcomes, ∃ gameSession,
    sessionById outcome.sessionId db = some gameSession ∧
      gameSession.status = .completed ∧ gameSession.playerId = outcome.playerId
  completedOf : ∀ gameSession ∈ db.sessions, gameSession.status = .completed →
    ∃ outcome, outcomeBySession gameSession.id db = some outcome
  rewardOf : ∀ outcome ∈ db.outcomes, ∃ reward,
    rewardByOutcome outcome.id db = some reward ∧ reward.playerId = outcome.playerId
  scoreOf : ∀ score ∈ db.scores, ∃ outcome,
    outcomeBySession score.sessionId db = some outcome ∧
      outcome.playerId = score.playerId

/-! ### The provenance of a proof -/

/-- The status of a proof whose session has the given status. -/
def SessionStatus.proofStatus : SessionStatus → FairnessProofStatus
  | .active => .committed
  | .completed => .revealed
  | .expired => .expired
  | .cancelled => .cancelled

theorem SessionStatus.proofStatus_injective {one other : SessionStatus}
    (same : one.proofStatus = other.proofStatus) : one = other := by
  cases one <;> cases other <;> first | rfl | cases same

/-- The columns of a proof that its commitment has written. -/
def commitmentOf (proof : FairnessProof) : FairnessProof :=
  { proof with
    outcomeId := none
    status := .committed
    clientSeed := none
    evaluationFingerprint := none
    rawRandomValue := none
    normalizedValue := none
    derivationAttempt := none
    rewardKey := none
    rewardValue := none
    evaluatedAt := none
    serverSeedRevealed := none
    revealedAt := none }

variable (env : Platform)

/-- What a commitment was made of. -/
structure CommitRecord where
  draw : CommitDraw
  game : Game
  config : GameConfigVersion
  bands : List RewardBand
  digest : PyStr

/-- The proof was committed by one of the calls, from the catalogue rows of the
record and with its drawn seed. -/
structure Commitment (calls : List Call) (db : Database) (proof : FairnessProof)
    (gameSession : GameSession) (record : CommitRecord) : Prop where
  called : .commitFairness gameSession.id proof.playerId record.draw ∈ calls
  session : sessionById proof.sessionId db = some gameSession
  owner : gameSession.playerId = proof.playerId
  game : gameById gameSession.gameId db = some record.game
  config : configById gameSession.configVersionId db = some record.config
  belongs : record.config.gameId = record.game.id
  mapped : fairnessBands env record.game.key record.config = .ok record.bands
  hashed : dailySpinMappingDigest env.crypto record.bands = .ok record.digest
  columns : commitmentOf proof = newProof gameSession record.game record.config
    proof.playerId record.draw.proofId
    (env.crypto.sha256 record.draw.seed.val).hex record.digest

/-- The proof was revealed by one of the calls, with the outcome and the reward
that its seed and its client seed derive. -/
structure Disclosure (calls : List Call) (db : Database) (proof : FairnessProof)
    (gameSession : GameSession) (record : CommitRecord) (clientSeed : PyStr)
    (draw : EvaluateDraw) (derivation : DailySpinDerivation) (now : Int) : Prop where
  called : .evaluateFairness proof.id proof.playerId clientSeed draw ∈ calls
  derived : evaluationOf env (commitmentOf proof) record.draw.seed.val record.bands
    clientSeed draw.fuel = .ok derivation
  columns : proof = revealedProof (commitmentOf proof) draw.outcomeId clientSeed
    (evaluationFingerprintOf env proof.id clientSeed) derivation
    record.draw.seed.val now
  outcome : outcomeById draw.outcomeId db =
    some (revealedOutcome gameSession draw.outcomeId derivation)
  reward : ∃ reward, rewardByOutcome draw.outcomeId db = some reward ∧
    reward.value = derivation.reward.value ∧ reward.playerId = proof.playerId

/-- The stored events of a proof, in the order of their insertion. -/
def chainOf (proofId : Uuid) (db : Database) : List FairnessProofEvent :=
  db.events.filter fun row => row.proofId = proofId

/-- The seed and the events that belong to the status of a proof. -/
inductive Evidence (calls : List Call) (db : Database) (proof : FairnessProof)
    (gameSession : GameSession) (record : CommitRecord) : Prop where
  | committed {committedAt : Int} (status : proof.status = .committed)
      (whole : commitmentOf proof = proof)
      (custody : custodyByProof proof.id db =
        some ⟨proof.id, record.draw.seed.val⟩)
      (chain : chainOf proof.id db = [commitEvent env proof committedAt])
  | revealed {committedAt now : Int} {clientSeed : PyStr} {draw : EvaluateDraw}
      {derivation : DailySpinDerivation} (status : proof.status = .revealed)
      (disclosed : Disclosure env calls db proof gameSession record clientSeed draw
        derivation now)
      (custody : custodyByProof proof.id db =
        some ⟨proof.id, record.draw.seed.val⟩)
      (chain : chainOf proof.id db = [commitEvent env proof committedAt,
        revealedEvent env proof (commitEvent env proof committedAt) now])
  | ended {committedAt now : Int}
      (status : proof.status = .expired ∨ proof.status = .cancelled)
      (whole : (commitmentOf proof).withStatus proof.status = proof)
      (custody : custodyByProof proof.id db = none)
      (chain : chainOf proof.id db = [commitEvent env proof committedAt,
        terminalEvent env.crypto proof (commitEvent env proof committedAt) now])

/-- Everything that holds of one proof. -/
def ProofSound (calls : List Call) (db : Database) (proof : FairnessProof) : Prop :=
  ∃ gameSession record,
    Commitment env calls db proof gameSession record ∧
      proof.status = gameSession.status.proofStatus ∧
      Evidence env calls db proof gameSession record

/-- The session was created by one of the calls, for a registered game. -/
def CreatedBy (calls : List Call) (row : GameSession) : Prop :=
  ∃ ownerId gameKey draw rules,
    .createSession row.requestId row.playerId ownerId gameKey draw ∈ calls ∧
      rulesFor gameKey = .ok rules ∧
      row.requestFingerprint = createSessionFingerprint env row.playerId gameKey

/-- The invariant of the committed tables, after the given calls. -/
structure Consistent (calls : List Call) (db : Database) : Prop where
  keys : Keys db
  rounds : Rounds db
  created : ∀ row ∈ db.sessions, CreatedBy env calls row
  proofs : ∀ proof ∈ db.proofs, ProofSound env calls db proof

section Consequences

variable {env} {calls : List Call} {db : Database}

theorem commitmentOf_withStatus (proof : FairnessProof)
    (status : FairnessProofStatus) :
    commitmentOf (proof.withStatus status) = commitmentOf proof := rfl

theorem ProofSound.grows {calls more : List Call} {proof : FairnessProof}
    (subset : calls ⊆ more) (sound : ProofSound env calls db proof) :
    ProofSound env more db proof := by
  rcases sound with ⟨gameSession, record, commitment, coupled, evidence⟩
  refine ⟨gameSession, record, { commitment with called := subset commitment.called },
    coupled, ?_⟩
  cases evidence with
  | committed status whole custody chain => exact .committed status whole custody chain
  | ended status whole custody chain => exact .ended status whole custody chain
  | revealed status disclosed custody chain =>
      exact .revealed status { disclosed with called := subset disclosed.called }
        custody chain

theorem CreatedBy.grows {calls more : List Call} {row : GameSession}
    (subset : calls ⊆ more) (created : CreatedBy env calls row) :
    CreatedBy env more row := by
  rcases created with ⟨ownerId, gameKey, draw, rules, called, rest⟩
  exact ⟨ownerId, gameKey, draw, rules, subset called, rest⟩

theorem CreatedBy.sameRound {old new : GameSession} (same : SameRound old new)
    (created : CreatedBy env calls old) : CreatedBy env calls new := by
  rw [same]
  exact created

/-- A committed proof has an active session. -/
theorem ProofSound.active {proof : FairnessProof}
    (sound : ProofSound env calls db proof) (committed : proof.status = .committed) :
    ∃ gameSession, sessionById proof.sessionId db = some gameSession ∧
      gameSession.status = .active := by
  rcases sound with ⟨gameSession, record, commitment, coupled, _⟩
  refine ⟨gameSession, commitment.session, ?_⟩
  exact SessionStatus.proofStatus_injective (coupled.symm.trans committed)

/-- What the judgements of the services rest on. -/
theorem Consistent.sane (consistent : Consistent env calls db) : Sane db where
  sessionIds := consistent.keys.sessionIds
  proofIds := consistent.keys.proofIds
  proofSessions := consistent.keys.proofSessions
  rewardIds := consistent.keys.rewardIds
  activeOnce := consistent.rounds.activeOnce
  committedActive := fun proof member committed =>
    (consistent.proofs proof member).active committed
  proofOwner := fun proof member gameSession found => by
    rcases consistent.proofs proof member with ⟨_, _, commitment, _⟩
    cases commitment.session.symm.trans found
    exact commitment.owner
  outcomeCompleted := fun {id gameSession outcome} found foundOutcome => by
    rcases consistent.rounds.outcomeOf outcome (lookup_mem foundOutcome) with
      ⟨row, foundRow, isCompleted, _⟩
    have ofSession : outcome.sessionId = id := lookup_key foundOutcome
    rw [ofSession, found] at foundRow
    cases foundRow
    exact isCompleted

theorem Consistent.grows {more : List Call} (subset : calls ⊆ more)
    (consistent : Consistent env calls db) : Consistent env more db :=
  { consistent with
    created := fun row member => (consistent.created row member).grows subset
    proofs := fun proof member => (consistent.proofs proof member).grows subset }

/-- A catalogue without any play is consistent. -/
theorem Consistent.catalogueOnly (empty : CatalogueOnly db) :
    Consistent env calls db where
  keys := by
    constructor <;> simp [Relational.Unique, empty.sessions, empty.proofs,
      empty.outcomes, empty.rewards, empty.scores]
  rounds := by
    constructor <;> simp [empty.sessions, empty.events, empty.outcomes, empty.scores]
  created := by simp [empty.sessions]
  proofs := by simp [empty.proofs]

end Consequences

end RngGamePlatform
