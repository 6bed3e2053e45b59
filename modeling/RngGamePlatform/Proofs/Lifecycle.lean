/-
Module: RngGamePlatform.Proofs.Lifecycle
Purpose: The lifecycles of sessions and of their fairness proofs stay coupled in
  every run of the services.
Trusted boundary: none
Main exports: LifecycleChain, Coupled, Coupled.of_sound, Ended,
  lifecycles_coupled
-/
import RngGamePlatform.Proofs.ServiceDiscipline

namespace RngGamePlatform

open Encoding Relational Transactions

/-- The first event of a proof. -/
structure CommitmentEvent (event : FairnessProofEvent) : Prop where
  sequence : event.sequence = 0
  eventType : event.eventType = py "committed"
  status : event.status = .committed
  unlinked : event.previousEvidenceHash = none

/-- The event that ends a proof, after its first one. -/
structure TerminalEvent (proof : FairnessProof) (first event : FairnessProofEvent) :
    Prop where
  sequence : event.sequence = 1
  eventType : event.eventType = proof.status.value
  status : event.status = proof.status
  linked : event.previousEvidenceHash = some first.evidenceHash

/-- The events that belong to the status of a proof. -/
inductive LifecycleChain (proof : FairnessProof) : List FairnessProofEvent → Prop where
  | committed {first : FairnessProofEvent} (status : proof.status = .committed)
      (isFirst : CommitmentEvent first) : LifecycleChain proof [first]
  | ended {first last : FairnessProofEvent} (status : proof.status ≠ .committed)
      (isFirst : CommitmentEvent first) (isLast : TerminalEvent proof first last) :
      LifecycleChain proof [first, last]

/-- What couples a proof to its session. -/
structure Coupled (env : Platform) (db : Database) (proof : FairnessProof)
    (gameSession : GameSession) : Prop where
  status : proof.status = gameSession.status.proofStatus
  custody : (∃ custody, custodyByProof proof.id db = some custody) ↔
    proof.status = .committed ∨ proof.status = .revealed
  seed : ∀ custody, custodyByProof proof.id db = some custody →
    (env.crypto.sha256 custody.serverSeedMaterial).hex = proof.serverSeedCommitment
  chain : LifecycleChain proof (eventsOf proof.id db)
  evidence : proof.LifecycleEvidence

section Coupling

variable {env : Platform} {calls : List Call} {db : Database} {proof : FairnessProof}
  {gameSession : GameSession} {record : CommitRecord}

theorem commitEvent_isFirst (proof : FairnessProof) (now : Int) :
    CommitmentEvent (commitEvent env proof now) := ⟨rfl, rfl, rfl, rfl⟩

/-- The seed of a commitment is the one that its commitment column hashes. -/
theorem Commitment.seed (commitment : Commitment env calls db proof gameSession record) :
    proof.serverSeedCommitment = (env.crypto.sha256 record.draw.seed.val).hex := by
  have columns := congrArg FairnessProof.serverSeedCommitment commitment.columns
  exact columns

theorem Evidence.custody (evidence : Evidence env calls db proof gameSession record) :
    (∃ custody, custodyByProof proof.id db = some custody) ↔
      proof.status = .committed ∨ proof.status = .revealed := by
  cases evidence with
  | committed status whole custody chain =>
      exact ⟨fun _ => Or.inl status, fun _ => ⟨_, custody⟩⟩
  | revealed status disclosed custody chain =>
      exact ⟨fun _ => Or.inr status, fun _ => ⟨_, custody⟩⟩
  | ended status whole custody chain =>
      constructor
      · rintro ⟨kept, found⟩
        exact absurd (custody.symm.trans found) nofun
      · intro other
        rcases status with status | status <;> rw [status] at other <;>
          rcases other with other | other <;> cases other

/-- What is kept of a proof in custody is the seed that was drawn for it. -/
theorem Evidence.seed (evidence : Evidence env calls db proof gameSession record)
    {custody : FairnessSeedCustody}
    (found : custodyByProof proof.id db = some custody) :
    custody.serverSeedMaterial = record.draw.seed.val := by
  cases evidence with
  | committed status whole kept chain =>
      cases kept.symm.trans found
      rfl
  | revealed status disclosed kept chain =>
      cases kept.symm.trans found
      rfl
  | ended status whole gone chain => exact absurd (gone.symm.trans found) nofun

theorem Evidence.chain (evidence : Evidence env calls db proof gameSession record) :
    LifecycleChain proof (eventsOf proof.id db) := by
  cases evidence with
  | committed status whole custody chain =>
      rw [eventsOf_one chain]
      exact .committed status (commitEvent_isFirst _ _)
  | revealed status disclosed custody chain =>
      rw [eventsOf_two chain (Nat.zero_le _)]
      refine .ended (by rw [status]; nofun) (commitEvent_isFirst _ _)
        ⟨rfl, ?_, ?_, rfl⟩
      · rw [status]
        rfl
      · rw [status]
        rfl
  | ended status whole custody chain =>
      rw [eventsOf_two chain (Nat.zero_le _)]
      refine .ended ?_ (commitEvent_isFirst _ _) ⟨rfl, rfl, rfl, rfl⟩
      rcases status with status | status <;> rw [status] <;> nofun

theorem Evidence.lifecycle
    (evidence : Evidence env calls db proof gameSession record) :
    proof.LifecycleEvidence := by
  unfold FairnessProof.LifecycleEvidence
  cases evidence with
  | committed status whole custody chain =>
      have notRevealed : proof.status ≠ .revealed := by simp [status]
      rw [if_neg notRevealed, ← whole]
      simp [FairnessProof.Unrevealed, commitmentOf]
  | revealed status disclosed custody chain =>
      rw [if_pos status, disclosed.columns]
      simp [FairnessProof.FullyRevealed, revealedProof]
  | ended status whole custody chain =>
      have notRevealed : proof.status ≠ .revealed := by
        rcases status with status | status <;> simp [status]
      rw [if_neg notRevealed, ← whole]
      simp [FairnessProof.Unrevealed, commitmentOf, FairnessProof.withStatus]

/-- A proof of a consistent database is coupled to its session. -/
theorem Coupled.of_sound (sound : ProofSound env calls db proof)
    (found : sessionById proof.sessionId db = some gameSession) :
    Coupled env db proof gameSession := by
  rcases sound with ⟨row, record, commitment, coupled, evidence⟩
  cases commitment.session.symm.trans found
  exact
    { status := coupled
      custody := evidence.custody
      seed := fun custody kept => by
        rw [evidence.seed kept, commitment.seed]
      chain := evidence.chain
      evidence := evidence.lifecycle }

end Coupling

/-- Proofs and sessions that have ended in `db` are the same in `db'`. -/
structure Ended (db db' : Database) : Prop where
  proofs : ∀ id proof, proofById id db = some proof → proof.status ≠ .committed →
    proofById id db' = some proof
  sessions : ∀ id gameSession, sessionById id db = some gameSession →
    gameSession.status ≠ .active → sessionById id db' = some gameSession

namespace Ended

variable {db db' later : Database}

theorem refl (db : Database) : Ended db db :=
  ⟨fun _ _ found _ => found, fun _ _ found _ => found⟩

theorem trans (first : Ended db db') (second : Ended db' later) : Ended db later :=
  ⟨fun id proof found ended =>
      second.proofs id proof (first.proofs id proof found ended) ended,
    fun id gameSession found ended =>
      second.sessions id gameSession (first.sessions id gameSession found ended) ended⟩

/-- No commit changes what has ended. -/
theorem of_moves {held : List Lock} (moves : Moves held db db') : Ended db db' where
  proofs := fun _ _ found ended => moves.proofById_ended found ended
  sessions := fun id gameSession found ended => by
    rcases moves.session_some found with ⟨row, found', step⟩
    rw [found', step.ended ended]

end Ended

/-- No request meets the trigger that protects finalized proofs. -/
def NeverProtected (system : ServiceSystem) : Prop :=
  ∀ (index : Nat) (thread : ServiceThread), system.threads[index]? = some thread →
    thread.status ≠ .finished (.error (.integrity .fairnessProofsFinalizedImmutable)) ∧
      (thread.status = .running → thread.program ≠
        .raise (.integrity .fairnessProofsFinalizedImmutable))

/-- The lifecycles of the sessions and proofs of a system. -/
structure LifecyclesCoupled (env : Platform) (system : ServiceSystem) : Prop where
  /-- Each proof has one session and is coupled to it. -/
  coupled : ∀ proof ∈ system.db.proofs, ∃ gameSession,
    sessionById proof.sessionId system.db = some gameSession ∧
      Coupled env system.db proof gameSession
  /-- What has ended stays as it is in the rest of the run. -/
  ended : ∀ labels later,
    system.follow Lock.conflicts (body env) labels = some later →
      Ended system.db later.db
  /-- The lifecycle trigger accepts every update. -/
  accepted : NeverProtected system

/-! ### A small platform

A checksum stands for the hash functions, and a payload is the number of one of
three configurations.
-/

namespace Sample

/-- The 32 bytes of a number, big-endian. -/
def digestOf (value : Nat) : Digest :=
  ⟨(List.range 32).map fun position => UInt8.ofNat (value / 256 ^ (31 - position)),
    by simp⟩

/-- A checksum of all bytes. -/
def checksum (bytes : Bytes) : Nat :=
  bytes.foldl (fun value byte => (value * 65599 + byte.toNat + 1) % 2 ^ 256) 1

def crypto : Crypto where
  sha256 := fun bytes => digestOf (checksum bytes)
  hmacSha256 := fun key message => digestOf (checksum (key ++ message))

def dailySpinConfig : DailySpinConfig where
  cooldownSeconds := 60
  rewards :=
    [⟨py "small", 3, 10, by decide, by decide, by decide⟩,
      ⟨py "large", 1, 50, by decide, by decide, by decide⟩]
  cooldown_bounds := by decide
  min_length := by decide

def predictionCardConfig : PredictionCardConfig where
  cooldownSeconds := 0
  choices := [py "left", py "right"]
  correctReward := 20
  cooldown_bounds := by decide
  choices_length := by decide
  reward_nonneg := by decide

def skillCheckConfig : SkillCheckConfig where
  cooldownSeconds := 0
  durationSeconds := 30
  maxScore := 100
  cooldown_bounds := by decide
  duration_bounds := by decide
  score_positive := by decide

def schema : Schema
  | .int 1 => some (.dailySpin dailySpinConfig)
  | .int 2 => some (.predictionCard predictionCardConfig)
  | .int 3 => some (.skillCheck skillCheckConfig)
  | _ => none

def platform : Platform := ⟨crypto, schema⟩

def config (game : Uuid) (payload : Int) : GameConfigVersion :=
  ⟨game + 16, game, 1, .published, .int payload, some 0⟩

/-- One player and the three games. -/
def catalogue : Database where
  players := [⟨1, .active⟩]
  games := [⟨2, py "daily_spin", true⟩, ⟨3, py "prediction_card", true⟩,
    ⟨4, py "skill_check", true⟩]
  configs := [config 2 1, config 3 2, config 4 3]
  sessions := []
  proofs := []
  custodies := []
  events := []
  outcomes := []
  rewards := []
  scores := []
  revisions := []
  tierConfigs := []
  runs := []
  recipients := []
  audits := []
  analytics := []

theorem catalogue_only : CatalogueOnly catalogue := ⟨rfl, rfl, rfl, rfl, rfl, rfl, rfl, rfl⟩

def start : ServiceSystem := ⟨catalogue, []⟩

/-- Thread `index` executes `count` statements, all at instant `now`. -/
def statements (index count : Nat) (now : Int) : List (Label Int Call) :=
  List.replicate count (.advance index now)

/-- Follow labels from the catalogue. -/
def run (labels : List (Label Int Call)) : Option ServiceSystem :=
  start.follow Lock.conflicts (body platform) labels

theorem reachable {labels : List (Label Int Call)} {system : ServiceSystem}
    (isRun : run labels = some system) :
    ServiceReachable platform AnyStep system :=
  Reachable.follow (.start catalogue catalogue_only) isRun

/-- The creation of a daily-spin session. -/
def spin : Call := .createSession 31 1 1 (py "daily_spin") ⟨32, []⟩

def seed : { bytes : Bytes // bytes.length = serverSeedBytes } :=
  ⟨List.replicate 32 7, by simp [serverSeedBytes]⟩

/-- The commitment of its proof. -/
def commitSpin : Call := .commitFairness 32 1 ⟨33, seed⟩

/-- The evaluation of that proof. -/
def evaluateSpin : Call := .evaluateFairness 33 1 (py "lucky") ⟨34, 35, 8⟩

/-- A session is created, its proof is committed and then evaluated. -/
def revealedLabels : List (Label Int Call) :=
  [.start spin] ++ statements 0 13 1000 ++ [.start commitSpin] ++
    statements 1 10 2000 ++ [.start evaluateSpin] ++ statements 2 14 3000

theorem revealed_followed :
    (run revealedLabels).map (fun system => system.db.proofs.map FairnessProof.status) =
      some [.revealed] := by
  decide +kernel

theorem revealed_runs : (run revealedLabels).isSome = true := by
  obtain ⟨system, isRun, -⟩ := Option.map_eq_some_iff.mp revealed_followed
  exact Option.isSome_of_eq_some isRun

@[irreducible] def revealed : ServiceSystem := (run revealedLabels).get revealed_runs

theorem revealed_statuses :
    revealed.db.proofs.map FairnessProof.status = [.revealed] := by
  obtain ⟨system, isRun, statuses⟩ := Option.map_eq_some_iff.mp revealed_followed
  unfold revealed
  rw [Option.get_of_eq_some revealed_runs isRun]
  exact statuses

theorem revealed_reachable : ServiceReachable platform AnyStep revealed := by
  unfold revealed
  exact reachable (Option.some_get revealed_runs).symm

end Sample

/-! ### Every run -/

/-- In every run of the services the lifecycles stay coupled. -/
theorem lifecycles_coupled {env : Platform} {system : ServiceSystem}
    (reachable : ServiceReachable env AnyStep system) :
    LifecyclesCoupled env system := by
  have sound := service_sound reachable
  refine ⟨fun proof member => ?_, fun labels later followed => ?_,
    fun index thread found => ⟨fun ended => ?_, fun running program => ?_⟩⟩
  · have proofSound := sound.inv.1.proofs proof member
    rcases proofSound with ⟨gameSession, record, commitment, rest⟩
    exact ⟨gameSession, commitment.session, .of_sound
      ⟨gameSession, record, commitment, rest⟩ commitment.session⟩
  · exact (sound.follow service_lawful (fun _ _ absurd => absurd.elim) .refl .trans
      (fun guarantee => .of_moves guarantee.moves) followed).2
  · exact (sound.exception found ended).1 rfl
  · exact (sound.raising service_lawful found running program).1 rfl

/-- A run that reveals a proof. -/
theorem lifecycles_coupled_revealed :
    Sample.revealed.db.proofs.map FairnessProof.status = [.revealed] ∧
      LifecyclesCoupled Sample.platform Sample.revealed :=
  ⟨Sample.revealed_statuses, lifecycles_coupled Sample.revealed_reachable⟩

end RngGamePlatform
