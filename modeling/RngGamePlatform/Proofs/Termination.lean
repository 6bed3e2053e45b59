/-
Module: RngGamePlatform.Proofs.Termination
Purpose: The judgement of the steps that end a session and its proof.
Trusted boundary: none
Main exports: Sane, Terminated, Runs.saveEnded, Runs.endCommitted, Runs.finalize
-/
import RngGamePlatform.Proofs.Effects
import RngGamePlatform.Proofs.Rules

namespace RngGamePlatform

open Encoding Relational Transactions

/-- The state facts that the judgements of the services rest on. -/
structure Sane (db : Database) : Prop where
  sessionIds : Unique GameSession.id db.sessions
  proofIds : Unique FairnessProof.id db.proofs
  proofSessions : Unique FairnessProof.sessionId db.proofs
  rewardIds : Unique Reward.id db.rewards
  activeOnce : ∀ one ∈ db.sessions, ∀ other ∈ db.sessions,
    one.status = .active → other.status = .active →
    one.playerId = other.playerId → one.gameId = other.gameId → one = other
  committedActive : ∀ proof ∈ db.proofs, proof.status = .committed →
    ∃ gameSession, sessionById proof.sessionId db = some gameSession ∧
      gameSession.status = .active
  proofOwner : ∀ proof ∈ db.proofs, ∀ gameSession,
    sessionById proof.sessionId db = some gameSession →
    gameSession.playerId = proof.playerId
  outcomeCompleted : ∀ {id : Uuid} {gameSession : GameSession} {outcome : Outcome},
    sessionById id db = some gameSession → outcomeBySession id db = some outcome →
    gameSession.status = .completed

/-- The failures that a request of this duty may meet in the database. -/
structure Duty.Tolerant (duty : Duty) : Prop where
  integrity : ∀ {violated : Constraint},
    violated ≠ .fairnessProofsFinalizedImmutable →
    violated ≠ .uqActiveSessionPlayerGame → duty.fails (.integrity violated)

theorem sessionById_id {id : Uuid} {db : Database} {row : GameSession}
    (found : sessionById id db = some row) : row.id = id := lookup_key found

theorem sessionById_mem {id : Uuid} {db : Database} {row : GameSession}
    (found : sessionById id db = some row) : row ∈ db.sessions := lookup_mem found

/-- The row that a session object was read from. -/
theorem Sane.session_eq {db : Database} (sane : Sane db) {id : Uuid}
    {row old : GameSession} (found : sessionById id db = some row)
    (member : old ∈ db.sessions) (same : old.id = id) : old = row :=
  sane.sessionIds.eq member (sessionById_mem found)
    (same.trans (sessionById_id found).symm)

theorem Sane.proof_eq {db : Database} (sane : Sane db) {proof old : FairnessProof}
    (here : proof ∈ db.proofs) (member : old ∈ db.proofs)
    (same : old.id = proof.id) : old = proof :=
  sane.proofIds.eq member here same

theorem EndStatus.session_ne {status : SessionStatus}
    {proofStatus : FairnessProofStatus} (kind : EndStatus status proofStatus) :
    status ≠ .active := by
  cases kind <;> decide

theorem EndStatus.not_completed {status : SessionStatus}
    {proofStatus : FairnessProofStatus} (kind : EndStatus status proofStatus) :
    status ≠ .completed := by
  cases kind <;> decide

theorem EndStatus.proof_ne {status : SessionStatus}
    {proofStatus : FairnessProofStatus} (kind : EndStatus status proofStatus) :
    proofStatus ≠ .committed ∧ proofStatus ≠ .revealed := by
  cases kind <;> decide

@[simp] theorem endedAs_id (row : GameSession) (status : SessionStatus) (now : Int) :
    (endedAs row status now).id = row.id := rfl

@[simp] theorem endedAs_status (row : GameSession) (status : SessionStatus)
    (now : Int) : (endedAs row status now).status = status := rfl

theorem endedAs_sameRound (row : GameSession) (status : SessionStatus) (now : Int) :
    SameRound row (endedAs row status now) := rfl

/-- Ending a session passes every check. -/
theorem updateSession_endedAs {row : GameSession} {status : SessionStatus}
    {now : Int} (ended : status ≠ .active) (db : Database) :
    Database.updateSession (endedAs row status now) db =
      .ok { db with
        sessions := replace GameSession.id (endedAs row status now) db.sessions } := by
  rw [Database.updateSession_ok]
  refine ⟨⟨fun active => absurd active ended, ?_⟩, rfl⟩
  simp [Database.sessionEnded, endedAs, ended]

/-- A check that fails in the database is tolerated when it is not one of the
two that the services must never meet. -/
theorem tolerated {duty : Duty} (tolerant : duty.Tolerant)
    {checks : List (Constraint × Bool)} {changed : Database} {error : ServiceError}
    (fails : Database.checked checks changed = .error error)
    (trigger : (.fairnessProofsFinalizedImmutable, false) ∉ checks)
    (active : (.uqActiveSessionPlayerGame, false) ∉ checks) : duty.fails error := by
  rcases Database.checked_eq_error fails with ⟨violated, member, rfl⟩
  refine tolerant.integrity ?_ ?_
  · rintro rfl
    exact trigger member
  · rintro rfl
    exact active member

theorem insertEvent_tolerated {duty : Duty} (tolerant : duty.Tolerant)
    {row : FairnessProofEvent} {db : Database} {error : ServiceError}
    (fails : Database.insertEvent row db = .error error) : duty.fails error :=
  tolerated tolerant fails (by simp) (by simp)

/-- A row that passes its checks has the evidence of its lifecycle state. -/
theorem proofChecks_evidence {row : FairnessProof}
    (checks : ∀ check ∈ Database.proofChecks row, check.2 = true) :
    row.LifecycleEvidence := by
  simp only [Database.proofChecks, List.forall_mem_cons, decide_eq_true_eq] at checks
  exact checks.2.2.1

/-- An ended proof names no outcome. -/
theorem unrevealed_outcome {proof : FairnessProof} {status : SessionStatus}
    {proofStatus : FairnessProofStatus} (kind : EndStatus status proofStatus)
    (checks : ∀ check ∈ Database.proofChecks (proof.withStatus proofStatus),
      check.2 = true) : proof.outcomeId = none := by
  have lifecycle := proofChecks_evidence checks
  have unrevealed : (proof.withStatus proofStatus).status ≠ .revealed :=
    kind.proof_ne.2
  unfold FairnessProof.LifecycleEvidence at lifecycle
  rw [if_neg unrevealed] at lifecycle
  exact lifecycle.1

/-- A locked proof is the only row with its id, also on the committed states
that the others may leave. -/
theorem Others.proof_eq {held : List Lock} {db db' : Database}
    {proof old : FairnessProof} (others : Others held db db') (sane : Sane db)
    (here : proof ∈ db.proofs) (mine : forUpdate (.proof proof.id) ∈ held)
    (member : old ∈ db'.proofs) (same : old.id = proof.id) : old = proof := by
  rcases others with ⟨held', apart, moves⟩
  have free := not_mem_of_compatible apart mine .forUpdate
  rcases moves.proofs.source member with ⟨before, inDb, step⟩ | fresh
  · have isProof : before = proof :=
      sane.proof_eq here inDb (step.same.1.symm.trans same)
    subst isProof
    rcases step with stays | ⟨_, locked, _⟩
    · exact stays.symm
    · exact absurd locked free
  · exact absurd (same ▸ fresh.2.1) free

/-- The proof of a session after a change of its status. -/
theorem lookup_withStatus {proofs : List FairnessProof} {proof : FairnessProof}
    {status : FairnessProofStatus}
    (bound : lookup FairnessProof.sessionId proof.sessionId proofs = some proof)
    (only : ∀ old ∈ proofs, old.id = proof.id → old = proof) :
    lookup FairnessProof.sessionId proof.sessionId
      (replace FairnessProof.id (proof.withStatus status) proofs) =
        some (proof.withStatus status) := by
  have bound' : lookup FairnessProof.sessionId (proof.withStatus status).sessionId
      proofs = some proof := bound
  refine lookup_replace bound' rfl fun old member same => ?_
  rw [only old member same]
  rfl

theorem proofChecks_plain (row : FairnessProof) :
    (.fairnessProofsFinalizedImmutable, false) ∉ Database.proofChecks row ∧
      (.uqActiveSessionPlayerGame, false) ∉ Database.proofChecks row := by
  constructor <;> simp [Database.proofChecks]

/-- Updating a committed proof to another status never meets the lifecycle
trigger. -/
theorem updateProof_tolerated {duty : Duty} (tolerant : duty.Tolerant)
    {row old : FairnessProof} {db : Database} {error : ServiceError}
    (found : lookup FairnessProof.id row.id db.proofs = some old)
    (committed : old.status = .committed) (ended : row.status ≠ .committed)
    (fails : Database.updateProof row db = .error error) : duty.fails error := by
  have accepts : Database.protectFinalizedFairnessProof old row = true := by
    have kinds : row.status = .revealed ∨ row.status = .expired ∨
        row.status = .cancelled := by
      cases status : row.status <;> simp_all
    simp [Database.protectFinalizedFairnessProof, committed, kinds]
  refine tolerated tolerant fails ?_ ?_
  · simp [found, accepts, proofChecks_plain row]
  · simp [proofChecks_plain row]

/-- What a transaction that has ended a session sees on every committed state
that the others may leave. -/
structure EndView (ended : GameSession) (base view : Database) : Prop where
  players : view.players = base.players
  games : view.games = base.games
  configs : view.configs = base.configs
  sessions : view.sessions = replace GameSession.id ended base.sessions
  outcomes : view.outcomes = base.outcomes
  rewards : view.rewards = base.rewards
  scores : view.scores = base.scores
  analytics : view.analytics = base.analytics

/-- The transaction has ended the session `gameSession` and nothing else. -/
structure Terminated (env : Platform) (gameSession : GameSession)
    (status : SessionStatus) (now : Int) (db : Database)
    (changes : Database → Database) (held : List Lock) : Prop where
  effect : ∀ call, Effect env call db (changes db)
  moves : ∀ {more}, held ⊆ more → Moves more db (changes db)
  view : ∀ db', Others held db db' →
    EndView (endedAs gameSession status now) db' (changes db') ∧
      proofBySession gameSession.id (changes db') =
        proofBySession gameSession.id (changes db)

namespace Runs

variable {ρ : Type} {env : Platform} {duty : Duty}
  {good : ρ → Phase Database Lock → Prop} {db : Database} {held : List Lock}
  {gameSession : GameSession} {status : SessionStatus}
  {proofStatus : FairnessProofStatus} {now : Int}

private theorem endStep (sane : Sane db)
    (found : sessionById gameSession.id db = some gameSession)
    (active : gameSession.status = .active) (ended : status ≠ .active)
    (mine : forUpdate (.session gameSession.id) ∈ held) :
    ∀ old ∈ db.sessions, old.id = (endedAs gameSession status now).id →
      SessionStep held old (endedAs gameSession status now) := by
  intro old member same
  have isRow := sane.session_eq found member same
  subst isRow
  exact Or.inr ⟨mine, active, ended, endedAs_sameRound _ _ _⟩

/-- Writing an ended session that has no committed proof. -/
theorem saveEnded {f : Unit → Prog ρ} (sane : Sane db)
    (kind : EndStatus status proofStatus)
    (found : sessionById gameSession.id db = some gameSession)
    (active : gameSession.status = .active)
    (noneCommitted : ∀ proof, proofBySession gameSession.id db = some proof →
      proof.status ≠ .committed)
    (mine : forUpdate (.session gameSession.id) ∈ held)
    (rest : ∀ changes held', held ⊆ held' →
      Terminated env gameSession status now db changes held' →
      Runs duty good (f ()) db changes held') :
    Runs duty good (saveSession (endedAs gameSession status now) >>= f) db id
      held := by
  refine Runs.update ?_ ?_
  · intro error fails
    rw [id, updateSession_endedAs kind.session_ne] at fails
    cases fails
  · intro state _
    refine ⟨fun db' _ => ⟨_, updateSession_endedAs kind.session_ne _⟩, ?_⟩
    refine rest _ _ (List.subset_append_right _ _) ⟨?_, ?_, ?_⟩
    · intro call
      rw [applied_ok (updateSession_endedAs kind.session_ne _)]
      exact .endAlone kind found active noneCommitted
        (updateSession_endedAs kind.session_ne _)
    · intro more subset
      rw [applied_ok (updateSession_endedAs kind.session_ne _)]
      exact Moves.updateSession (updateSession_endedAs kind.session_ne _)
        (endStep sane found active kind.session_ne
          (subset (List.mem_append_right _ mine)))
    · intro db' others
      rw [applied_ok (updateSession_endedAs kind.session_ne _),
        applied_ok (updateSession_endedAs kind.session_ne _)]
      exact ⟨⟨rfl, rfl, rfl, rfl, rfl, rfl, rfl, rfl⟩,
        others.proofBySession (List.mem_append_right _ mine)⟩

/-- A termination flush, taken apart. -/
theorem flushTermination_ok {ended : GameSession} {proof : FairnessProof}
    {event : FairnessProofEvent} {db db' : Database} :
    flushTermination ended proof event db = .ok db' ↔
      ∃ first second, Database.updateSession ended db = .ok first ∧
        Database.updateProof proof first = .ok second ∧
        Database.insertEvent event (Database.deleteCustody proof.id second) =
          .ok db' := by
  simp only [flushTermination, bind_eq_ok]
  constructor
  · rintro ⟨first, updated, second, changed, inserted⟩
    exact ⟨first, second, updated, changed, inserted⟩
  · rintro ⟨first, second, updated, changed, inserted⟩
    exact ⟨first, updated, second, changed, inserted⟩

/-- What a successful termination flush leaves. -/
theorem flushTermination_result {ended : GameSession} {proof : FairnessProof}
    {event : FairnessProofEvent} {db db' : Database}
    (succeeds : flushTermination ended proof event db = .ok db') :
    db' = { db with
      sessions := replace GameSession.id ended db.sessions
      proofs := replace FairnessProof.id proof db.proofs
      custodies := remove FairnessSeedCustody.proofId proof.id db.custodies
      events := db.events ++ [event] } := by
  rcases flushTermination_ok.mp succeeds with ⟨first, second, updated, changed, inserted⟩
  rcases Database.updateSession_ok.mp updated with ⟨_, rfl⟩
  rcases Database.updateProof_ok.mp changed with ⟨_, rfl⟩
  rcases Database.insertEvent_ok.mp inserted with ⟨_, rfl⟩
  rfl

/-- A termination flush that succeeds does so on every committed state that the
others may leave. -/
private theorem flushTermination_stable {proof : FairnessProof}
    {event : FairnessProofEvent} {db db' state : Database}
    (kind : EndStatus status proofStatus) (isEvent : event.proofId = proof.id)
    (mine : forUpdate (.proof proof.id) ∈ held) (others : Others held db db')
    (succeeds : flushTermination (endedAs gameSession status now)
      (proof.withStatus proofStatus) event db = .ok state) :
    ∃ state', flushTermination (endedAs gameSession status now)
      (proof.withStatus proofStatus) event db' = .ok state' := by
  rcases flushTermination_ok.mp succeeds with ⟨first, second, updated, changed, inserted⟩
  rcases Database.updateSession_ok.mp updated with ⟨_, rfl⟩
  rcases Database.updateProof_ok.mp changed with ⟨⟨trigger, _, checks⟩, rfl⟩
  rcases Database.insertEvent_ok.mp inserted with ⟨⟨sequence, hashes⟩, _⟩
  have evidence := unrevealed_outcome kind checks
  refine ⟨_, flushTermination_ok.mpr
    ⟨_, _, updateSession_endedAs kind.session_ne _,
      Database.updateProof_ok.mpr ⟨⟨?_, ?_, checks⟩, rfl⟩,
      Database.insertEvent_ok.mpr ⟨⟨?_, hashes⟩, rfl⟩⟩⟩
  · intro old foundOld
    exact trigger old ((others.proofById mine).symm.trans foundOld)
  · intro outcome isSome
    exact absurd (evidence.symm.trans isSome) nofun
  · intro other member ofProof
    have inFilter : other ∈ db'.events.filter fun row => row.proofId = proof.id :=
      List.mem_filter.mpr ⟨member, by simpa [isEvent] using ofProof⟩
    rw [others.events mine] at inFilter
    exact sequence other (List.mem_filter.mp inFilter).1 ofProof

private theorem flushTermination_tolerated (tolerant : duty.Tolerant)
    {proof : FairnessProof} {event : FairnessProofEvent} {error : ServiceError}
    (sane : Sane db) (kind : EndStatus status proofStatus)
    (here : proof ∈ db.proofs) (committed : proof.status = .committed)
    (fails : flushTermination (endedAs gameSession status now)
      (proof.withStatus proofStatus) event db = .error error) :
    duty.fails error := by
  rcases bind_eq_error.mp fails with violated | ⟨first, updated, rest⟩
  · rw [updateSession_endedAs kind.session_ne] at violated
    cases violated
  · rcases Database.updateSession_ok.mp updated with ⟨_, rfl⟩
    rcases bind_eq_error.mp rest with violated | ⟨second, _, inserted⟩
    · have isOld : lookup FairnessProof.id (proof.withStatus proofStatus).id
          db.proofs = some proof := sane.proofIds.lookup here rfl
      refine updateProof_tolerated tolerant ?_ committed kind.proof_ne.1 violated
      exact isOld
    · exact insertEvent_tolerated tolerant inserted

/-- Ending a session and its locked proof. -/
theorem endCommitted {proof : FairnessProof} {f : Bool → Prog ρ}
    (tolerant : duty.Tolerant) (sane : Sane db)
    (kind : EndStatus status proofStatus)
    (found : sessionById gameSession.id db = some gameSession)
    (active : gameSession.status = .active)
    (bound : proofBySession gameSession.id db = some proof)
    (mine : forUpdate (.session gameSession.id) ∈ held)
    (proofMine : forUpdate (.proof proof.id) ∈ held)
    (spent : proof.status ≠ .committed → Runs duty good (f false) db id held)
    (rest : proof.status = .committed → ∀ changes held', held ⊆ held' →
      Terminated env gameSession status now db changes held' →
      Runs duty good (f true) db changes held') :
    Runs duty good
      (endCommittedFairnessProof env.crypto (endedAs gameSession status now) proof
        proofStatus now >>= f) db id held := by
  unfold endCommittedFairnessProof
  by_cases committed : proof.status = .committed
  case neg =>
    rw [if_pos committed]
    exact spent committed
  rw [if_neg (not_not_intro committed)]
  have kindOk : ¬(proofStatus ≠ .expired ∧ proofStatus ≠ .cancelled) := by
    cases kind <;> simp
  rw [if_neg kindOk]
  simp only [bind_assoc]
  refine Runs.lockRow nofun fun previous latest => ⟨?_, ?_⟩
  · intro db' others
    simp only [id, latestEvent] at latest ⊢
    rw [others.eventsOf (List.mem_cons_of_mem _ proofMine), latest]
  refine Runs.read ?_ ?_
  · intro db' others
    exact others.custodyByProof (List.mem_cons_of_mem _ proofMine)
  have here := lookup_mem bound
  refine Runs.update ?_ ?_
  · intro error fails
    exact flushTermination_tolerated tolerant sane kind here committed fails
  · intro state succeeds
    refine ⟨fun db' others => flushTermination_stable kind rfl
      (List.mem_append_right _ (List.mem_cons_of_mem _ proofMine)) others
      succeeds, ?_⟩
    refine rest committed _ _
      (fun lock member =>
        List.mem_append_right _ (List.mem_cons_of_mem _ member)) ⟨?_, ?_, ?_⟩
    · intro call
      rw [applied_ok succeeds]
      exact .endWithProof kind found active bound committed latest succeeds
    · intro more subset
      have mineMore := subset
        (List.mem_append_right _ (List.mem_cons_of_mem _ mine))
      have proofMore := subset
        (List.mem_append_right _ (List.mem_cons_of_mem _ proofMine))
      rw [applied_ok succeeds]
      rcases flushTermination_ok.mp succeeds with
        ⟨first, second, updated, changed, inserted⟩
      refine ((Moves.updateSession updated
        (endStep sane found active kind.session_ne mineMore)).trans
          (Moves.updateProof changed ?_)).trans
          ((Moves.deleteCustody proofMore).trans
            (Moves.insertEvent inserted proofMore))
      rcases Database.updateSession_ok.mp updated with ⟨_, rfl⟩
      rcases Database.updateProof_ok.mp changed with ⟨⟨_, _, checks⟩, _⟩
      intro old member same
      have isProof := sane.proof_eq here member same
      subst isProof
      have isSession : old.sessionId = gameSession.id := lookup_key bound
      refine Or.inr ⟨isSession ▸ mineMore, proofMore, committed, kind.proof_ne.1,
        ⟨rfl, rfl, rfl⟩, fun outcome isSome => ?_⟩
      exact absurd ((unrevealed_outcome kind checks).symm.trans isSome) nofun
    · intro db' others
      rcases flushTermination_stable kind rfl
        (List.mem_append_right _ (List.mem_cons_of_mem _ proofMine)) others
        succeeds with ⟨state', succeeds'⟩
      rw [id] at succeeds
      simp only [id_eq]
      rw [applied_ok succeeds, applied_ok succeeds',
        flushTermination_result succeeds, flushTermination_result succeeds']
      refine ⟨⟨rfl, rfl, rfl, rfl, rfl, rfl, rfl, rfl⟩, ?_⟩
      have isSession : proof.sessionId = gameSession.id := lookup_key bound
      have bound' : proofBySession gameSession.id db' = some proof :=
        (others.proofBySession
          (List.mem_append_right _ (List.mem_cons_of_mem _ mine))).trans bound
      rw [proofBySession, proofBySession, ← isSession]
      rw [proofBySession, ← isSession] at bound bound'
      rw [lookup_withStatus bound' fun old member same =>
          others.proof_eq sane here
            (List.mem_append_right _ (List.mem_cons_of_mem _ proofMine)) member same,
        lookup_withStatus bound fun old member same =>
          sane.proof_eq here member same]

/-- The proof of a session under the session's lock, locked in turn. -/
theorem lockProof {f : Option FairnessProof → Prog ρ} {sessionId : Uuid}
    (mine : forUpdate (.session sessionId) ∈ held)
    (rest : ∀ proof held', held ⊆ held' → proofBySession sessionId db = proof →
      (∀ row, proof = some row → forUpdate (.proof row.id) ∈ held') →
      Runs duty good (f proof) db id held') :
    Runs duty good (lockFairnessProofBySession sessionId >>= f) db id held := by
  refine Runs.lock (fun db' others =>
    others.proofBySession (List.mem_append_right _ mine)) ?_
  refine rest _ _ (List.subset_append_right _ _) rfl fun row same => ?_
  refine List.mem_append_left _ (List.mem_map.mpr ⟨row, ?_, rfl⟩)
  rw [same]
  exact List.mem_singleton_self row

/-- The proof that a caller has locked already, or else locks now. -/
theorem lockedProof {f : Option FairnessProof → Prog ρ}
    {lockedProof : Option FairnessProof}
    (mine : forUpdate (.session gameSession.id) ∈ held)
    (isLocked : ∀ proof, lockedProof = some proof →
      proofBySession gameSession.id db = some proof ∧
        forUpdate (.proof proof.id) ∈ held)
    (rest : ∀ proof held', held ⊆ held' →
      proofBySession gameSession.id db = proof →
      (∀ row, proof = some row → forUpdate (.proof row.id) ∈ held') →
      Runs duty good (f proof) db id held') :
    Runs duty good (lockedProofOr lockedProof gameSession.id >>= f) db id held := by
  cases lockedProof with
  | some proof =>
      rcases isLocked proof rfl with ⟨bound, proofMine⟩
      exact rest (some proof) held (List.Subset.refl _) bound
        fun row same => by cases same; exact proofMine
  | none => exact Runs.lockProof mine rest

/-- Finalizing a locked session: nothing happens before its deadline, and after
it the session ends with its proof. -/
theorem finalize {f : Bool × GameSession → Prog ρ}
    {lockedProof : Option FairnessProof} (tolerant : duty.Tolerant)
    (sane : Sane db) (found : sessionById gameSession.id db = some gameSession)
    (mine : forUpdate (.session gameSession.id) ∈ held)
    (isLocked : ∀ proof, lockedProof = some proof →
      proofBySession gameSession.id db = some proof ∧
        forUpdate (.proof proof.id) ∈ held)
    (idle : ∀ held', held ⊆ held' →
      (gameSession.status = .active → now < gameSession.expiresAt) →
      Runs duty good (f (false, gameSession)) db id held')
    (ended : gameSession.status = .active → gameSession.expiresAt ≤ now →
      ∀ changes held', held ⊆ held' →
      Terminated env gameSession .expired now db changes held' →
      Runs duty good (f (true, endedAs gameSession .expired now)) db changes held') :
    Runs duty good
      (finalizeExpiredSession env.crypto gameSession now lockedProof >>= f) db id
      held := by
  unfold finalizeExpiredSession expireIfDue
  by_cases active : gameSession.status = .active
  case neg =>
    simp only [ne_eq, active, not_false_eq_true, true_or, if_true,
      Bool.false_eq_true, true_and]
    by_cases expired : gameSession.status = .expired
    case neg =>
      rw [if_pos expired]
      exact idle held (List.Subset.refl _) fun isActive => absurd isActive active
    rw [if_neg (not_not_intro expired)]
    simp only [bind_assoc]
    refine Runs.lockedProof mine isLocked fun proof held' subset bound proofMine => ?_
    cases proof with
    | none => exact idle held' subset fun isActive => absurd isActive active
    | some proof =>
        have spent : proof.status ≠ .committed := by
          intro committed
          rcases sane.committedActive proof (lookup_mem bound) committed with
            ⟨row, foundRow, isActive⟩
          rw [lookup_key bound, found] at foundRow
          cases foundRow
          exact active isActive
        simp only [endCommittedFairnessProof, ne_eq, spent, not_false_eq_true,
          if_true]
        exact idle held' subset fun isActive => absurd isActive active
  case pos =>
    by_cases due : now < gameSession.expiresAt
    case pos =>
      have notExpired : gameSession.status ≠ .expired := by
        rw [active]
        decide
      simp only [due, or_true, if_true, Bool.false_eq_true, not_false_eq_true,
        notExpired, ne_eq, and_self]
      exact idle held (List.Subset.refl _) fun _ => due
    case neg =>
      have isDue : gameSession.expiresAt ≤ now := Int.not_lt.mp due
      simp only [ne_eq, active, not_true_eq_false, due, or_self, if_false,
        false_and, bind_assoc]
      refine Runs.lockedProof mine isLocked
        fun proof held' subset bound proofMine => ?_
      cases proof with
      | none =>
          show Runs duty good (saveSession (endedAs gameSession .expired now) >>=
            fun _ => f (true, endedAs gameSession .expired now)) db id held'
          exact Runs.saveEnded sane .expired found active
            (fun row isRow => absurd (bound.symm.trans isRow) nofun)
            (subset mine) fun changes held'' subset' terminated =>
              ended active isDue changes held''
                (fun lock member => subset' (subset member)) terminated
      | some proof =>
          simp only [bind_assoc]
          refine Runs.endCommitted tolerant sane .expired found active bound
            (subset mine) (proofMine proof rfl) ?_ ?_
          · intro spent
            show Runs duty good (saveSession (endedAs gameSession .expired now) >>=
              fun _ => f (true, endedAs gameSession .expired now)) db id held'
            exact Runs.saveEnded sane .expired found active
              (fun row isRow => by
                cases bound.symm.trans isRow
                exact spent)
              (subset mine) fun changes held'' subset' terminated =>
                ended active isDue changes held''
                  (fun lock member => subset' (subset member)) terminated
          · intro _ changes held'' subset' terminated
            exact ended active isDue changes held''
              (fun lock member => subset' (subset member)) terminated

end Runs

end RngGamePlatform
