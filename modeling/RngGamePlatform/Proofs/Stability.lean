/-
Module: RngGamePlatform.Proofs.Stability
Purpose: A changing statement that succeeds under its locks also succeeds on
  whatever the others leave, and what its failures can be.
Trusted boundary: none
Main exports: insertProof_stable, insertCustody_stable, insertEvent_stable,
  insertOutcome_stable, insertReward_stable, updateProof_stable,
  insertEvidence_stable, insertProof_tolerated, insertEvidence_tolerated
-/
import RngGamePlatform.Proofs.Termination

namespace RngGamePlatform

open Encoding Relational Transactions

section Stability

variable {held : List Lock} {db db' view view' state : Database}

/-- A proof that can be inserted under its locks can be inserted on every
committed state that the others may leave. -/
theorem insertProof_stable {proof : FairnessProof} (others : Others held db db')
    (mine : forUpdate (.session proof.sessionId) ∈ held)
    (proofMine : forUpdate (.proof proof.id) ∈ held)
    (succeeds : Database.insertProof proof db = .ok state) :
    Database.insertProof proof db' =
      .ok { db' with proofs := db'.proofs ++ [proof] } := by
  rcases Database.insertProof_ok.mp succeeds with ⟨⟨newId, newSession, checks⟩, _⟩
  exact Database.insertProof_ok.mpr
    ⟨⟨(others.proofById proofMine).trans newId,
      (others.proofBySession mine).trans newSession, checks⟩, rfl⟩

/-- The seed of a locked proof can be stored whatever the other proofs' seeds have become. -/
theorem insertCustody_stable {custody : FairnessSeedCustody}
    (others : Others held db db')
    (proofMine : forUpdate (.proof custody.proofId) ∈ held)
    (same : view.custodies = db.custodies) (same' : view'.custodies = db'.custodies)
    (succeeds : Database.insertCustody custody view = .ok state) :
    Database.insertCustody custody view' =
      .ok { view' with custodies := view'.custodies ++ [custody] } := by
  rcases Database.insertCustody_ok.mp succeeds with ⟨⟨absent, whole⟩, _⟩
  refine Database.insertCustody_ok.mpr ⟨⟨?_, whole⟩, rfl⟩
  rw [same] at absent
  rw [same']
  exact (others.custodyByProof proofMine).trans absent

/-- The chain of a locked proof has grown by no other request. -/
theorem insertEvent_stable {event : FairnessProofEvent}
    (others : Others held db db')
    (proofMine : forUpdate (.proof event.proofId) ∈ held)
    (same : view.events = db.events) (same' : view'.events = db'.events)
    (succeeds : Database.insertEvent event view = .ok state) :
    Database.insertEvent event view' =
      .ok { view' with events := view'.events ++ [event] } := by
  rcases Database.insertEvent_ok.mp succeeds with ⟨⟨sequence, hashes⟩, _⟩
  refine Database.insertEvent_ok.mpr ⟨⟨fun other member ofProof => ?_, hashes⟩, rfl⟩
  rw [same'] at member
  rw [same] at sequence
  have inFilter : other ∈ db'.events.filter fun row => row.proofId = event.proofId :=
    List.mem_filter.mpr ⟨member, by simpa using ofProof⟩
  rw [others.events proofMine] at inFilter
  exact sequence other (List.mem_filter.mp inFilter).1 ofProof

/-- A new outcome of a locked session clashes with none that others have stored. -/
theorem insertOutcome_stable {outcome : Outcome} (others : Others held db db')
    (mine : forUpdate (.session outcome.sessionId) ∈ held)
    (own : forUpdate (.outcome outcome.id) ∈ held)
    (same : view.outcomes = db.outcomes) (same' : view'.outcomes = db'.outcomes)
    (succeeds : Database.insertOutcome outcome view = .ok state) :
    Database.insertOutcome outcome view' =
      .ok { view' with outcomes := view'.outcomes ++ [outcome] } := by
  rcases Database.insertOutcome_ok.mp succeeds with ⟨⟨newId, newSession⟩, _⟩
  rw [same] at newId newSession
  refine Database.insertOutcome_ok.mpr ⟨⟨?_, ?_⟩, rfl⟩
  · rw [same']
    exact others.outcomeById_none own newId
  · rw [same']
    exact (others.outcomeBySession mine).trans newSession

/-- A new reward of an outcome that the transaction has inserted itself clashes with none. -/
theorem insertReward_stable {reward : Reward} {outcomeId : Uuid}
    (others : Others held db db') (isOutcome : reward.outcomeId = some outcomeId)
    (direct : reward.settlementRecipientId = none)
    (outcomeMine : forUpdate (.outcome outcomeId) ∈ held)
    (own : forUpdate (.reward reward.id) ∈ held)
    (same : view.rewards = db.rewards) (same' : view'.rewards = db'.rewards)
    (succeeds : Database.insertReward reward view = .ok state) :
    Database.insertReward reward view' =
      .ok { view' with rewards := view'.rewards ++ [reward] } := by
  rcases Database.insertReward_ok.mp succeeds with
    ⟨⟨fits, newId, newOutcome, _, nonnegative⟩, _⟩
  rw [same] at newId newOutcome
  refine Database.insertReward_ok.mpr
    ⟨⟨fits, ?_, Or.inr ?_, Or.inl direct, nonnegative⟩, rfl⟩
  · rw [same']
    exact others.rewardById_none own newId
  · have absent : rewardByOutcome outcomeId db = none := by
      rcases newOutcome with isNone | absent
      · exact absurd (isOutcome.symm.trans isNone) nofun
      · rwa [isOutcome] at absent
    rw [same', isOutcome]
    exact others.rewardByOutcome_none outcomeMine absent

/-- The trigger judges a locked proof by the row that the transaction has seen. -/
theorem updateProof_stable {row : FairnessProof} (others : Others held db db')
    (proofMine : forUpdate (.proof row.id) ∈ held)
    (owns : OwnsOutcome held row)
    (same : view.proofs = db.proofs) (same' : view'.proofs = db'.proofs)
    (succeeds : Database.updateProof row view = .ok state) :
    Database.updateProof row view' =
      .ok { view' with proofs := replace FairnessProof.id row view'.proofs } := by
  rcases Database.updateProof_ok.mp succeeds with ⟨⟨trigger, unclaimed, checks⟩, _⟩
  rw [same] at trigger unclaimed
  refine Database.updateProof_ok.mpr ⟨⟨?_, ?_, checks⟩, rfl⟩
  · rw [same']
    intro old found
    exact trigger old ((others.proofById proofMine).symm.trans found)
  · rw [same']
    intro outcome isSome
    exact others.outcomeUnclaimed (owns outcome isSome) (unclaimed outcome isSome)

/-- Evidence whose keys the transaction has locked can still be inserted. -/
theorem insertEvidence_stable {audits : List AuditRecord}
    {events : List AnalyticsEvent} (others : Others held db db')
    (mine : ∀ event ∈ events, forUpdate (.analytics event.eventKey) ∈ held)
    (same : view.analytics = db.analytics) (same' : view'.analytics = db'.analytics)
    (succeeds : insertEvidence audits events view = .ok state) :
    insertEvidence audits events view' =
      .ok { view' with
        audits := view'.audits ++ audits
        analytics := view'.analytics ++ events } := by
  rcases insertEvidence_ok.mp succeeds with ⟨⟨fresh, unique⟩, _⟩
  refine insertEvidence_ok.mpr ⟨⟨fun event member => ?_, unique⟩, rfl⟩
  have absent := fresh event member
  rw [same] at absent
  rw [same']
  exact others.analytics_none (mine event member) absent

end Stability

section Tolerated

variable {duty : Duty} {db : Database} {error : ServiceError}

/-- A proof is refused by a constraint of its columns or keys, which a tolerant duty allows. -/
theorem insertProof_tolerated (tolerant : duty.Tolerant) {row : FairnessProof}
    (fails : Database.insertProof row db = .error error) : duty.fails error :=
  tolerated tolerant fails (by simp [proofChecks_plain row])
    (by simp [proofChecks_plain row])

theorem insertCustody_tolerated (tolerant : duty.Tolerant)
    {row : FairnessSeedCustody}
    (fails : Database.insertCustody row db = .error error) : duty.fails error :=
  tolerated tolerant fails (by simp) (by simp)

theorem insertOutcome_tolerated (tolerant : duty.Tolerant) {row : Outcome}
    (fails : Database.insertOutcome row db = .error error) : duty.fails error :=
  tolerated tolerant fails (by simp) (by simp)

theorem insertReward_tolerated (tolerant : duty.Tolerant) {row : Reward}
    (fails : Database.insertReward row db = .error error) : duty.fails error :=
  tolerated tolerant fails (by simp) (by simp)

theorem insertScore_tolerated (tolerant : duty.Tolerant) {row : FinalScore}
    (fails : Database.insertScore row db = .error error) : duty.fails error :=
  tolerated tolerant fails (by simp) (by simp)

/-- Evidence is refused for a duplicate key; the induction is on the events. -/
theorem insertEvidence_tolerated (tolerant : duty.Tolerant)
    {audits : List AuditRecord} {events : List AnalyticsEvent}
    (fails : insertEvidence audits events db = .error error) :
    duty.fails error := by
  unfold insertEvidence at fails
  generalize audits.foldl (fun state audit => Database.insertAudit audit state) db =
    start at fails
  induction events generalizing start with
  | nil => cases fails
  | cons event events ih =>
      rw [List.foldlM_cons] at fails
      rcases bind_eq_error.mp fails with violated | ⟨next, _, rest⟩
      · exact tolerated tolerant violated (by simp) (by simp)
      · exact ih next rest

end Tolerated

end RngGamePlatform
