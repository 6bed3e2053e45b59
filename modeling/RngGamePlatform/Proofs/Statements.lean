/-
Module: RngGamePlatform.Proofs.Statements
Purpose: When each changing statement succeeds, what it then leaves, and under
  which locks it is one of the moves a commit may make.
Trusted boundary: none
Main exports: insertSession_ok, updateSession_ok, insertProof_ok,
  updateProof_ok, insertCustody_ok, insertEvent_ok, insertOutcome_ok,
  insertReward_ok, insertScore_ok, insertAnalytics_ok, insertRun_ok,
  updateRun_ok, insertRecipient_ok, Moves.insertSession,
  Moves.updateSession, Moves.updateProof
-/
import RngGamePlatform.Proofs.Isolation
import RngGamePlatform.Rng

namespace RngGamePlatform

open Encoding Relational Transactions

namespace Database

variable {db db' : Database}

/-- A session is new by its id and its request, the one active of its player and game, and
ended exactly when its status says so. -/
theorem insertSession_ok {row : GameSession} :
    insertSession row db = .ok db' ↔
      (lookup GameSession.id row.id db.sessions = none ∧
        lookup GameSession.requestId row.requestId db.sessions = none ∧
        (row.status = .active → activeElsewhere row db.sessions = false) ∧
        sessionEnded row = true ∧ isHex64 row.requestFingerprint = true) ∧
      { db with sessions := db.sessions ++ [row] } = db' := by
  simp only [insertSession, checked_eq_ok, List.forall_mem_cons]
  refine and_congr_left fun _ => ?_
  simp [imp_iff_not_or]

/-- A changed session keeps to the constraints on one active session and on its end. -/
theorem updateSession_ok {row : GameSession} :
    updateSession row db = .ok db' ↔
      ((row.status = .active → activeElsewhere row db.sessions = false) ∧
        sessionEnded row = true) ∧
      { db with sessions := replace GameSession.id row db.sessions } = db' := by
  simp only [updateSession, checked_eq_ok, List.forall_mem_cons]
  refine and_congr_left fun _ => ?_
  simp [imp_iff_not_or]

/-- A proof is new by its id and its session, and its columns agree with its status. -/
theorem insertProof_ok {row : FairnessProof} :
    insertProof row db = .ok db' ↔
      (lookup FairnessProof.id row.id db.proofs = none ∧
        lookup FairnessProof.sessionId row.sessionId db.proofs = none ∧
        ∀ check ∈ proofChecks row, check.2 = true) ∧
      { db with proofs := db.proofs ++ [row] } = db' := by
  simp only [insertProof, checked_eq_ok, List.forall_mem_cons,
    Option.isNone_iff_eq_none]

/-- A changed proof has to pass the trigger that protects finalized rows, and its outcome is
of no other proof. -/
theorem updateProof_ok {row : FairnessProof} :
    updateProof row db = .ok db' ↔
      ((∀ old, lookup FairnessProof.id row.id db.proofs = some old →
          protectFinalizedFairnessProof old row = true) ∧
        (∀ outcome, row.outcomeId = some outcome → ∀ other ∈ db.proofs,
          other.id = row.id ∨ other.outcomeId ≠ some outcome) ∧
        ∀ check ∈ proofChecks row, check.2 = true) ∧
      { db with proofs := replace FairnessProof.id row db.proofs } = db' := by
  simp only [updateProof, checked_eq_ok, List.forall_mem_cons, Option.all_eq_true,
    List.all_eq_true, decide_eq_true_eq]

/-- A proof has one seed in custody, of 32 bytes. -/
theorem insertCustody_ok {row : FairnessSeedCustody} :
    insertCustody row db = .ok db' ↔
      (lookup FairnessSeedCustody.proofId row.proofId db.custodies = none ∧
        row.serverSeedMaterial.length = 32) ∧
      { db with custodies := db.custodies ++ [row] } = db' := by
  simp [insertCustody, checked_eq_ok]

/-- The hash columns of an event pass their check. -/
def eventHashes (row : FairnessProofEvent) : Prop :=
  ((row.sequence = 0 ∧ row.previousEvidenceHash = none) ∨
      (0 < row.sequence ∧ row.previousEvidenceHash.any isHex64 = true)) ∧
    isHex64 row.evidenceHash = true

/-- An event has the next free place of its chain, and its hashes are hexadecimal. -/
theorem insertEvent_ok {row : FairnessProofEvent} :
    insertEvent row db = .ok db' ↔
      ((∀ other ∈ db.events,
          other.proofId = row.proofId → other.sequence ≠ row.sequence) ∧
        eventHashes row) ∧
      { db with events := db.events ++ [row] } = db' := by
  simp only [insertEvent, checked_eq_ok, List.forall_mem_cons]
  refine and_congr_left fun _ => ?_
  simp [eventHashes, imp_iff_not_or]

theorem insertOutcome_ok {row : Outcome} :
    insertOutcome row db = .ok db' ↔
      (lookup Outcome.id row.id db.outcomes = none ∧
        lookup Outcome.sessionId row.sessionId db.outcomes = none) ∧
      { db with outcomes := db.outcomes ++ [row] } = db' := by
  simp [insertOutcome, checked_eq_ok]

/-- A reward fits its column, is new by its id, and is the only one of its outcome or
recipient. -/
theorem insertReward_ok {row : Reward} :
    insertReward row db = .ok db' ↔
      (fitsInteger row.value = true ∧ lookup Reward.id row.id db.rewards = none ∧
        (row.outcomeId = none ∨
          lookup Reward.outcomeId row.outcomeId db.rewards = none) ∧
        (row.settlementRecipientId = none ∨
          lookup Reward.settlementRecipientId row.settlementRecipientId
            db.rewards = none) ∧ 0 ≤ row.value) ∧
      { db with rewards := db.rewards ++ [row] } = db' := by
  simp [insertReward, checked_eq_ok]

/-- A score is new by its id and its session and within its bounds; its insertion advances
the revision of its board. -/
theorem insertScore_ok {row : FinalScore} :
    insertScore row db = .ok db' ↔
      (lookup FinalScore.id row.id db.scores = none ∧
        lookup FinalScore.sessionId row.sessionId db.scores = none ∧
        0 ≤ row.finalScore ∧ row.finalScore ≤ 1000000) ∧
      { db with
        scores := db.scores ++ [row]
        revisions := advanceRevision row.gameId row.periodStart db.revisions } =
        db' := by
  simp [insertScore, checked_eq_ok]

theorem insertAnalytics_ok {row : AnalyticsEvent} :
    insertAnalytics row db = .ok db' ↔
      lookup AnalyticsEvent.eventKey row.eventKey db.analytics = none ∧
      { db with analytics := db.analytics ++ [row] } = db' := by
  simp [insertAnalytics, checked_eq_ok]

/-- A settlement run is the only one of its game and week. -/
theorem insertRun_ok {row : SettlementRun} :
    insertRun row db = .ok db' ↔
      (lookup SettlementRun.id row.id db.runs = none ∧
        runOf row.gameId row.periodStart db = none ∧
        row.periodEnd = row.periodStart + days 7) ∧
      { db with runs := db.runs ++ [row] } = db' := by
  simp [insertRun, checked_eq_ok]

theorem updateRun_ok {row : SettlementRun} :
    updateRun row db = .ok db' ↔
      row.periodEnd = row.periodStart + days 7 ∧
      { db with runs := replace SettlementRun.id row db.runs } = db' := by
  simp [updateRun, checked_eq_ok]

/-- The columns of a recipient can hold its values. -/
def recipientFits (row : SettlementRecipient) : Prop :=
  (fitsInteger row.rank = true ∧ fitsInteger row.rewardValue = true) ∧
    row.tierKey.length ≤ 40 ∧ 0 < row.rank ∧ 0 ≤ row.rewardValue

/-- A recipient is the only one of its run with its player or its rank. -/
theorem insertRecipient_ok {row : SettlementRecipient} :
    insertRecipient row db = .ok db' ↔
      (recipientFits row ∧
        lookup SettlementRecipient.id row.id db.recipients = none ∧
        ∀ other ∈ db.recipients, other.runId = row.runId →
          other.playerId ≠ row.playerId ∧ other.rank ≠ row.rank) ∧
      { db with recipients := db.recipients ++ [row] } = db' := by
  simp only [insertRecipient, checked_eq_ok, List.forall_mem_cons, recipientFits]
  refine and_congr_left fun _ => ?_
  simp only [Bool.decide_and, Bool.decide_eq_true, Bool.and_eq_true, decide_eq_true_eq,
    Option.isNone_iff_eq_none, List.all_eq_true, ne_eq, List.not_mem_nil,
    IsEmpty.forall_iff, implies_true, and_true]
  constructor
  · rintro ⟨fits, short, fresh, players, ranks, positive⟩
    refine ⟨⟨fits, short, positive⟩, fresh, fun other member same => ?_⟩
    exact ⟨(players other member).resolve_left (not_not_intro same),
      (ranks other member).resolve_left (not_not_intro same)⟩
  · rintro ⟨⟨fits, short, positive⟩, fresh, apart⟩
    refine ⟨fits, short, fresh, fun other member => ?_, fun other member => ?_, positive⟩
    · exact or_iff_not_imp_left.mpr fun same => (apart other member (not_not.mp same)).1
    · exact or_iff_not_imp_left.mpr fun same => (apart other member (not_not.mp same)).2

end Database

/-- The keys of new analytics rows are unused and distinct. -/
def FreshKeys (events : List AnalyticsEvent) (db : Database) : Prop :=
  (∀ event ∈ events,
    lookup AnalyticsEvent.eventKey event.eventKey db.analytics = none) ∧
    Unique AnalyticsEvent.eventKey events

private theorem insertAudits (audits : List AuditRecord) (db : Database) :
    audits.foldl (fun state audit => Database.insertAudit audit state) db =
      { db with audits := db.audits ++ audits } := by
  induction audits generalizing db with
  | nil => simp
  | cons audit audits ih =>
      rw [List.foldl_cons, ih]
      simp [Database.insertAudit]

/-- Events are inserted one after another; the induction is on their list. -/
private theorem insertAllAnalytics_ok {events : List AnalyticsEvent}
    {db db' : Database} :
    events.foldlM (fun state event => Database.insertAnalytics event state) db =
        .ok db' ↔
      FreshKeys events db ∧ { db with analytics := db.analytics ++ events } = db' := by
  induction events generalizing db with
  | nil => simp [FreshKeys, Relational.Unique, pure, Except.pure]
  | cons event events ih =>
      simp only [List.foldlM_cons, bind_eq_ok, Database.insertAnalytics_ok, ih,
        FreshKeys, List.forall_mem_cons, Relational.Unique, List.pairwise_cons]
      constructor
      · rintro ⟨_, ⟨absent, rfl⟩, ⟨fresh, unique⟩, rfl⟩
        refine ⟨⟨⟨absent, fun other inRest => ?_⟩,
          fun other inRest same => ?_, unique⟩, by simp⟩
        · exact (lookup_append_none.mp (fresh other inRest)).1
        · exact (lookup_append_none.mp (fresh other inRest)).2 same
      · rintro ⟨⟨⟨absent, fresh⟩, apart, unique⟩, rfl⟩
        refine ⟨_, ⟨absent, rfl⟩, ⟨fun other inRest => ?_, unique⟩, by simp⟩
        exact lookup_append_none.mpr ⟨fresh other inRest, apart other inRest⟩

/-- Evidence can be inserted exactly when its keys are new. -/
theorem insertEvidence_ok {audits : List AuditRecord}
    {events : List AnalyticsEvent} {db db' : Database} :
    insertEvidence audits events db = .ok db' ↔
      FreshKeys events db ∧
      { db with
        audits := db.audits ++ audits
        analytics := db.analytics ++ events } = db' := by
  rw [insertEvidence, insertAudits, insertAllAnalytics_ok]
  rfl

namespace Moves

variable {held : List Lock} {db db' : Database}

/-- A session whose keys are locked is a move. -/
theorem insertSession {row : GameSession}
    (succeeds : Database.insertSession row db = .ok db')
    (fresh : SessionFresh held row) : Moves held db db' := by
  rcases Database.insertSession_ok.mp succeeds with ⟨_, rfl⟩
  exact { Moves.refl held db with
    sessions := .append (SessionStep.refl held) fresh }

/-- A session is changed only by steps that its lock allows. -/
theorem updateSession {row : GameSession}
    (succeeds : Database.updateSession row db = .ok db')
    (steps : ∀ old ∈ db.sessions, old.id = row.id → SessionStep held old row) :
    Moves held db db' := by
  rcases Database.updateSession_ok.mp succeeds with ⟨_, rfl⟩
  exact { Moves.refl held db with
    sessions := .replace (SessionStep.refl held) steps }

theorem insertProof {row : FairnessProof}
    (succeeds : Database.insertProof row db = .ok db')
    (fresh : ProofFresh held row) : Moves held db db' := by
  rcases Database.insertProof_ok.mp succeeds with ⟨_, rfl⟩
  exact { Moves.refl held db with
    proofs := .append (ProofStep.refl held) fresh }

/-- A proof is changed only by steps that its lock allows. -/
theorem updateProof {row : FairnessProof}
    (succeeds : Database.updateProof row db = .ok db')
    (steps : ∀ old ∈ db.proofs, old.id = row.id → ProofStep held old row) :
    Moves held db db' := by
  rcases Database.updateProof_ok.mp succeeds with ⟨_, rfl⟩
  exact { Moves.refl held db with
    proofs := .replace (ProofStep.refl held) steps }

/-- A seed is put into custody under the lock of its proof. -/
theorem insertCustody {row : FairnessSeedCustody}
    (succeeds : Database.insertCustody row db = .ok db')
    (locked : forUpdate (.proof row.proofId) ∈ held) : Moves held db db' := by
  rcases Database.insertCustody_ok.mp succeeds with ⟨_, rfl⟩
  refine { Moves.refl held db with custodies := fun proofId free => ?_ }
  exact lookup_append_of_ne fun same => free (same ▸ locked)

/-- A seed leaves custody under the lock of its proof. -/
theorem deleteCustody {proofId : Uuid}
    (locked : forUpdate (.proof proofId) ∈ held) :
    Moves held db (Database.deleteCustody proofId db) := by
  refine { Moves.refl held db with custodies := fun other free => ?_ }
  exact lookup_remove_of_ne fun same => free (same ▸ locked)

/-- A chain grows under the lock of its proof. -/
theorem insertEvent {row : FairnessProofEvent}
    (succeeds : Database.insertEvent row db = .ok db')
    (locked : forUpdate (.proof row.proofId) ∈ held) : Moves held db db' := by
  rcases Database.insertEvent_ok.mp succeeds with ⟨_, rfl⟩
  exact { Moves.refl held db with events := .append (fun _ => rfl) locked }

theorem insertOutcome {row : Outcome}
    (succeeds : Database.insertOutcome row db = .ok db')
    (fresh : OutcomeFresh held row) : Moves held db db' := by
  rcases Database.insertOutcome_ok.mp succeeds with ⟨_, rfl⟩
  exact { Moves.refl held db with outcomes := .append (fun _ => rfl) fresh }

theorem insertReward {row : Reward}
    (succeeds : Database.insertReward row db = .ok db')
    (fresh : RewardFresh held row) : Moves held db db' := by
  rcases Database.insertReward_ok.mp succeeds with ⟨_, rfl⟩
  exact { Moves.refl held db with
    rewards := .append (RewardStep.refl held) fresh }

theorem updateReward {row : Reward}
    (succeeds : Database.updateReward row db = .ok db')
    (steps : ∀ old ∈ db.rewards, old.id = row.id → RewardStep held old row) :
    Moves held db db' := by
  cases succeeds
  exact { Moves.refl held db with
    rewards := .replace (RewardStep.refl held) steps }

/-- A score is inserted under the lock of the revision that it advances. -/
theorem insertScore {row : FinalScore}
    (succeeds : Database.insertScore row db = .ok db')
    (fresh : ScoreFresh held row)
    (locked : forNoKeyUpdate (.revision row.gameId row.periodStart) ∈ held) :
    Moves held db db' := by
  rcases Database.insertScore_ok.mp succeeds with ⟨_, rfl⟩
  refine { Moves.refl held db with
    scores := .append (fun _ => rfl) fresh
    revisions := fun gameId periodStart free => ?_ }
  have different : ¬(row.gameId = gameId ∧ row.periodStart = periodStart) := by
    rintro ⟨rfl, rfl⟩
    exact free locked
  simp only [revisionRow]
  induction db.revisions with
  | nil => simpa [Database.advanceRevision] using different
  | cons head rest ih =>
      simp only [Database.advanceRevision]
      split
      · next here =>
          simp [here.1, here.2, different]
      · simp only [List.find?_cons, ih]

/-- Evidence is inserted under the locks of its event keys. -/
theorem insertEvidence {audits : List AuditRecord} {events : List AnalyticsEvent}
    (succeeds : RngGamePlatform.insertEvidence audits events db = .ok db')
    (locked : ∀ event ∈ events, forUpdate (.analytics event.eventKey) ∈ held) :
    Moves held db db' := by
  rcases insertEvidence_ok.mp succeeds with ⟨_, rfl⟩
  exact { Moves.refl held db with
    analytics := ⟨db.analytics, events, rfl,
      List.forall₂_same.mpr fun _ _ => rfl, locked⟩ }

end Moves

end RngGamePlatform
