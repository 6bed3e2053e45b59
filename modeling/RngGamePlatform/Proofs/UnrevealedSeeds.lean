/-
Module: RngGamePlatform.Proofs.UnrevealedSeeds
Purpose: The seed in the custody of a proof has no effect on anything, in any run, before
  the owner of the proof asks for its evaluation.
Trusted boundary: none
Main exports: Database.reseed, Pledged, Sight, Neutral, Blind, Operation.evaluates,
  Operation.commits, operate_blind, unrevealed_seed_unused
-/
import RngGamePlatform.Proofs.EvidenceConservation
import RngGamePlatform.Transactions.Mirrored

namespace RngGamePlatform

open Encoding Relational Transactions

/-- The custody with another seed, if it is that of the proof. -/
def FairnessSeedCustody.reseed (proofId : Uuid) (seed : Bytes) (row : FairnessSeedCustody) :
    FairnessSeedCustody :=
  if row.proofId = proofId then { row with serverSeedMaterial := seed } else row

/-- The tables with another seed in the custody of a proof. -/
def Database.reseed (proofId : Uuid) (seed : Bytes) (db : Database) : Database :=
  { db with custodies := db.custodies.map (·.reseed proofId seed) }

/-- Every row of the proof belongs to the owner. -/
def Owned (proofId ownerId : Uuid) (db : Database) : Prop :=
  ∀ row ∈ db.proofs, row.id = proofId → row.playerId = ownerId

/-- The proof is stored, for the owner. -/
structure Pledged (proofId ownerId : Uuid) (db : Database) : Prop where
  stored : ∃ row ∈ db.proofs, row.id = proofId
  owned : Owned proofId ownerId db

/-- What is known of the views that a request sees, as far as it concerns the proof: its
rows belong to the owner, and no change that keeps the ids and this ownership matters. -/
structure Sight (proofId ownerId : Uuid) (seen : Database → Prop) : Prop where
  owned : ∀ db, seen db → Owned proofId ownerId db
  keeps : ∀ db db', seen db → Owned proofId ownerId db' →
    (∀ row ∈ db.proofs, ∃ row' ∈ db'.proofs, row'.id = row.id) → seen db'

section Sights

variable {proofId ownerId : Uuid} {seen : Database → Prop}

/-- A view in which the rows of the proof, if any, are the owner's. -/
theorem Sight.ofOwned : Sight proofId ownerId (Owned proofId ownerId) :=
  ⟨fun _ owned => owned, fun _ _ _ owned _ => owned⟩

/-- A view in which the proof is stored for the owner. -/
theorem Sight.ofPledged : Sight proofId ownerId (Pledged proofId ownerId) where
  owned := fun _ pledged => pledged.owned
  keeps := by
    intro db db' pledged owned kept
    obtain ⟨row, member, isId⟩ := pledged.stored
    obtain ⟨row', member', sameId⟩ := kept row member
    exact ⟨⟨row', member', sameId.trans isId⟩, owned⟩

/-- A change that leaves the proofs alone. -/
theorem Sight.same {db db' : Database} (sight : Sight proofId ownerId seen) (sees : seen db)
    (same : db'.proofs = db.proofs) : seen db' := by
  apply sight.keeps db db' sees
  · intro row member
    exact sight.owned db sees row (same ▸ member)
  · intro row member
    exact ⟨row, same ▸ member, rfl⟩

end Sights

/-! ### The statements and the seed -/

/-- A statement that does the same whatever the seed is. -/
def Unaware (proofId : Uuid) (seed : Bytes) (change : Database → Except ServiceError Database) :
    Prop :=
  ∀ db, change (db.reseed proofId seed) = (change db).map (·.reseed proofId seed)

/-- A statement that does not depend on the seed and leaves the proof with its owner. -/
structure Neutral (proofId ownerId : Uuid) (seed : Bytes)
    (change : Database → Except ServiceError Database) : Prop where
  unaware : Unaware proofId seed change
  keeps : ∀ seen, Sight proofId ownerId seen → ∀ db db', seen db → change db = .ok db' →
    seen db'

section Statements

variable {proofId ownerId : Uuid} {seed : Bytes}

/-- A check does not look at the seed, which stays replaced in what is changed. -/
theorem checked_reseed (checks : List (Constraint × Bool)) (changed : Database) :
    Database.checked checks (changed.reseed proofId seed) =
      (Database.checked checks changed).map (·.reseed proofId seed) := by
  unfold Database.checked
  split <;> rfl

/-- A checked change whose checks and change commute with the replacement. -/
theorem Unaware.of_checked {checks : Database → List (Constraint × Bool)}
    {changed : Database → Database}
    (sameChecks : ∀ db, checks (db.reseed proofId seed) = checks db)
    (sameChange : ∀ db, changed (db.reseed proofId seed) = (changed db).reseed proofId seed) :
    Unaware proofId seed fun db => Database.checked (checks db) (changed db) := by
  intro db
  simp only [sameChecks, sameChange, checked_reseed]

/-- A checked change of other tables, which reads other tables only. -/
theorem Neutral.of_checked {checks : Database → List (Constraint × Bool)}
    {changed : Database → Database}
    (sameChecks : ∀ db, checks (db.reseed proofId seed) = checks db)
    (sameChange : ∀ db, changed (db.reseed proofId seed) = (changed db).reseed proofId seed)
    (sameProofs : ∀ db, (changed db).proofs = db.proofs) :
    Neutral proofId ownerId seed fun db => Database.checked (checks db) (changed db) where
  unaware := .of_checked sameChecks sameChange
  keeps := by
    intro seen sight db db' sees written
    obtain ⟨_, rfl⟩ := Database.checked_eq_ok.mp written
    exact sight.same sees (sameProofs db)

/-- One statement after another. -/
theorem Neutral.bind {first second : Database → Except ServiceError Database}
    (one : Neutral proofId ownerId seed first) (two : Neutral proofId ownerId seed second) :
    Neutral proofId ownerId seed fun db => first db >>= second where
  unaware := by
    intro db
    simp only [one.unaware db]
    cases first db with
    | error error => rfl
    | ok db' => exact two.unaware db'
  keeps := by
    intro seen sight db db' sees written
    cases changed : first db with
    | error error =>
        rw [changed] at written
        cases written
    | ok middle =>
        rw [changed] at written
        exact two.keeps seen sight middle db' (one.keeps seen sight db middle sees changed) written

theorem insertSession_neutral (row : GameSession) :
    Neutral proofId ownerId seed (Database.insertSession row) :=
  .of_checked (fun _ => rfl) (fun _ => rfl) (fun _ => rfl)

theorem updateSession_neutral (row : GameSession) :
    Neutral proofId ownerId seed (Database.updateSession row) :=
  .of_checked (fun _ => rfl) (fun _ => rfl) (fun _ => rfl)

theorem insertEvent_neutral (row : FairnessProofEvent) :
    Neutral proofId ownerId seed (Database.insertEvent row) :=
  .of_checked (fun _ => rfl) (fun _ => rfl) (fun _ => rfl)

theorem insertOutcome_neutral (row : Outcome) :
    Neutral proofId ownerId seed (Database.insertOutcome row) :=
  .of_checked (fun _ => rfl) (fun _ => rfl) (fun _ => rfl)

theorem insertReward_neutral (row : Reward) :
    Neutral proofId ownerId seed (Database.insertReward row) :=
  .of_checked (fun _ => rfl) (fun _ => rfl) (fun _ => rfl)

theorem insertScore_neutral (row : FinalScore) :
    Neutral proofId ownerId seed (Database.insertScore row) :=
  .of_checked (fun _ => rfl) (fun _ => rfl) (fun _ => rfl)

theorem insertRun_neutral (row : SettlementRun) :
    Neutral proofId ownerId seed (Database.insertRun row) :=
  .of_checked (fun _ => rfl) (fun _ => rfl) (fun _ => rfl)

theorem updateRun_neutral (row : SettlementRun) :
    Neutral proofId ownerId seed (Database.updateRun row) :=
  .of_checked (fun _ => rfl) (fun _ => rfl) (fun _ => rfl)

theorem insertRecipient_neutral (row : SettlementRecipient) :
    Neutral proofId ownerId seed (Database.insertRecipient row) :=
  .of_checked (fun _ => rfl) (fun _ => rfl) (fun _ => rfl)

theorem insertAnalytics_neutral (row : AnalyticsEvent) :
    Neutral proofId ownerId seed (Database.insertAnalytics row) :=
  .of_checked (fun _ => rfl) (fun _ => rfl) (fun _ => rfl)

/-- A change that always succeeds and touches neither proofs nor custodies. -/
theorem Neutral.of_change {changed : Database → Database}
    (sameChange : ∀ db, changed (db.reseed proofId seed) = (changed db).reseed proofId seed)
    (sameProofs : ∀ db, (changed db).proofs = db.proofs) :
    Neutral proofId ownerId seed fun db => .ok (changed db) where
  unaware := fun db => congrArg Except.ok (sameChange db)
  keeps := by
    intro seen sight db db' sees written
    cases written
    exact sight.same sees (sameProofs db)

/-- A reward is written over its row. -/
theorem updateReward_neutral (row : Reward) :
    Neutral proofId ownerId seed (Database.updateReward row) :=
  .of_change (fun _ => rfl) (fun _ => rfl)

theorem insertAudit_neutral (row : AuditRecord) :
    Neutral proofId ownerId seed fun db => .ok (Database.insertAudit row db) :=
  .of_change (fun _ => rfl) (fun _ => rfl)

/-- Audit records are added one after another; the induction is on their list. -/
theorem insertAudits_neutral (audits : List AuditRecord) :
    Neutral proofId ownerId seed fun db =>
      .ok (audits.foldl (fun state audit => Database.insertAudit audit state) db) := by
  induction audits with
  | nil => exact .of_change (fun _ => rfl) (fun _ => rfl)
  | cons audit audits ih =>
      exact .bind (insertAudit_neutral audit) ih

/-- Events are added one after another; the induction is on their list. -/
theorem insertEvents_neutral (events : List AnalyticsEvent) :
    Neutral proofId ownerId seed fun db =>
      events.foldlM (fun state event => Database.insertAnalytics event state) db := by
  induction events with
  | nil => exact .of_change (fun _ => rfl) (fun _ => rfl)
  | cons event events ih => exact .bind (insertAnalytics_neutral event) ih

/-- The evidence of a request. -/
theorem insertEvidence_neutral (audits : List AuditRecord) (events : List AnalyticsEvent) :
    Neutral proofId ownerId seed (insertEvidence audits events) :=
  .bind (insertAudits_neutral audits) (insertEvents_neutral events)

/-- The flush of a completed round. -/
theorem flushCompletion_neutral (gameSession : GameSession) (outcome : Outcome)
    (reward : Reward) (playerId : Uuid) (gameKey : PyStr) :
    Neutral proofId ownerId seed
      (flushCompletion gameSession outcome reward playerId gameKey) :=
  .bind (updateSession_neutral _) (insertEvidence_neutral _ _)

/-- The flush of a claim. -/
theorem flushClaim_neutral (reward : Reward) (gameKey : PyStr) :
    Neutral proofId ownerId seed (flushClaim reward gameKey) :=
  .bind (updateReward_neutral _) (insertEvidence_neutral _ _)

/-- A proof is inserted whatever the seed is; it may be the watched one. -/
theorem insertProof_unaware (row : FairnessProof) :
    Unaware proofId seed (Database.insertProof row) :=
  .of_checked (fun _ => rfl) (fun _ => rfl)

/-- Writing a proof over its row, when it names the owner of the watched one. -/
theorem updateProof_neutral {proof : FairnessProof}
    (own : proof.id = proofId → proof.playerId = ownerId) :
    Neutral proofId ownerId seed (Database.updateProof proof) where
  unaware := .of_checked (fun _ => rfl) (fun _ => rfl)
  keeps := by
    intro seen sight db db' sees written
    obtain ⟨_, rfl⟩ := Database.checked_eq_ok.mp written
    apply sight.keeps db _ sees
    · intro row member isProof
      rcases mem_replace member with rfl | ⟨old, _⟩
      · exact own isProof
      · exact sight.owned db sees row old isProof
    · intro row member
      by_cases same : row.id = proof.id
      · exact ⟨proof, mem_replace_self member same, same.symm⟩
      · exact ⟨row, mem_replace_of_ne member same, rfl⟩

/-- The flush of a reveal, when it names the owner of the watched proof. -/
theorem flushReveal_neutral {proof : FairnessProof} (event : FairnessProofEvent)
    (own : proof.id = proofId → proof.playerId = ownerId) :
    Neutral proofId ownerId seed (flushReveal proof event) :=
  .bind (updateProof_neutral own) (insertEvent_neutral event)

/-- The replacement keeps the key of a custody. -/
@[simp] theorem reseed_proofId (row : FairnessSeedCustody) :
    (row.reseed proofId seed).proofId = row.proofId := by
  unfold FairnessSeedCustody.reseed
  split <;> rfl

/-- Deleting a custody does not depend on the seeds. -/
theorem deleteCustody_reseed (other : Uuid) (db : Database) :
    Database.deleteCustody other (db.reseed proofId seed) =
      (Database.deleteCustody other db).reseed proofId seed := by
  have kept : remove FairnessSeedCustody.proofId other
      (db.custodies.map (·.reseed proofId seed)) =
        (remove FairnessSeedCustody.proofId other db.custodies).map (·.reseed proofId seed) := by
    simp only [remove, List.filter_map, Function.comp_def, reseed_proofId]
  exact congrArg (fun custodies => { db with custodies := custodies }) kept

/-- The custody of another proof keeps its seed. -/
theorem custodyByProof_reseed {other : Uuid} (different : other ≠ proofId) (db : Database) :
    custodyByProof other (db.reseed proofId seed) = custodyByProof other db := by
  have mapped : custodyByProof other (db.reseed proofId seed) =
      (custodyByProof other db).map (·.reseed proofId seed) := by
    simp only [custodyByProof, lookup, Database.reseed, List.find?_map, Function.comp_def,
      reseed_proofId]
  rw [mapped]
  cases found : custodyByProof other db with
  | none => rfl
  | some row =>
      have isOther : row.proofId ≠ proofId := by
        rw [lookup_key found]
        exact different
      exact congrArg some (if_neg isOther)

/-- The flush of a termination, which deletes a custody without reading its seed. -/
theorem flushTermination_neutral {proof : FairnessProof} (gameSession : GameSession)
    (event : FairnessProofEvent) (own : proof.id = proofId → proof.playerId = ownerId) :
    Neutral proofId ownerId seed (flushTermination gameSession proof event) :=
  .bind (updateSession_neutral _) (.bind (updateProof_neutral own)
    (.bind (.of_change (deleteCustody_reseed proof.id) (fun _ => rfl))
      (insertEvent_neutral event)))

/-- Taking the seed of another proof into custody. -/
theorem insertCustody_neutral {row : FairnessSeedCustody} (other : row.proofId ≠ proofId) :
    Neutral proofId ownerId seed (Database.insertCustody row) where
  unaware := by
    apply Unaware.of_checked
    · intro db
      exact congrArg (fun found : Option FairnessSeedCustody =>
        [(Constraint.uqFairnessSeedCustodyProof, found.isNone),
          (.ckFairnessSeedCustodyMaterialLength, decide (row.serverSeedMaterial.length = 32))])
        (custodyByProof_reseed other db)
    · intro db
      have appended : db.custodies.map (·.reseed proofId seed) ++ [row] =
          (db.custodies ++ [row]).map (·.reseed proofId seed) := by
        rw [List.map_append, List.map_singleton, FairnessSeedCustody.reseed, if_neg other]
      exact congrArg (fun custodies => { db with custodies := custodies }) appended
  keeps := by
    intro seen sight db db' sees written
    obtain ⟨_, rfl⟩ := Database.checked_eq_ok.mp written
    exact sight.same sees rfl

end Statements

/-! ### The programs and the seed -/

section Programs

variable {env : Platform} {proofId ownerId : Uuid} {seed : Bytes} {seen : Database → Prop}

/-- No query of the program shows the seed, and no statement of it depends on the seed. -/
abbrev Blind {α : Type} (proofId ownerId : Uuid) (seed : Bytes) (seen : Database → Prop)
    (program : Prog α) : Prop :=
  program.Mirrors (Pledged proofId ownerId) seen (Database.reseed proofId seed)

/-- A neutral statement as a step of a program, when its locks do not depend on the seed. -/
theorem Neutral.update {change : Database → Except ServiceError Database}
    {locks : Database → List Lock} (neutral : Neutral proofId ownerId seed change)
    (sight : Sight proofId ownerId seen)
    (same : ∀ view, locks (view.reseed proofId seed) = locks view) :
    Blind proofId ownerId seed seen (Program.update locks change) := by
  apply Program.Mirrors.update (fun view _ => same view)
  · intro view pledged
    exact ⟨neutral.unaware view, fun view' => neutral.keeps _ .ofPledged view view' pledged⟩
  · exact neutral.keeps seen sight

theorem byRules_blind {α : Type} {translated : ServiceError} {result : Except RulesError α} :
    Blind proofId ownerId seed seen (byRules translated result) := by
  cases result <;> trivial

theorem byFairness_blind {α : Type} {result : Except FairnessError α} :
    Blind proofId ownerId seed seen (byFairness result) := by
  cases result <;> trivial

/-- The proof under watch names its owner. -/
def OwnRow (proofId ownerId : Uuid) (proof : FairnessProof) : Prop :=
  proof.id = proofId → proof.playerId = ownerId

/-- The end of a proof reads whether it has a custody, and not the seed. -/
theorem endCommittedFairnessProof_blind (sight : Sight proofId ownerId seen) {crypto : Crypto}
    {gameSession : GameSession} {proof : FairnessProof} {status : FairnessProofStatus}
    {now : Int} (own : OwnRow proofId ownerId proof) :
    Blind proofId ownerId seed seen
      (endCommittedFairnessProof crypto gameSession proof status now) := by
  unfold endCommittedFairnessProof
  split
  · trivial
  split
  · trivial
  exact .ask (fun _ _ => ⟨rfl, rfl⟩) fun found => .orRaise fun previous _ =>
    .ignoring (fun _ _ => rfl) (.bind
      (Neutral.update (flushTermination_neutral _ _ own) sight fun _ => rfl) fun _ => trivial)

/-- A saved session has no seed. -/
theorem saveSession_blind (sight : Sight proofId ownerId seen) {gameSession : GameSession} :
    Blind proofId ownerId seed seen (saveSession gameSession) :=
  (updateSession_neutral _).update sight fun _ => rfl

theorem saveIfChanged_blind (sight : Sight proofId ownerId seen) {changed : Bool}
    {gameSession : GameSession} :
    Blind proofId ownerId seed seen (saveIfChanged changed gameSession) := by
  cases changed with
  | true => exact saveSession_blind sight
  | false => trivial

/-- What `lockedProofOr` finds in a view. -/
theorem ownRow_of_bySession (sight : Sight proofId ownerId seen) {view : Database}
    (sees : seen view) {sessionId : Uuid} {proof : FairnessProof}
    (found : proofBySession sessionId view = some proof) : OwnRow proofId ownerId proof :=
  sight.owned view sees proof (lookup_mem found)

/-- The expiry of a session and the end of its proof. -/
theorem finalizeExpiredSession_blind (sight : Sight proofId ownerId seen) {crypto : Crypto}
    {gameSession : GameSession} {now : Int} {lockedProof : Option FairnessProof}
    (own : ∀ proof, lockedProof = some proof → OwnRow proofId ownerId proof) :
    Blind proofId ownerId seed seen
      (finalizeExpiredSession crypto gameSession now lockedProof) := by
  have ending : ∀ (changed : Bool) (after : GameSession) (proof : FairnessProof),
      OwnRow proofId ownerId proof → Blind proofId ownerId seed seen (do
        let proofChanged ← endCommittedFairnessProof crypto after proof .expired now
        if proofChanged then return (true, after)
        else do
          saveIfChanged changed after
          return (changed, after)) := by
    intro changed after proof isOwn
    apply (endCommittedFairnessProof_blind sight isOwn).bind
    intro ended
    cases ended with
    | true => trivial
    | false => exact (saveIfChanged_blind sight).bind fun _ => trivial
  unfold finalizeExpiredSession
  split
  split
  · trivial
  cases lockedProof with
  | some proof => exact ending _ _ proof (own proof rfl)
  | none =>
      apply Program.Mirrors.reading
      case same => exact fun _ _ => ⟨rfl, rfl⟩
      case rest =>
        intro view sees
        cases found : proofBySession _ view with
        | none => exact (saveIfChanged_blind sight).bind fun _ => trivial
        | some proof => exact ending _ _ proof (ownRow_of_bySession sight sees found)

/-- The expiries one after another; the induction is on the list of sessions. -/
theorem finalizeExpiredSessions_blind (sight : Sight proofId ownerId seen)
    {gameSessions : List GameSession} {now : Int} :
    Blind proofId ownerId seed seen (finalizeExpiredSessions env gameSessions now) := by
  induction gameSessions with
  | nil => trivial
  | cons gameSession rest ih =>
      exact (finalizeExpiredSession_blind sight fun _ isNone => by cases isNone).bind fun _ => ih

theorem loadedPayload_blind {configVersionId : Uuid} :
    Blind proofId ownerId seed seen (loadedPayload env configVersionId) :=
  .ask (fun _ _ => ⟨rfl, rfl⟩) fun _ => .orRaise fun _ _ => byRules_blind

theorem checkLatest_blind {latest : Option GameSession} {now : Int} :
    Blind proofId ownerId seed seen (checkLatest env latest now) := by
  cases latest with
  | none => trivial
  | some latest =>
      exact .require fun _ => .bind loadedPayload_blind fun _ => .required

/-- A new session, after the expired ones have ended. -/
theorem createNewSession_blind (sight : Sight proofId ownerId seen) {requestId : Uuid}
    {player : Player} {gameKey : PyStr} {draw : SessionDraw} {startedAt : Int} :
    Blind proofId ownerId seed seen
      (createNewSession env requestId player gameKey draw startedAt) :=
  .require fun _ => .ask (fun _ _ => ⟨rfl, rfl⟩) fun _ => .orRaise fun _ _ =>
  .require fun _ => .ask (fun _ _ => ⟨rfl, rfl⟩) fun _ => .orRaise fun _ _ =>
  .bind .clock fun _ => .ask (fun _ _ => ⟨rfl, rfl⟩) fun _ =>
  .bind (finalizeExpiredSessions_blind sight) fun _ => .ask (fun _ _ => ⟨rfl, rfl⟩) fun _ =>
  .bind checkLatest_blind fun _ => .bind byRules_blind fun _ => .bind byRules_blind fun _ =>
  .bind ((insertSession_neutral _).update sight fun _ => rfl) fun _ =>
  .bind ((insertEvidence_neutral _ _).update sight fun _ => rfl) fun _ => trivial

/-- A creation, of a new request or of a known one. -/
theorem createSession_blind (sight : Sight proofId ownerId seen)
    {requestId playerId callerId : Uuid} {gameKey : PyStr} {draw : SessionDraw} :
    Blind proofId ownerId seed seen
      (createSession env requestId playerId callerId gameKey draw) := by
  apply Program.Mirrors.require
  intro _
  apply Program.Mirrors.clock.bind
  intro startedAt
  exact .ask (fun _ _ => ⟨rfl, rfl⟩) fun _ => .ask (fun _ _ => ⟨rfl, rfl⟩) fun _ =>
    .orRaise fun player _ => .ask (fun _ _ => ⟨rfl, rfl⟩) fun existing => by
      cases existing with
      | some existing => exact .require fun _ => trivial
      | none => exact createNewSession_blind sight

theorem lockOwnedSession_blind {sessionId callerId : Uuid} :
    Blind proofId ownerId seed seen (lockOwnedSession sessionId callerId) :=
  .ask (fun _ _ => ⟨rfl, rfl⟩) fun _ => .orRaise fun _ _ => .require fun _ => trivial

/-- A retrieval with the expiry of the session. -/
theorem retrieveSession_blind (sight : Sight proofId ownerId seen) {sessionId callerId : Uuid} :
    Blind proofId ownerId seed seen (retrieveSession env sessionId callerId) := by
  apply Program.Mirrors.bind lockOwnedSession_blind
  intro gameSession
  apply Program.Mirrors.clock.bind
  intro now
  apply Program.Mirrors.bind (finalizeExpiredSession_blind sight fun _ isNone => by cases isNone)
  intro finalized
  split <;> trivial

theorem readState_blind {playerId : Uuid} {game : Game} {now : Int} :
    Blind proofId ownerId seed seen (readState env playerId game now) := by
  refine .ask (fun _ _ => ⟨rfl, rfl⟩) fun latest => ?_
  cases latest with
  | none => trivial
  | some latest =>
      apply Program.Mirrors.bind
      · exact .bind loadedPayload_blind fun _ => trivial
      · exact fun _ => .ask (fun _ _ => ⟨rfl, rfl⟩) fun _ =>
          .ask (fun _ _ => ⟨rfl, rfl⟩) fun _ => .ask (fun _ _ => ⟨rfl, rfl⟩) fun _ =>
          .ask (fun _ _ => ⟨rfl, rfl⟩) fun _ => trivial

/-- A recovery with the expiries of the sessions. -/
theorem retrievePlayerGameState_blind (sight : Sight proofId ownerId seen)
    {playerId callerId : Uuid} {gameKey : PyStr} :
    Blind proofId ownerId seed seen
      (retrievePlayerGameState env playerId callerId gameKey) := by
  refine .require fun _ => .ask (fun _ _ => ⟨rfl, rfl⟩) fun _ => .orRaise fun player _ =>
    .ask (fun _ _ => ⟨rfl, rfl⟩) fun _ => .orRaise fun game _ =>
    .ask (fun _ _ => ⟨rfl, rfl⟩) fun _ => .orRaise fun _ _ => .bind .clock fun now =>
    .ask (fun _ _ => ⟨rfl, rfl⟩) fun _ => .bind (finalizeExpiredSessions_blind sight) fun _ =>
    .bind readState_blind fun state => ?_
  split <;> trivial

/-- A cancellation ends the proof without reading its seed. -/
theorem cancelSession_blind (sight : Sight proofId ownerId seen) {sessionId callerId : Uuid} :
    Blind proofId ownerId seed seen (cancelSession env sessionId callerId) := by
  apply Program.Mirrors.bind lockOwnedSession_blind
  intro gameSession
  apply Program.Mirrors.clock.bind
  intro now
  apply Program.Mirrors.bind (finalizeExpiredSession_blind sight fun _ isNone => by cases isNone)
  intro finalized
  split
  · trivial
  · apply Program.Mirrors.ofExcept.bind
    intro cancelled
    apply Program.Mirrors.reading
    case same => exact fun _ _ => ⟨rfl, rfl⟩
    case rest =>
      intro view sees
      refine .bind ?_ fun _ => trivial
      cases found : proofBySession _ view with
      | none => exact saveSession_blind sight
      | some proof =>
          apply Program.Mirrors.bind
            (endCommittedFairnessProof_blind sight (ownRow_of_bySession sight sees found))
          intro changed
          cases changed with
          | true => trivial
          | false => exact saveSession_blind sight

theorem gameAndConfig_blind {error : ServiceError} {gameId configVersionId : Uuid} :
    Blind proofId ownerId seed seen (gameAndConfig error gameId configVersionId) :=
  .ask (fun _ _ => ⟨rfl, rfl⟩) fun _ => .ask (fun _ _ => ⟨rfl, rfl⟩) fun _ =>
    .orRaise fun _ _ => .orRaise fun _ _ => .require fun _ => trivial

/-- A commitment stores its own seed: the one of another proof, unless the proof under
watch is stored already, and then it fails. -/
theorem storeCommitment_blind (sight : Sight proofId ownerId seen) {proof : FairnessProof}
    {material : Bytes} {now : Int}
    (apart : proof.id = proofId → ∀ view, seen view → Pledged proofId ownerId view) :
    Blind proofId ownerId seed seen (storeCommitment env proof material now) := by
  have unstored : ∀ view view', Database.insertProof proof view = .ok view' →
      ∀ row ∈ view.proofs, row.id ≠ proof.id := by
    intro view view' changed
    have checks := (Database.checked_eq_ok.mp changed).1
    have absent := checks _ List.mem_cons_self
    exact lookup_none.mp (Option.isNone_iff_eq_none.mp absent)
  have otherProof : ∀ view view', seen view → Database.insertProof proof view = .ok view' →
      proof.id ≠ proofId := by
    intro view view' sees changed isProof
    obtain ⟨row, member, isId⟩ := (apart isProof view sees).stored
    exact unstored view view' changed row member (isId.trans isProof.symm)
  have appended : ∀ view view', Database.insertProof proof view = .ok view' →
      proof.id ≠ proofId → ∀ other, Sight proofId ownerId other → other view → other view' := by
    intro view view' changed different other sight' sees
    obtain ⟨_, rfl⟩ := Database.checked_eq_ok.mp changed
    apply sight'.keeps view _ sees
    · intro row member isProof
      rcases List.mem_append.mp member with old | added
      · exact sight'.owned view sees row old isProof
      · cases List.mem_singleton.mp added
        exact absurd isProof different
    · exact fun row member => ⟨row, List.mem_append_left _ member, rfl⟩
  apply Program.Mirrors.changing
  case same => exact fun _ _ => rfl
  case mirrored =>
    intro view pledged
    constructor
    · exact insertProof_unaware proof view
    · intro view' changed
      have different : proof.id ≠ proofId := by
        intro isProof
        obtain ⟨row, member, isId⟩ := pledged.stored
        exact unstored view view' changed row member (isId.trans isProof.symm)
      exact appended view view' changed different _ .ofPledged pledged
  case rest =>
    intro view view' sees changed
    have different := otherProof view view' sees changed
    refine ⟨appended view view' changed different seen sight sees, ?_⟩
    exact .bind ((insertCustody_neutral different).update sight fun _ => rfl) fun _ =>
      .bind ((insertEvent_neutral _).update sight fun _ => rfl) fun _ => trivial

/-- A commitment stores the seed of its own proof, which is not the watched one. -/
theorem commitLocked_blind (sight : Sight proofId ownerId seen) {gameSession : GameSession}
    {callerId : Uuid} {draw : CommitDraw} {now : Int}
    (apart : draw.proofId = proofId → ∀ view, seen view → Pledged proofId ownerId view) :
    Blind proofId ownerId seed seen (commitLocked env gameSession callerId draw now) := by
  refine .require fun _ => .bind gameAndConfig_blind fun loaded =>
    .ask (fun _ _ => ⟨rfl, rfl⟩) fun existing => ?_
  cases existing with
  | some existing => trivial
  | none =>
      exact .bind byRules_blind fun bands => .bind byFairness_blind fun commitment =>
        .bind byFairness_blind fun digest => storeCommitment_blind sight apart

/-- A commitment, with the expiry of the session. -/
theorem commitFairness_blind (sight : Sight proofId ownerId seen) {sessionId callerId : Uuid}
    {draw : CommitDraw}
    (apart : draw.proofId = proofId → ∀ view, seen view → Pledged proofId ownerId view) :
    Blind proofId ownerId seed seen (commitFairness env sessionId callerId draw) := by
  refine .ask (fun _ _ => ⟨rfl, rfl⟩) fun found => .orRaise fun gameSession _ =>
    .require fun _ => .bind .clock fun now =>
    .bind (finalizeExpiredSession_blind sight fun _ isNone => by cases isNone) fun finalized => ?_
  split
  · trivial
  · exact commitLocked_blind sight apart

/-- A repeated evaluation reads the stored outcome. -/
theorem replayEvaluation_blind {proof : FairnessProof} {fingerprint : PyStr} :
    Blind proofId ownerId seed seen (replayEvaluation proof fingerprint) :=
  .require fun _ => .orRaise fun _ _ => .ask (fun _ _ => ⟨rfl, rfl⟩) fun _ =>
    .ask (fun _ _ => ⟨rfl, rfl⟩) fun _ => .orRaise fun _ _ => .orRaise fun _ _ => trivial

/-- A reveal writes the rows of its round, and reads the last event of the chain only. -/
theorem storeReveal_blind (sight : Sight proofId ownerId seen) {gameSession : GameSession}
    {proof : FairnessProof} {game : Game} {material : Bytes} {callerId : Uuid}
    {clientSeed fingerprint : PyStr} {draw : EvaluateDraw} {derivation : DailySpinDerivation}
    {now : Int} (own : OwnRow proofId ownerId proof) :
    Blind proofId ownerId seed seen
      (storeReveal env gameSession proof game material callerId clientSeed fingerprint draw
        derivation now) := by
  have ownRevealed : OwnRow proofId ownerId (revealedProof proof draw.outcomeId clientSeed
      fingerprint derivation material now) := own
  exact
    .bind ((insertOutcome_neutral _).update sight fun _ => rfl) fun _ =>
    .bind ((insertReward_neutral _).update sight fun _ => rfl) fun _ =>
    .ask (fun _ _ => ⟨rfl, rfl⟩) fun _ => .orRaise fun _ _ =>
    .bind ((flushReveal_neutral _ ownRevealed).update sight fun _ => rfl) fun _ =>
    .bind ((flushCompletion_neutral _ _ _ _ _).update sight fun _ => rfl) fun _ => trivial

/-- The evaluation of another proof reads another seed. -/
theorem evaluateCommitted_blind (sight : Sight proofId ownerId seen) {gameSession : GameSession}
    {proof : FairnessProof} {callerId : Uuid} {clientSeed fingerprint : PyStr}
    {draw : EvaluateDraw} {now : Int} (other : proof.id ≠ proofId) :
    Blind proofId ownerId seed seen
      (evaluateCommitted env gameSession proof callerId clientSeed fingerprint draw now) :=
  .require fun _ => .ask (fun _ _ => ⟨rfl, rfl⟩) fun _ => .ask (fun _ _ => ⟨rfl, rfl⟩) fun _ =>
  .ask (fun view _ => ⟨rfl, custodyByProof_reseed other view⟩) fun _ => .orRaise fun _ _ =>
  .orRaise fun _ _ => .orRaise fun _ _ => .bind byRules_blind fun _ => .bind .ofExcept fun _ =>
  storeReveal_blind sight fun isProof => absurd isProof other

/-- An evaluation of another proof, or one that is not the owner's. -/
theorem evaluateFairness_blind (sight : Sight proofId ownerId seen) {requested callerId : Uuid}
    {clientSeed : PyStr} {draw : EvaluateDraw}
    (apart : requested = proofId → callerId ≠ ownerId) :
    Blind proofId ownerId seed seen
      (evaluateFairness env requested callerId clientSeed draw) := by
  apply Program.Mirrors.reading
  case same => exact fun _ _ => ⟨rfl, rfl⟩
  case rest =>
    intro visibleView sees
    apply Program.Mirrors.orRaise
    intro visible isVisible
    apply Program.Mirrors.require
    intro isCaller
    -- The owner check passes for other proofs only.
    have other : requested ≠ proofId := by
      intro isProof
      obtain ⟨row, found, rfl⟩ := Option.map_eq_some_iff.mp isVisible
      have owner := sight.owned visibleView sees row (lookup_mem found)
        ((lookup_key found).trans isProof)
      exact apart isProof (isCaller.symm.trans owner)
    refine .ask (fun _ _ => ⟨rfl, rfl⟩) fun _ => .orRaise fun gameSession _ => ?_
    apply Program.Mirrors.reading
    case same => exact fun _ _ => ⟨rfl, rfl⟩
    case rest =>
      intro view _
      apply Program.Mirrors.orRaise
      intro proof found
      have different : proof.id ≠ proofId := by
        rw [lookup_key found]
        exact other
      unfold evaluateLocked
      split
      · exact replayEvaluation_blind
      refine .bind .clock fun now => .bind (finalizeExpiredSession_blind sight ?_)
        fun finalized => ?_
      · intro locked isLocked
        cases isLocked
        exact fun isProof => absurd isProof different
      split
      · trivial
      · exact evaluateCommitted_blind sight different

theorem replayPlay_blind {gameSession : GameSession} {intent : PlayIntent} :
    Blind proofId ownerId seed seen (replayPlay gameSession intent) := by
  unfold replayPlay
  split
  · trivial
  refine .ask (fun _ _ => ⟨rfl, rfl⟩) fun foundGame => .ask (fun _ _ => ⟨rfl, rfl⟩)
    fun foundOutcome => ?_
  split
  · apply byRules_blind.bind
    intro rules
    simp only
    split <;> trivial
  · trivial

/-- A direct play reads no custody. -/
theorem playActive_blind (sight : Sight proofId ownerId seen) {gameSession : GameSession}
    {callerId : Uuid} {intent : PlayIntent} {provider : OutcomeProvider} {draw : PlayDraw}
    {now : Int} :
    Blind proofId ownerId seed seen
      (playActive env gameSession callerId intent provider draw now) :=
  .bind gameAndConfig_blind fun _ => .bind byRules_blind fun _ => .require fun _ =>
  .bind byRules_blind fun _ => .bind ((insertOutcome_neutral _).update sight fun _ => rfl) fun _ =>
  .bind byRules_blind fun _ => .bind ((insertReward_neutral _).update sight fun _ => rfl) fun _ =>
  .bind ((flushCompletion_neutral _ _ _ _ _).update sight fun _ => rfl) fun _ => trivial

/-- A play, with the expiry of the session. -/
theorem playSession_blind (sight : Sight proofId ownerId seen) {sessionId callerId : Uuid}
    {intent : PlayIntent} {provider : OutcomeProvider} {draw : PlayDraw} :
    Blind proofId ownerId seed seen
      (playSession env sessionId callerId intent provider draw) := by
  refine .ask (fun _ _ => ⟨rfl, rfl⟩) fun found => .orRaise fun gameSession _ =>
    .require fun _ => .bind .clock fun now =>
    .bind (finalizeExpiredSession_blind sight fun _ isNone => by cases isNone) fun finalized => ?_
  split
  · trivial
  split
  · exact replayPlay_blind
  · exact playActive_blind sight

theorem submitNew_blind (sight : Sight proofId ownerId seen) {gameSession : GameSession}
    {callerId scoreId : Uuid} :
    Blind proofId ownerId seed seen (submitNew env gameSession callerId scoreId) :=
  .ask (fun _ _ => ⟨rfl, rfl⟩) fun _ => .orRaise fun _ _ => .require fun _ =>
  .ask (fun _ _ => ⟨rfl, rfl⟩) fun _ => .orRaise fun _ _ => .bind byRules_blind fun _ =>
  .require fun _ => .orRaise fun _ _ => .ask (fun _ _ => ⟨rfl, rfl⟩) fun _ =>
  .orRaise fun _ _ => .require fun _ => .ask (fun _ _ => ⟨rfl, rfl⟩) fun _ =>
  .orRaise fun _ _ => .bind byRules_blind fun _ => .bind .clock fun _ => .require fun _ =>
  .bind ((insertScore_neutral _).update sight fun _ => rfl) fun _ =>
  .bind ((insertEvidence_neutral _ _).update sight fun _ => rfl) fun _ => trivial

/-- A submission reads no custody. -/
theorem submitFinalScore_blind (sight : Sight proofId ownerId seen)
    {sessionId callerId scoreId : Uuid} :
    Blind proofId ownerId seed seen (submitFinalScore env sessionId callerId scoreId) := by
  refine .ask (fun _ _ => ⟨rfl, rfl⟩) fun found => .orRaise fun gameSession _ =>
    .require fun _ => .ask (fun _ _ => ⟨rfl, rfl⟩) fun existing => ?_
  cases existing with
  | some existing =>
      exact .ask (fun _ _ => ⟨rfl, rfl⟩) fun _ => .orRaise fun _ _ => trivial
  | none => exact submitNew_blind sight

theorem claimLocked_blind (sight : Sight proofId ownerId seen) {reward : Reward}
    {callerId : Uuid} : Blind proofId ownerId seed seen (claimLocked reward callerId) := by
  refine .require fun _ => .bind .clock fun now => .bind .ofExcept fun changed => ?_
  cases changed with
  | none => trivial
  | some claimed =>
      exact .ask (fun _ _ => ⟨rfl, rfl⟩) fun _ => .orRaise fun _ _ =>
        .bind ((flushClaim_neutral _ _).update sight fun _ => rfl) fun _ => trivial

/-- A claim reads no custody. -/
theorem claimSessionReward_blind (sight : Sight proofId ownerId seen)
    {sessionId callerId : Uuid} :
    Blind proofId ownerId seed seen (claimSessionReward sessionId callerId) := by
  refine .ask (fun _ _ => ⟨rfl, rfl⟩) fun found => ?_
  cases found with
  | none =>
      exact .ask (fun _ _ => ⟨rfl, rfl⟩) fun _ => .orRaise fun _ _ => .require fun _ => trivial
  | some reward => exact claimLocked_blind sight

theorem issueReward_blind (sight : Sight proofId ownerId seen)
    {recipient : SettlementRecipient} {gameKey : PyStr} {rewardId : Uuid} :
    Blind proofId ownerId seed seen (issueReward recipient gameKey rewardId) := by
  refine .ask (fun _ _ => ⟨rfl, rfl⟩) fun found => ?_
  cases found with
  | some _ => trivial
  | none =>
      apply Program.Mirrors.bind
      · exact .bind ((insertReward_neutral _).update sight fun _ => rfl) fun _ => trivial
      · exact fun _ => (insertEvidence_neutral _ _).update sight fun _ => rfl

theorem findOrAddRecipient_blind (sight : Sight proofId ownerId seen)
    {row : SettlementRecipient} {recipients : List SettlementRecipient} :
    Blind proofId ownerId seed seen (findOrAddRecipient row recipients) := by
  unfold findOrAddRecipient
  split
  · trivial
  · exact .bind ((insertRecipient_neutral _).update sight fun _ => rfl) fun _ => trivial

/-- The recipients and rewards of a board; the induction is on its ranks. -/
theorem settleRanks_blind (sight : Sight proofId ownerId seen) {run : SettlementRun}
    {tiers : List Json} {gameKey : PyStr} {draw : SettlementDraw}
    {ranked : List (FinalScore × Nat)} {recipients : List SettlementRecipient} :
    Blind proofId ownerId seed seen
      (settleRanks run tiers gameKey draw ranked recipients) := by
  induction ranked generalizing recipients with
  | nil => trivial
  | cons entry ranked ih =>
      obtain ⟨score, rank⟩ := entry
      unfold settleRanks
      split
      · exact ih
      · exact .bind .ofExcept fun _ => .bind (findOrAddRecipient_blind sight) fun _ =>
          .bind (issueReward_blind sight) fun _ => ih

theorem openRun_blind (sight : Sight proofId ownerId seen) {existing : Option SettlementRun}
    {gameId : Uuid} {periodStart periodEnd : Int} {runId : Uuid} :
    Blind proofId ownerId seed seen
      (openRun existing gameId periodStart periodEnd runId) := by
  cases existing with
  | none =>
      exact .ask (fun _ _ => ⟨rfl, rfl⟩) fun _ => .orRaise fun _ _ => .bind .ofExcept fun _ =>
        .bind ((insertRun_neutral _).update sight fun _ => rfl) fun _ => trivial
  | some run => exact .bind .ofExcept fun _ => trivial

theorem settlePeriod_blind (sight : Sight proofId ownerId seen)
    {existing : Option SettlementRun} {game : Game} {periodStart now : Int}
    {draw : SettlementDraw} :
    Blind proofId ownerId seed seen (settlePeriod existing game periodStart now draw) :=
  .bind (openRun_blind sight) fun _ => .ask (fun _ _ => ⟨rfl, rfl⟩) fun _ =>
  .ask (fun _ _ => ⟨rfl, rfl⟩) fun _ => .bind (settleRanks_blind sight) fun _ =>
  .bind ((updateRun_neutral _).update sight fun _ => rfl) fun _ =>
  .ask (fun _ _ => ⟨rfl, rfl⟩) fun _ =>
  .bind ((insertEvidence_neutral _ _).update sight fun _ => rfl) fun _ => trivial

theorem eligibleLeaderboardGame_blind {gameKey : PyStr} :
    Blind proofId ownerId seed seen (eligibleLeaderboardGame gameKey) :=
  .ask (fun _ _ => ⟨rfl, rfl⟩) fun _ => .orRaise fun _ _ => .require fun _ =>
    .bind byRules_blind fun _ => trivial

/-- A settlement reads no custody. -/
theorem settleLeaderboard_blind (sight : Sight proofId ownerId seen) {gameKey : PyStr}
    {periodStart : Int} {authorized : Bool} {draw : SettlementDraw} :
    Blind proofId ownerId seed seen
      (settleLeaderboard gameKey periodStart authorized draw) := by
  refine .require fun _ => .require fun _ =>
    .bind (.bind eligibleLeaderboardGame_blind fun _ => .bind byRules_blind fun _ => trivial)
    fun game => .ask (fun _ _ => ⟨rfl, rfl⟩) fun _ => .ask (fun _ _ => ⟨rfl, rfl⟩)
    fun existing => ?_
  unfold settleOnce
  split
  · exact .ask (fun _ _ => ⟨rfl, rfl⟩) fun _ => trivial
  · exact .bind .clock fun _ => .require fun _ => settlePeriod_blind sight

theorem ownedOutcome_blind {outcomeId callerId : Uuid} :
    Blind proofId ownerId seed seen (ownedOutcome outcomeId callerId) :=
  .ask (fun _ _ => ⟨rfl, rfl⟩) fun _ => .orRaise fun _ _ => .ask (fun _ _ => ⟨rfl, rfl⟩) fun _ =>
    .orRaise fun _ _ => .require fun _ => trivial

/-- What is published of a revealed proof comes from its row, not from the custody. -/
theorem retrieveFairnessProof_blind {outcomeId callerId : Uuid} :
    Blind proofId ownerId seed seen (retrieveFairnessProof env outcomeId callerId) :=
  .bind ownedOutcome_blind fun _ => .ask (fun _ _ => ⟨rfl, rfl⟩) fun _ => .orRaise fun _ _ =>
    .bind .ofExcept fun _ => .ask (fun _ _ => ⟨rfl, rfl⟩) fun _ => .orRaise fun _ _ =>
    .bind byRules_blind fun _ => trivial

/-- A verification recalculates from the revealed columns of the proof. -/
theorem verifyFairnessProof_blind {fuel : Nat} {outcomeId callerId : Uuid} :
    Blind proofId ownerId seed seen (verifyFairnessProof env fuel outcomeId callerId) := by
  refine .ask (fun _ _ => ⟨rfl, rfl⟩) fun _ => .bind retrieveFairnessProof_blind fun _ =>
    .orRaise fun _ _ => .bind .ofExcept fun verdict => ?_
  split
  · trivial
  · exact .ask (fun _ _ => ⟨rfl, rfl⟩) fun _ => .bind .ofExcept fun _ => trivial

theorem activePlayer_blind {playerId : Uuid} :
    Blind proofId ownerId seed seen (activePlayer playerId) :=
  .ask (fun _ _ => ⟨rfl, rfl⟩) fun _ => .orRaise fun _ _ => .required

end Programs

/-- The owner asks for the evaluation of the proof. -/
def Operation.evaluates (proofId ownerId : Uuid) : Operation → Bool
  | .request (.evaluateFairness requested callerId _ _) =>
      requested = proofId ∧ callerId = ownerId
  | _ => false

/-- The request commits a proof under this id. -/
def Operation.commits (proofId : Uuid) : Operation → Bool
  | .request (.commitFairness _ _ draw) => draw.proofId = proofId
  | _ => false

/-- Every other operation is blind to the seed. -/
theorem operate_blind {env : Platform} {proofId ownerId : Uuid} {seed : Bytes}
    {seen : Database → Prop} (sight : Sight proofId ownerId seen) (operation : Operation)
    (withheld : operation.evaluates proofId ownerId = false)
    (apart : operation.commits proofId = true → ∀ view, seen view → Pledged proofId ownerId view) :
    Blind proofId ownerId seed seen (operate env operation) := by
  cases operation with
  | request call =>
      apply Program.Mirrors.map
      cases call with
      | createSession requestId playerId callerId gameKey draw =>
          exact (createSession_blind sight).map
      | retrieveSession sessionId callerId => exact (retrieveSession_blind sight).map
      | retrievePlayerGameState playerId callerId gameKey =>
          exact (retrievePlayerGameState_blind sight).map
      | cancelSession sessionId callerId => exact (cancelSession_blind sight).map
      | commitFairness sessionId callerId draw =>
          exact (commitFairness_blind sight fun isProof => apart (decide_eq_true isProof)).map
      | evaluateFairness requested callerId clientSeed draw =>
          exact (evaluateFairness_blind sight fun isProof isOwner =>
            of_decide_eq_false withheld ⟨isProof, isOwner⟩).map
      | playSession sessionId callerId intent provider draw =>
          exact (playSession_blind sight).map
      | submitFinalScore sessionId callerId scoreId => exact (submitFinalScore_blind sight).map
      | claimSessionReward sessionId callerId => exact (claimSessionReward_blind sight).map
  | settleLeaderboard gameKey periodStart authorized draw =>
      exact (settleLeaderboard_blind sight).map
  | retrieveFairnessProof outcomeId callerId => exact retrieveFairnessProof_blind.map
  | verifyFairnessProof fuel outcomeId callerId => exact verifyFairnessProof_blind.map
  | retrieveOutcomeAudit outcomeId callerId =>
      apply Program.Mirrors.map
      exact .bind ownedOutcome_blind fun _ => .ask (fun _ _ => ⟨rfl, rfl⟩) fun _ =>
        .orRaise fun _ _ => trivial
  | playerRewards createdAt playerId callerId limit offset =>
      apply Program.Mirrors.map
      exact .require fun _ => .ask (fun _ _ => ⟨rfl, rfl⟩) fun _ => .orRaise fun _ _ =>
        .query fun _ _ => ⟨rfl, rfl⟩
  | canonicalLeaderboard callerId gameKey periodStart limit offset after =>
      apply Program.Mirrors.map
      exact .bind activePlayer_blind fun _ => .bind eligibleLeaderboardGame_blind fun _ =>
        .ask (fun _ _ => ⟨rfl, rfl⟩) fun _ => trivial
  | leaderboardProjectionFacts callerId gameKey periodStart playerId =>
      apply Program.Mirrors.map
      exact .require fun _ => .bind activePlayer_blind fun _ =>
        .bind eligibleLeaderboardGame_blind fun _ => .ask (fun _ _ => ⟨rfl, rfl⟩) fun _ =>
        .ask (fun _ _ => ⟨rfl, rfl⟩) fun _ => trivial
  | canonicalPlayerRank playerId callerId gameKey periodStart =>
      apply Program.Mirrors.map
      refine .require fun _ => .bind activePlayer_blind fun _ =>
        .bind eligibleLeaderboardGame_blind fun _ => .ask (fun _ _ => ⟨rfl, rfl⟩) fun found => ?_
      cases found <;> trivial

/-! ### Two runs with different seeds -/

section Runs

variable {env : Platform} {system : PlatformSystem}

/-- A proof that belongs to its owner now did so at every earlier moment of a run. -/
theorem owned_before {proofId ownerId : Uuid} {next : PlatformSystem}
    {label : Label Int Operation} (reached : PlatformReachable env system)
    (stepped : system.step Lock.conflicts (operate env) label = some next)
    (owned : Owned proofId ownerId next.db) : Owned proofId ownerId system.db := by
  obtain ⟨-, committed⟩ := (platform_sound reached).step Lock.conflicts_symm operate_outlined
    stepped
  rcases committed with same | ⟨_, held, advances⟩
  · exact same ▸ owned
  · intro row member isProof
    obtain ⟨row', member', step⟩ := advances.moves.proofs.mem member
    obtain ⟨sameId, -, sameOwner⟩ := step.same
    exact sameOwner.symm.trans (owned row' member' (sameId.trans isProof))

/-- A proof in a reachable state, with its only owner. -/
theorem pledged_of_reachable (reachable : PlatformReachable env system) {proof : FairnessProof}
    (stored : proof ∈ system.db.proofs) : Pledged proof.id proof.playerId system.db := by
  obtain ⟨⟨calls, consistent⟩, -⟩ := (platform_sound reachable).inv
  refine ⟨⟨proof, stored, rfl⟩, ?_⟩
  intro row member isProof
  rw [consistent.keys.proofIds.eq member stored isProof]

/-- A proof that has expired or was cancelled has taken its seed with it. -/
theorem reseed_of_ended (reachable : PlatformReachable env system) {proof : FairnessProof}
    (stored : proof ∈ system.db.proofs)
    (ended : proof.status = .expired ∨ proof.status = .cancelled) (seed : Bytes) :
    system.db.reseed proof.id seed = system.db := by
  obtain ⟨⟨calls, consistent⟩, -⟩ := (platform_sound reachable).inv
  obtain ⟨gameSession, record, -, -, evidence⟩ := consistent.proofs proof stored
  have gone : custodyByProof proof.id system.db = none := by
    by_contra kept
    have held := evidence.custody.mp (Option.ne_none_iff_exists'.mp kept)
    rcases ended with status | status <;> rw [status] at held <;>
      rcases held with other | other <;> cases other
  have unchanged : system.db.custodies.map (·.reseed proof.id seed) = system.db.custodies := by
    have kept : ∀ row ∈ system.db.custodies, row.reseed proof.id seed = id row :=
      fun row member => if_neg (lookup_none.mp gone row member)
    exact (List.map_congr_left kept).trans (List.map_id _)
  exact congrArg (fun custodies => { system.db with custodies := custodies }) unchanged

/-- Until its owner asks for its evaluation, the seed in the custody of a proof has no
effect: from any reachable state in which the proof is stored and neither its commitment
nor its evaluation is under way, every run of the services goes on in the same way whatever
the seed is, with the same waiting for locks, the same answers and errors and the same rows
in all other tables; and when the proof has expired or was cancelled nothing of the seed is
left. -/
theorem unrevealed_seed_unused (reachable : PlatformReachable env system)
    {proof : FairnessProof} (stored : proof ∈ system.db.proofs)
    (idle : ∀ thread ∈ system.threads, thread.status = .running →
      thread.call.evaluates proof.id proof.playerId = false ∧
        thread.call.commits proof.id = false)
    (seed : Bytes) (labels : List (Label Int Operation))
    (withheld : ∀ operation, .start operation ∈ labels →
      operation.evaluates proof.id proof.playerId = false) :
    (system.mirrored (Database.reseed proof.id seed)).follow Lock.conflicts (operate env) labels =
        (system.follow Lock.conflicts (operate env) labels).map
          (System.mirrored (Database.reseed proof.id seed)) ∧
      ∀ last, system.follow Lock.conflicts (operate env) labels = some last →
        (∃ row ∈ last.db.proofs, row.id = proof.id ∧
          (row.status = .expired ∨ row.status = .cancelled)) →
        last.mirrored (Database.reseed proof.id seed) = last := by
  have pledged := pledged_of_reachable reachable stored
  have inFlight : ∀ thread ∈ system.threads,
      (thread.call.evaluates proof.id proof.playerId = false ∧
        thread.call.commits proof.id = false) →
      MirroredThread (Pledged proof.id proof.playerId) (Owned proof.id proof.playerId)
        (Database.reseed proof.id seed) thread := by
    apply Reachable.mirrored (fun operation : Operation =>
      operation.evaluates proof.id proof.playerId = false ∧
        operation.commits proof.id = false) _ owned_before reachable pledged.owned
    intro operation apart
    exact operate_blind .ofOwned operation apart.1
      fun commits => absurd (apart.2.symm.trans commits) Bool.false_ne_true
  constructor
  · apply Mirroring.follow
    · refine ⟨pledged, ?_⟩
      intro thread member running
      exact (inFlight thread member (idle thread member running)).narrow
        fun _ isPledged => isPledged.owned
    · intro operation starts
      exact operate_blind .ofPledged operation (withheld operation starts)
        fun _ _ isPledged => isPledged
  · rintro last followed ⟨row, member, isProof, ended⟩
    have same := reseed_of_ended (reachable.follow followed) member ended seed
    rw [isProof] at same
    exact congrArg (fun db => { last with db := db }) same

end Runs

namespace Sample

/-- A proof is committed, and a request for its session is under way. -/
def pledgedLabels : List (Label Int Operation) :=
  calling (.request spin) 0 13 1000 ++ calling (.request commitSpin) 1 10 2000 ++
    calling (.request (.retrieveSession 32 1)) 2 1 3000

/-- Another player asks for the evaluation, and the owner cancels the session. -/
def cancelledLabels : List (Label Int Operation) :=
  calling (.request (.evaluateFairness 33 9 (py "lucky") ⟨40, 41, 8⟩)) 3 2 4000 ++
    List.replicate 2 (.advance 2 5000) ++ calling (.request (.cancelSession 32 1)) 4 8 6000

/-- A thread has ended, or neither commits nor evaluates the proof. -/
def sparing (thread : Thread Database Lock Int ServiceError Operation Answer) : Bool :=
  match thread.status with
  | .running => !thread.call.evaluates 33 1 && !thread.call.commits 33
  | _ => true

theorem pledged_followed : (operated pledgedLabels).map (fun system =>
    (system.db.proofs.map (fun row => (row.id, row.playerId)), system.threads.all sparing)) =
      some ([(33, 1)], true) := by
  decide +kernel

theorem cancelled_followed :
    ((operated pledgedLabels).bind fun system =>
      system.follow Lock.conflicts (operate platform) cancelledLabels).map (fun system =>
        system.db.proofs.map fun row => (row.id, row.status)) = some [(33, .cancelled)] := by
  decide +kernel

/-- Only the other player asks for the evaluation. -/
theorem cancelledLabels_withheld (operation : Operation)
    (starts : .start operation ∈ cancelledLabels) : operation.evaluates 33 1 = false := by
  simp only [cancelledLabels, calling, List.replicate, List.cons_append, List.nil_append,
    List.mem_cons, Label.start.injEq, reduceCtorEq, false_or, or_false, List.not_mem_nil] at starts
  rcases starts with rfl | rfl
  · rfl
  · rfl

end Sample

/-- With another seed the same run ends in the same state, in which the proof is cancelled. -/
theorem unrevealed_seed_unused_cancelled :
    ∃ system last, Sample.operated Sample.pledgedLabels = some system ∧
      last.db.proofs.map (fun row => (row.id, row.status)) = [(33, .cancelled)] ∧
      system.follow Lock.conflicts (operate Sample.platform) Sample.cancelledLabels = some last ∧
      (system.mirrored (Database.reseed 33 (List.replicate 32 0))).follow Lock.conflicts
        (operate Sample.platform) Sample.cancelledLabels = some last := by
  obtain ⟨system, isRun, facts⟩ := Option.map_eq_some_iff.mp Sample.pledged_followed
  obtain ⟨proofs, spares⟩ := Prod.mk.inj facts
  obtain ⟨proof, isProof, keys⟩ := List.map_eq_singleton_iff.mp proofs
  obtain ⟨isId, isOwner⟩ := Prod.mk.inj keys
  obtain ⟨last, continued, ended⟩ := Option.map_eq_some_iff.mp Sample.cancelled_followed
  rw [isRun, Option.bind_some] at continued
  obtain ⟨row, isRow, status⟩ := List.map_eq_singleton_iff.mp ended
  obtain ⟨rowId, rowStatus⟩ := Prod.mk.inj status
  have idle : ∀ thread ∈ system.threads, thread.status = .running →
      thread.call.evaluates proof.id proof.playerId = false ∧
        thread.call.commits proof.id = false := by
    intro thread member running
    have sparing := List.all_eq_true.mp spares thread member
    rw [Sample.sparing, running] at sparing
    rw [isId, isOwner]
    simpa using sparing
  obtain ⟨same, gone⟩ := unrevealed_seed_unused (Sample.operated_reachable isRun)
    (isProof ▸ List.mem_singleton_self proof) idle (List.replicate 32 0) Sample.cancelledLabels
    fun operation starts => by
      rw [isId, isOwner]
      exact Sample.cancelledLabels_withheld operation starts
  have same' := gone last continued
    ⟨row, isRow ▸ List.mem_singleton_self row, rowId.trans isId.symm, .inr rowStatus⟩
  refine ⟨system, last, isRun, ended, continued, ?_⟩
  rw [isId, continued] at same
  rw [isId] at same'
  exact same.trans (congrArg some same')

end RngGamePlatform
