/-
Module: RngGamePlatform.Proofs.Refusals
Purpose: Every exception of the services precedes their commit, but the expiry of
  a session.
Trusted boundary: none
Main exports: Traceless, Concluded, Refuses, Operation.expires, operate_concluded
-/
import RngGamePlatform.Rng
import RngGamePlatform.Services.Platform
import RngGamePlatform.Transactions.Commits

namespace RngGamePlatform

open Encoding Relational Transactions

/-- Every exception but the expiry of a session. -/
def Traceless (error : ServiceError) : Prop := error ≠ .sessionExpired

@[simp] theorem traceless_iff {error : ServiceError} :
    Traceless error ↔ error ≠ .sessionExpired := Iff.rfl

/-- The exceptions before the commit are traceless, those after it are `late`. -/
abbrev Concluded {ρ : Type} (late : ServiceError → Prop) (returns : ρ → Stage → Prop)
    (program : Prog ρ) : Prop :=
  program.Concludes Traceless late returns .uncommitted

/-- The failures of a changing statement are traceless. -/
def Refuses (change : Database → Except ServiceError Database) : Prop :=
  ∀ db error, change db = .error error → Traceless error

section Statements

/-- A statement that only checks constraints fails with a constraint. -/
theorem Refuses.ofChecks {checks : Database → List (Constraint × Bool)}
    {changed : Database → Database} :
    Refuses fun db => Database.checked (checks db) (changed db) := by
  intro db error fails
  rcases Database.checked_eq_error fails with ⟨violated, _, rfl⟩
  exact nofun

/-- One statement after another. -/
theorem Refuses.andThen {first second : Database → Except ServiceError Database}
    (one : Refuses first) (other : Refuses second) :
    Refuses fun db => first db >>= second := by
  intro db error fails
  rcases bind_eq_error.mp fails with failed | ⟨middle, _, failed⟩
  · exact one db error failed
  · exact other middle error failed

/-- A pure change before a statement adds no failure. -/
theorem Refuses.after {change : Database → Except ServiceError Database}
    {changed : Database → Database} (refuses : Refuses change) :
    Refuses fun db => change (changed db) :=
  fun db error fails => refuses (changed db) error fails

@[simp] theorem refuses_insertSession (row : GameSession) :
    Refuses (Database.insertSession row) := .ofChecks

@[simp] theorem refuses_updateSession (row : GameSession) :
    Refuses (Database.updateSession row) := .ofChecks

@[simp] theorem refuses_insertProof (row : FairnessProof) :
    Refuses (Database.insertProof row) := .ofChecks

@[simp] theorem refuses_updateProof (row : FairnessProof) :
    Refuses (Database.updateProof row) := .ofChecks

@[simp] theorem refuses_insertCustody (row : FairnessSeedCustody) :
    Refuses (Database.insertCustody row) := .ofChecks

@[simp] theorem refuses_insertEvent (row : FairnessProofEvent) :
    Refuses (Database.insertEvent row) := .ofChecks

@[simp] theorem refuses_insertOutcome (row : Outcome) :
    Refuses (Database.insertOutcome row) := .ofChecks

@[simp] theorem refuses_insertReward (row : Reward) :
    Refuses (Database.insertReward row) := .ofChecks

@[simp] theorem refuses_updateReward (row : Reward) :
    Refuses (Database.updateReward row) := nofun

@[simp] theorem refuses_insertScore (row : FinalScore) :
    Refuses (Database.insertScore row) := .ofChecks

@[simp] theorem refuses_insertRun (row : SettlementRun) :
    Refuses (Database.insertRun row) := .ofChecks

@[simp] theorem refuses_updateRun (row : SettlementRun) :
    Refuses (Database.updateRun row) := .ofChecks

@[simp] theorem refuses_insertRecipient (row : SettlementRecipient) :
    Refuses (Database.insertRecipient row) := .ofChecks

theorem refuses_insertAnalytics (row : AnalyticsEvent) :
    Refuses (Database.insertAnalytics row) := .ofChecks

/-- The evidence of a request fails on a duplicate event key alone. -/
@[simp] theorem refuses_insertEvidence (audits : List AuditRecord)
    (events : List AnalyticsEvent) : Refuses (insertEvidence audits events) := by
  have inserting : Refuses fun db =>
      events.foldlM (fun state event => Database.insertAnalytics event state) db := by
    induction events with
    | nil => nofun
    | cons event events ih => exact (refuses_insertAnalytics event).andThen ih
  exact inserting.after

/-- The flush of a termination: the session, its proof, and the event of the chain. -/
@[simp] theorem refuses_flushTermination (gameSession : GameSession)
    (proof : FairnessProof) (event : FairnessProofEvent) :
    Refuses (flushTermination gameSession proof event) :=
  (refuses_updateSession gameSession).andThen
    ((refuses_updateProof proof).andThen (refuses_insertEvent event).after)

/-- The flush of a reveal: the proof and the event of the chain. -/
@[simp] theorem refuses_flushReveal (proof : FairnessProof)
    (event : FairnessProofEvent) : Refuses (flushReveal proof event) :=
  (refuses_updateProof proof).andThen (refuses_insertEvent event)

/-- The flush of a completed round: the session and the evidence. -/
@[simp] theorem refuses_flushCompletion (gameSession : GameSession)
    (outcome : Outcome) (reward : Reward) (playerId : Uuid) (gameKey : PyStr) :
    Refuses (flushCompletion gameSession outcome reward playerId gameKey) :=
  (refuses_updateSession gameSession).andThen (refuses_insertEvidence _ _)

/-- The flush of a claim: the reward and the evidence. -/
@[simp] theorem refuses_flushClaim (reward : Reward) (gameKey : PyStr) :
    Refuses (flushClaim reward gameKey) :=
  (refuses_updateReward reward).andThen (refuses_insertEvidence _ _)

end Statements

section Rules

variable {α ρ : Type} {late : ServiceError → Prop} {returns : α → Stage → Prop}

@[simp] theorem concluded_raise {error : ServiceError} :
    Concluded late returns (raise error : Prog α) ↔ Traceless error := Iff.rfl

@[simp] theorem concluded_clock {returns : Int → Stage → Prop} :
    Concluded late returns clock ↔ ∀ now, returns now .uncommitted := Iff.rfl

@[simp] theorem concluded_read {answer : Database → α} :
    Concluded late returns (read answer) ↔ ∀ db, returns (answer db) .uncommitted := Iff.rfl

@[simp] theorem concluded_readForUpdate {target : α → Target}
    {answer : Database → Option α} {returns : Option α → Stage → Prop} :
    Concluded late returns (readForUpdate target answer) ↔
      ∀ db, returns (answer db) .uncommitted := Iff.rfl

/-- Before the commit, a statement has to fail without a trace. -/
@[simp] theorem concluded_update {locks : Database → List Lock}
    {change : Database → Except ServiceError Database} {returns : Unit → Stage → Prop} :
    Concluded late returns (Program.update locks change) ↔
      Refuses change ∧ returns () .uncommitted := Iff.rfl

/-- After the commit, what is raised is late. -/
@[simp] theorem concluded_commitWork {returns : Unit → Stage → Prop} :
    Concluded late returns commitWork ↔ returns () .committed := Iff.rfl

/-- A missing row is refused before the commit. -/
@[simp] theorem concluded_orRaise {error : ServiceError} {found : Option α} :
    Concluded late returns (orRaise error found) ↔
      (found = none → Traceless error) ∧
        ∀ value, found = some value → returns value .uncommitted := concludes_orRaise

/-- A condition is checked before the commit. -/
@[simp] theorem concluded_require {error : ServiceError} {condition : Prop}
    [Decidable condition] {returns : Unit → Stage → Prop} :
    Concluded late returns (require error condition) ↔
      (¬condition → Traceless error) ∧ (condition → returns () .uncommitted) :=
  concludes_require

/-- An exception of the rules is no expiry, whatever the service makes of it. -/
theorem Traceless.report {translated : ServiceError} (traceless : Traceless translated)
    (error : RulesError) : Traceless (error.report translated) := by
  cases error with
  | invalidRulesInput => exact traceless
  | validation => nofun
  | zeroDivision => nofun
  | indexError => nofun

/-- The rules are asked before the commit. -/
theorem concluded_byRules {translated : ServiceError} {outcome : Except RulesError α}
    (traceless : Traceless translated)
    (rest : ∀ value, outcome = .ok value → returns value .uncommitted) :
    Concluded late returns (byRules translated outcome) := by
  cases outcome with
  | error error => exact traceless.report error
  | ok value => exact concludes_ret.mpr (rest value rfl)

/-- The protocol is asked before the commit. -/
theorem concluded_byFairness {outcome : Except FairnessError α}
    (rest : ∀ value, outcome = .ok value → returns value .uncommitted) :
    Concluded late returns (byFairness outcome) := by
  cases outcome with
  | error error => exact nofun
  | ok value => exact concludes_ret.mpr (rest value rfl)

end Rules

section Expiry

variable {crypto : Crypto} {late : ServiceError → Prop}

/-- A saved session is flushed, and not committed yet. -/
theorem saveSession_concluded {returns : Unit → Stage → Prop} (gameSession : GameSession)
    (rest : returns () .uncommitted) : Concluded late returns (saveSession gameSession) := by
  simp [saveSession, rest]

theorem saveIfChanged_concluded {returns : Unit → Stage → Prop} (changed : Bool)
    (gameSession : GameSession) (rest : returns () .uncommitted) :
    Concluded late returns (saveIfChanged changed gameSession) := by
  unfold saveIfChanged
  split
  · exact saveSession_concluded gameSession rest
  · exact rest

/-- To end the proof of a session commits nothing: its flush may fail. -/
theorem endCommittedFairnessProof_concluded {returns : Bool → Stage → Prop}
    (gameSession : GameSession) (proof : FairnessProof) (status : FairnessProofStatus)
    (now : Int) (rest : ∀ changed, returns changed .uncommitted) :
    Concluded late returns
      (endCommittedFairnessProof crypto gameSession proof status now) := by
  unfold endCommittedFairnessProof
  split
  · exact rest false
  · split
    · exact nofun
    · simp [lockLatestFairnessProofEvent, getFairnessSeedCustody, rest]

/-- To lock the proof, if the caller has not, raises nothing. -/
theorem lockedProofOr_concluded {returns : Option FairnessProof → Stage → Prop}
    (lockedProof : Option FairnessProof) (sessionId : Uuid)
    (rest : ∀ proof, returns proof .uncommitted) :
    Concluded late returns (lockedProofOr lockedProof sessionId) := by
  cases lockedProof with
  | none => exact fun db => rest _
  | some proof => exact rest (some proof)

/-- To end an expired session, with its proof, commits nothing: the caller does. -/
theorem finalizeExpiredSession_concluded {returns : Bool × GameSession → Stage → Prop}
    (gameSession : GameSession) (now : Int) (lockedProof : Option FairnessProof)
    (rest : ∀ finalized, returns finalized .uncommitted) :
    Concluded late returns
      (finalizeExpiredSession crypto gameSession now lockedProof) := by
  unfold finalizeExpiredSession
  simp only
  split
  · exact rest _
  · apply concludes_bind.mpr
    apply lockedProofOr_concluded
    intro proof
    cases proof with
    | none =>
        apply concludes_bind.mpr
        exact saveIfChanged_concluded _ _ (rest _)
    | some proof =>
        apply concludes_bind.mpr
        apply endCommittedFairnessProof_concluded
        intro changed
        split
        · exact rest _
        · apply concludes_bind.mpr
          exact saveIfChanged_concluded _ _ (rest _)

/-- The same for every expired session of a player; the induction is on the list of them. -/
theorem finalizeExpiredSessions_concluded {env : Platform} {returns : Unit → Stage → Prop}
    (sessions : List GameSession) (now : Int) (rest : returns () .uncommitted) :
    Concluded late returns (finalizeExpiredSessions env sessions now) := by
  induction sessions with
  | nil => exact rest
  | cons gameSession sessions ih =>
      apply concludes_bind.mpr
      apply finalizeExpiredSession_concluded
      exact fun _ => ih

end Expiry

variable {env : Platform} {late : ServiceError → Prop}

section Sessions

/-- A configuration that is missing or does not validate is refused. -/
theorem loadedPayload_concluded {returns : GameConfigPayload → Stage → Prop}
    (configVersionId : Uuid) (rest : ∀ payload, returns payload .uncommitted) :
    Concluded late returns (loadedPayload env configVersionId) := by
  simp only [loadedPayload, getConfigById, concludes_bind, concluded_read,
    concluded_orRaise, traceless_iff]
  intro db
  refine ⟨fun _ => by simp, fun config _ => ?_⟩
  exact concluded_byRules (by simp) fun payload _ => rest payload

/-- A cooldown or an open session is refused before anything is stored. -/
theorem checkLatest_concluded {returns : Unit → Stage → Prop} (latest : Option GameSession)
    (now : Int) (rest : returns () .uncommitted) :
    Concluded late returns (checkLatest env latest now) := by
  cases latest with
  | none => exact rest
  | some latest =>
      simp only [checkLatest, concludes_bind, concluded_require]
      refine ⟨fun _ => by simp, fun _ => ?_⟩
      apply loadedPayload_concluded
      intro payload
      exact concluded_require.mpr ⟨fun _ => by simp, fun _ => rest⟩

/-- The new session is stored with its evidence, and committed last. -/
theorem storeSession_concluded {returns : GameSession → Stage → Prop} (row : GameSession)
    (gameKey : PyStr) (rest : ∀ value stage, returns value stage) :
    Concluded late returns (storeSession row gameKey) := by
  simp [storeSession, addSession, rest]

/-- A new session: the expired ones are ended in the same transaction. -/
theorem createNewSession_concluded {returns : GameSession → Stage → Prop}
    (requestId : Uuid) (player : Player) (gameKey : PyStr) (draw : SessionDraw)
    (startedAt : Int) (rest : ∀ value stage, returns value stage) :
    Concluded late returns (createNewSession env requestId player gameKey draw startedAt) := by
  simp only [createNewSession, getGame, getActiveConfig, lockExpiredActiveSessions,
    latestSession, concludes_bind, concluded_require, concluded_read, concluded_orRaise,
    concluded_clock, concludes_query, traceless_iff]
  refine ⟨fun _ => by simp, fun _ db => ⟨fun _ => by simp, fun game _ => ?_⟩⟩
  refine ⟨fun _ => by simp, fun _ db => ⟨fun _ => by simp, fun config _ now db => ?_⟩⟩
  apply finalizeExpiredSessions_concluded
  apply concludes_bind.mpr
  intro db
  apply concludes_bind.mpr
  apply checkLatest_concluded
  apply concludes_bind.mpr
  refine concluded_byRules (by simp) fun payload _ => ?_
  apply concludes_bind.mpr
  refine concluded_byRules (by simp) fun rules _ => ?_
  exact storeSession_concluded _ _ rest

/-- A creation, of a new request or of a known one, commits last. -/
theorem createSession_concluded {returns : GameSession → Stage → Prop}
    (requestId playerId ownerId : Uuid) (gameKey : PyStr) (draw : SessionDraw)
    (rest : ∀ value stage, returns value stage) :
    Concluded late returns (createSession env requestId playerId ownerId gameKey draw) := by
  simp only [createSession, lockSessionRequestId, lockPlayer, getSessionByRequest,
    concludes_bind, concluded_require, concluded_clock, concludes_query,
    concluded_readForUpdate, concluded_read, concluded_orRaise, traceless_iff]
  refine ⟨fun _ => by simp, fun _ startedAt _ db => ⟨fun _ => by simp, fun player _ db => ?_⟩⟩
  split
  · next existing _ => simp [rest]
  · exact createNewSession_concluded _ _ _ _ _ rest

/-- A session of another player is refused. -/
theorem lockOwnedSession_concluded {returns : GameSession → Stage → Prop}
    (sessionId ownerId : Uuid) (rest : ∀ row, returns row .uncommitted) :
    Concluded late returns (lockOwnedSession sessionId ownerId) := by
  simp [lockOwnedSession, lockSession, rest]

/-- A retrieval commits the expiry of the session, and answers it. -/
theorem retrieveSession_concluded {returns : GameSession → Stage → Prop}
    (sessionId ownerId : Uuid) (rest : ∀ value stage, returns value stage) :
    Concluded late returns (retrieveSession env sessionId ownerId) := by
  apply concludes_bind.mpr
  apply lockOwnedSession_concluded
  intro gameSession
  apply concludes_bind.mpr
  intro now
  apply concludes_bind.mpr
  apply finalizeExpiredSession_concluded
  intro finalized
  split <;> simp [rest]

theorem nextPlayAt_concluded {returns : Option Int → Stage → Prop}
    (latest : Option GameSession) (now : Int) (rest : ∀ value, returns value .uncommitted) :
    Concluded late returns (nextPlayAt env latest now) := by
  cases latest with
  | none => exact rest none
  | some latest =>
      apply concludes_bind.mpr
      apply loadedPayload_concluded
      exact fun payload => concludes_ret.mpr (rest _)

/-- The state of a player is only read. -/
theorem readState_concluded {returns : PlayerGameState → Stage → Prop} (playerId : Uuid)
    (game : Game) (now : Int) (rest : ∀ value, returns value .uncommitted) :
    Concluded late returns (readState env playerId game now) := by
  simp only [readState, latestSession, concludes_bind, concluded_read]
  intro db
  apply nextPlayAt_concluded
  intro nextPlay
  split
  · exact concludes_ret.mpr (rest _)
  · simp [readRound, getOutcomeBySession, getRewardBySession,
      getFairnessProofBySession, getFinalScoreBySession, rest]

/-- The state is read after the expired sessions have been ended, and the commit is last. -/
theorem retrievePlayerGameState_concluded {returns : PlayerGameState → Stage → Prop}
    (playerId ownerId : Uuid) (gameKey : PyStr)
    (rest : ∀ value stage, returns value stage) :
    Concluded late returns (retrievePlayerGameState env playerId ownerId gameKey) := by
  simp only [retrievePlayerGameState, lockPlayer, getGame, getActiveConfig,
    lockExpiredActiveSessions, concludes_bind, concluded_require, concluded_clock,
    concludes_query, concluded_readForUpdate, concluded_read, concluded_orRaise,
    traceless_iff]
  refine ⟨fun _ => by simp, fun _ db => ⟨fun _ => by simp, fun player _ db => ?_⟩⟩
  refine ⟨fun _ => by simp, fun game _ db => ⟨fun _ => by simp, fun config _ now db => ?_⟩⟩
  apply finalizeExpiredSessions_concluded
  apply concludes_bind.mpr
  apply readState_concluded
  intro state
  split <;> simp [rest]

/-- The proof of a cancelled session ends with it. -/
theorem endCancelledProof_concluded {returns : Unit → Stage → Prop}
    (cancelled : GameSession) (now : Int) (proof : Option FairnessProof)
    (rest : returns () .uncommitted) :
    Concluded late returns (endCancelledProof env cancelled now proof) := by
  cases proof with
  | none => exact saveSession_concluded cancelled rest
  | some proof =>
      apply concludes_bind.mpr
      apply endCommittedFairnessProof_concluded
      intro changed
      split
      · exact concludes_ret.mpr rest
      · exact saveSession_concluded cancelled rest

/-- A session that may not be cancelled is refused; a cancellation commits last. -/
theorem cancelSession_concluded {returns : GameSession → Stage → Prop}
    (sessionId ownerId : Uuid) (rest : ∀ value stage, returns value stage) :
    Concluded late returns (cancelSession env sessionId ownerId) := by
  apply concludes_bind.mpr
  apply lockOwnedSession_concluded
  intro gameSession
  apply concludes_bind.mpr
  intro now
  apply concludes_bind.mpr
  apply finalizeExpiredSession_concluded
  intro finalized
  split
  · simp [rest]
  · simp only [cancelLocked, lockFairnessProofBySession, concludes_bind,
      concludes_ofExcept, concluded_readForUpdate]
    constructor
    case left =>
      intro error refused
      unfold cancelActive at refused
      split at refused
      · cases refused
        simp
      · cases refused
    case right =>
      intro cancelled _ db
      apply endCancelledProof_concluded
      simp [rest]

end Sessions

section Fairness

/-- The game and the configuration of a session are there, or the request is refused. -/
theorem gameAndConfig_concluded {returns : Game × GameConfigVersion → Stage → Prop}
    {error : ServiceError} {gameId configVersionId : Uuid} (traceless : Traceless error)
    (rest : ∀ pair, returns pair .uncommitted) :
    Concluded late returns (gameAndConfig error gameId configVersionId) := by
  simp only [gameAndConfig, getGameById, getConfigById, concludes_bind, concluded_read,
    concluded_orRaise, concluded_require, Program.pure_eq, concludes_ret]
  intro db db'
  refine ⟨fun _ => traceless, fun game _ => ⟨fun _ => traceless, fun config _ => ?_⟩⟩
  exact ⟨fun _ => traceless, fun _ => rest _⟩

/-- The proof, its seed and its first event are stored before the commit. -/
theorem storeCommitment_concluded {returns : FairnessProof → Stage → Prop}
    (proof : FairnessProof) (seed : Bytes) (now : Int)
    (rest : ∀ value stage, returns value stage) :
    Concluded late returns (storeCommitment env proof seed now) := by
  simp [storeCommitment, addFairnessProof, addFairnessSeedCustody,
    addFairnessProofEvent, rest]

/-- A commitment of an active session: a repeated one answers the stored proof. -/
theorem commitLocked_concluded {returns : FairnessProof → Stage → Prop}
    (gameSession : GameSession) (ownerId : Uuid) (draw : CommitDraw) (now : Int)
    (rest : ∀ value stage, returns value stage) :
    Concluded late returns (commitLocked env gameSession ownerId draw now) := by
  apply concludes_bind.mpr
  refine concluded_require.mpr ⟨fun _ => nofun, fun _ => ?_⟩
  apply concludes_bind.mpr
  refine gameAndConfig_concluded nofun fun loaded => ?_
  simp only [lockFairnessProofBySession, concludes_bind, concluded_readForUpdate]
  intro db
  split
  · simp [rest]
  apply concludes_bind.mpr
  refine concluded_byRules nofun fun bands _ => ?_
  apply concludes_bind.mpr
  refine concluded_byFairness fun commitment _ => ?_
  apply concludes_bind.mpr
  refine concluded_byFairness fun digest _ => ?_
  exact storeCommitment_concluded _ _ _ rest

/-- The expiry of the session is the one exception after a commit. -/
theorem commitFairness_concluded {returns : FairnessProof → Stage → Prop}
    (expires : late .sessionExpired) (sessionId ownerId : Uuid) (draw : CommitDraw)
    (rest : ∀ value stage, returns value stage) :
    Concluded late returns (commitFairness env sessionId ownerId draw) := by
  simp only [commitFairness, lockSession, concludes_bind, concluded_readForUpdate,
    concluded_orRaise, concluded_require, concluded_clock, traceless_iff]
  intro db
  refine ⟨fun _ => by simp, fun gameSession _ => ⟨fun _ => by simp, fun _ now => ?_⟩⟩
  apply finalizeExpiredSession_concluded
  intro finalized
  split
  · exact expires
  · exact commitLocked_concluded _ _ _ _ rest

/-- A repeated evaluation is read, or refused when its inputs differ. -/
theorem replayEvaluation_concluded {returns : Outcome × Reward × FairnessProof → Stage → Prop}
    (proof : FairnessProof) (fingerprint : PyStr)
    (rest : ∀ value stage, returns value stage) :
    Concluded late returns (replayEvaluation proof fingerprint) := by
  simp [replayEvaluation, getOutcome, lockRewardBySession, rest]

/-- The outcome, the reward, the revealed proof and the completion are stored before the
commit. -/
theorem storeReveal_concluded {returns : Outcome × Reward × FairnessProof → Stage → Prop}
    (gameSession : GameSession) (proof : FairnessProof) (game : Game) (seed : Bytes)
    (ownerId : Uuid) (clientSeed fingerprint : PyStr) (draw : EvaluateDraw)
    (derivation : DailySpinDerivation) (now : Int)
    (rest : ∀ value stage, returns value stage) :
    Concluded late returns (storeReveal env gameSession proof game seed ownerId clientSeed
      fingerprint draw derivation now) := by
  simp [storeReveal, addOutcome, addReward, lockLatestFairnessProofEvent, completePlay,
    rest]

/-- The evaluation of a committed proof: what the protocol refuses leaves no trace. -/
theorem evaluateCommitted_concluded
    {returns : Outcome × Reward × FairnessProof → Stage → Prop}
    (gameSession : GameSession) (proof : FairnessProof) (ownerId : Uuid)
    (clientSeed fingerprint : PyStr) (draw : EvaluateDraw) (now : Int)
    (rest : ∀ value stage, returns value stage) :
    Concluded late returns (evaluateCommitted env gameSession proof ownerId clientSeed
      fingerprint draw now) := by
  simp only [evaluateCommitted, getGameById, getConfigById, getFairnessSeedCustody,
    concludes_bind, concluded_require, concluded_read, concluded_orRaise, traceless_iff]
  refine ⟨fun _ => by simp, fun _ db db' db'' => ⟨fun _ => by simp, fun game _ => ?_⟩⟩
  refine ⟨fun _ => by simp, fun config _ => ⟨fun _ => by simp, fun custody _ => ?_⟩⟩
  refine concluded_byRules (by simp) fun bands _ => ?_
  apply concludes_bind.mpr
  refine concludes_ofExcept.mpr ⟨fun error refused => ?_, fun derivation _ => ?_⟩
  · unfold evaluationOf at refused
    split at refused <;> cases refused <;> simp
  · exact storeReveal_concluded _ _ _ _ _ _ _ _ _ _ rest

/-- The expiry of the session is the one exception after a commit. -/
theorem evaluateFairness_concluded
    {returns : Outcome × Reward × FairnessProof → Stage → Prop}
    (expires : late .sessionExpired) (proofId ownerId : Uuid) (clientSeed : PyStr)
    (draw : EvaluateDraw)
    (rest : ∀ value stage, returns value stage) :
    Concluded late returns (evaluateFairness env proofId ownerId clientSeed draw) := by
  simp only [evaluateFairness, getFairnessProof, lockSession, lockFairnessProof,
    concludes_bind, concluded_readForUpdate, concluded_read, concluded_orRaise,
    concluded_require, traceless_iff]
  intro db
  refine ⟨fun _ => by simp, fun visible _ => ⟨fun _ => by simp, fun _ db => ?_⟩⟩
  refine ⟨fun _ => by simp, fun gameSession _ db => ⟨fun _ => by simp, fun proof _ => ?_⟩⟩
  unfold evaluateLocked
  split
  · exact replayEvaluation_concluded _ _ rest
  apply concludes_bind.mpr
  intro now
  apply concludes_bind.mpr
  apply finalizeExpiredSession_concluded
  intro finalized
  split
  · exact expires
  · exact evaluateCommitted_concluded _ _ _ _ _ _ _ rest

end Fairness

section Plays

/-- A repeated play is read, or refused when its intent differs. -/
theorem replayPlay_concluded {returns : Outcome → Stage → Prop}
    (gameSession : GameSession) (intent : PlayIntent)
    (rest : ∀ value stage, returns value stage) :
    Concluded late returns (replayPlay gameSession intent) := by
  unfold replayPlay
  split
  · simp
  simp only [getGameById, getOutcomeBySession, concludes_bind, concluded_read]
  intro db db'
  split
  · apply concludes_bind.mpr
    refine concluded_byRules (by simp) fun rules _ => ?_
    split
    · simp [rest]
    · simp
    · simp
  · simp

/-- The outcome, the reward and the completion are stored before the commit. -/
theorem storePlay_concluded {returns : Outcome → Stage → Prop}
    (gameSession : GameSession) (game : Game) (config : GameConfigVersion)
    (ownerId : Uuid) (result : Json) (draw : PlayDraw) (now : Int)
    (rest : ∀ value stage, returns value stage) :
    Concluded late returns (storePlay env gameSession game config ownerId result draw now) := by
  simp only [storePlay, addOutcome, addReward, concludes_bind, concluded_update,
    refuses_insertOutcome, true_and]
  refine concluded_byRules (by simp) fun value _ => ?_
  simp [completePlay, rest]

/-- A play of an active session: what the rules refuse leaves no trace. -/
theorem playActive_concluded {returns : Outcome → Stage → Prop}
    (gameSession : GameSession) (ownerId : Uuid) (intent : PlayIntent)
    (provider : OutcomeProvider) (draw : PlayDraw) (now : Int)
    (rest : ∀ value stage, returns value stage) :
    Concluded late returns
      (playActive env gameSession ownerId intent provider draw now) := by
  apply concludes_bind.mpr
  refine gameAndConfig_concluded nofun fun loaded => ?_
  apply concludes_bind.mpr
  refine concluded_byRules nofun fun rules _ => ?_
  apply concludes_bind.mpr
  refine concluded_require.mpr ⟨fun _ => nofun, fun _ => ?_⟩
  apply concludes_bind.mpr
  refine concluded_byRules nofun fun result _ => ?_
  exact storePlay_concluded _ _ _ _ _ _ _ rest

/-- The expiry of the session is the one exception after a commit. -/
theorem playSession_concluded {returns : Outcome → Stage → Prop}
    (expires : late .sessionExpired) (sessionId ownerId : Uuid) (intent : PlayIntent)
    (provider : OutcomeProvider) (draw : PlayDraw)
    (rest : ∀ value stage, returns value stage) :
    Concluded late returns (playSession env sessionId ownerId intent provider draw) := by
  simp only [playSession, lockSession, concludes_bind, concluded_readForUpdate,
    concluded_orRaise, concluded_require, concluded_clock, traceless_iff]
  intro db
  refine ⟨fun _ => by simp, fun gameSession _ => ⟨fun _ => by simp, fun _ now => ?_⟩⟩
  apply finalizeExpiredSession_concluded
  intro finalized
  split
  · exact expires
  split
  · exact replayPlay_concluded _ _ rest
  · exact playActive_concluded _ _ _ _ _ _ rest

/-- A claim of a reward that is no longer issued is refused, and a claimed one is answered. -/
theorem claimSessionReward_concluded {returns : Reward → Stage → Prop}
    (sessionId ownerId : Uuid) (rest : ∀ value stage, returns value stage) :
    Concluded late returns (claimSessionReward sessionId ownerId) := by
  simp only [claimSessionReward, lockRewardBySession, concludes_bind, concludes_query]
  intro db
  split
  · simp [missingReward, getSession]
  · next reward _ =>
      simp only [claimLocked, concludes_bind, concluded_require, concluded_clock,
        concludes_ofExcept, traceless_iff]
      refine ⟨fun _ => by simp, fun _ now => ⟨fun error refused => ?_, fun changed _ => ?_⟩⟩
      · unfold claimReward at refused
        split at refused
        · cases refused
        · split at refused <;> cases refused
          simp
      · split
        · simp [rest]
        · simp [gameKeyForReward, saveClaim, rest]

/-- A submission checks the player, the game, the session and the outcome, and commits last.
-/
theorem submitFinalScore_concluded {returns : FinalScore × Bool × PyStr → Stage → Prop}
    (sessionId ownerId scoreId : Uuid) (rest : ∀ value stage, returns value stage) :
    Concluded late returns (submitFinalScore env sessionId ownerId scoreId) := by
  simp only [submitFinalScore, lockSession, getFinalScoreBySession, concludes_bind,
    concluded_readForUpdate, concluded_read, concluded_orRaise, concluded_require,
    traceless_iff]
  intro db
  refine ⟨fun _ => by simp, fun gameSession _ => ⟨fun _ => by simp, fun _ db => ?_⟩⟩
  split
  · simp [getGameById, rest]
  simp only [submitNew, getPlayer, getGameById, concludes_bind, concluded_read,
    concluded_orRaise, concluded_require, traceless_iff]
  intro db
  refine ⟨fun _ => by simp, fun player _ => ⟨fun _ => by simp, fun _ db => ?_⟩⟩
  refine ⟨fun _ => by simp, fun game _ => ?_⟩
  refine concluded_byRules (by simp) fun rules _ => ?_
  simp only [getOutcomeBySession, getConfigById, concludes_bind, concluded_read,
    concluded_orRaise, concluded_require, traceless_iff]
  refine ⟨fun _ => by simp, fun _ => ⟨fun _ => by simp, fun endedAt _ db => ?_⟩⟩
  refine ⟨fun _ => by simp, fun outcome _ => ⟨fun _ => by simp, fun _ db => ?_⟩⟩
  refine ⟨fun _ => by simp, fun config _ => ?_⟩
  refine concluded_byRules (by simp) fun value _ => ?_
  simp [storeScore, addFinalScore, rest]

end Plays

section Settlements

/-- A game without a leaderboard is refused. -/
theorem eligibleLeaderboardGame_concluded {returns : Game → Stage → Prop}
    (gameKey : PyStr) (rest : ∀ game, returns game .uncommitted) :
    Concluded late returns (eligibleLeaderboardGame gameKey) := by
  simp only [eligibleLeaderboardGame, getGame, concludes_bind, concluded_read,
    concluded_orRaise, concluded_require, traceless_iff]
  intro db
  refine ⟨fun _ => nofun, fun game _ => ⟨fun _ => nofun, fun _ => ?_⟩⟩
  exact concluded_byRules nofun fun rules _ => concludes_ret.mpr (rest game)

/-- A game without settlements is refused. -/
theorem eligibleSettlementGame_concluded {returns : Game → Stage → Prop}
    (gameKey : PyStr) (rest : ∀ game, returns game .uncommitted) :
    Concluded late returns (eligibleSettlementGame gameKey) := by
  apply concludes_bind.mpr
  apply eligibleLeaderboardGame_concluded
  intro game
  apply concludes_bind.mpr
  exact concluded_byRules nofun fun rules _ => concludes_ret.mpr (rest game)

theorem findOrAddRecipient_concluded
    {returns : SettlementRecipient × List SettlementRecipient → Stage → Prop}
    (row : SettlementRecipient) (recipients : List SettlementRecipient)
    (rest : ∀ found, returns found .uncommitted) :
    Concluded late returns (findOrAddRecipient row recipients) := by
  unfold findOrAddRecipient
  split
  · exact rest _
  · simp [addSettlementRecipient, rest]

/-- The reward of a recipient is added unless it is there. -/
theorem issueReward_concluded {returns : Unit → Stage → Prop}
    (recipient : SettlementRecipient) (gameKey : PyStr) (rewardId : Uuid)
    (rest : returns () .uncommitted) :
    Concluded late returns (issueReward recipient gameKey rewardId) := by
  simp only [issueReward, settlementReward, concludes_bind, concluded_read]
  intro db
  split
  · exact rest
  · simp [addSettlementReward, rest]

theorem tierReward_traceless {tier : Json} {error : ServiceError}
    (refused : tierReward tier = .error error) : Traceless error := by
  unfold tierReward at refused
  split at refused
  · split at refused <;> cases refused
    exact nofun
  · cases refused
    exact nofun

theorem payloadTiers_traceless {payload : Json} {error : ServiceError}
    (refused : payloadTiers payload = .error error) : Traceless error := by
  unfold payloadTiers at refused
  split at refused
  · split at refused <;> cases refused
    exact nofun
  · cases refused
    exact nofun

/-- The recipients and rewards of the ranks; the induction is on the scores of the board. -/
theorem settleRanks_concluded {returns : Unit → Stage → Prop} (run : SettlementRun)
    (tiers : List Json) (gameKey : PyStr) (draw : SettlementDraw)
    (scores : List (FinalScore × Nat)) (recipients : List SettlementRecipient)
    (rest : returns () .uncommitted) :
    Concluded late returns (settleRanks run tiers gameKey draw scores recipients) := by
  induction scores generalizing recipients with
  | nil => exact rest
  | cons score scores ih =>
      simp only [settleRanks]
      split
      · exact ih recipients
      · apply concludes_bind.mpr
        refine concludes_ofExcept.mpr ⟨fun _ => tierReward_traceless, fun value _ => ?_⟩
        apply concludes_bind.mpr
        apply findOrAddRecipient_concluded
        intro found
        apply concludes_bind.mpr
        apply issueReward_concluded
        exact ih found.2

/-- A run is opened with the tiers of the present configuration, or resumed with its own. -/
theorem openRun_concluded {returns : SettlementRun × List Json → Stage → Prop}
    (existing : Option SettlementRun) (gameId : Uuid) (periodStart periodEnd : Int)
    (runId : Uuid) (rest : ∀ opened, returns opened .uncommitted) :
    Concluded late returns (openRun existing gameId periodStart periodEnd runId) := by
  cases existing with
  | none =>
      simp only [openRun, settlementTierConfig, addSettlementRun, concludes_bind,
        concluded_read, concluded_orRaise, concludes_ofExcept, concluded_update,
        refuses_insertRun, true_and, Program.pure_eq, concludes_ret]
      intro db
      refine ⟨fun _ => by simp, fun config _ => ?_⟩
      exact ⟨fun _ => payloadTiers_traceless, fun tiers _ => rest _⟩
  | some run =>
      simp only [openRun, concludes_bind, concludes_ofExcept, Program.pure_eq,
        concludes_ret]
      exact ⟨fun _ => payloadTiers_traceless, fun tiers _ => rest _⟩

/-- A settlement commits once, after the last rank. -/
theorem settleLeaderboard_concluded
    {returns : SettlementRun × List SettlementRecipient → Stage → Prop}
    (gameKey : PyStr) (periodStart : Int) (authorized : Bool) (draw : SettlementDraw)
    (rest : ∀ value stage, returns value stage) :
    Concluded late returns (settleLeaderboard gameKey periodStart authorized draw) := by
  simp only [settleLeaderboard, concludes_bind, concluded_require, traceless_iff]
  refine ⟨fun _ => by simp, fun _ => ⟨fun _ => by simp, fun _ => ?_⟩⟩
  apply eligibleSettlementGame_concluded
  intro game
  simp only [lockGameById, settlementRun, concludes_bind, concluded_readForUpdate,
    concluded_read]
  intro db db'
  unfold settleOnce
  split
  · simp [settlementRecipients, rest]
  simp only [concludes_bind, concluded_clock, concluded_require, traceless_iff]
  refine fun now => ⟨fun _ => by simp, fun _ => ?_⟩
  apply concludes_bind.mpr
  apply openRun_concluded
  intro opened
  simp only [settlementRecipients, concludes_bind, concluded_read]
  intro db db'
  apply settleRanks_concluded
  simp [completeRun, saveSettlementRun, settlementRecipients, rest]

end Settlements

section Reads

theorem ownedOutcome_concluded {returns : Outcome × GameSession → Stage → Prop}
    (outcomeId ownerId : Uuid) (rest : ∀ owned, returns owned .uncommitted) :
    Concluded late returns (ownedOutcome outcomeId ownerId) := by
  simp [ownedOutcome, getOutcome, getSession, rest]

/-- A proof that is not revealed is refused; nothing is written. -/
theorem retrieveFairnessProof_concluded
    {returns : RevealedFairnessProof × List RewardBand → Stage → Prop}
    (outcomeId ownerId : Uuid) (rest : ∀ value, returns value .uncommitted) :
    Concluded late returns (retrieveFairnessProof env outcomeId ownerId) := by
  apply concludes_bind.mpr
  apply ownedOutcome_concluded
  intro owned
  simp only [getFairnessProofByOutcome, getConfigById, concludes_bind, concluded_read,
    concluded_orRaise, concludes_ofExcept, traceless_iff]
  intro db
  refine ⟨fun _ => by simp, fun proof _ => ⟨fun error refused => ?_, fun revealed _ db => ?_⟩⟩
  · unfold asRevealedProof at refused
    split at refused
    · split at refused <;> cases refused
      simp
    · cases refused
      simp
  · refine ⟨fun _ => by simp, fun config _ => ?_⟩
    exact concluded_byRules (by simp) fun bands _ => concludes_ret.mpr (rest _)

/-- Hashing an event fails on its text only. -/
theorem expectedEventHash_error {event : FairnessProofEvent} {error : ServiceError}
    (failed : expectedEventHash env event = .error error) :
    error = .unicodeEncodeError := by
  unfold expectedEventHash at failed
  split at failed
  · split at failed <;> cases failed
    rfl
  · split at failed <;> cases failed

/-- The walk along the chain fails on the text of an event only. -/
theorem checkEventLinks_error {sequence : Nat} {previous : Option PyStr}
    {events : List FairnessProofEvent} {error : ServiceError}
    (failed : checkEventLinks env sequence previous events = .error error) :
    error = .unicodeEncodeError := by
  induction events generalizing sequence previous with
  | nil => cases failed
  | cons event rest ih =>
    unfold checkEventLinks at failed
    split at failed
    · cases failed
    · split at failed
      case h_1 unhashed =>
        cases failed
        exact expectedEventHash_error unhashed
      case h_2 => cases failed
      case h_3 =>
        split at failed
        · cases failed
        · exact ih failed

/-- The check of a chain fails on the text of an event only. -/
theorem verifyFairnessEventChain_error {proof : FairnessProof}
    {events : List FairnessProofEvent} {error : ServiceError}
    (failed : verifyFairnessEventChain env proof events = .error error) :
    error = .unicodeEncodeError := by
  unfold verifyFairnessEventChain at failed
  split at failed
  case h_1 =>
    split at failed
    case h_1 unlinked =>
      cases failed
      exact checkEventLinks_error unlinked
    case h_2 => cases failed
    case h_3 => split_ifs at failed
  case h_2 => cases failed

/-- The recalculation of a verdict raises nothing of a session. -/
theorem verdictOf_traceless {fuel : Nat} {proof : DailySpinProof} {error : ServiceError}
    (failed : verdictOf env fuel proof = .error error) : Traceless error := by
  unfold verdictOf at failed
  split at failed <;> cases failed <;> exact nofun

/-- A verification only reads, and raises no expiry. -/
theorem verifyFairnessProof_concluded
    {returns : RevealedFairnessProof × List RewardBand × PyStr × Bool → Stage → Prop}
    (fuel : Nat) (outcomeId ownerId : Uuid) (rest : ∀ value, returns value .uncommitted) :
    Concluded late returns (verifyFairnessProof env fuel outcomeId ownerId) := by
  apply concludes_bind.mpr
  intro db
  apply concludes_bind.mpr
  apply retrieveFairnessProof_concluded
  intro retrieved
  simp only [concludes_bind, concluded_orRaise, concludes_ofExcept]
  refine ⟨fun _ => ?_, fun proof _ => ⟨fun _ => verdictOf_traceless, fun result _ => ?_⟩⟩
  · exact traceless_iff.mpr (by simp)
  split
  · exact concludes_ret.mpr (rest _)
  · simp only [listFairnessProofEvents, concludes_bind, concluded_read, concludes_ofExcept,
      Program.pure_eq, concludes_ret, traceless_iff]
    intro db
    constructor
    · rintro error failed rfl
      cases verifyFairnessEventChain_error failed
    · exact fun _ _ => rest _

theorem retrieveOutcomeAudit_concluded {returns : Outcome × Json → Stage → Prop}
    (outcomeId ownerId : Uuid) (rest : ∀ value, returns value .uncommitted) :
    Concluded late returns (retrieveOutcomeAudit outcomeId ownerId) := by
  apply concludes_bind.mpr
  apply ownedOutcome_concluded
  intro owned
  simp [getOutcomeAudit, rest]

theorem playerRewards_concluded {returns : List Reward → Stage → Prop}
    (createdAt : Uuid → Int) (playerId ownerId : Uuid) (limit offset : Nat)
    (rest : ∀ value, returns value .uncommitted) :
    Concluded late returns (playerRewards createdAt playerId ownerId limit offset) := by
  simp [playerRewards, getPlayer, listPlayerRewards, rest]

theorem activePlayer_concluded {returns : Unit → Stage → Prop} (playerId : Uuid)
    (rest : returns () .uncommitted) : Concluded late returns (activePlayer playerId) := by
  simp [activePlayer, getPlayer, rest]

/-- A page of the leaderboard is only read. -/
theorem canonicalLeaderboard_concluded {returns : Game × List FinalScore → Stage → Prop}
    (ownerId : Uuid) (gameKey : PyStr) (periodStart : Int) (limit offset : Nat)
    (after : Option ScoreKey) (rest : ∀ value, returns value .uncommitted) :
    Concluded late returns
      (canonicalLeaderboard ownerId gameKey periodStart limit offset after) := by
  apply concludes_bind.mpr
  apply activePlayer_concluded
  apply concludes_bind.mpr
  apply eligibleLeaderboardGame_concluded
  intro game
  simp [rest]

/-- The facts of a projection are only read. -/
theorem leaderboardProjectionFacts_concluded {returns : Game × Nat × Nat → Stage → Prop}
    (ownerId : Uuid) (gameKey : PyStr) (periodStart : Int) (playerId : Option Uuid)
    (rest : ∀ value, returns value .uncommitted) :
    Concluded late returns
      (leaderboardProjectionFacts ownerId gameKey periodStart playerId) := by
  apply concludes_bind.mpr
  refine concluded_require.mpr ⟨fun _ => nofun, fun _ => ?_⟩
  apply concludes_bind.mpr
  apply activePlayer_concluded
  apply concludes_bind.mpr
  apply eligibleLeaderboardGame_concluded
  intro game
  simp [rest]

/-- A rank is only read. -/
theorem canonicalPlayerRank_concluded {returns : FinalScore × Nat → Stage → Prop}
    (playerId ownerId : Uuid) (gameKey : PyStr) (periodStart : Int)
    (rest : ∀ value, returns value .uncommitted) :
    Concluded late returns (canonicalPlayerRank playerId ownerId gameKey periodStart) := by
  apply concludes_bind.mpr
  refine concluded_require.mpr ⟨fun _ => nofun, fun _ => ?_⟩
  apply concludes_bind.mpr
  apply activePlayer_concluded
  apply concludes_bind.mpr
  apply eligibleLeaderboardGame_concluded
  intro game
  simp [rest]

end Reads

/-- The calls that may raise the expiry of a session, which they commit. -/
def Operation.expires : Operation → Bool
  | .request (.commitFairness _ _ _) => true
  | .request (.evaluateFairness _ _ _ _) => true
  | .request (.playSession _ _ _ _ _) => true
  | _ => false

/-- Every exception of a call precedes its commit, but the expiry of a session. -/
theorem operate_concluded (operation : Operation)
    (expires : operation.expires = true → late .sessionExpired) :
    Concluded late (fun _ _ => True) (operate env operation) := by
  have returns : ∀ {ρ : Type} (value : ρ) (stage : Stage), True := fun _ _ => trivial
  have reads : ∀ {ρ : Type} (value : ρ), True := fun _ => trivial
  cases operation with
  | request call =>
      apply concludes_map.mpr
      cases call with
      | createSession =>
          exact concludes_map.mpr (createSession_concluded _ _ _ _ _ returns)
      | retrieveSession =>
          exact concludes_map.mpr (retrieveSession_concluded _ _ returns)
      | retrievePlayerGameState =>
          exact concludes_map.mpr (retrievePlayerGameState_concluded _ _ _ returns)
      | cancelSession => exact concludes_map.mpr (cancelSession_concluded _ _ returns)
      | commitFairness =>
          exact concludes_map.mpr (commitFairness_concluded (expires rfl) _ _ _ returns)
      | evaluateFairness =>
          exact concludes_map.mpr
            (evaluateFairness_concluded (expires rfl) _ _ _ _ returns)
      | playSession =>
          exact concludes_map.mpr
            (playSession_concluded (expires rfl) _ _ _ _ _ returns)
      | submitFinalScore =>
          exact concludes_map.mpr (submitFinalScore_concluded _ _ _ returns)
      | claimSessionReward =>
          exact concludes_map.mpr (claimSessionReward_concluded _ _ returns)
  | settleLeaderboard =>
      exact concludes_map.mpr (settleLeaderboard_concluded _ _ _ _ returns)
  | retrieveFairnessProof =>
      exact concludes_map.mpr (retrieveFairnessProof_concluded _ _ reads)
  | verifyFairnessProof =>
      exact concludes_map.mpr (verifyFairnessProof_concluded _ _ _ reads)
  | retrieveOutcomeAudit =>
      exact concludes_map.mpr (retrieveOutcomeAudit_concluded _ _ reads)
  | playerRewards =>
      exact concludes_map.mpr (playerRewards_concluded _ _ _ _ _ reads)
  | canonicalLeaderboard =>
      exact concludes_map.mpr (canonicalLeaderboard_concluded _ _ _ _ _ _ reads)
  | leaderboardProjectionFacts =>
      exact concludes_map.mpr (leaderboardProjectionFacts_concluded _ _ _ _ reads)
  | canonicalPlayerRank =>
      exact concludes_map.mpr (canonicalPlayerRank_concluded _ _ _ _ reads)

end RngGamePlatform
