/-
Module: RngGamePlatform.Proofs.ErrorsLeaveNoTrace
Purpose: What a call leaves behind that raises.
Trusted boundary: none
Main exports: Expired, ExpiryOnly, addressed, ErrorsLeaveNoTrace,
  errors_leave_no_trace
-/
import RngGamePlatform.Proofs.EvidenceConservation
import RngGamePlatform.Proofs.Refusals

namespace RngGamePlatform

open Encoding Relational Transactions

/-- `final` is `db` with the elapsed session ended at `now`, its committed proof
with it, and nothing else. -/
inductive Expired (crypto : Crypto) (gameSession : GameSession) (now : Int)
    (db final : Database) : Prop where
  | alone
      (noneCommitted : ∀ proof, proofBySession gameSession.id db = some proof →
        proof.status ≠ .committed)
      (only : final =
        { db with
          sessions := replace GameSession.id (endedAs gameSession .expired now)
            db.sessions })
  | withProof {proof : FairnessProof} {previous : FairnessProofEvent}
      (bound : proofBySession gameSession.id db = some proof)
      (committed : proof.status = .committed)
      (latest : latestEvent proof.id db = some previous)
      (only : final =
        { db with
          sessions := replace GameSession.id (endedAs gameSession .expired now)
            db.sessions
          proofs := replace FairnessProof.id (proof.withStatus .expired) db.proofs
          custodies := remove FairnessSeedCustody.proofId proof.id db.custodies
          events := db.events ++
            [terminalEvent crypto (proof.withStatus .expired) previous now] })

/-- The finalization of one session as a transaction of its own. -/
def finalizeAlone (crypto : Crypto) (gameSession : GameSession) (now : Int) :
    Prog (Bool × GameSession) := do
  let finalized ← finalizeExpiredSession crypto gameSession now none
  commitWork
  return finalized

/-- `final` is what the finalization of one elapsed session leaves of `db`. -/
structure ExpiryOnly (crypto : Crypto) (sessionId : Uuid) (now : Int)
    (db final : Database) : Prop where
  expired : ∃ gameSession, sessionById sessionId db = some gameSession ∧
    gameSession.status = .active ∧ gameSession.expiresAt ≤ now ∧
    Expired crypto gameSession now db final ∧
    (finalizeAlone crypto gameSession now).run [] db db =
      some (.ok (true, endedAs gameSession .expired now), final)

/-- The session that a call may find elapsed and refuse. -/
def addressed (db : Database) : Operation → Option Uuid
  | .request (.commitFairness sessionId _ _) => some sessionId
  | .request (.evaluateFairness proofId _ _ _) =>
      (proofById proofId db).map FairnessProof.sessionId
  | .request (.playSession sessionId _ _ _ _) => some sessionId
  | _ => none

/-- What a call leaves of `db` that raises, or of which a statement fails. -/
structure ErrorsLeaveNoTrace (env : Platform) (db : Database) (operation : Operation) :
    Prop where
  rolledBack : ∀ times error final,
    (operate env operation).run times db db = some (.error error, final) →
    error ≠ .sessionExpired → final = db
  expired : ∀ times final,
    (operate env operation).run times db db = some (.error .sessionExpired, final) →
    ∃ sessionId now, addressed db operation = some sessionId ∧
      times.head? = some now ∧ ExpiryOnly env.crypto sessionId now db final
  interrupted : ∀ times failure count,
    count < (operate env operation).issued times db →
    ((operate env operation).failing failure count).run times db db =
      some (.error failure, db)

/-- What the end of an elapsed session does to the tables. -/
def expiryOf (crypto : Crypto) (gameSession : GameSession) (now : Int)
    (db : Database) : Except ServiceError Database :=
  match (proofBySession gameSession.id db).filter fun row => row.status = .committed with
  | none => Database.updateSession (endedAs gameSession .expired now) db
  | some proof =>
      match latestEvent proof.id db with
      | none => .error .invalidTransition
      | some previous =>
          flushTermination (endedAs gameSession .expired now)
            (proof.withStatus .expired)
            (terminalEvent crypto (proof.withStatus .expired) previous now) db

section Expiry

variable {env : Platform} {db final : Database} {gameSession : GameSession} {now : Int}

theorem expiryOf_refuses : Refuses (expiryOf env.crypto gameSession now) := by
  intro db error fails
  unfold expiryOf at fails
  split at fails
  · exact refuses_updateSession _ db error fails
  · split at fails
    · cases fails
      exact nofun
    · exact refuses_flushTermination _ _ _ db error fails

theorem expiryOf_expired (changed : expiryOf env.crypto gameSession now db = .ok final) :
    Expired env.crypto gameSession now db final := by
  unfold expiryOf at changed
  split at changed
  · next unbound =>
      have noneCommitted : ∀ proof, proofBySession gameSession.id db = some proof →
          proof.status ≠ .committed := by
        intro proof bound
        simpa [bound] using unbound
      exact .alone noneCommitted (Database.updateSession_ok.mp changed).2.symm
  · next proof bound =>
      have isCommitted := Option.filter_eq_some_iff.mp bound
      split at changed
      · cases changed
      · next previous latest =>
          obtain ⟨first, one, changed⟩ := bind_eq_ok.mp changed
          obtain ⟨second, two, changed⟩ := bind_eq_ok.mp changed
          obtain rfl := (Database.updateSession_ok.mp one).2
          obtain rfl := (Database.updateProof_ok.mp two).2
          exact .withProof isCommitted.1 (of_decide_eq_true isCommitted.2) latest
            (Database.insertEvent_ok.mp changed).2.symm

variable {stuck : Prop} {ok : Bool × GameSession → List Int → Database → Database → Prop}
  {bad : ServiceError → Database → Prop} {times : List Int} {committed : Database}
  {lockedProof : Option FairnessProof}

theorem lockedProofOr_ends {ok : Option FairnessProof → List Int → Database → Database → Prop}
    (isLocked : ∀ proof, lockedProof = some proof →
      proofBySession gameSession.id db = some proof) :
    (lockedProofOr lockedProof gameSession.id).Ends stuck ok bad times committed db ↔
      ok (proofBySession gameSession.id db) times committed db := by
  cases lockedProof with
  | none => exact Iff.rfl
  | some proof =>
      rw [isLocked proof rfl]
      exact Iff.rfl

/-- The end of an elapsed session, run alone. -/
theorem finalizeExpiredSession_due
    (isLocked : ∀ proof, lockedProof = some proof →
      proofBySession gameSession.id db = some proof)
    (active : gameSession.status = .active) (due : gameSession.expiresAt ≤ now)
    (ended : ∀ final, expiryOf env.crypto gameSession now db = .ok final →
      ok (true, endedAs gameSession .expired now) times committed final)
    (fails : ∀ error, expiryOf env.crypto gameSession now db = .error error →
      bad error committed) :
    (finalizeExpiredSession env.crypto gameSession now lockedProof).Ends stuck ok bad
      times committed db := by
  have isDue : expireIfDue gameSession now =
      (true, endedAs gameSession .expired now) := by
    simp [expireIfDue, active, Int.not_lt.mpr due, endedAs]
  simp only [finalizeExpiredSession, isDue, not_true_eq_false, false_and, if_false,
    ends_bind]
  apply (lockedProofOr_ends isLocked).mpr
  unfold expiryOf at ended fails
  cases bound : proofBySession gameSession.id db with
  | none =>
      simp only [bound, Option.filter_none] at ended fails
      simp only [saveIfChanged, saveSession, if_true, ends_bind]
      exact ends_update.mpr ⟨ended, fails⟩
  | some proof =>
      by_cases isCommitted : proof.status = .committed
      case neg =>
        simp only [bound, Option.filter_some, isCommitted, decide_false,
          Bool.false_eq_true, if_false] at ended fails
        simp only [endCommittedFairnessProof, ne_eq, isCommitted, not_false_eq_true,
          if_true, saveIfChanged, saveSession, ends_bind, ends_ret, Bool.false_eq_true,
          if_false]
        exact ends_update.mpr ⟨ended, fails⟩
      case pos =>
        simp only [bound, Option.filter_some, isCommitted, decide_true, if_true]
          at ended fails
        simp only [endCommittedFairnessProof, ne_eq, isCommitted, not_true_eq_false,
          if_false, false_and, lockLatestFairnessProofEvent, readForUpdate, orRaise,
          getFairnessSeedCustody, read, ends_bind, ends_query]
        cases latest : latestEvent proof.id db with
        | none =>
            simp only [latest] at fails
            exact fails _ rfl
        | some previous =>
            simp only [latest] at ended fails
            simp only [ends_orRaise_some, ends_bind, ends_query]
            exact ends_update.mpr ⟨ended, fails⟩

/-- Of a session that is not active or not due nothing is left to end. -/
theorem finalizeExpiredSession_idle (sane : Sane db)
    (found : sessionById gameSession.id db = some gameSession)
    (isLocked : ∀ proof, lockedProof = some proof →
      proofBySession gameSession.id db = some proof)
    (pending : gameSession.status = .active → now < gameSession.expiresAt)
    (idle : ok (false, gameSession) times committed db) :
    (finalizeExpiredSession env.crypto gameSession now lockedProof).Ends stuck ok bad
      times committed db := by
  have notDue : expireIfDue gameSession now = (false, gameSession) := by
    unfold expireIfDue
    by_cases active : gameSession.status = .active
    · simp [pending active]
    · simp [active]
  simp only [finalizeExpiredSession, notDue, Bool.false_eq_true, not_false_eq_true,
    true_and]
  by_cases expired : gameSession.status = .expired
  case neg =>
    simp only [ne_eq, expired, not_false_eq_true, if_true]
    exact idle
  case pos =>
    simp only [ne_eq, expired, not_true_eq_false, if_false, ends_bind]
    apply (lockedProofOr_ends isLocked).mpr
    cases bound : proofBySession gameSession.id db with
    | none => exact idle
    | some proof =>
        have spent : proof.status ≠ .committed := by
          intro isCommitted
          obtain ⟨row, foundRow, isActive⟩ :=
            sane.committedActive proof (lookup_mem bound) isCommitted
          rw [lookup_key bound, found] at foundRow
          cases foundRow
          rw [expired] at isActive
          cases isActive
        simp only [endCommittedFairnessProof, ne_eq, spent, not_false_eq_true, if_true]
        exact idle

/-- The finalization of a session of the tables, run alone. -/
theorem finalizeExpiredSession_ends (sane : Sane db)
    (found : sessionById gameSession.id db = some gameSession)
    (isLocked : ∀ proof, lockedProof = some proof →
      proofBySession gameSession.id db = some proof)
    (idle : ok (false, gameSession) times committed db)
    (ended : gameSession.status = .active → gameSession.expiresAt ≤ now → ∀ final,
      expiryOf env.crypto gameSession now db = .ok final →
      ok (true, endedAs gameSession .expired now) times committed final)
    (fails : ∀ error, Traceless error → bad error committed) :
    (finalizeExpiredSession env.crypto gameSession now lockedProof).Ends stuck ok bad
      times committed db := by
  by_cases due : gameSession.status = .active ∧ gameSession.expiresAt ≤ now
  case pos =>
    exact finalizeExpiredSession_due isLocked due.1 due.2 (ended due.1 due.2)
      fun error failed => fails error (expiryOf_refuses db error failed)
  case neg =>
    exact finalizeExpiredSession_idle sane found isLocked
      (fun active => Int.not_le.mp fun isDue => due ⟨active, isDue⟩) idle

/-- The committed end of an elapsed session is what its finalization leaves. -/
theorem expiryOf_only (found : sessionById gameSession.id db = some gameSession)
    (active : gameSession.status = .active) (due : gameSession.expiresAt ≤ now)
    (changed : expiryOf env.crypto gameSession now db = .ok final) :
    ExpiryOnly env.crypto gameSession.id now db final where
  expired := by
    refine ⟨gameSession, found, active, due, expiryOf_expired changed, ?_⟩
    apply Program.Ends.returns
    apply ends_bind.mpr
    refine finalizeExpiredSession_due (fun _ same => by cases same) active due
      (fun middle same => ?_)
      fun error failed => ?_
    case refine_2 => cases changed.symm.trans failed
    obtain rfl : middle = final := Except.ok.inj (same.symm.trans changed)
    exact ⟨rfl, rfl⟩

end Expiry

section Calls

variable {env : Platform} {db final : Database} {times : List Int} {error : ServiceError}
  {sessionId : Uuid} {start : List Int}

/-- The expiry of the session at the first instant read is what was committed. -/
def Explained (crypto : Crypto) (sessionId : Uuid) (start : List Int) (db : Database)
    (error : ServiceError) (final : Database) : Prop :=
  error = .sessionExpired →
    ∃ now, start.head? = some now ∧ ExpiryOnly crypto sessionId now db final

theorem Traceless.explained (traceless : Traceless error) :
    Explained env.crypto sessionId start db error final :=
  fun same => absurd same traceless

/-- The rest of a call whose session is not due. -/
theorem explained_rest {ρ : Type} {program : Prog ρ} {committed view : Database}
    (concluded : Concluded (fun _ => False) (fun _ _ => True) program) :
    program.Ends True (fun _ _ _ _ => True) (Explained env.crypto sessionId start db)
      times committed view :=
  concluded.ends.weaken (fun _ _ _ _ _ => trivial)
    fun _ _ traceless => traceless.1.explained

/-- The expiry of a locked session, and the rest of the call. -/
theorem explained_finalize {ρ : Type} {gameSession : GameSession} {now : Int}
    {lockedProof : Option FairnessProof} {rest : Bool × GameSession → Prog ρ}
    (sane : Sane db) (found : sessionById gameSession.id db = some gameSession)
    (isLocked : ∀ proof, lockedProof = some proof →
      proofBySession gameSession.id db = some proof)
    (first : start.head? = some now)
    (idle : Concluded (fun _ => False) (fun _ _ => True) (rest (false, gameSession)))
    (ended : ∀ row, rest (true, row) = commitWork >>= fun _ => raise .sessionExpired) :
    (finalizeExpiredSession env.crypto gameSession now lockedProof).Ends True
      (fun finalized => (rest finalized).Ends True (fun _ _ _ _ => True)
        (Explained env.crypto gameSession.id start db))
      (Explained env.crypto gameSession.id start db) times db db := by
  apply finalizeExpiredSession_ends sane found isLocked
  case idle => exact explained_rest idle
  case ended =>
    intro active due last changed
    rw [ended]
    exact fun _ => ⟨now, first, expiryOf_only found active due changed⟩
  case fails => exact fun error traceless => traceless.explained

theorem commitFairness_explained {ownerId : Uuid} {draw : CommitDraw} (sane : Sane db) :
    (commitFairness env sessionId ownerId draw).Ends True (fun _ _ _ _ => True)
      (Explained env.crypto sessionId times db) times db db := by
  simp only [commitFairness, lockSession, readForUpdate, orRaise, require, clock,
    ends_bind, ends_query]
  cases found : sessionById sessionId db with
  | none => exact Traceless.explained (by simp)
  | some gameSession =>
      obtain rfl := sessionById_id found
      simp only [ends_orRaise_some, ends_bind, ends_require]
      refine ⟨fun _ => ?_, fun _ => Traceless.explained (by simp)⟩
      cases times with
      | nil => trivial
      | cons now times =>
          simp only [ends_clock_cons, ends_bind]
          exact explained_finalize sane found (fun _ same => by cases same) rfl
            (commitLocked_concluded _ _ _ _ fun _ _ => trivial) fun _ => rfl

theorem playSession_explained {ownerId : Uuid} {intent : PlayIntent}
    {provider : OutcomeProvider} {draw : PlayDraw} (sane : Sane db) :
    (playSession env sessionId ownerId intent provider draw).Ends True
      (fun _ _ _ _ => True) (Explained env.crypto sessionId times db) times db db := by
  simp only [playSession, lockSession, readForUpdate, orRaise, require, clock,
    ends_bind, ends_query]
  cases found : sessionById sessionId db with
  | none => exact Traceless.explained (by simp)
  | some gameSession =>
      obtain rfl := sessionById_id found
      simp only [ends_orRaise_some, ends_bind, ends_require]
      refine ⟨fun _ => ?_, fun _ => Traceless.explained (by simp)⟩
      cases times with
      | nil => trivial
      | cons now times =>
          simp only [ends_clock_cons, ends_bind]
          refine explained_finalize sane found (fun _ same => by cases same) rfl ?_
            fun _ => rfl
          simp only [Bool.false_eq_true, if_false]
          split
          · exact replayPlay_concluded _ _ fun _ _ => trivial
          · exact playActive_concluded _ _ _ _ _ _ fun _ _ => trivial

theorem evaluateFairness_explained {proofId ownerId : Uuid} {clientSeed : PyStr}
    {draw : EvaluateDraw} {proof : FairnessProof} (sane : Sane db)
    (found : proofById proofId db = some proof) :
    (evaluateFairness env proofId ownerId clientSeed draw).Ends True
      (fun _ _ _ _ => True) (Explained env.crypto proof.sessionId times db) times db
      db := by
  simp only [evaluateFairness, getFairnessProof, lockSession, lockFairnessProof,
    readForUpdate, read, orRaise, require, ends_bind, ends_query, found,
    Option.map_some, ends_orRaise_some, ends_require]
  refine ⟨fun _ => ?_, fun _ => Traceless.explained (by simp)⟩
  cases foundSession : sessionById proof.sessionId db with
  | none => exact Traceless.explained (by simp)
  | some gameSession =>
      have ofSession := sessionById_id foundSession
      rw [← ofSession] at foundSession
      have bound : proofBySession gameSession.id db = some proof :=
        sane.proofSessions.lookup (lookup_mem found) ofSession.symm
      simp only [ends_orRaise_some, ends_bind, ends_query, found]
      rw [← ofSession]
      unfold evaluateLocked
      split
      · exact explained_rest (replayEvaluation_concluded _ _ fun _ _ => trivial)
      simp only [clock, ends_bind]
      cases times with
      | nil => trivial
      | cons now times =>
          simp only [ends_clock_cons, ends_bind]
          refine explained_finalize sane foundSession (fun row same => ?_) rfl
            (evaluateCommitted_concluded _ _ _ _ _ _ _ fun _ _ => trivial) fun _ => rfl
          cases same
          exact bound

/-- What the explanation of every exception says about a run of the call. -/
theorem explained_run {ρ : Type} {program : Prog ρ} {result : ρ → Result}
    (ends : program.Ends True (fun _ _ _ _ => True)
      (Explained env.crypto sessionId times db) times db db)
    (ran : (Answer.result <$> result <$> program).run times db db =
      some (.error .sessionExpired, final)) :
    ∃ now, times.head? = some now ∧ ExpiryOnly env.crypto sessionId now db final := by
  have endsCall : (Answer.result <$> result <$> program).Ends True
      (fun answer _ last _ => ∀ error, (.ok answer : Except ServiceError Answer) =
        .error error → Explained env.crypto sessionId times db error last)
      (fun error last => ∀ error', (.error error : Except ServiceError Answer) =
        .error error' → Explained env.crypto sessionId times db error' last)
      times db db := by
    simp only [ends_map]
    refine ends.weaken (fun _ _ _ _ _ _ same => by cases same) ?_
    intro error last explained _ same
    cases same
    exact explained
  have explained := @Program.Ends.run _ _ _ _ _ True (fun result last =>
    ∀ error, result = .error error →
      Explained env.crypto sessionId times db error last) times db db _ _ _ endsCall ran
  exact explained _ rfl rfl

/-- A call that addresses no session never raises its expiry. -/
theorem expires_of_expired {operation : Operation}
    (ran : (operate env operation).run times db db =
      some (.error .sessionExpired, final)) : operation.expires = true := by
  by_contra never
  have concluded : Concluded (fun _ => False) (fun _ _ => True) (operate env operation) :=
    operate_concluded operation fun expires => never expires
  obtain ⟨traceless, _⟩ | impossible := concluded.run ran
  · exact traceless rfl
  · exact impossible

/-- A call that finds its session elapsed leaves its finalization and nothing else. -/
theorem expired_only {operation : Operation} (sane : Sane db)
    (ran : (operate env operation).run times db db =
      some (.error .sessionExpired, final)) :
    ∃ sessionId now, addressed db operation = some sessionId ∧
      times.head? = some now ∧ ExpiryOnly env.crypto sessionId now db final := by
  have expires := expires_of_expired ran
  unfold Operation.expires at expires
  split at expires
  · obtain ⟨now, first, only⟩ := explained_run (commitFairness_explained sane) ran
    exact ⟨_, now, rfl, first, only⟩
  · next proofId ownerId clientSeed draw =>
      cases found : proofById proofId db with
      | none =>
          simp [operate, body, evaluateFairness, getFairnessProof, read, Program.query,
            Program.run, orRaise, Program.orRaise, found] at ran
      | some proof =>
          obtain ⟨now, first, only⟩ :=
            explained_run (evaluateFairness_explained sane found) ran
          exact ⟨_, now, by simp [addressed, found], first, only⟩
  · obtain ⟨now, first, only⟩ := explained_run (playSession_explained sane) ran
    exact ⟨_, now, rfl, first, only⟩
  · cases expires

end Calls

/-- In every reachable state an exception of a call leaves the tables as they were,
but for the end of the session whose expiry it reports; and so does the failure of
any statement. -/
theorem errors_leave_no_trace {env : Platform} {db : Database}
    (reachable : ReachableState env db) (operation : Operation) :
    ErrorsLeaveNoTrace env db operation := by
  obtain ⟨system, reached, rfl⟩ := reachable
  obtain ⟨⟨calls, consistent⟩, _⟩ := (platform_sound reached).inv
  have concluded : Concluded (fun error => error = .sessionExpired) (fun _ _ => True)
      (operate env operation) := operate_concluded operation fun _ => rfl
  constructor
  case rolledBack =>
    intro times error final ran notExpired
    obtain ⟨_, unchanged⟩ | expired := concluded.run ran
    · exact unchanged
    · exact absurd expired notExpired
  case expired =>
    intro times final ran
    exact expired_only consistent.sane ran
  case interrupted =>
    intro times failure count reached
    exact concluded.failing reached

namespace Sample

/-- A daily spin is created and committed. -/
def committedLabels : List (Label Int Operation) :=
  calling (.request spin) 0 13 1000 ++ calling (.request commitSpin) 1 10 2000

/-- The evaluation of the committed proof after its session has elapsed. -/
def evaluatedLate (db : Database) : Option (Except ServiceError Answer × Database) :=
  (operate platform (.request evaluateSpin)).run [10 ^ 13] db db

theorem committed_followed :
    (operated committedLabels).bind (fun system => (evaluatedLate system.db).map fun run =>
      (run.1.toOption.isNone, run.2.sessions.map GameSession.status,
        run.2.proofs.map FairnessProof.status, run.2.custodies.length,
        run.2.events.map FairnessProofEvent.status)) =
      some (true, [.expired], [.expired], 0, [.committed, .expired]) := by
  decide +kernel

theorem committed_runs : (operated committedLabels).isSome = true := by
  obtain ⟨system, isRun, -⟩ := Option.bind_eq_some_iff.mp committed_followed
  exact Option.isSome_of_eq_some isRun

@[irreducible] def committedSpin : PlatformSystem :=
  (operated committedLabels).get committed_runs

theorem committedSpin_reachable : ReachableState platform committedSpin.db := by
  refine ⟨committedSpin, ?_, rfl⟩
  unfold committedSpin
  exact operated_reachable (Option.some_get committed_runs).symm

def lateEvaluation : Option (Except ServiceError Answer × Database) :=
  evaluatedLate committedSpin.db

end Sample

/-- An evaluation that comes too late ends its session and its proof. -/
theorem errors_leave_no_trace_late :
    ((Sample.lateEvaluation.map fun run =>
      (run.1.toOption.isNone, run.2.sessions.map GameSession.status,
        run.2.proofs.map FairnessProof.status, run.2.custodies.length,
        run.2.events.map FairnessProofEvent.status)) =
      some (true, [.expired], [.expired], 0, [.committed, .expired])) ∧
      ErrorsLeaveNoTrace Sample.platform Sample.committedSpin.db
        (.request Sample.evaluateSpin) := by
  constructor
  · obtain ⟨system, isRun, facts⟩ := Option.bind_eq_some_iff.mp Sample.committed_followed
    unfold Sample.lateEvaluation Sample.committedSpin
    rw [Option.get_of_eq_some Sample.committed_runs isRun]
    exact facts
  · exact errors_leave_no_trace Sample.committedSpin_reachable _

end RngGamePlatform
