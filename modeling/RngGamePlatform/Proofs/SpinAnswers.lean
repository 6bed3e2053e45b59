/-
Module: RngGamePlatform.Proofs.SpinAnswers
Purpose: What the answers to the browser's daily-spin requests say about the proofs and
  their sessions, however the requests are interleaved.
Trusted boundary: none
Main exports: ProofOf, ProofOf.lasting, OwnRows, Tells, answer_tells
-/
import RngGamePlatform.Proofs.PlatformContract
import RngGamePlatform.Proofs.ProvableFairness
import RngGamePlatform.Transactions.Telling

namespace RngGamePlatform

open Encoding Relational Transactions

/-- The stored proofs with their sessions. -/
def bindingsOf (db : Database) : List (Uuid × Uuid) :=
  db.proofs.map fun row => (row.id, row.sessionId)

/-- The proof is stored and was committed for the session. -/
def ProofOf (db : Database) (proofId sessionId : Uuid) : Prop :=
  (proofId, sessionId) ∈ bindingsOf db

/-- The ids of the proofs are unique. -/
def Bound (db : Database) : Prop := ((bindingsOf db).map Prod.fst).Nodup

section Bindings

variable {db db' : Database} {held : List Lock} {proof : FairnessProof}

theorem ProofOf.of_mem (member : proof ∈ db.proofs) : ProofOf db proof.id proof.sessionId :=
  List.mem_map_of_mem member

theorem ProofOf.iff {proofId sessionId : Uuid} : ProofOf db proofId sessionId ↔
    ∃ row ∈ db.proofs, row.id = proofId ∧ row.sessionId = sessionId := by
  simp [ProofOf, bindingsOf]

/-- No commit takes a proof away or gives it to another session. -/
theorem ProofOf.lasting {proofId sessionId : Uuid} (moves : Moves held db db')
    (stored : ProofOf db proofId sessionId) : ProofOf db' proofId sessionId := by
  obtain ⟨row, member, isId, isSession⟩ := ProofOf.iff.mp stored
  obtain ⟨row', member', step⟩ := moves.proofs.mem member
  obtain ⟨sameId, sameSession, -⟩ := step.same
  exact ProofOf.iff.mpr ⟨row', member', sameId.trans isId, sameSession.trans isSession⟩

theorem bound_iff : Bound db ↔ Unique FairnessProof.id db.proofs := by
  have ids : (bindingsOf db).map Prod.fst = db.proofs.map FairnessProof.id := List.map_map
  rw [Unique.iff_nodup, Bound, ids]

/-- A proof has one session. -/
theorem ProofOf.session_eq {proofId sessionId other : Uuid} (sane : Sane db)
    (one : ProofOf db proofId sessionId) (two : ProofOf db proofId other) :
    sessionId = other := by
  obtain ⟨row, member, isId, rfl⟩ := ProofOf.iff.mp one
  obtain ⟨row', member', isId', rfl⟩ := ProofOf.iff.mp two
  rw [sane.proofIds.eq member member' (isId.trans isId'.symm)]

/-- A session has one proof. -/
theorem ProofOf.proof_eq {proofId other sessionId : Uuid} (sane : Sane db)
    (one : ProofOf db proofId sessionId) (two : ProofOf db other sessionId) :
    proofId = other := by
  obtain ⟨row, member, rfl, isSession⟩ := ProofOf.iff.mp one
  obtain ⟨row', member', rfl, isSession'⟩ := ProofOf.iff.mp two
  rw [sane.proofSessions.eq member member' (isSession.trans isSession'.symm)]

/-- Writing a proof over its own row leaves the sessions of the proofs. -/
theorem bindingsOf_replace (isBound : Bound db)
    (stored : ProofOf db proof.id proof.sessionId) :
    bindingsOf { db with proofs := replace FairnessProof.id proof db.proofs } =
      bindingsOf db := by
  apply map_replace
  intro old member same
  obtain ⟨row, inDb, isId, isSession⟩ := ProofOf.iff.mp stored
  have isRow : old = row := (bound_iff.mp isBound).eq member inDb (same.trans isId.symm)
  rw [isRow, isId, isSession]

end Bindings

/-! ### The recovery state -/

/-- The fact that a proof is stored for a session. -/
def Stored (pair : Uuid × Uuid) (db : Database) : Prop := ProofOf db pair.1 pair.2

section Recovery

variable {env : Platform} {known : Uuid × Uuid → Prop}

/-- What a part of a request keeps of the facts. -/
abbrev Keeps {α : Type} (program : Prog α) (known : Uuid × Uuid → Prop) : Prop :=
  program.Recounts Stored Bound (fun _ more => ∀ pair, known pair → more pair) known

/-- A statement that leaves the sessions of the proofs. -/
theorem update_keeps {locks : Database → List Lock}
    {change : Database → Except ServiceError Database}
    (same : ∀ view state, Bound view → (∀ pair, known pair → Stored pair view) →
      change view = .ok state → bindingsOf state = bindingsOf view) :
    Keeps (Program.update locks change) known := by
  refine recounts_update.mpr ⟨?_, fun _ isKnown => isKnown⟩
  intro view state isBound inView changed
  have kept := same view state isBound inView changed
  constructor
  · unfold Bound at isBound ⊢
    rwa [kept]
  · intro pair
    unfold Stored ProofOf
    rw [kept]

theorem saveSession_keeps (gameSession : GameSession) : Keeps (saveSession gameSession) known := by
  apply update_keeps
  intro view state _ _ changed
  obtain ⟨-, rfl⟩ := Database.updateSession_ok.mp changed
  rfl

theorem saveIfChanged_keeps (changed : Bool) (gameSession : GameSession) :
    Keeps (saveIfChanged changed gameSession) known := by
  unfold saveIfChanged
  split
  · exact saveSession_keeps gameSession
  · exact fun _ isKnown => isKnown

theorem orRaise_keeps {α : Type} (error : ServiceError) (found : Option α) :
    Keeps (orRaise error found) known :=
  recounts_orRaise.mpr fun _ _ _ isKnown => isKnown

/-- Ending a proof that was read for its session. -/
theorem endCommittedFairnessProof_keeps {crypto : Crypto} {gameSession : GameSession}
    {proof : FairnessProof} {status : FairnessProofStatus} {now : Int}
    (isKnown : known (proof.id, proof.sessionId)) :
    Keeps (endCommittedFairnessProof crypto gameSession proof status now) known := by
  unfold endCommittedFairnessProof
  split_ifs
  · exact fun _ inKnown => inKnown
  · trivial
  · refine recounts_read.bind fun found more₁ adds₁ _ => ?_
    refine (orRaise_keeps _ found).bind fun previous more₂ adds₂ _ => ?_
    refine recounts_read.bind fun _ more₃ adds₃ _ => ?_
    have adds : ∀ pair, known pair → more₃ pair :=
      fun pair inKnown => adds₃ pair (adds₂ pair (adds₁ pair inKnown))
    have written : Keeps (Program.update
        (fun _ => terminationLocks gameSession (proof.withStatus status))
        (flushTermination gameSession (proof.withStatus status)
          (terminalEvent crypto (proof.withStatus status) previous now))) more₃ := by
      apply update_keeps
      intro view state isBound inView flushed
      have stored : ProofOf view proof.id proof.sessionId := inView _ (adds _ isKnown)
      rw [Runs.flushTermination_result flushed]
      exact bindingsOf_replace isBound stored
    refine written.bind fun _ more₄ adds₄ _ => ?_
    exact fun pair inKnown => adds₄ pair (adds pair inKnown)

theorem finalizeExpiredSession_keeps {crypto : Crypto} (gameSession : GameSession)
    (now : Int) : Keeps (finalizeExpiredSession crypto gameSession now none) known := by
  unfold finalizeExpiredSession
  dsimp only
  split_ifs
  · exact fun _ isKnown => isKnown
  · refine recounts_read.bind fun found more adds read => ?_
    obtain ⟨view, isFound, inView⟩ := read
    cases found with
    | none =>
        refine (saveIfChanged_keeps _ _).bind fun _ more' adds' _ => ?_
        exact fun pair isKnown => adds' pair (adds pair isKnown)
    | some proof =>
        have stored : more (proof.id, proof.sessionId) :=
          (inView _).mpr (ProofOf.of_mem (lookup_mem isFound.symm))
        refine (endCommittedFairnessProof_keeps stored).bind fun ended more' adds' _ => ?_
        have adds'' : ∀ pair, known pair → more' pair :=
          fun pair isKnown => adds' pair (adds pair isKnown)
        split
        · exact adds''
        · refine (saveIfChanged_keeps _ _).bind fun _ last addsLast _ => ?_
          exact fun pair isKnown => addsLast pair (adds'' pair isKnown)

theorem finalizeExpiredSessions_keeps (sessions : List GameSession) (now : Int) :
    Keeps (finalizeExpiredSessions env sessions now) known := by
  induction sessions generalizing known with
  | nil => exact fun _ isKnown => isKnown
  | cons gameSession rest ih =>
      refine (finalizeExpiredSession_keeps gameSession now).bind fun _ more adds _ => ?_
      apply ih.mono
      exact fun _ last _ addsLast pair isKnown => addsLast pair (adds pair isKnown)

/-- The rows of a recovery state belong to its session. -/
def OwnRows (state : PlayerGameState) (stored : Uuid × Uuid → Prop) : Prop :=
  ∀ session, state.gameSession = some session →
    (∀ outcome, state.outcome = some outcome → outcome.sessionId = session.id) ∧
      ∀ proof, state.fairnessProof = some proof → stored (proof.id, session.id)

theorem readRound_coherent (now : Int) (nextPlay : Option Int) (gameKey : PyStr)
    (latest : GameSession) :
    (readRound now nextPlay gameKey latest).Recounts Stored Bound OwnRows known := by
  unfold readRound
  refine recounts_read.bind fun outcome _ _ isOutcome => ?_
  refine recounts_read.bind fun _ _ _ _ => ?_
  refine recounts_read.bind fun proof _ _ isProof => ?_
  refine recounts_read.bind fun _ more adds _ => ?_
  obtain ⟨view, isOutcome, -⟩ := isOutcome
  obtain ⟨view', isProof, inView⟩ := isProof
  intro session isSession
  cases isSession
  constructor
  · intro row isRow
    exact lookup_key (isOutcome.symm.trans isRow)
  · intro row isRow
    have found : proofBySession latest.id view' = some row := isProof.symm.trans isRow
    apply adds
    apply (inView _).mpr
    have stored := ProofOf.of_mem (lookup_mem found)
    rwa [lookup_key found] at stored

theorem nextPlayAt_reads (latest : Option GameSession) (now : Int) :
    (nextPlayAt env latest now).ReadOnly := by
  cases latest with
  | none => trivial
  | some row =>
      exact .bind (.bind (.query _ _) fun _ => .bind (.orRaise _ _) fun _ =>
        byRules_reads _ _) fun _ => trivial

theorem readState_coherent (playerId : Uuid) (game : Game) (now : Int) :
    (readState env playerId game now).Recounts Stored Bound OwnRows known := by
  unfold readState
  refine recounts_read.bind fun latest _ _ _ => ?_
  refine (nextPlayAt_reads latest now).recounts.bind fun nextPlay _ _ _ => ?_
  cases latest with
  | none => exact nofun
  | some row => exact readRound_coherent now nextPlay game.key row

theorem retrievePlayerGameState_coherent (playerId ownerId : Uuid) (gameKey : PyStr) :
    (retrievePlayerGameState env playerId ownerId gameKey).Recounts Stored Bound OwnRows
      known := by
  unfold retrievePlayerGameState
  refine (Program.ReadOnly.require _ _).recounts.bind fun _ _ _ _ => ?_
  refine recounts_read.bind fun foundPlayer _ _ _ => ?_
  refine (orRaise_keeps _ foundPlayer).bind fun player _ _ _ => ?_
  refine recounts_read.bind fun foundGame _ _ _ => ?_
  refine (orRaise_keeps _ foundGame).bind fun game _ _ _ => ?_
  refine recounts_read.bind fun foundConfig _ _ _ => ?_
  refine (orRaise_keeps _ foundConfig).bind fun _ _ _ _ => ?_
  intro now
  refine recounts_read.bind fun expired _ _ _ => ?_
  refine (finalizeExpiredSessions_keeps expired now).bind fun _ _ _ _ => ?_
  refine (readState_coherent player.id game now).bind fun state more _ coherent => ?_
  split
  · exact coherent
  · exact coherent

end Recovery

/-! ### What the answers say -/

/-- What an answer says about the proofs and their sessions. -/
def Tells : Operation → Answer → Database → Prop
  | .request (.commitFairness sessionId _ _), .result (.proof proof), db =>
      ProofOf db proof.id sessionId
  | .request (.evaluateFairness proofId _ _ _), .result (.evaluation outcome _ _), db =>
      ProofOf db proofId outcome.sessionId
  | .request (.retrievePlayerGameState _ _ _), .result (.state state), db =>
      OwnRows state fun pair => Stored pair db
  | _, _, _ => True

section Answers

variable {env : Platform} {db : Database}

/-- The outcome of an evaluation is of the session of its proof. -/
theorem Evaluated.proofOf {calls : List Call} {proofId ownerId : Uuid} {clientSeed : PyStr}
    {outcome : Outcome} {reward : Reward} {proof : FairnessProof}
    (consistent : Consistent env calls db)
    (evaluated : Evaluated env proofId ownerId clientSeed outcome reward proof db) :
    ProofOf db proofId outcome.sessionId := by
  have member : proof ∈ db.proofs := lookup_mem evaluated.stored
  obtain ⟨gameSession, record, commitment, _, evidence⟩ := consistent.proofs proof member
  obtain ⟨_, draw, derivation, _, disclosed, sameOutcome⟩ :=
    evidence.disclosed evaluated.outcomeBound
  have isOutcome : outcome = revealedOutcome gameSession draw.outcomeId derivation := by
    have stored := evaluated.outcomeStored
    rw [← sameOutcome, disclosed.outcome] at stored
    exact (Option.some.inj stored).symm
  have isSession : outcome.sessionId = proof.sessionId := by
    rw [isOutcome]
    exact sessionById_id commitment.session
  have isId : proof.id = proofId := lookup_key evaluated.stored
  rw [isSession, ← isId]
  exact ProofOf.of_mem member

/-- No commit makes an answer untrue. -/
theorem tells_lasting (operation : Operation) (answer : Answer) :
    (bookkeeping env).Lasting (Tells operation answer) := by
  intro held db db' _ _ advances told
  unfold Tells at told ⊢
  split at told
  · exact told.lasting advances.moves
  · exact told.lasting advances.moves
  · intro session isSession
    obtain ⟨outcomes, proofs⟩ := told session isSession
    exact ⟨outcomes, fun proof isProof => (proofs proof isProof).lasting advances.moves⟩
  · trivial

theorem stored_lasting (pair : Uuid × Uuid) : (bookkeeping env).Lasting (Stored pair) :=
  fun _ _ _ _ _ advances stored => stored.lasting advances.moves

/-- Every call tells what its answer says. -/
theorem operate_tells (operation : Operation) :
    (operate env operation).Tells (bookkeeping env) (Tells operation) (fun _ => True) id [] := by
  cases operation with
  | request call =>
      apply tells_map.mpr
      cases call with
      | commitFairness sessionId ownerId draw =>
          apply tells_map.mpr
          have judged := judged_of_runs fun _ db (consistent : Consistent env _ db) =>
            commitFairness_runs (dutyOf_permits env False
              (.commitFairness sessionId ownerId draw) db) consistent.sane
          apply tells_of_meets judged
          · rintro proof phase _ ⟨member, isSession⟩
            exact isSession ▸ ProofOf.of_mem member
          · exact fun proof => tells_lasting (.request (.commitFairness sessionId ownerId draw))
              (.result (.proof proof))
      | evaluateFairness proofId ownerId clientSeed draw =>
          apply tells_map.mpr
          have judged := judged_of_runs fun _ db (consistent : Consistent env _ db) =>
            evaluateFairness_runs (dutyOf_permits env False
              (.evaluateFairness proofId ownerId clientSeed draw) db) consistent.sane
          apply tells_of_meets judged
          · rintro rows phase ⟨⟨calls, consistent⟩, _⟩ evaluated
            exact Evaluated.proofOf consistent evaluated
          · exact fun rows => tells_lasting
              (.request (.evaluateFairness proofId ownerId clientSeed draw))
              (.result (.evaluation rows.1 rows.2.1 rows.2.2))
      | retrievePlayerGameState playerId ownerId gameKey =>
          apply tells_map.mpr
          have recounts : (retrievePlayerGameState env playerId ownerId gameKey).Recounts
              Stored Bound OwnRows fun _ => False :=
            retrievePlayerGameState_coherent playerId ownerId gameKey
          apply tells_of_recounts recounts stored_lasting
          · rintro db ⟨⟨calls, consistent⟩, _⟩
            exact bound_iff.mpr consistent.keys.proofIds
          · intro state known coherent db inDb session isSession
            obtain ⟨outcomes, proofs⟩ := coherent session isSession
            exact ⟨outcomes, fun proof isProof => inDb _ (proofs proof isProof)⟩
          · rintro db ⟨⟨calls, consistent⟩, _⟩ _
            exact ⟨bound_iff.mpr consistent.keys.proofIds, fun _ => Iff.rfl⟩
          · exact fun _ _ _ absurd => absurd.elim
      | _ => exact tells_of_outlined (body_outlined _) fun value db => by cases value <;> trivial
  | _ => exact tells_of_outlined (operate_outlined _) fun value db => by cases value <;> trivial

/-- What a request has answered is true in every reachable state. -/
theorem answer_tells {system : PlatformSystem} (reachable : PlatformReachable env system)
    {index : Nat} {thread : Thread Database Lock Int ServiceError Operation Answer}
    {answer : Answer} (found : system.threads[index]? = some thread)
    (answered : thread.status = .finished (.ok answer)) :
    Tells thread.call answer system.db := by
  have told := Contract.told_of_reachable (C := bookkeeping env) Lock.conflicts_symm
    operate_outlined operate_tells tells_lasting
    (fun _ empty => ⟨⟨[], .catalogueOnly empty.catalogue⟩, .nothingYet empty⟩) reachable
  exact (told index thread found).finished answer answered

end Answers

end RngGamePlatform
