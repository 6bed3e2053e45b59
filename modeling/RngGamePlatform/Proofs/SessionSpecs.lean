/-
Module: RngGamePlatform.Proofs.SessionSpecs
Purpose: The judgements of the requests that lock one session: reading it,
  cancelling it and committing a proof to it.
Trusted boundary: none
Main exports: Permits, Runs.lockedSession, Runs.ownedSession, retrieveSession_runs,
  cancelSession_runs
-/
import RngGamePlatform.Proofs.Termination

namespace RngGamePlatform

open Encoding Relational Transactions

/-- The duty allows what the guarantee of a call allows on `db`, and tolerates
the failures of the database. -/
structure Permits (env : Platform) (call : Call) (db : Database) (duty : Duty) :
    Prop extends duty.Tolerant where
  allows : ∀ {db' held}, Guarantee env call db db' held → duty.guarantee db db' held

/-- The commit of a request that has only ended a session. -/
theorem Terminated.guarantee {env : Platform} {call : Call} {db : Database}
    {gameSession : GameSession} {status : SessionStatus} {now : Int}
    {changes : Database → Database} {held : List Lock}
    (terminated : Terminated env gameSession status now db changes held)
    (unanswered : ¬Answered call db) :
    Guarantee env call db (changes db) held where
  moves := terminated.moves (List.Subset.refl _)
  effects := .one (terminated.effect call)
  answered := fun answered => absurd answered unanswered

namespace Runs

variable {α ρ : Type} {env : Platform} {duty : Duty}
  {good : ρ → Phase Database Lock → Prop} {db : Database} {held : List Lock}

/-- Locking a session that must exist. -/
theorem lockedSession {sessionId : Uuid} {f : GameSession → Prog ρ}
    (rest : ∀ row, sessionById sessionId db = some row → row.id = sessionId →
      Runs duty good (f row) db id (forUpdate (.session row.id) :: held)) :
    Runs duty good
      (lockSession sessionId >>= fun found =>
        RngGamePlatform.orRaise .notFound found >>= f) db id held := by
  refine Runs.lockRow nofun fun row found => ⟨fun db' others => ?_, ?_⟩
  · have isId : row.id = sessionId := sessionById_id found
    rw [isId] at others
    exact (others.sessionById List.mem_cons_self).trans found
  · exact rest row found (sessionById_id found)

/-- Locking a session of the caller. -/
theorem ownedSession {sessionId ownerId : Uuid} {f : GameSession → Prog ρ}
    (rest : ∀ row, sessionById sessionId db = some row → row.id = sessionId →
      row.playerId = ownerId →
      Runs duty good (f row) db id (forUpdate (.session row.id) :: held)) :
    Runs duty good (lockOwnedSession sessionId ownerId >>= f) db id held := by
  unfold lockOwnedSession
  simp only [bind_assoc]
  refine Runs.lockedSession fun row found isId => ?_
  exact Runs.require nofun fun owner => rest row found isId owner

/-- A read of the catalogue or of another table that the others leave alone. -/
theorem readFixed {answer : Database → α} {f : α → Prog ρ}
    (fixed : ∀ db', Others held db db' → answer db' = answer db)
    (rest : Runs duty good (f (answer db)) db id held) :
    Runs duty good (RngGamePlatform.read answer >>= f) db id held :=
  Runs.read fixed rest

/-- The game and the configuration of a session. -/
theorem gameAndConfig {error : ServiceError} {gameId configVersionId : Uuid}
    {f : Game × GameConfigVersion → Prog ρ} (domain : Domain error)
    (rest : ∀ game config, gameById gameId db = some game →
      configById configVersionId db = some config → config.gameId = game.id →
      Runs duty good (f (game, config)) db id held) :
    Runs duty good (RngGamePlatform.gameAndConfig error gameId configVersionId >>= f)
      db id held := by
  unfold RngGamePlatform.gameAndConfig
  simp only [bind_assoc]
  refine Runs.readFixed (fun db' others => others.gameById gameId) ?_
  refine Runs.readFixed (fun db' others => others.configById configVersionId) ?_
  refine Runs.orRaise domain fun game foundGame => ?_
  refine Runs.orRaise domain fun config foundConfig => ?_
  exact Runs.require domain fun belongs =>
    rest game config foundGame foundConfig belongs

end Runs

section Specs

variable {env : Platform} {duty : Duty} {db : Database}

theorem retrieveSession_runs {sessionId ownerId : Uuid}
    (permits : Permits env (.retrieveSession sessionId ownerId) db duty)
    (sane : Sane db) :
    Runs duty (fun _ _ => True) (retrieveSession env sessionId ownerId) db id [] := by
  unfold retrieveSession
  refine Runs.ownedSession fun row found isId _ => ?_
  refine Runs.clock fun now => ?_
  have here : sessionById row.id db = some row := isId ▸ found
  refine Runs.finalize permits.toTolerant sane here List.mem_cons_self
    (fun _ isSome => by cases isSome) ?_ ?_
  · intro held' _ _
    exact Runs.ret trivial
  · intro _ _ changes held' _ terminated
    exact Runs.commitRet (permits.allows (terminated.guarantee id)) trivial

theorem cancelActive_ok {row cancelled : GameSession} {now : Int} :
    cancelActive row now = .ok cancelled ↔
      row.status = .active ∧ endedAs row .cancelled now = cancelled := by
  unfold cancelActive
  by_cases active : row.status = .active
  · simp [active, endedAs]
  · simp [active]

theorem cancelActive_domain {row : GameSession} {now : Int} {error : ServiceError}
    (fails : cancelActive row now = .error error) : Domain error := by
  unfold cancelActive at fails
  split at fails
  · cases fails
    nofun
  · cases fails

/-- Ending the proof of a cancelled session and writing the session. -/
theorem Runs.endCancelled {ρ : Type} {good : ρ → Phase Database Lock → Prop}
    {held : List Lock} {row : GameSession} {now : Int}
    {proof : Option FairnessProof} {f : Unit → Prog ρ} (tolerant : duty.Tolerant)
    (sane : Sane db) (here : sessionById row.id db = some row)
    (active : row.status = .active) (bound : proofBySession row.id db = proof)
    (mine : forUpdate (.session row.id) ∈ held)
    (proofMine : ∀ one, proof = some one → forUpdate (.proof one.id) ∈ held)
    (rest : ∀ changes held', held ⊆ held' →
      Terminated env row .cancelled now db changes held' →
      Runs duty good (f ()) db changes held') :
    Runs duty good (endCancelledProof env (endedAs row .cancelled now) now proof >>= f)
      db id held := by
  cases proof with
  | none =>
      exact Runs.saveEnded sane .cancelled here active
        (fun other isProof => absurd (bound.symm.trans isProof) nofun) mine rest
  | some proof =>
      simp only [endCancelledProof, bind_assoc]
      refine Runs.endCommitted tolerant sane .cancelled here active bound mine
        (proofMine proof rfl) ?_ ?_
      · intro spent
        refine Runs.saveEnded sane .cancelled here active (fun other isProof => ?_)
          mine rest
        cases bound.symm.trans isProof
        exact spent
      · intro _
        exact rest

theorem cancelSession_runs {sessionId ownerId : Uuid}
    (permits : Permits env (.cancelSession sessionId ownerId) db duty)
    (sane : Sane db) :
    Runs duty (fun _ _ => True) (cancelSession env sessionId ownerId) db id [] := by
  unfold cancelSession
  refine Runs.ownedSession fun row found isId _ => ?_
  refine Runs.clock fun now => ?_
  have here : sessionById row.id db = some row := isId ▸ found
  refine Runs.finalize permits.toTolerant sane here List.mem_cons_self
    (fun _ isSome => by cases isSome) ?_ ?_
  · intro held' subset _
    refine Runs.ofExcept (fun error fails => cancelActive_domain fails)
      fun cancelled isCancelled => ?_
    rcases cancelActive_ok.mp isCancelled with ⟨active, rfl⟩
    refine Runs.lockProof (subset List.mem_cons_self)
      fun proof held'' subset' bound proofMine => ?_
    refine Runs.endCancelled permits.toTolerant sane here active bound
      (subset' (subset List.mem_cons_self)) proofMine
      fun changes more _ terminated => ?_
    exact Runs.commitRet (permits.allows (terminated.guarantee id)) trivial
  · intro _ _ changes held' _ terminated
    exact Runs.commitRet (permits.allows (terminated.guarantee id)) trivial

end Specs

end RngGamePlatform
