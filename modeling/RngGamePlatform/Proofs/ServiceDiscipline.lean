/-
Module: RngGamePlatform.Proofs.ServiceDiscipline
Purpose: The requests of the platform keep one discipline: the invariant of the
  tables, the answers they give and the failures they never meet.
Trusted boundary: none
Main exports: service, service_lawful, InOrder, service_sound, ordered_sound
-/
import RngGamePlatform.Proofs.FairnessSpecs
import RngGamePlatform.Proofs.SessionOrder
import RngGamePlatform.Transactions.Atomicity

namespace RngGamePlatform

open Encoding Relational Transactions

/-!
The discipline has a parameter: whether the sessions of a run are created in the
order of their instants.  Only then is the active session the latest one.
-/

variable (env : Platform) (ordered : Prop)

/-- The failures of the database that no request may meet. -/
def Tolerated (error : ServiceError) : Prop :=
  error ≠ .integrity .fairnessProofsFinalizedImmutable ∧
    (ordered → error ≠ .integrity .uqActiveSessionPlayerGame)

/-- The discipline of the services. -/
def service : Discipline Database Lock Int ServiceError Call Result Result where
  conflicts := Lock.conflicts
  body := body env
  settled := settled
  inv := fun calls db => Consistent env calls db ∧ (ordered → ActiveIsLatest db)
  admitted := fun db db' => ordered → CreatedInOrder db db'
  guarantee := Guarantee env
  fact := Fact env
  failure := fun _ => Tolerated ordered

/-- What the discipline asks of one call. -/
def dutyOf (call : Call) : Duty where
  guarantee := Guarantee env call
  fails := Tolerated ordered
  domain := fun domain => ⟨domain _, fun _ => domain _⟩

theorem dutyOf_permits (call : Call) (db : Database) :
    Permits env call db (dutyOf env ordered call) where
  integrity := fun notImmutable notActive =>
    ⟨fun same => notImmutable (ServiceError.integrity.inj same),
      fun _ same => notActive (ServiceError.integrity.inj same)⟩
  allows := fun guarantee => guarantee

variable {env ordered}

/-- Creating a session meets the uniqueness of the active session only when
sessions are created out of order. -/
theorem dutyOf_conflict {call : Call} {db : Database}
    (latest : ordered → ActiveIsLatest db) :
    (dutyOf env ordered call).fails (.integrity .uqActiveSessionPlayerGame) ∨
      ActiveIsLatest db := by
  by_cases isOrdered : ordered
  · exact Or.inr (latest isOrdered)
  · exact Or.inl ⟨nofun, fun isOrdered' => absurd isOrdered' isOrdered⟩

theorem service_rely {calls : List Call} {held : List Lock} {db db' : Database}
    (relied : (service env ordered).Rely calls held db db') : Others held db db' := by
  rcases relied with ⟨call, held', _, apart, _, _, guarantee⟩
  exact ⟨held', apart, guarantee.moves⟩

/-- A judgement of the settled program of a call is one of the discipline. -/
theorem service_judged {calls : List Call} {call : Call} {db : Database}
    (runs : Runs (dutyOf env ordered call) (fun result phase =>
      Fact env call result phase.db) (settled <$> body env call) db id []) :
    (service env ordered).Judged calls call db := by
  refine runs.weaken (fun _ _ _ => service_rely) (fun _ _ _ => id)
    (fun _ => id) fun result phase ended => ?_
  cases result with
  | ok value => exact ended
  | error error => exact ended

/-- Every call passes its judgement. -/
theorem body_runs {calls : List Call} (call : Call) {db : Database}
    (consistent : Consistent env calls db) (latest : ordered → ActiveIsLatest db) :
    Runs (dutyOf env ordered call) (fun result phase => Fact env call result phase.db)
      (settled <$> body env call) db id [] := by
  have sane := consistent.sane
  have permits := dutyOf_permits env ordered call db
  cases call with
  | createSession requestId playerId ownerId gameKey draw =>
      have same : settled <$> body env (.createSession requestId playerId ownerId
          gameKey draw) = Result.session <$> roundOf <$>
            createSession env requestId playerId ownerId gameKey draw := by
        simp only [body, Functor.map_map, settled]
      rw [same]
      exact Runs.map (createSession_runs permits sane (dutyOf_conflict latest))
  | retrieveSession sessionId ownerId =>
      exact Runs.map (Runs.map (retrieveSession_runs permits sane))
  | retrievePlayerGameState playerId ownerId gameKey =>
      have same : settled <$> body env (.retrievePlayerGameState playerId ownerId
          gameKey) = Result.state <$> (fun _ => emptyState 0 []) <$>
            retrievePlayerGameState env playerId ownerId gameKey := by
        simp only [body, Functor.map_map, settled]
      rw [same]
      exact Runs.map (retrievePlayerGameState_runs permits sane)
  | cancelSession sessionId ownerId =>
      exact Runs.map (Runs.map (cancelSession_runs permits sane))
  | commitFairness sessionId ownerId draw =>
      have runs := commitFairness_runs permits sane
      exact Runs.map (Runs.map (runs.mono fun _ _ _ => trivial))
  | evaluateFairness proofId ownerId clientSeed draw =>
      exact Runs.map (Runs.map (evaluateFairness_runs permits sane))
  | playSession sessionId ownerId intent provider draw =>
      exact Runs.map (Runs.map (playSession_runs permits sane))
  | submitFinalScore sessionId ownerId scoreId =>
      exact Runs.map (Runs.map (submitFinalScore_runs permits))
  | claimSessionReward sessionId ownerId =>
      exact Runs.map (Runs.map (claimSessionReward_runs permits sane))

/-- Every commit keeps the invariant of the discipline. -/
theorem service_preserved {calls : List Call} {call : Call} {db db' : Database}
    {held : List Lock} (known : call ∈ calls)
    (inv : (service env ordered).inv calls db)
    (admitted : (service env ordered).admitted db db')
    (guarantee : Guarantee env call db db' held) :
    (service env ordered).inv calls db' := by
  rcases inv with ⟨consistent, latest⟩
  have consistent' := guarantee.effects.consistent consistent known
  refine ⟨consistent', fun isOrdered => ?_⟩
  exact (latest isOrdered).preserved consistent.keys consistent'.keys
    consistent'.rounds guarantee.moves guarantee.effects.starts (admitted isOrdered)

theorem service_lawful : (service env ordered).Lawful where
  symmetric := Lock.conflicts_symm
  grows := fun inv =>
    ⟨inv.1.grows (List.subset_append_left _ _), inv.2⟩
  judged := fun _ inv => service_judged (body_runs _ inv.1 inv.2)
  preserved := service_preserved
  lasting := fun _ _ _ guarantee fact => fact.lasting guarantee.moves

/-! ### Runs of the platform -/

theorem ActiveIsLatest.catalogueOnly {db : Database} (empty : CatalogueOnly db) :
    ActiveIsLatest db := by
  intro row member
  rw [empty.sessions] at member
  cases member

/-- The step creates sessions in the order of their instants. -/
def InOrder (env : Platform) (system : ServiceSystem) (label : Label Int Call) :
    Prop :=
  ∀ next, system.step Lock.conflicts (body env) label = some next →
    CreatedInOrder system.db next.db

/-- Every reachable system is sound. -/
theorem service_sound {allowed : ServiceSystem → Label Int Call → Prop}
    {system : ServiceSystem} (reachable : ServiceReachable env allowed system) :
    (service env False).Sound system :=
  Discipline.sound_of_reachable service_lawful
    (fun _ empty => ⟨.catalogueOnly empty, fun absurd => absurd.elim⟩)
    (fun _ _ _ _ _ absurd => absurd.elim) reachable

/-- Every system that is reachable in order is sound in order. -/
theorem ordered_sound {system : ServiceSystem}
    (reachable : ServiceReachable env (InOrder env) system) :
    (service env True).Sound system :=
  Discipline.sound_of_reachable service_lawful
    (fun _ empty => ⟨.catalogueOnly empty, fun _ => .catalogueOnly empty⟩)
    (fun _ _ _ inOrder stepped _ => inOrder _ stepped) reachable

end RngGamePlatform
