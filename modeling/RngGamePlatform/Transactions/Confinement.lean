/-
Module: RngGamePlatform.Transactions.Confinement
Purpose: Weakest preconditions of programs over an invariant of the views, and
  what they say about every run of a system.
Trusted boundary: none
Main exports: Program.Confined, Program.Confined.weaken, confined_bind,
  Reachable.confined
-/
import RngGamePlatform.Transactions.System

namespace RngGamePlatform.Transactions

/-!
A program is confined when, on views that meet an invariant, its statements keep
the invariant, its exceptions are expected ones and its results are as required.
Nothing is said about what a statement reads: whatever the other requests commit
in between, the invariant is all that a view is known to meet.
-/

variable {σ κ τ ε χ ρ α β : Type}

/-- The weakest precondition of a program. -/
def Program.Confined (inv : σ → Prop) (raises : ε → Prop) (returns : α → Prop) :
    Program σ κ τ ε α → Prop
  | .ret value => returns value
  | .raise error => raises error
  | .now next => ∀ time, (next time).Confined inv raises returns
  | .select _ next => ∀ view, inv view → (next view).Confined inv raises returns
  | .execute _ change next =>
      (∀ view, inv view → ∀ error, change view = .error error → raises error) ∧
        (∀ view view', inv view → change view = .ok view' → inv view') ∧
          next.Confined inv raises returns
  | .commit next => next.Confined inv raises returns

section Rules

variable {inv : σ → Prop} {raises : ε → Prop} {returns : α → Prop}

/-- Sequencing. -/
@[simp] theorem confined_bind {program : Program σ κ τ ε β}
    {f : β → Program σ κ τ ε α} :
    (program >>= f).Confined inv raises returns ↔
      program.Confined inv raises fun value => (f value).Confined inv raises returns := by
  induction program with
  | ret value => exact Iff.rfl
  | raise error => exact Iff.rfl
  | now next ih => exact forall_congr' fun time => ih time
  | select locks next ih =>
      exact forall_congr' fun view => imp_congr_right fun _ => ih view
  | execute locks change next ih =>
      exact and_congr_right fun _ => and_congr_right fun _ => ih
  | commit next ih => exact ih

@[simp] theorem confined_map {program : Program σ κ τ ε β} {f : β → α} :
    (f <$> program).Confined inv raises returns ↔
      program.Confined inv raises fun value => returns (f value) := by
  have asBind : f <$> program = program >>= fun value => .ret (f value) := rfl
  rw [asBind, confined_bind]
  exact Iff.rfl

/-- Rule of consequence. -/
theorem Program.Confined.weaken {program : Program σ κ τ ε α} {returns' : α → Prop}
    (confined : program.Confined inv raises returns)
    (wider : ∀ value, returns value → returns' value) :
    program.Confined inv raises returns' := by
  induction program with
  | ret value => exact wider value confined
  | raise error => exact confined
  | now next ih => exact fun time => ih time (confined time)
  | select locks next ih => exact fun view holds => ih view (confined view holds)
  | execute locks change next ih =>
      obtain ⟨errors, keeps, rest⟩ := confined
      exact ⟨errors, keeps, ih rest⟩
  | commit next ih => exact ih confined

end Rules

section Runs

variable {conflicts : κ → κ → Bool} {body : χ → Program σ κ τ ε ρ}
  {inv : σ → Prop} {raises : ε → Prop} {returns : ρ → Prop}

/-- What holds of a confined request at every moment. -/
structure ConfinedThread (inv : σ → Prop) (raises : ε → Prop) (returns : ρ → Prop)
    (thread : Thread σ κ τ ε χ ρ) : Prop where
  changes : ∀ db, inv db → inv (thread.changes db)
  running : thread.status = .running → thread.program.Confined inv raises returns
  failed : ∀ error, thread.status = .finished (.error error) → raises error
  answered : ∀ value, thread.status = .finished (.ok value) → returns value

/-- What holds of a system of confined requests at every moment. -/
structure ConfinedSystem (inv : σ → Prop) (raises : ε → Prop) (returns : ρ → Prop)
    (system : System σ κ τ ε χ ρ) : Prop where
  state : inv system.db
  threads : ∀ thread ∈ system.threads, ConfinedThread inv raises returns thread

variable {system next : System σ κ τ ε χ ρ}

theorem ConfinedSystem.setThread {index : Nat} {thread : Thread σ κ τ ε χ ρ} {db : σ}
    (confined : ConfinedSystem inv raises returns system) (holds : inv db)
    (here : ConfinedThread inv raises returns thread) :
    ConfinedSystem inv raises returns
      { db := db, threads := system.threads.set index thread } := by
  refine ⟨holds, fun other member => ?_⟩
  rcases List.mem_or_eq_of_mem_set member with before | isThread
  · exact confined.threads other before
  · exact isThread ▸ here

/-- A closed request. -/
theorem ConfinedThread.close {thread : Thread σ κ τ ε χ ρ} {status : Status ε ρ}
    (ended : status ≠ .running)
    (failed : ∀ error, status = .finished (.error error) → raises error)
    (answered : ∀ value, status = .finished (.ok value) → returns value) :
    ConfinedThread inv raises returns (thread.close status) where
  changes := fun _ holds => holds
  running := fun isRunning => absurd isRunning ended
  failed := failed
  answered := answered

/-- A running request after one of its statements. -/
theorem ConfinedThread.advanced {thread : Thread σ κ τ ε χ ρ}
    (running : thread.status = .running)
    (changes : ∀ db, inv db → inv (thread.changes db))
    (rest : thread.program.Confined inv raises returns) :
    ConfinedThread inv raises returns thread where
  changes := changes
  running := fun _ => rest
  failed := fun _ failed => by
    rw [running] at failed
    cases failed
  answered := fun _ answered => by
    rw [running] at answered
    cases answered

/-- One statement of a confined request keeps the system confined. -/
theorem ConfinedSystem.advance {index : Nat} {time : τ}
    {thread : Thread σ κ τ ε χ ρ}
    (confined : ConfinedSystem inv raises returns system)
    (found : system.threads[index]? = some thread)
    (running : thread.status = .running)
    (stepped : system.advance conflicts index time thread = some next) :
    ConfinedSystem inv raises returns next := by
  have here := confined.threads thread (List.mem_of_getElem? found)
  have rest := here.running running
  have viewed : inv (thread.view system.db) := here.changes _ confined.state
  unfold System.advance at stepped
  cases program : thread.program with
  | ret value =>
      rw [program] at stepped rest
      cases stepped
      apply confined.setThread confined.state
      refine ConfinedThread.close nofun nofun fun _ isValue => ?_
      cases isValue
      exact rest
  | raise error =>
      rw [program] at stepped rest
      cases stepped
      apply confined.setThread confined.state
      refine ConfinedThread.close nofun (fun _ isError => ?_) nofun
      cases isError
      exact rest
  | now following =>
      rw [program] at stepped rest
      cases stepped
      apply confined.setThread confined.state
      exact .advanced running here.changes (rest time)
  | select locks following =>
      rw [program] at rest
      simp only [program] at stepped
      split at stepped
      · cases stepped
        apply confined.setThread confined.state
        exact .advanced running here.changes (rest _ viewed)
      · cases stepped
  | execute locks change following =>
      rw [program] at rest
      obtain ⟨errors, keeps, rest⟩ := rest
      simp only [program] at stepped
      split at stepped
      · split at stepped
        · cases stepped
          apply confined.setThread confined.state
          refine .advanced running (fun db holds => ?_) rest
          have before := here.changes db holds
          show inv (applied change (thread.changes db))
          unfold applied
          split
          · next changed => exact keeps _ _ before changed
          · exact before
        · next error fails =>
            cases stepped
            apply confined.setThread confined.state
            exact .advanced running here.changes (errors _ viewed error fails)
      · cases stepped
  | commit following =>
      rw [program] at stepped rest
      cases stepped
      apply confined.setThread viewed
      exact .advanced running (fun _ holds => holds) rest

theorem ConfinedSystem.step {label : Label τ χ}
    (bodies : ∀ call, (body call).Confined inv raises returns)
    (confined : ConfinedSystem inv raises returns system)
    (stepped : system.step conflicts body label = some next) :
    ConfinedSystem inv raises returns next := by
  cases label with
  | start call =>
      cases stepped
      refine ⟨confined.state, fun thread member => ?_⟩
      rcases List.mem_append.mp member with before | isNew
      · exact confined.threads thread before
      · cases List.mem_singleton.mp isNew
        exact .advanced rfl (fun _ holds => holds) (bodies call)
  | advance index time =>
      simp only [System.step] at stepped
      split at stepped
      · next thread found =>
          split at stepped
          · next running => exact confined.advance found running stepped
          · cases stepped
      · cases stepped
  | abort index =>
      simp only [System.step] at stepped
      split at stepped
      · next thread found =>
          split at stepped
          · cases stepped
            apply confined.setThread confined.state
            exact .close nofun nofun nofun
          · cases stepped
      · cases stepped

/-- Every run of confined requests is confined. -/
theorem Reachable.confined {initial : σ → Prop}
    {allowed : System σ κ τ ε χ ρ → Label τ χ → Prop}
    (bodies : ∀ call, (body call).Confined inv raises returns)
    (begins : ∀ db, initial db → inv db)
    (reachable : Reachable conflicts body initial allowed system) :
    ConfinedSystem inv raises returns system := by
  induction reachable with
  | start db isInitial => exact ⟨begins db isInitial, nofun⟩
  | step before admitted stepped ih => exact ih.step bodies stepped

end Runs

end RngGamePlatform.Transactions
