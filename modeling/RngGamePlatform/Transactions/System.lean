/-
Module: RngGamePlatform.Transactions.System
Purpose: Interleaved execution of transactions at READ COMMITTED with row locks.
Trusted boundary: human-reviewed semantics
Main exports: Status, Thread, System, Label, System.step, System.follow, Reachable,
  Reachable.follow
-/
import RngGamePlatform.Transactions.Program

namespace RngGamePlatform.Transactions

/-!
Every request runs in a thread of its own.  A step of the system is one
statement of one thread, the start of a request, or the abort of one (a
deadlock, a timeout, a lost connection).  At READ COMMITTED each statement sees
the latest committed state under the changes of its own transaction; a
statement whose locks are held by another transaction waits, which here means
that it has no step.
-/

/-- What became of a request. -/
inductive Status (ε ρ : Type) where
  | running
  | finished (result : Except ε ρ)
  | aborted
deriving Repr

/-- The exception that a request has ended with. -/
def Status.error? {ε ρ : Type} : Status ε ρ → Option ε
  | .finished (.error error) => some error
  | _ => none

/-- One request in flight or ended. -/
structure Thread (σ κ τ ε χ ρ : Type) where
  call : χ
  /-- What is left to execute. -/
  program : Program σ κ τ ε ρ
  /-- The uncommitted changes, as a function on committed states. -/
  changes : σ → σ
  /-- The locks held until the transaction ends. -/
  held : List κ
  /-- The clock readings so far, latest first. -/
  times : List τ
  status : Status ε ρ

/-- The committed state and all requests made so far. -/
structure System (σ κ τ ε χ ρ : Type) where
  db : σ
  threads : List (Thread σ κ τ ε χ ρ)

/-- The scheduler's choices. -/
inductive Label (τ χ : Type) where
  /-- A new request arrives. -/
  | start (call : χ)
  /-- Thread `index` executes its next statement; a clock read answers `time`. -/
  | advance (index : Nat) (time : τ)
  /-- Thread `index` is aborted and rolled back. -/
  | abort (index : Nat)
deriving Repr

variable {σ κ τ ε χ ρ : Type}

namespace Thread

/-- A request before its first statement. -/
def fresh (body : χ → Program σ κ τ ε ρ) (call : χ) : Thread σ κ τ ε χ ρ :=
  { call := call
    program := body call
    changes := id
    held := []
    times := []
    status := .running }

/-- The end of a request: its transaction is over and its locks are released. -/
def close (thread : Thread σ κ τ ε χ ρ) (status : Status ε ρ) :
    Thread σ κ τ ε χ ρ :=
  { thread with changes := id, held := [], status := status }

/-- The state a statement of this thread sees. -/
def view (thread : Thread σ κ τ ε χ ρ) (db : σ) : σ := thread.changes db

end Thread

/-- No lock of the first list is in conflict with one of the second. -/
def Compatible (conflicts : κ → κ → Bool) (first second : List κ) : Prop :=
  ∀ one ∈ first, ∀ other ∈ second, conflicts one other = false

instance (conflicts : κ → κ → Bool) (first second : List κ) :
    Decidable (Compatible conflicts first second) :=
  inferInstanceAs (Decidable (∀ one ∈ first, ∀ other ∈ second, _ = false))

theorem Compatible.append_left {conflicts : κ → κ → Bool}
    {first second others : List κ}
    (one : Compatible conflicts first others)
    (two : Compatible conflicts second others) :
    Compatible conflicts (first ++ second) others := by
  intro lock member
  rcases List.mem_append.mp member with inFirst | inSecond
  · exact one lock inFirst
  · exact two lock inSecond

namespace System

/-- Thread `index` may take `locks`: no other thread holds a conflicting one. -/
def Grants (conflicts : κ → κ → Bool) (system : System σ κ τ ε χ ρ)
    (index : Nat) (locks : List κ) : Prop :=
  ∀ other, (bound : other < system.threads.length) → other ≠ index →
    Compatible conflicts locks (system.threads.get ⟨other, bound⟩).held

instance (conflicts : κ → κ → Bool) (system : System σ κ τ ε χ ρ)
    (index : Nat) (locks : List κ) :
    Decidable (system.Grants conflicts index locks) :=
  inferInstanceAs (Decidable (∀ other, (bound : other < _) → other ≠ index → _))

/-- Replace one thread. -/
def setThread (system : System σ κ τ ε χ ρ) (index : Nat)
    (thread : Thread σ κ τ ε χ ρ) : System σ κ τ ε χ ρ :=
  { system with threads := system.threads.set index thread }

/-- Execute the next statement of `thread`, the running thread at `index`. -/
def advance (conflicts : κ → κ → Bool) (system : System σ κ τ ε χ ρ)
    (index : Nat) (time : τ) (thread : Thread σ κ τ ε χ ρ) :
    Option (System σ κ τ ε χ ρ) :=
  match thread.program with
  | .ret value =>
      some (system.setThread index (thread.close (.finished (.ok value))))
  | .raise error =>
      some (system.setThread index (thread.close (.finished (.error error))))
  | .now next =>
      some (system.setThread index
        { thread with program := next time, times := time :: thread.times })
  | .select locks next =>
      let wanted := locks (thread.view system.db)
      if system.Grants conflicts index wanted then
        some (system.setThread index
          { thread with
            program := next (thread.view system.db)
            held := wanted ++ thread.held })
      else none
  | .execute locks change next =>
      let wanted := locks (thread.view system.db)
      if system.Grants conflicts index wanted then
        match change (thread.view system.db) with
        | .ok _ =>
            some (system.setThread index
              { thread with
                program := next
                changes := fun state => applied change (thread.changes state)
                held := wanted ++ thread.held })
        | .error error =>
            some (system.setThread index { thread with program := .raise error })
      else none
  | .commit next =>
      some
        { db := thread.view system.db
          threads := system.threads.set index
            { thread with program := next, changes := id, held := [] } }

/-- One step of the system, when the label is enabled. -/
def step (conflicts : κ → κ → Bool) (body : χ → Program σ κ τ ε ρ)
    (system : System σ κ τ ε χ ρ) :
    Label τ χ → Option (System σ κ τ ε χ ρ)
  | .start call =>
      some { system with threads := system.threads ++ [Thread.fresh body call] }
  | .advance index time =>
      match system.threads[index]? with
      | some thread =>
          match thread.status with
          | .running => system.advance conflicts index time thread
          | _ => none
      | none => none
  | .abort index =>
      match system.threads[index]? with
      | some thread =>
          match thread.status with
          | .running => some (system.setThread index (thread.close .aborted))
          | _ => none
      | none => none

/-- Follow a list of labels. -/
def follow (conflicts : κ → κ → Bool) (body : χ → Program σ κ τ ε ρ) :
    System σ κ τ ε χ ρ → List (Label τ χ) → Option (System σ κ τ ε χ ρ)
  | system, [] => some system
  | system, label :: labels =>
      match system.step conflicts body label with
      | some next => next.follow conflicts body labels
      | none => none

/-- Follow a list of labels as long as each passes a check. -/
def followWhile (conflicts : κ → κ → Bool) (body : χ → Program σ κ τ ε ρ)
    (check : System σ κ τ ε χ ρ → Label τ χ → Bool) :
    System σ κ τ ε χ ρ → List (Label τ χ) → Option (System σ κ τ ε χ ρ)
  | system, [] => some system
  | system, label :: labels =>
      if check system label then
        match system.step conflicts body label with
        | some next => next.followWhile conflicts body check labels
        | none => none
      else none

end System

/-- The states some run reaches from an initial committed state without
requests, when every step is one that `allowed` admits. -/
inductive Reachable (conflicts : κ → κ → Bool) (body : χ → Program σ κ τ ε ρ)
    (initial : σ → Prop)
    (allowed : System σ κ τ ε χ ρ → Label τ χ → Prop) :
    System σ κ τ ε χ ρ → Prop where
  | start (db : σ) (begins : initial db) :
      Reachable conflicts body initial allowed { db := db, threads := [] }
  | step {system next : System σ κ τ ε χ ρ} {label : Label τ χ}
      (before : Reachable conflicts body initial allowed system)
      (admitted : allowed system label)
      (stepped : system.step conflicts body label = some next) :
      Reachable conflicts body initial allowed next

/-- A run without a condition on its steps. -/
def AnyStep (_ : System σ κ τ ε χ ρ) (_ : Label τ χ) : Prop := True

namespace Reachable

variable {conflicts : κ → κ → Bool} {body : χ → Program σ κ τ ε ρ}
  {initial : σ → Prop} {allowed : System σ κ τ ε χ ρ → Label τ χ → Prop}

/-- Following labels stays within the reachable states. -/
theorem follow {system last : System σ κ τ ε χ ρ} {labels : List (Label τ χ)}
    (reachable : Reachable conflicts body initial AnyStep system)
    (followed : system.follow conflicts body labels = some last) :
    Reachable conflicts body initial AnyStep last := by
  induction labels generalizing system with
  | nil =>
      cases followed
      exact reachable
  | cons label labels inductionHypothesis =>
      simp only [System.follow] at followed
      cases stepped : system.step conflicts body label with
      | none => simp [stepped] at followed
      | some next =>
          rw [stepped] at followed
          exact inductionHypothesis (.step reachable trivial stepped) followed

/-- Following labels that pass a check stays within the states that are reachable
by such steps. -/
theorem followWhile {check : System σ κ τ ε χ ρ → Label τ χ → Bool}
    (admits : ∀ system label, check system label = true → allowed system label)
    {system last : System σ κ τ ε χ ρ} {labels : List (Label τ χ)}
    (reachable : Reachable conflicts body initial allowed system)
    (followed : system.followWhile conflicts body check labels = some last) :
    Reachable conflicts body initial allowed last := by
  induction labels generalizing system with
  | nil =>
      cases followed
      exact reachable
  | cons label labels inductionHypothesis =>
      simp only [System.followWhile] at followed
      split at followed
      · next passes =>
          cases stepped : system.step conflicts body label with
          | none => simp [stepped] at followed
          | some next =>
              rw [stepped] at followed
              exact inductionHypothesis (.step reachable (admits _ _ passes) stepped)
                followed
      · cases followed

/-- Weakening the condition on steps keeps a state reachable. -/
theorem mono {wider : System σ κ τ ε χ ρ → Label τ χ → Prop}
    (implies : ∀ system label, allowed system label → wider system label)
    {system : System σ κ τ ε χ ρ}
    (reachable : Reachable conflicts body initial allowed system) :
    Reachable conflicts body initial wider system := by
  induction reachable with
  | start db begins => exact .start db begins
  | step before admitted stepped inductionHypothesis =>
      exact .step inductionHypothesis (implies _ _ admitted) stepped

end Reachable

end RngGamePlatform.Transactions
