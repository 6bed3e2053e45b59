/-
Module: RngGamePlatform.Transactions.Program
Purpose: Database transactions as trees of statements, with the monad that
  sequences them.
Trusted boundary: human-reviewed semantics
Main exports: Program, Program.clock, Program.query, Program.update,
  Program.commitWork, Program.orRaise, Program.require, Program.run,
  Program.ReadOnly
-/
import Mathlib.Data.List.Basic

namespace RngGamePlatform.Transactions

/-!
A program is the part of one request that talks to the database.  Its nodes are
single statements; between two statements other requests may run.  The type
parameters are the database state `σ`, the locks `κ`, the clock readings `τ`,
the exceptions `ε` and the returned value `ρ`.

A statement receives the *view* of its transaction: the committed state with
the transaction's own uncommitted changes applied to it.
-/

/-- A transaction program over database states `σ`. -/
inductive Program (σ κ τ ε ρ : Type) where
  /-- Return to the caller; whatever is uncommitted is rolled back. -/
  | ret (value : ρ)
  /-- Raise an exception; whatever is uncommitted is rolled back. -/
  | raise (error : ε)
  /-- Read a clock. -/
  | now (next : τ → Program σ κ τ ε ρ)
  /-- A `SELECT`: wait for the locks its rows need, then go on with the view. -/
  | select (locks : σ → List κ) (next : σ → Program σ κ τ ε ρ)
  /-- An `INSERT`, `UPDATE` or `DELETE`: wait for the locks, then change the
  view or fail on a constraint. -/
  | execute (locks : σ → List κ) (change : σ → Except ε σ)
      (next : Program σ κ τ ε ρ)
  /-- Commit the transaction's changes and release its locks. -/
  | commit (next : Program σ κ τ ε ρ)

namespace Program

variable {σ κ τ ε : Type} {α β γ : Type}

/-- Sequencing of programs. -/
def bind : Program σ κ τ ε α → (α → Program σ κ τ ε β) → Program σ κ τ ε β
  | .ret value, f => f value
  | .raise error, _ => .raise error
  | .now next, f => .now fun time => (next time).bind f
  | .select locks next, f => .select locks fun view => (next view).bind f
  | .execute locks change next, f => .execute locks change (next.bind f)
  | .commit next, f => .commit (next.bind f)

instance : Monad (Program σ κ τ ε) where
  pure := .ret
  bind := bind

@[simp] theorem pure_eq (value : α) :
    (pure value : Program σ κ τ ε α) = .ret value := rfl

@[simp] theorem ret_bind (value : α) (f : α → Program σ κ τ ε β) :
    (ret value : Program σ κ τ ε α) >>= f = f value := rfl

@[simp] theorem raise_bind (error : ε) (f : α → Program σ κ τ ε β) :
    (raise error : Program σ κ τ ε α) >>= f = .raise error := rfl

@[simp] theorem now_bind (next : τ → Program σ κ τ ε α)
    (f : α → Program σ κ τ ε β) :
    now next >>= f = .now fun time => next time >>= f := rfl

@[simp] theorem select_bind (locks : σ → List κ)
    (next : σ → Program σ κ τ ε α) (f : α → Program σ κ τ ε β) :
    select locks next >>= f = .select locks fun view => next view >>= f := rfl

@[simp] theorem execute_bind (locks : σ → List κ) (change : σ → Except ε σ)
    (next : Program σ κ τ ε α) (f : α → Program σ κ τ ε β) :
    execute locks change next >>= f = .execute locks change (next >>= f) := rfl

@[simp] theorem commit_bind (next : Program σ κ τ ε α)
    (f : α → Program σ κ τ ε β) :
    commit next >>= f = .commit (next >>= f) := rfl

private theorem bind_ret (program : Program σ κ τ ε α) :
    program >>= ret = program := by
  induction program with
  | ret value => rfl
  | raise error => rfl
  | now next ih => simp only [now_bind, ih]
  | select locks next ih => simp only [select_bind, ih]
  | execute locks change next ih => simp only [execute_bind, ih]
  | commit next ih => simp only [commit_bind, ih]

private theorem bind_assoc_aux (program : Program σ κ τ ε α)
    (f : α → Program σ κ τ ε β) (g : β → Program σ κ τ ε γ) :
    (program >>= f) >>= g = program >>= fun value => f value >>= g := by
  induction program with
  | ret value => rfl
  | raise error => rfl
  | now next ih => simp only [now_bind, ih]
  | select locks next ih => simp only [select_bind, ih]
  | execute locks change next ih => simp only [execute_bind, ih]
  | commit next ih => simp only [commit_bind, ih]

instance : LawfulMonad (Program σ κ τ ε) :=
  LawfulMonad.mk' _ (fun program => bind_ret program) (fun _ _ => rfl)
    bind_assoc_aux

@[simp] theorem map_ret (f : α → β) (value : α) :
    f <$> (ret value : Program σ κ τ ε α) = .ret (f value) := rfl

@[simp] theorem map_raise (f : α → β) (error : ε) :
    f <$> (raise error : Program σ κ τ ε α) = .raise error := rfl

@[simp] theorem map_now (f : α → β) (next : τ → Program σ κ τ ε α) :
    f <$> now next = .now fun time => f <$> next time := rfl

@[simp] theorem map_select (f : α → β) (locks : σ → List κ)
    (next : σ → Program σ κ τ ε α) :
    f <$> select locks next = .select locks fun view => f <$> next view := rfl

@[simp] theorem map_execute (f : α → β) (locks : σ → List κ)
    (change : σ → Except ε σ) (next : Program σ κ τ ε α) :
    f <$> execute locks change next = .execute locks change (f <$> next) := rfl

@[simp] theorem map_commit (f : α → β) (next : Program σ κ τ ε α) :
    f <$> commit next = .commit (f <$> next) := rfl

/-- Read a clock. -/
def clock : Program σ κ τ ε τ := .now .ret

/-- A `SELECT` that waits for `locks` and answers `answer`. -/
def query (locks : σ → List κ) (answer : σ → α) : Program σ κ τ ε α :=
  .select locks fun view => .ret (answer view)

/-- A changing statement. -/
def update (locks : σ → List κ) (change : σ → Except ε σ) :
    Program σ κ τ ε Unit :=
  .execute locks change (.ret ())

/-- Commit and go on. -/
def commitWork : Program σ κ τ ε Unit := .commit (.ret ())

/-- Go on with the value, or raise when there is none. -/
def orRaise (error : ε) : Option α → Program σ κ τ ε α
  | some value => .ret value
  | none => .raise error

/-- Go on when the condition holds, or raise. -/
def require (error : ε) (condition : Prop) [Decidable condition] :
    Program σ κ τ ε Unit :=
  if condition then .ret () else .raise error

/-- Go on with the value of a pure computation, or raise its exception. -/
def ofExcept : Except ε α → Program σ κ τ ε α
  | .ok value => .ret value
  | .error error => .raise error

end Program

/-- A change that fails leaves the state as it is: its transaction stops there. -/
def applied {σ ε : Type} (change : σ → Except ε σ) (state : σ) : σ :=
  match change state with
  | .ok state' => state'
  | .error _ => state

theorem applied_ok {σ ε : Type} {change : σ → Except ε σ} {state state' : σ}
    (ok : change state = .ok state') : applied change state = state' := by
  simp [applied, ok]

namespace Program

variable {σ κ τ ε α : Type}

/-- Run a program alone: `committed` is the durable state, `view` the state the
transaction sees, and `times` the successive clock readings.  `none` when the
readings run out. -/
def run : Program σ κ τ ε α → List τ → (committed view : σ) →
    Option (Except ε α × σ)
  | .ret value, _, committed, _ => some (.ok value, committed)
  | .raise error, _, committed, _ => some (.error error, committed)
  | .now _, [], _, _ => none
  | .now next, time :: times, committed, view =>
      (next time).run times committed view
  | .select _ next, times, committed, view => (next view).run times committed view
  | .execute _ change next, times, committed, view =>
      match change view with
      | .ok view' => next.run times committed view'
      | .error error => some (.error error, committed)
  | .commit next, times, _, view => next.run times view view

/-- The program neither changes a row nor commits. -/
def ReadOnly : Program σ κ τ ε α → Prop
  | .ret _ => True
  | .raise _ => True
  | .now next => ∀ time, (next time).ReadOnly
  | .select _ next => ∀ view, (next view).ReadOnly
  | .execute _ _ _ => False
  | .commit _ => False

namespace ReadOnly

variable {β : Type}

theorem bind {program : Program σ κ τ ε α} {f : α → Program σ κ τ ε β}
    (first : program.ReadOnly) (rest : ∀ value, (f value).ReadOnly) :
    (program >>= f).ReadOnly := by
  induction program with
  | ret value => exact rest value
  | raise error => trivial
  | now next ih => exact fun time => ih time (first time)
  | select locks next ih => exact fun view => ih view (first view)
  | execute locks change next ih => exact first.elim
  | commit next ih => exact first.elim

theorem query (locks : σ → List κ) (answer : σ → α) :
    (Program.query locks answer : Program σ κ τ ε α).ReadOnly := fun _ => trivial

theorem orRaise (error : ε) (found : Option α) :
    (Program.orRaise error found : Program σ κ τ ε α).ReadOnly := by
  cases found <;> trivial

theorem require (error : ε) (condition : Prop) [Decidable condition] :
    (Program.require error condition : Program σ κ τ ε Unit).ReadOnly := by
  unfold Program.require
  split <;> trivial

theorem ofExcept (result : Except ε α) :
    (Program.ofExcept result : Program σ κ τ ε α).ReadOnly := by
  cases result <;> trivial

theorem map {program : Program σ κ τ ε α} {f : α → β} (readOnly : program.ReadOnly) :
    (f <$> program).ReadOnly := readOnly.bind fun _ => trivial

end ReadOnly

end Program

end RngGamePlatform.Transactions
