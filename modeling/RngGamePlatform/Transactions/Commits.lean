/-
Module: RngGamePlatform.Transactions.Commits
Purpose: Where exceptions stand relative to the one commit of a program, and
  what a failing statement leaves behind.
Trusted boundary: none
Main exports: Program.Concludes, concludes_bind, Program.Concludes.run, Program.Concludes.ends,
  Program.failing, Program.issued, Program.Concludes.failing
-/
import RngGamePlatform.Transactions.Alone

namespace RngGamePlatform.Transactions

/-!
A program concludes when its first commit is its last statement: after it there
is only a value to return or an exception of a chosen kind to raise.  Whatever
fails earlier fails with the transaction still open, and is rolled back.
-/

variable {σ κ τ ε α β : Type}

/-- How far the transaction of a program has come. -/
inductive Stage where
  | uncommitted
  | committed
deriving DecidableEq

/-- The exceptions before the commit are `early`, those after it are `late`, and
no statement follows the commit. -/
def Program.Concludes (early late : ε → Prop) (returns : α → Stage → Prop) :
    Program σ κ τ ε α → Stage → Prop
  | .ret value, stage => returns value stage
  | .raise error, .uncommitted => early error
  | .raise error, .committed => late error
  | .now next, stage => ∀ time, (next time).Concludes early late returns stage
  | .select _ next, .uncommitted =>
      ∀ view, (next view).Concludes early late returns .uncommitted
  | .execute _ change next, .uncommitted =>
      (∀ view error, change view = .error error → early error) ∧
        next.Concludes early late returns .uncommitted
  | .commit next, .uncommitted => next.Concludes early late returns .committed
  | .select _ _, .committed => False
  | .execute _ _ _, .committed => False
  | .commit _, .committed => False

section Rules

variable {early late : ε → Prop} {returns : α → Stage → Prop} {stage : Stage}

@[simp] theorem concludes_ret {value : α} :
    (Program.ret value : Program σ κ τ ε α).Concludes early late returns stage ↔
      returns value stage := by
  cases stage <;> exact Iff.rfl

@[simp] theorem concludes_raise {error : ε} :
    (Program.raise error : Program σ κ τ ε α).Concludes early late returns
        .uncommitted ↔ early error := Iff.rfl

/-- Sequencing. -/
@[simp] theorem concludes_bind {program : Program σ κ τ ε β}
    {f : β → Program σ κ τ ε α} :
    (program >>= f).Concludes early late returns stage ↔
      program.Concludes early late
        (fun value => (f value).Concludes early late returns) stage := by
  induction program generalizing stage with
  | ret value => cases stage <;> exact Iff.rfl
  | raise error => cases stage <;> exact Iff.rfl
  | now next ih => cases stage <;> exact forall_congr' fun time => ih time
  | select locks next ih =>
      cases stage with
      | uncommitted => exact forall_congr' fun view => ih view
      | committed => exact Iff.rfl
  | execute locks change next ih =>
      cases stage with
      | uncommitted => exact and_congr_right fun _ => ih
      | committed => exact Iff.rfl
  | commit next ih =>
      cases stage with
      | uncommitted => exact ih
      | committed => exact Iff.rfl

@[simp] theorem concludes_map {program : Program σ κ τ ε β} {f : β → α} :
    (f <$> program).Concludes early late returns stage ↔
      program.Concludes early late (fun value => returns (f value)) stage := by
  have asBind : f <$> program = program >>= fun value => .ret (f value) := rfl
  have returned : (fun value => (Program.ret (f value) : Program σ κ τ ε α).Concludes
      early late returns) = fun value => returns (f value) :=
    funext₂ fun value stage => propext concludes_ret
  rw [asBind, concludes_bind, returned]

@[simp] theorem concludes_query {locks : σ → List κ} {answer : σ → α} :
    (Program.query locks answer : Program σ κ τ ε α).Concludes early late returns
        .uncommitted ↔
      ∀ view, returns (answer view) .uncommitted := Iff.rfl

@[simp] theorem concludes_orRaise {error : ε} {found : Option α} :
    (Program.orRaise error found : Program σ κ τ ε α).Concludes early late returns
        .uncommitted ↔
      (found = none → early error) ∧
        ∀ value, found = some value → returns value .uncommitted := by
  cases found with
  | none => simp [Program.orRaise]
  | some value => simp [Program.orRaise]

@[simp] theorem concludes_require {error : ε} {condition : Prop} [Decidable condition]
    {returns : Unit → Stage → Prop} :
    (Program.require error condition : Program σ κ τ ε Unit).Concludes early late
        returns .uncommitted ↔
      (¬condition → early error) ∧ (condition → returns () .uncommitted) := by
  unfold Program.require
  split
  · next holds => simp [holds]
  · next fails => simp [fails]

@[simp] theorem concludes_ofExcept {result : Except ε α} :
    (Program.ofExcept result : Program σ κ τ ε α).Concludes early late returns
        .uncommitted ↔
      (∀ error, result = .error error → early error) ∧
        ∀ value, result = .ok value → returns value .uncommitted := by
  cases result with
  | error error => simp [Program.ofExcept]
  | ok value => simp [Program.ofExcept]

end Rules

/-- The program whose statement number `count` fails. -/
def Program.failing (failure : ε) : (count : Nat) → Program σ κ τ ε α →
    Program σ κ τ ε α
  | _, .ret value => .ret value
  | _, .raise error => .raise error
  | count, .now next => .now fun time => (next time).failing failure count
  | 0, .select _ _ => .raise failure
  | count + 1, .select locks next =>
      .select locks fun view => (next view).failing failure count
  | 0, .execute _ _ _ => .raise failure
  | count + 1, .execute locks change next =>
      .execute locks change (next.failing failure count)
  | 0, .commit _ => .raise failure
  | count + 1, .commit next => .commit (next.failing failure count)

/-- The number of statements that a program issues when it runs alone. -/
def Program.issued : Program σ κ τ ε α → List τ → (view : σ) → Nat
  | .ret _, _, _ => 0
  | .raise _, _, _ => 0
  | .now _, [], _ => 0
  | .now next, time :: times, view => (next time).issued times view
  | .select _ next, times, view => (next view).issued times view + 1
  | .execute _ change next, times, view =>
      match change view with
      | .ok view' => next.issued times view' + 1
      | .error _ => 1
  | .commit next, times, view => next.issued times view + 1

section Soundness

variable {early late : ε → Prop} {returns : α → Stage → Prop}
  {program : Program σ κ τ ε α} {times : List τ} {committed view : σ}

private theorem concludes_committed {result : Except ε α} {final : σ}
    (concludes : program.Concludes early late returns .committed)
    (ran : program.run times committed view = some (result, final)) :
    final = committed ∧ ∀ error, result = .error error → late error := by
  induction program generalizing times with
  | ret value =>
      cases ran
      exact ⟨rfl, nofun⟩
  | raise error =>
      cases ran
      exact ⟨rfl, fun _ same => Except.error.inj same ▸ concludes⟩
  | now next ih =>
      cases times with
      | nil => cases ran
      | cons time times => exact ih time (concludes time) ran
  | select locks next ih => exact concludes.elim
  | execute locks change next ih => exact concludes.elim
  | commit next ih => exact concludes.elim

/-- A run that raises has either changed nothing or raised after its commit. -/
theorem Program.Concludes.run {error : ε} {final : σ}
    (concludes : program.Concludes early late returns .uncommitted)
    (ran : program.run times committed view = some (.error error, final)) :
    (early error ∧ final = committed) ∨ late error := by
  induction program generalizing times view with
  | ret value => cases ran
  | raise error =>
      cases ran
      exact .inl ⟨concludes, rfl⟩
  | now next ih =>
      cases times with
      | nil => cases ran
      | cons time times => exact ih time (concludes time) ran
  | select locks next ih => exact ih view (concludes view) ran
  | execute locks change next ih =>
      simp only [Program.run] at ran
      split at ran
      · exact ih concludes.2 ran
      · next error changed =>
          cases ran
          exact .inl ⟨concludes.1 view _ changed, rfl⟩
  | commit next ih => exact .inr ((concludes_committed concludes ran).2 error rfl)

private theorem ends_committed {failed : ε → Prop}
    (concludes : program.Concludes early failed returns .committed) :
    program.Ends True (fun _ _ _ _ => True) (fun error _ => failed error) times
      committed view := by
  induction program generalizing times with
  | ret value => trivial
  | raise error => exact concludes
  | now next ih =>
      cases times with
      | nil => trivial
      | cons time times => exact ih time (concludes time)
  | select locks next ih => exact concludes.elim
  | execute locks change next ih => exact concludes.elim
  | commit next ih => exact concludes.elim

/-- A program without late exceptions changes nothing when it raises. -/
theorem Program.Concludes.ends
    (concludes : program.Concludes early (fun _ => False) returns .uncommitted) :
    program.Ends True (fun _ _ _ _ => True)
      (fun error final => early error ∧ final = committed) times committed view := by
  induction program generalizing times view with
  | ret value => trivial
  | raise error => exact ⟨concludes, rfl⟩
  | now next ih =>
      cases times with
      | nil => trivial
      | cons time times => exact ih time (concludes time)
  | select locks next ih => exact ih view (concludes view)
  | execute locks change next ih =>
      simp only [Program.Ends]
      split
      · exact ih concludes.2
      · next error changed => exact ⟨concludes.1 view error changed, trivial⟩
  | commit next ih =>
      exact (ends_committed concludes).weaken (fun _ _ _ _ => id)
        fun _ _ impossible => impossible.elim

private theorem issued_committed
    (concludes : program.Concludes early late returns .committed) :
    program.issued times view = 0 := by
  induction program generalizing times with
  | ret value => rfl
  | raise error => rfl
  | now next ih =>
      cases times with
      | nil => rfl
      | cons time times => exact ih time (concludes time)
  | select locks next ih => exact concludes.elim
  | execute locks change next ih => exact concludes.elim
  | commit next ih => exact concludes.elim

/-- Any statement of the run may fail: nothing has been committed before it. -/
theorem Program.Concludes.failing {failure : ε} {count : Nat}
    (concludes : program.Concludes early late returns .uncommitted)
    (reached : count < program.issued times view) :
    (program.failing failure count).run times committed view =
      some (.error failure, committed) := by
  induction program generalizing times view count with
  | ret value => exact absurd reached (Nat.not_lt_zero _)
  | raise error => exact absurd reached (Nat.not_lt_zero _)
  | now next ih =>
      cases times with
      | nil => exact absurd reached (Nat.not_lt_zero _)
      | cons time times => exact ih time (concludes time) reached
  | select locks next ih =>
      cases count with
      | zero => rfl
      | succ count => exact ih view (concludes view) (Nat.lt_of_succ_lt_succ reached)
  | execute locks change next ih =>
      cases count with
      | zero => rfl
      | succ count =>
          simp only [Program.failing, Program.run, Program.issued] at reached ⊢
          cases changed : change view with
          | ok state =>
              simp only [changed] at reached ⊢
              exact ih concludes.2 (Nat.lt_of_succ_lt_succ reached)
          | error error =>
              simp only [changed] at reached
              exact absurd reached (Nat.not_lt_of_le (Nat.le_add_left 1 count))
  | commit next ih =>
      cases count with
      | zero => rfl
      | succ count =>
          simp only [Program.issued, issued_committed concludes] at reached
          exact absurd (Nat.lt_of_succ_lt_succ reached) (Nat.not_lt_zero _)

end Soundness

end RngGamePlatform.Transactions
