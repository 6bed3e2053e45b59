/-
Module: RngGamePlatform.Machines.Runs
Purpose: Runs of a machine whose steps are partial functions on its states.
Trusted boundary: none
Main exports: Reaches, follow, followWhile, Reaches.follow, Reaches.followWhile,
  Reaches.invariant
-/
import Mathlib.Logic.Basic

namespace RngGamePlatform.Machines

variable {σ α : Type}

/-- The states that some run reaches from an initial one, when every step is one that
`allowed` admits. -/
inductive Reaches (step : σ → α → Option σ) (initial : σ → Prop) (allowed : σ → α → Prop) :
    σ → Prop where
  | start {state : σ} (begins : initial state) : Reaches step initial allowed state
  | step {state next : σ} {taken : α} (before : Reaches step initial allowed state)
      (admitted : allowed state taken) (stepped : step state taken = some next) :
      Reaches step initial allowed next

/-- A run without a condition on its steps. -/
def Always (_ : σ) (_ : α) : Prop := True

/-- Take the steps of a list. -/
def follow (step : σ → α → Option σ) : σ → List α → Option σ
  | state, [] => some state
  | state, taken :: later => (step state taken).bind fun next => follow step next later

/-- Take the steps of a list as long as each passes a check. -/
def followWhile (step : σ → α → Option σ) (check : σ → α → Bool) : σ → List α → Option σ
  | state, [] => some state
  | state, taken :: later =>
      bif check state taken then
        (step state taken).bind fun next => followWhile step check next later
      else none

namespace Reaches

variable {step : σ → α → Option σ} {initial : σ → Prop} {allowed : σ → α → Prop}
  {state last : σ}

theorem follow {steps : List α} (reached : Reaches step initial Always state)
    (followed : follow step state steps = some last) : Reaches step initial Always last := by
  induction steps generalizing state with
  | nil =>
      cases followed
      exact reached
  | cons taken later ih =>
      obtain ⟨next, stepped, followed⟩ := Option.bind_eq_some_iff.mp followed
      exact ih (reached.step trivial stepped) followed

theorem followWhile {check : σ → α → Bool} {steps : List α}
    (admits : ∀ state taken, check state taken = true → allowed state taken)
    (reached : Reaches step initial allowed state)
    (followed : followWhile step check state steps = some last) :
    Reaches step initial allowed last := by
  induction steps generalizing state with
  | nil =>
      cases followed
      exact reached
  | cons taken later ih =>
      cases passes : check state taken with
      | false => simp [Machines.followWhile, passes] at followed
      | true =>
          simp only [Machines.followWhile, passes, cond_true] at followed
          obtain ⟨next, stepped, followed⟩ := Option.bind_eq_some_iff.mp followed
          exact ih (reached.step (admits _ _ passes) stepped) followed

/-- What holds at the beginning and what every admitted step keeps holds in every state
that is reached. -/
theorem invariant {holds : σ → Prop} (begins : ∀ state, initial state → holds state)
    (keeps : ∀ {state next taken}, holds state → allowed state taken →
      step state taken = some next → holds next)
    (reached : Reaches step initial allowed state) : holds state := by
  induction reached with
  | start isInitial => exact begins _ isInitial
  | step _ admitted stepped ih => exact keeps ih admitted stepped

end Reaches

end RngGamePlatform.Machines
