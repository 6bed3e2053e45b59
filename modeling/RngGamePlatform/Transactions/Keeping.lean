/-
Module: RngGamePlatform.Transactions.Keeping
Purpose: Invariants that every statement of a program keeps when it runs alone.
Trusted boundary: none
Main exports: Program.Keeps, keeps_bind, Program.Keeps.run
-/
import RngGamePlatform.Transactions.Program

namespace RngGamePlatform.Transactions

/-!
A program that runs alone goes from view to view.  Every change it makes has to
keep the invariant, and what it returns is judged on the last view.  Unlike a
confined program it knows what its earlier statements have read and written.
-/

variable {σ κ τ ε α β : Type}

/-- From the given view on every change keeps the invariant, and the result is as
required; nothing is asked of exceptions. -/
def Program.Keeps (inv : σ → Prop) (returns : α → σ → Prop) :
    Program σ κ τ ε α → σ → Prop
  | .ret value, view => returns value view
  | .raise _, _ => True
  | .now next, view => ∀ time, (next time).Keeps inv returns view
  | .select _ next, view => (next view).Keeps inv returns view
  | .execute _ change next, view =>
      ∀ view', change view = .ok view' → inv view' ∧ next.Keeps inv returns view'
  | .commit next, view => next.Keeps inv returns view

section Rules

variable {inv : σ → Prop} {returns : α → σ → Prop} {view : σ}

@[simp] theorem keeps_ret {value : α} :
    (Program.ret value : Program σ κ τ ε α).Keeps inv returns view ↔
      returns value view := Iff.rfl

@[simp] theorem keeps_raise {error : ε} :
    (Program.raise error : Program σ κ τ ε α).Keeps inv returns view := trivial

/-- Sequencing. -/
@[simp] theorem keeps_bind {program : Program σ κ τ ε β} {f : β → Program σ κ τ ε α} :
    (program >>= f).Keeps inv returns view ↔
      program.Keeps inv (fun value => (f value).Keeps inv returns) view := by
  induction program generalizing view with
  | ret value => exact Iff.rfl
  | raise error => exact Iff.rfl
  | now next ih => exact forall_congr' fun time => ih time
  | select locks next ih => exact ih view
  | execute locks change next ih =>
      exact forall_congr' fun view' =>
        imp_congr_right fun _ => and_congr_right fun _ => ih
  | commit next ih => exact ih

@[simp] theorem keeps_map {program : Program σ κ τ ε β} {f : β → α} :
    (f <$> program).Keeps inv returns view ↔
      program.Keeps inv (fun value => returns (f value)) view := by
  have asBind : f <$> program = program >>= fun value => .ret (f value) := rfl
  rw [asBind, keeps_bind]
  exact Iff.rfl

@[simp] theorem keeps_query {locks : σ → List κ} {answer : σ → α} :
    (Program.query locks answer : Program σ κ τ ε α).Keeps inv returns view ↔
      returns (answer view) view := Iff.rfl

@[simp] theorem keeps_update {locks : σ → List κ} {change : σ → Except ε σ}
    {returns : Unit → σ → Prop} :
    (Program.update locks change : Program σ κ τ ε Unit).Keeps inv returns view ↔
      ∀ view', change view = .ok view' → inv view' ∧ returns () view' := Iff.rfl

@[simp] theorem keeps_orRaise {error : ε} {found : Option α} :
    (Program.orRaise error found : Program σ κ τ ε α).Keeps inv returns view ↔
      ∀ value, found = some value → returns value view := by
  cases found with
  | none => simp [Program.orRaise]
  | some value => simp [Program.orRaise]

@[simp] theorem keeps_require {error : ε} {condition : Prop} [Decidable condition]
    {returns : Unit → σ → Prop} :
    (Program.require error condition : Program σ κ τ ε Unit).Keeps inv returns view ↔
      (condition → returns () view) := by
  unfold Program.require
  split
  · next holds => simp [holds]
  · next fails => simp [fails]

@[simp] theorem keeps_ofExcept {result : Except ε α} :
    (Program.ofExcept result : Program σ κ τ ε α).Keeps inv returns view ↔
      ∀ value, result = .ok value → returns value view := by
  cases result with
  | error error => simp [Program.ofExcept]
  | ok value => simp [Program.ofExcept]

end Rules

/-- What a run leaves and returns. -/
theorem Program.Keeps.run {inv : σ → Prop} {returns : α → σ → Prop} {times : List τ}
    {committed view final : σ} {result : Except ε α} {program : Program σ κ τ ε α}
    (keeps : program.Keeps inv returns view) (durable : inv committed) (holds : inv view)
    (ran : program.run times committed view = some (result, final)) :
    inv final ∧ ∀ value, result = .ok value → ∃ last, inv last ∧ returns value last := by
  induction program generalizing times committed view with
  | ret value =>
      cases ran
      exact ⟨durable, fun _ same => ⟨view, holds, Except.ok.inj same ▸ keeps⟩⟩
  | raise error =>
      cases ran
      exact ⟨durable, nofun⟩
  | now next ih =>
      cases times with
      | nil => cases ran
      | cons time times => exact ih time (keeps time) durable holds ran
  | select locks next ih => exact ih view keeps durable holds ran
  | execute locks change next ih =>
      simp only [Program.run] at ran
      split at ran
      · next view' changed =>
          obtain ⟨kept, rest⟩ := keeps view' changed
          exact ih rest durable kept ran
      · cases ran
        exact ⟨durable, nofun⟩
  | commit next ih => exact ih keeps holds holds ran

end RngGamePlatform.Transactions
