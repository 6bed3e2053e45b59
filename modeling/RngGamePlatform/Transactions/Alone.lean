/-
Module: RngGamePlatform.Transactions.Alone
Purpose: Weakest preconditions of programs that run alone.
Trusted boundary: none
Main exports: Program.Ends, ends_bind, Program.Ends.weaken, Program.Ends.run,
  Program.Ends.total, Program.Ends.returns, Program.Ends.returned
-/
import RngGamePlatform.Transactions.Program

namespace RngGamePlatform.Transactions

/-!
A program that no other request interrupts sees what it has written itself.  Its
weakest precondition is over the clock readings to come, the durable state and
the view; `stuck` stands for the case that the readings run out.
-/

variable {σ κ τ ε α β : Type}

/-- The weakest precondition of a program that runs alone. -/
def Program.Ends (stuck : Prop) (ok : α → List τ → σ → σ → Prop)
    (bad : ε → σ → Prop) : Program σ κ τ ε α → List τ → σ → σ → Prop
  | .ret value, times, committed, view => ok value times committed view
  | .raise error, _, committed, _ => bad error committed
  | .now _, [], _, _ => stuck
  | .now next, time :: times, committed, view =>
      (next time).Ends stuck ok bad times committed view
  | .select _ next, times, committed, view =>
      (next view).Ends stuck ok bad times committed view
  | .execute _ change next, times, committed, view =>
      match change view with
      | .ok view' => next.Ends stuck ok bad times committed view'
      | .error error => bad error committed
  | .commit next, times, _, view => next.Ends stuck ok bad times view view

section Rules

variable {stuck : Prop} {ok : α → List τ → σ → σ → Prop} {bad : ε → σ → Prop}
  {times : List τ} {committed view : σ}

@[simp] theorem ends_ret {value : α} :
    (Program.ret value : Program σ κ τ ε α).Ends stuck ok bad times committed view ↔
      ok value times committed view := Iff.rfl

@[simp] theorem ends_raise {error : ε} :
    (Program.raise error : Program σ κ τ ε α).Ends stuck ok bad times committed view ↔
      bad error committed := Iff.rfl

/-- Sequencing. -/
@[simp] theorem ends_bind {program : Program σ κ τ ε β} {f : β → Program σ κ τ ε α} :
    (program >>= f).Ends stuck ok bad times committed view ↔
      program.Ends stuck (fun value => (f value).Ends stuck ok bad) bad times
        committed view := by
  induction program generalizing times committed view with
  | ret value => exact Iff.rfl
  | raise error => exact Iff.rfl
  | now next ih =>
      cases times with
      | nil => exact Iff.rfl
      | cons time times => exact ih time
  | select locks next ih => exact ih view
  | execute locks change next ih =>
      simp only [Program.execute_bind, Program.Ends]
      split
      · exact ih
      · exact Iff.rfl
  | commit next ih => exact ih

@[simp] theorem ends_map {program : Program σ κ τ ε β} {f : β → α} :
    (f <$> program).Ends stuck ok bad times committed view ↔
      program.Ends stuck (fun value => ok (f value)) bad times committed view := by
  have asBind : f <$> program = program >>= fun value => .ret (f value) := rfl
  rw [asBind, ends_bind]
  exact Iff.rfl

/-- Rule of consequence. -/
theorem Program.Ends.weaken {program : Program σ κ τ ε α}
    {ok' : α → List τ → σ → σ → Prop} {bad' : ε → σ → Prop}
    (ends : program.Ends stuck ok bad times committed view)
    (wider : ∀ value times committed view, ok value times committed view →
      ok' value times committed view)
    (wider' : ∀ error committed, bad error committed → bad' error committed) :
    program.Ends stuck ok' bad' times committed view := by
  induction program generalizing times committed view with
  | ret value => exact wider _ _ _ _ ends
  | raise error => exact wider' _ _ ends
  | now next ih =>
      cases times with
      | nil => exact ends
      | cons time times => exact ih time ends
  | select locks next ih => exact ih view ends
  | execute locks change next ih =>
      simp only [Program.Ends] at ends ⊢
      split
      · next changed =>
          rw [changed] at ends
          exact ih ends
      · next changed =>
          rw [changed] at ends
          exact wider' _ _ ends
  | commit next ih => exact ih ends

@[simp] theorem ends_clock_cons {time : τ} {ok : τ → List τ → σ → σ → Prop} :
    (Program.clock : Program σ κ τ ε τ).Ends stuck ok bad (time :: times) committed
        view ↔
      ok time times committed view := Iff.rfl

@[simp] theorem ends_query {locks : σ → List κ} {answer : σ → α} :
    (Program.query locks answer : Program σ κ τ ε α).Ends stuck ok bad times committed
        view ↔
      ok (answer view) times committed view := Iff.rfl

theorem ends_update {locks : σ → List κ} {change : σ → Except ε σ}
    {ok : Unit → List τ → σ → σ → Prop} :
    (Program.update locks change : Program σ κ τ ε Unit).Ends stuck ok bad times
        committed view ↔
      (∀ view', change view = .ok view' → ok () times committed view') ∧
        ∀ error, change view = .error error → bad error committed := by
  cases changed : change view <;> simp [Program.update, Program.Ends, changed]

/-- A changing statement that succeeds. -/
theorem ends_update_ok {locks : σ → List κ} {change : σ → Except ε σ} {view' : σ}
    {ok : Unit → List τ → σ → σ → Prop} (changed : change view = .ok view') :
    (Program.update locks change : Program σ κ τ ε Unit).Ends stuck ok bad times
        committed view ↔
      ok () times committed view' := by
  simp [Program.update, Program.Ends, changed]

@[simp] theorem ends_commitWork {ok : Unit → List τ → σ → σ → Prop} :
    (Program.commitWork : Program σ κ τ ε Unit).Ends stuck ok bad times committed
        view ↔
      ok () times view view := Iff.rfl

@[simp] theorem ends_orRaise_some {error : ε} {value : α} :
    (Program.orRaise error (some value) : Program σ κ τ ε α).Ends stuck ok bad times
        committed view ↔
      ok value times committed view := Iff.rfl

@[simp] theorem ends_require {error : ε} {condition : Prop} [Decidable condition]
    {ok : Unit → List τ → σ → σ → Prop} :
    (Program.require error condition : Program σ κ τ ε Unit).Ends stuck ok bad times
        committed view ↔
      (condition → ok () times committed view) ∧ (¬condition → bad error committed) := by
  unfold Program.require
  split
  · next holds => simp [holds]
  · next fails => simp [fails]

@[simp] theorem ends_ofExcept_ok {value : α} :
    (Program.ofExcept (.ok value) : Program σ κ τ ε α).Ends stuck ok bad times committed
        view ↔
      ok value times committed view := Iff.rfl

end Rules

section Soundness

variable {stuck : Prop} {post : Except ε α → σ → Prop} {times : List τ}
  {committed view : σ} {program : Program σ κ τ ε α}

/-- What the weakest precondition says about a run. -/
theorem Program.Ends.run {result : Except ε α} {final : σ}
    (ends : program.Ends stuck (fun value _ committed _ => post (.ok value) committed)
      (fun error committed => post (.error error) committed) times committed view)
    (ran : program.run times committed view = some (result, final)) :
    post result final := by
  induction program generalizing times committed view with
  | ret value =>
      cases ran
      exact ends
  | raise error =>
      cases ran
      exact ends
  | now next ih =>
      cases times with
      | nil => cases ran
      | cons time times => exact ih time ends ran
  | select locks next ih => exact ih view ends ran
  | execute locks change next ih =>
      simp only [Program.Ends] at ends
      simp only [Program.run] at ran
      split at ran
      · next changed =>
          rw [changed] at ends
          exact ih ends ran
      · next changed =>
          rw [changed] at ends
          cases ran
          exact ends
  | commit next ih => exact ih ends ran

/-- A program that does not get stuck ends. -/
theorem Program.Ends.total
    (ends : program.Ends False (fun value _ committed _ => post (.ok value) committed)
      (fun error committed => post (.error error) committed) times committed view) :
    ∃ result final, program.run times committed view = some (result, final) ∧
      post result final := by
  induction program generalizing times committed view with
  | ret value => exact ⟨_, _, rfl, ends⟩
  | raise error => exact ⟨_, _, rfl, ends⟩
  | now next ih =>
      cases times with
      | nil => exact ends.elim
      | cons time times => exact ih time ends
  | select locks next ih => exact ih view ends
  | execute locks change next ih =>
      simp only [Program.Ends] at ends
      simp only [Program.run]
      split
      · next changed =>
          rw [changed] at ends
          exact ih ends
      · next changed =>
          rw [changed] at ends
          exact ⟨_, _, rfl, ends⟩
  | commit next ih => exact ih ends

/-- A program that can only return one value in one state. -/
theorem Program.Ends.returns {value : α} {final : σ}
    (ends : program.Ends False (fun result _ last _ => result = value ∧ last = final)
      (fun _ _ => False) times committed view) :
    program.run times committed view = some (.ok value, final) := by
  have asPost : program.Ends False
      (fun result _ last _ =>
        (Except.ok result : Except ε α) = .ok value ∧ last = final)
      (fun error last => (Except.error error : Except ε α) = .ok value ∧ last = final)
      times committed view :=
    ends.weaken (fun _ _ _ _ same => ⟨congrArg Except.ok same.1, same.2⟩)
      fun _ _ impossible => impossible.elim
  obtain ⟨result, last, ran, same, isFinal⟩ :=
    @Program.Ends.total σ κ τ ε α (fun result last => result = .ok value ∧ last = final)
      times committed view program asPost
  rw [ran, same, isFinal]

/-- What holds of every value that a program can return. -/
theorem Program.Ends.returned {returns : α → Prop} {value : α} {final : σ}
    (ends : program.Ends True (fun value _ _ _ => returns value) (fun _ _ => True) times
      committed view)
    (ran : program.run times committed view = some (.ok value, final)) : returns value := by
  have asPost : program.Ends True
      (fun value _ _ _ => ∀ other, (Except.ok value : Except ε α) = .ok other → returns other)
      (fun error _ => ∀ other, (Except.error error : Except ε α) = .ok other → returns other)
      times committed view :=
    ends.weaken (fun _ _ _ _ known _ same => Except.ok.inj same ▸ known) fun _ _ _ => nofun
  exact @Program.Ends.run σ κ τ ε α True
    (fun result _ => ∀ other, result = .ok other → returns other) _ _ _ _ _ _ asPost ran
    value rfl

end Soundness

end RngGamePlatform.Transactions
