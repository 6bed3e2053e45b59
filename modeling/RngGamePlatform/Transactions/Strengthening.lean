/-
Module: RngGamePlatform.Transactions.Strengthening
Purpose: A contract with one more invariant, which every statement keeps.
Trusted boundary: none
Main exports: Contract.both, Contract.Rely.left, Program.Outlined.both,
  Program.Executes.confined
-/
import RngGamePlatform.Transactions.Confinement
import RngGamePlatform.Transactions.Outlines
import RngGamePlatform.Transactions.Vocabulary

namespace RngGamePlatform.Transactions

variable {σ κ τ ε ρ : Type}

/-- The contract with one more invariant. -/
def Contract.both (C : Contract σ κ) (more : σ → Prop) : Contract σ κ :=
  { C with inv := fun db => C.inv db ∧ more db }

variable {C : Contract σ κ} {more : σ → Prop}

theorem Contract.Rely.left {held : List κ} {db db' : σ}
    (relied : (C.both more).Rely held db db') : C.Rely held db db' := by
  obtain ⟨held', apart, before, after, commits⟩ := relied
  exact ⟨held', apart, before.1, after.1, commits⟩

theorem Contract.Stable.both {held : List κ} {here : σ → Prop} (stable : C.Stable held here) :
    (C.both more).Stable held here :=
  fun db db' known relied => stable db db' known relied.left

/-- An outline stays one when every statement keeps the invariant that is added. -/
theorem Program.Outlined.both {program : Program σ κ τ ε ρ} {here : σ → Prop}
    {changes : σ → σ} {held : List κ} (outlined : program.Outlined C here changes held)
    (keeps : program.Confined more (fun _ => True) fun _ => True)
    (kept : ∀ db, more db → more (changes db)) :
    program.Outlined (C.both more) here changes held := by
  induction program generalizing here changes held with
  | ret value => trivial
  | raise error => trivial
  | now next ih => exact fun time => ih time (outlined time) (keeps time) kept
  | select locks next ih =>
      intro db known inv
      obtain ⟨there, isThere, stable, rest⟩ := outlined db known inv.1
      exact ⟨there, isThere, stable.both, ih _ rest (keeps _ (kept db inv.2)) kept⟩
  | execute locks change next ih =>
      intro db state known inv changed
      obtain ⟨there, isThere, stable, rest⟩ := outlined db state known inv.1 changed
      refine ⟨there, isThere, stable.both, ih rest keeps.2.2 ?_⟩
      intro other holds
      unfold applied
      split
      · next written => exact keeps.2.1 _ _ (kept other holds) written
      · exact kept other holds
  | commit next ih =>
      intro db known inv
      obtain ⟨⟨invariant, commits⟩, rest⟩ := outlined db known inv.1
      exact ⟨⟨⟨invariant, kept db inv.2⟩, commits⟩, ih rest keeps fun _ holds => holds⟩

/-- What every statement of a vocabulary keeps, the programs in it keep. -/
theorem Program.Executes.confined {α ε : Type} {allowed : (σ → Except ε σ) → Prop}
    {program : Program σ κ τ ε α} (executes : program.Executes allowed)
    (kept : ∀ change, allowed change → ∀ view view', more view → change view = .ok view' →
      more view') :
    program.Confined more (fun _ => True) fun _ => True := by
  induction program with
  | ret value => trivial
  | raise error => trivial
  | now next ih => exact fun time => ih time (executes time)
  | select locks next ih => exact fun view _ => ih view (executes view)
  | execute locks change next ih =>
      obtain ⟨isAllowed, rest⟩ := executes
      exact ⟨fun _ _ _ _ => trivial, kept change isAllowed, ih rest⟩
  | commit next ih => exact ih executes

end RngGamePlatform.Transactions
