/-
Module: RngGamePlatform.Transactions.Vocabulary
Purpose: Programs whose changing statements all come from one vocabulary, and how the
  committed states of a system of such programs follow from each other.
Trusted boundary: none
Main exports: Program.Executes, Written, Written.keeps, Written.related, Spoken,
  Spoken.step, Reachable.spoken, Reachable.written, Moments, Moments.written,
  Moments.along, Moments.along_first, Moments.along_then,
  Moments.along_start, Moments.along_last
-/
import RngGamePlatform.Transactions.System
import Mathlib.Logic.Relation

namespace RngGamePlatform.Transactions

/-!
A vocabulary is a set of changing statements.  When every program of a system keeps to
it, each committed state comes from the one before by statements of the vocabulary,
whatever the interleaving: what they all keep is an invariant of every run, and a
preorder that they all follow relates any two moments of a run.
-/

variable {σ κ τ ε χ ρ α β : Type}

/-- Every changing statement of the program is one that is allowed. -/
def Program.Executes (allowed : (σ → Except ε σ) → Prop) : Program σ κ τ ε α → Prop
  | .ret _ => True
  | .raise _ => True
  | .now next => ∀ time, (next time).Executes allowed
  | .select _ next => ∀ view, (next view).Executes allowed
  | .execute _ change next => allowed change ∧ next.Executes allowed
  | .commit next => next.Executes allowed

namespace Program.Executes

variable {allowed : (σ → Except ε σ) → Prop}

theorem bind {program : Program σ κ τ ε α} {f : α → Program σ κ τ ε β}
    (first : program.Executes allowed) (rest : ∀ value, (f value).Executes allowed) :
    (program >>= f).Executes allowed := by
  induction program with
  | ret value => exact rest value
  | raise error => trivial
  | now next ih => exact fun time => ih time (first time)
  | select locks next ih => exact fun view => ih view (first view)
  | execute locks change next ih => exact ⟨first.1, ih first.2⟩
  | commit next ih => exact ih first

theorem map {program : Program σ κ τ ε α} {f : α → β} (executes : program.Executes allowed) :
    (f <$> program).Executes allowed :=
  executes.bind fun _ => trivial

/-- A larger vocabulary. -/
theorem mono {wider : (σ → Except ε σ) → Prop} {program : Program σ κ τ ε α}
    (executes : program.Executes allowed) (contains : ∀ change, allowed change → wider change) :
    program.Executes wider := by
  induction program with
  | ret value => trivial
  | raise error => trivial
  | now next ih => exact fun time => ih time (executes time)
  | select locks next ih => exact fun view => ih view (executes view)
  | execute locks change next ih => exact ⟨contains change executes.1, ih executes.2⟩
  | commit next ih => exact ih executes

/-- A program that only reads executes nothing. -/
theorem of_readOnly {program : Program σ κ τ ε α} (readOnly : program.ReadOnly) :
    program.Executes allowed := by
  induction program with
  | ret value => trivial
  | raise error => trivial
  | now next ih => exact fun time => ih time (readOnly time)
  | select locks next ih => exact fun view => ih view (readOnly view)
  | execute locks change next ih => exact readOnly.elim
  | commit next ih => exact readOnly.elim

/-- A program that reads first. -/
theorem reading {program : Program σ κ τ ε α} {f : α → Program σ κ τ ε β}
    (readOnly : program.ReadOnly) (rest : ∀ value, (f value).Executes allowed) :
    (program >>= f).Executes allowed :=
  (of_readOnly readOnly).bind rest

theorem update (locks : σ → List κ) {change : σ → Except ε σ} (isAllowed : allowed change) :
    (Program.update locks change : Program σ κ τ ε Unit).Executes allowed :=
  ⟨isAllowed, trivial⟩

theorem clock : (Program.clock : Program σ κ τ ε τ).Executes allowed := fun _ => trivial

end Program.Executes

/-- A state follows from another by some allowed statements. -/
def Written (allowed : (σ → Except ε σ) → Prop) : σ → σ → Prop :=
  Relation.ReflTransGen fun before after =>
    ∃ change, allowed change ∧ change before = .ok after

namespace Written

variable {allowed : (σ → Except ε σ) → Prop} {before middle after : σ}

theorem refl (state : σ) : Written allowed state state := Relation.ReflTransGen.refl

theorem trans (first : Written allowed before middle) (second : Written allowed middle after) :
    Written allowed before after :=
  Relation.ReflTransGen.trans first second

/-- One more statement; where it fails, nothing changes. -/
theorem applied {change : σ → Except ε σ} (isAllowed : allowed change)
    (written : Written allowed before after) :
    Written allowed before (applied change after) := by
  unfold Transactions.applied
  split
  · next state changed => exact Relation.ReflTransGen.tail written ⟨change, isAllowed, changed⟩
  · exact written

/-- What every statement keeps holds after all of them. -/
theorem keeps {inv : σ → Prop} (written : Written allowed before after)
    (kept : ∀ change, allowed change → ∀ view view', inv view → change view = .ok view' →
      inv view')
    (holds : inv before) : inv after := by
  induction written with
  | refl => exact holds
  | tail _ stepped ih =>
      obtain ⟨change, isAllowed, changed⟩ := stepped
      exact kept change isAllowed _ _ ih changed

/-- A preorder that every statement follows relates the states before and after. -/
theorem related {related : σ → σ → Prop} (written : Written allowed before after)
    (refl : ∀ state, related state state)
    (trans : ∀ {first second third}, related first second → related second third →
      related first third)
    (follows : ∀ change, allowed change → ∀ view view', change view = .ok view' →
      related view view') :
    related before after := by
  induction written with
  | refl => exact refl _
  | tail _ stepped ih =>
      obtain ⟨change, isAllowed, changed⟩ := stepped
      exact trans ih (follows change isAllowed _ _ changed)

end Written

section Runs

variable {conflicts : κ → κ → Bool} {body : χ → Program σ κ τ ε ρ}
  {allowed : (σ → Except ε σ) → Prop}

/-- A request that keeps to the vocabulary: in what it has changed so far, and in what
it still executes. -/
structure SpokenThread (allowed : (σ → Except ε σ) → Prop)
    (thread : Thread σ κ τ ε χ ρ) : Prop where
  changes : ∀ db, Written allowed db (thread.changes db)
  program : thread.program.Executes allowed

/-- A system whose requests keep to the vocabulary. -/
def Spoken (allowed : (σ → Except ε σ) → Prop) (system : System σ κ τ ε χ ρ) : Prop :=
  ∀ thread ∈ system.threads, SpokenThread allowed thread

variable {system next : System σ κ τ ε χ ρ}

theorem Spoken.set {index : Nat} {thread : Thread σ κ τ ε χ ρ} (db : σ)
    (spoken : Spoken allowed system) (here : SpokenThread allowed thread) :
    Spoken allowed { db := db, threads := system.threads.set index thread } := by
  intro other member
  rcases List.mem_or_eq_of_mem_set member with before | rfl
  · exact spoken other before
  · exact here

/-- One statement of a request, and what it commits. -/
theorem Spoken.advance {index : Nat} {time : τ} {thread : Thread σ κ τ ε χ ρ}
    (spoken : Spoken allowed system) (here : SpokenThread allowed thread)
    (stepped : system.advance conflicts index time thread = some next) :
    Spoken allowed next ∧ Written allowed system.db next.db := by
  obtain ⟨changes, executes⟩ := here
  unfold System.advance at stepped
  cases program : thread.program with
  | ret value =>
      rw [program] at stepped
      cases stepped
      exact ⟨spoken.set _ ⟨.refl, program ▸ executes⟩, .refl _⟩
  | raise error =>
      rw [program] at stepped
      cases stepped
      exact ⟨spoken.set _ ⟨.refl, program ▸ executes⟩, .refl _⟩
  | now following =>
      rw [program] at stepped executes
      cases stepped
      exact ⟨spoken.set _ ⟨changes, executes time⟩, .refl _⟩
  | select locks following =>
      rw [program] at executes
      simp only [program] at stepped
      split at stepped
      · cases stepped
        exact ⟨spoken.set _ ⟨changes, executes _⟩, .refl _⟩
      · cases stepped
  | execute locks change following =>
      rw [program] at executes
      simp only [program] at stepped
      split at stepped
      · split at stepped
        · cases stepped
          exact ⟨spoken.set _ ⟨fun db => (changes db).applied executes.1, executes.2⟩, .refl _⟩
        · cases stepped
          exact ⟨spoken.set _ ⟨changes, trivial⟩, .refl _⟩
      · cases stepped
  | commit following =>
      rw [program] at stepped executes
      cases stepped
      exact ⟨spoken.set _ ⟨.refl, executes⟩, changes _⟩

/-- One step of the system. -/
theorem Spoken.step {label : Label τ χ} (bodies : ∀ call, (body call).Executes allowed)
    (spoken : Spoken allowed system)
    (stepped : system.step conflicts body label = some next) :
    Spoken allowed next ∧ Written allowed system.db next.db := by
  cases label with
  | start call =>
      cases stepped
      refine ⟨fun thread member => ?_, .refl _⟩
      rcases List.mem_append.mp member with before | isNew
      · exact spoken thread before
      · cases List.mem_singleton.mp isNew
        exact ⟨.refl, bodies call⟩
  | advance index time =>
      simp only [System.step] at stepped
      split at stepped
      · next thread found =>
          split at stepped
          · exact spoken.advance (spoken thread (List.mem_of_getElem? found)) stepped
          · cases stepped
      · cases stepped
  | abort index =>
      simp only [System.step] at stepped
      split at stepped
      · next thread found =>
          split at stepped
          · cases stepped
            have here := spoken thread (List.mem_of_getElem? found)
            exact ⟨spoken.set _ ⟨.refl, here.program⟩, .refl _⟩
          · cases stepped
      · cases stepped

variable {initial : σ → Prop} {admits : System σ κ τ ε χ ρ → Label τ χ → Prop}

theorem Reachable.spoken (bodies : ∀ call, (body call).Executes allowed)
    (reachable : Reachable conflicts body initial admits system) : Spoken allowed system := by
  induction reachable with
  | start db begins =>
      intro thread member
      cases member
  | step before admitted stepped ih => exact (ih.step bodies stepped).1

/-- Every committed state is written from an initial one. -/
theorem Reachable.written (bodies : ∀ call, (body call).Executes allowed)
    (reachable : Reachable conflicts body initial admits system) :
    ∃ start, initial start ∧ Written allowed start system.db := by
  induction reachable with
  | start db begins => exact ⟨db, begins, .refl db⟩
  | step before admitted stepped ih =>
      obtain ⟨start, begins, written⟩ := ih
      exact ⟨start, begins, written.trans ((before.spoken bodies).step bodies stepped).2⟩

/-- The moments of one run: from each to the next the run takes a step, or nothing
happens. -/
structure Moments (conflicts : κ → κ → Bool) (body : χ → Program σ κ τ ε ρ)
    (initial : σ → Prop) where
  system : Nat → System σ κ τ ε χ ρ
  begins : Reachable conflicts body initial AnyStep (system 0)
  goes : ∀ moment, system (moment + 1) = system moment ∨
    ∃ label, (system moment).step conflicts body label = some (system (moment + 1))

namespace Moments

variable (moments : Moments conflicts body initial)

/-- The committed state at a moment. -/
def db (moment : Nat) : σ := (moments.system moment).db

theorem reachable (moment : Nat) :
    Reachable conflicts body initial AnyStep (moments.system moment) := by
  induction moment with
  | zero => exact moments.begins
  | succ moment ih =>
      rcases moments.goes moment with same | ⟨label, stepped⟩
      · exact same ▸ ih
      · exact ih.step trivial stepped

/-- What is committed later is written from what was committed earlier. -/
theorem written (bodies : ∀ call, (body call).Executes allowed) {earlier later : Nat}
    (before : earlier ≤ later) : Written allowed (moments.db earlier) (moments.db later) := by
  induction before with
  | refl => exact .refl _
  | @step moment _ ih =>
      refine ih.trans ?_
      rcases moments.goes moment with same | ⟨label, stepped⟩
      · rw [db, db, same]
        exact .refl _
      · exact (((moments.reachable moment).spoken bodies).step bodies stepped).2

end Moments

/-- The states along a list of labels; it ends where a label is not enabled. -/
def walk (conflicts : κ → κ → Bool) (body : χ → Program σ κ τ ε ρ) :
    System σ κ τ ε χ ρ → List (Label τ χ) → Nat → System σ κ τ ε χ ρ
  | system, [], _ => system
  | system, _ :: _, 0 => system
  | system, label :: labels, moment + 1 =>
      match system.step conflicts body label with
      | some next => walk conflicts body next labels moment
      | none => system

theorem walk_zero (labels : List (Label τ χ)) :
    walk conflicts body system labels 0 = system := by
  cases labels <;> rfl

theorem walk_goes (labels : List (Label τ χ)) (moment : Nat) :
    walk conflicts body system labels (moment + 1) = walk conflicts body system labels moment ∨
      ∃ label, (walk conflicts body system labels moment).step conflicts body label =
        some (walk conflicts body system labels (moment + 1)) := by
  induction labels generalizing system moment with
  | nil => exact .inl rfl
  | cons label labels ih =>
      cases stepped : system.step conflicts body label with
      | none => cases moment <;> simp [walk, stepped]
      | some next =>
          cases moment with
          | zero =>
              right
              exact ⟨label, by simp [walk, stepped, walk_zero]⟩
          | succ moment => simpa [walk, stepped] using @ih next moment

/-- A list of labels that can be followed ends in its last state. -/
theorem walk_follow {labels : List (Label τ χ)}
    (followed : system.follow conflicts body labels = some next) :
    walk conflicts body system labels labels.length = next := by
  induction labels generalizing system with
  | nil => exact Option.some.inj followed
  | cons label labels ih =>
      simp only [System.follow] at followed
      split at followed
      · next middle stepped =>
          simp only [List.length_cons, walk, stepped]
          exact ih followed
      · cases followed

/-- Behind a list of labels that can be followed the walk goes on from its last state. -/
theorem walk_append {labels more : List (Label τ χ)} (moment : Nat)
    (followed : system.follow conflicts body labels = some next) :
    walk conflicts body system (labels ++ more) (labels.length + moment) =
      walk conflicts body next more moment := by
  induction labels generalizing system with
  | nil =>
      cases followed
      rw [List.nil_append, List.length_nil, Nat.zero_add]
  | cons label labels ih =>
      simp only [System.follow] at followed
      split at followed
      · next middle stepped =>
          rw [List.cons_append, List.length_cons, Nat.add_right_comm]
          simp only [walk, stepped]
          exact ih followed
      · cases followed

/-- The run along a list of labels. -/
def Moments.along (reachable : Reachable conflicts body initial AnyStep system)
    (labels : List (Label τ χ)) : Moments conflicts body initial where
  system := walk conflicts body system labels
  begins := (walk_zero labels).symm ▸ reachable
  goes := walk_goes labels

theorem Moments.along_first (reachable : Reachable conflicts body initial AnyStep system)
    (labels : List (Label τ χ)) : (Moments.along reachable labels).system 0 = system :=
  walk_zero labels

/-- Behind a list of labels that can be followed the run is in their last state. -/
theorem Moments.along_then (reachable : Reachable conflicts body initial AnyStep system)
    {labels more : List (Label τ χ)}
    (followed : system.follow conflicts body labels = some next) :
    (Moments.along reachable (labels ++ more)).system labels.length = next :=
  (walk_append 0 followed).trans (walk_zero more)

/-- A request that starts behind a list of labels is the last thread. -/
theorem Moments.along_start (reachable : Reachable conflicts body initial AnyStep system)
    {labels more : List (Label τ χ)} {call : χ}
    (followed : system.follow conflicts body labels = some next) :
    ((Moments.along reachable (labels ++ .start call :: more)).system
      (labels.length + 1)).threads[next.threads.length]? = some (Thread.fresh body call) := by
  have isSystem : (Moments.along reachable (labels ++ .start call :: more)).system
      (labels.length + 1) = walk conflicts body next (.start call :: more) 1 :=
    walk_append 1 followed
  rw [isSystem]
  simp only [walk, System.step, walk_zero]
  exact List.getElem?_concat_length

theorem Moments.along_last (reachable : Reachable conflicts body initial AnyStep system)
    {labels : List (Label τ χ)}
    (followed : system.follow conflicts body labels = some next) :
    (Moments.along reachable labels).system labels.length = next :=
  walk_follow followed

end Runs

end RngGamePlatform.Transactions
