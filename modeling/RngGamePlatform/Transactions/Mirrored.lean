/-
Module: RngGamePlatform.Transactions.Mirrored
Purpose: Two runs next to each other, one from a changed image of the other's committed
  state, when no request can tell the two states apart.
Trusted boundary: none
Main exports: Mirrored, Program.Mirrors, MirroredThread, System.mirrored, Mirroring,
  Mirroring.step, Mirroring.follow, Reachable.mirrored
-/
import RngGamePlatform.Transactions.System

namespace RngGamePlatform.Transactions

/-!
A mirror changes a part of the state.  A program mirrors when each of its queries answers
the same before the mirror and behind it, and each of its changing statements commutes with
it.  Requests of such programs take the same steps in both worlds: no answer, no exception
and no waiting for a lock shows which of the two it is.

Two predicates bound the states.  The queries and statements have to mirror where `inv`
holds; what a program does afterwards matters for the views that are `seen`, which may
include the views of a time before `inv` held.
-/

variable {σ κ τ ε χ ρ α β : Type} {inv seen : σ → Prop} {mirror : σ → σ}

/-- A changing statement that does the same behind the mirror, and keeps the invariant. -/
def Mirrored (inv : σ → Prop) (mirror : σ → σ) (change : σ → Except ε σ) : Prop :=
  ∀ view, inv view → change (mirror view) = (change view).map mirror ∧
    ∀ view', change view = .ok view' → inv view'

/-- Such a statement as the change of an uncommitted state. -/
theorem Mirrored.applied {change : σ → Except ε σ} {view : σ}
    (mirrored : Mirrored inv mirror change) (holds : inv view) :
    applied change (mirror view) = mirror (applied change view) ∧
      inv (applied change view) := by
  obtain ⟨same, kept⟩ := mirrored view holds
  unfold Transactions.applied
  rw [same]
  cases changed : change view with
  | ok view' => exact ⟨rfl, kept view' changed⟩
  | error error => exact ⟨rfl, holds⟩

/-- What a statement keeps holds of the uncommitted state after it. -/
theorem applied_keeps {change : σ → Except ε σ} {view : σ}
    (kept : ∀ view view', seen view → change view = .ok view' → seen view')
    (isSeen : seen view) : seen (applied change view) := by
  unfold Transactions.applied
  cases changed : change view with
  | ok view' => exact kept view view' isSeen changed
  | error error => exact isSeen

/-- No query of the program tells the two worlds apart, and no statement brings them
further apart. -/
def Program.Mirrors (inv seen : σ → Prop) (mirror : σ → σ) : Program σ κ τ ε α → Prop
  | .ret _ => True
  | .raise _ => True
  | .now next => ∀ time, (next time).Mirrors inv seen mirror
  | .select locks next =>
      (∀ view, inv view → locks (mirror view) = locks view ∧ next (mirror view) = next view) ∧
        ∀ view, seen view → (next view).Mirrors inv seen mirror
  | .execute locks change next =>
      (∀ view, inv view → locks (mirror view) = locks view) ∧ Mirrored inv mirror change ∧
        ∀ view view', seen view → change view = .ok view' →
          seen view' ∧ next.Mirrors inv seen mirror
  | .commit next => next.Mirrors inv seen mirror

namespace Program.Mirrors

theorem bind {program : Program σ κ τ ε α} {f : α → Program σ κ τ ε β}
    (first : program.Mirrors inv seen mirror)
    (rest : ∀ value, (f value).Mirrors inv seen mirror) :
    (program >>= f).Mirrors inv seen mirror := by
  induction program with
  | ret value => exact rest value
  | raise error => trivial
  | now next ih => exact fun time => ih time (first time)
  | select locks next ih =>
      obtain ⟨same, after⟩ := first
      constructor
      · intro view holds
        have ⟨sameLocks, sameNext⟩ := same view holds
        exact ⟨sameLocks, congrArg (· >>= f) sameNext⟩
      · exact fun view sees => ih view (after view sees)
  | execute locks change next ih =>
      obtain ⟨sameLocks, mirrored, after⟩ := first
      refine ⟨sameLocks, mirrored, ?_⟩
      intro view view' sees changed
      obtain ⟨sees', mirrors⟩ := after view view' sees changed
      exact ⟨sees', ih mirrors⟩
  | commit next ih => exact ih first

theorem map {program : Program σ κ τ ε α} {f : α → β}
    (mirrors : program.Mirrors inv seen mirror) : (f <$> program).Mirrors inv seen mirror :=
  mirrors.bind fun _ => trivial

/-- A query that answers the same in both worlds. -/
theorem query {locks : σ → List κ} {answer : σ → α}
    (same : ∀ view, inv view → locks (mirror view) = locks view ∧
      answer (mirror view) = answer view) :
    (Program.query locks answer : Program σ κ τ ε α).Mirrors inv seen mirror := by
  constructor
  · intro view holds
    have ⟨sameLocks, sameAnswer⟩ := same view holds
    exact ⟨sameLocks, congrArg Program.ret sameAnswer⟩
  · exact fun _ _ => trivial

/-- A query that answers the same in both worlds, and what is done with the answer. -/
theorem ask {locks : σ → List κ} {answer : σ → α} {f : α → Program σ κ τ ε β}
    (same : ∀ view, inv view → locks (mirror view) = locks view ∧
      answer (mirror view) = answer view)
    (rest : ∀ value, (f value).Mirrors inv seen mirror) :
    (Program.query locks answer >>= f).Mirrors inv seen mirror :=
  (query same).bind rest

/-- A query whose answer tells something that the rest relies on. -/
theorem reading {locks : σ → List κ} {answer : σ → α} {f : α → Program σ κ τ ε β}
    (same : ∀ view, inv view → locks (mirror view) = locks view ∧
      answer (mirror view) = answer view)
    (rest : ∀ view, seen view → (f (answer view)).Mirrors inv seen mirror) :
    (Program.query locks answer >>= f).Mirrors inv seen mirror := by
  constructor
  · intro view holds
    have ⟨sameLocks, sameAnswer⟩ := same view holds
    exact ⟨sameLocks, congrArg f sameAnswer⟩
  · exact rest

/-- A query whose answer is not used. -/
theorem ignoring {locks : σ → List κ} {answer : σ → α} {rest : Program σ κ τ ε β}
    (same : ∀ view, inv view → locks (mirror view) = locks view)
    (mirrors : rest.Mirrors inv seen mirror) :
    (Program.query locks answer >>= fun _ => rest).Mirrors inv seen mirror :=
  ⟨fun view holds => ⟨same view holds, rfl⟩, fun _ _ => mirrors⟩

theorem orRaise {error : ε} {found : Option α} {f : α → Program σ κ τ ε β}
    (rest : ∀ value, found = some value → (f value).Mirrors inv seen mirror) :
    (Program.orRaise error found >>= f).Mirrors inv seen mirror := by
  cases found with
  | none => trivial
  | some value => exact rest value rfl

theorem require {error : ε} {condition : Prop} [Decidable condition]
    {f : Unit → Program σ κ τ ε β}
    (rest : condition → (f ()).Mirrors inv seen mirror) :
    (Program.require error condition >>= f).Mirrors inv seen mirror := by
  unfold Program.require
  split
  · next holds => exact rest holds
  · trivial

/-- A condition that ends the program. -/
theorem required {error : ε} {condition : Prop} [Decidable condition] :
    (Program.require error condition : Program σ κ τ ε Unit).Mirrors inv seen mirror := by
  unfold Program.require
  split <;> trivial

theorem ofExcept {result : Except ε α} :
    (Program.ofExcept result : Program σ κ τ ε α).Mirrors inv seen mirror := by
  cases result <;> trivial

theorem clock : (Program.clock : Program σ κ τ ε τ).Mirrors inv seen mirror :=
  fun _ => trivial

theorem update {locks : σ → List κ} {change : σ → Except ε σ}
    (same : ∀ view, inv view → locks (mirror view) = locks view)
    (mirrored : Mirrored inv mirror change)
    (kept : ∀ view view', seen view → change view = .ok view' → seen view') :
    (Program.update locks change : Program σ κ τ ε Unit).Mirrors inv seen mirror :=
  ⟨same, mirrored, fun view view' sees changed => ⟨kept view view' sees changed, trivial⟩⟩

/-- A statement whose success tells something that the rest relies on. -/
theorem changing {locks : σ → List κ} {change : σ → Except ε σ}
    {f : Unit → Program σ κ τ ε β}
    (same : ∀ view, inv view → locks (mirror view) = locks view)
    (mirrored : Mirrored inv mirror change)
    (rest : ∀ view view', seen view → change view = .ok view' →
      seen view' ∧ (f ()).Mirrors inv seen mirror) :
    (Program.update locks change >>= f).Mirrors inv seen mirror :=
  ⟨same, mirrored, rest⟩

/-- Where the invariant holds, only its own views have to be looked after. -/
theorem narrow {program : Program σ κ τ ε α} (mirrors : program.Mirrors inv seen mirror)
    (implies : ∀ view, inv view → seen view) : program.Mirrors inv inv mirror := by
  induction program with
  | ret value => trivial
  | raise error => trivial
  | now next ih => exact fun time => ih time (mirrors time)
  | select locks next ih =>
      exact ⟨mirrors.1, fun view holds => ih view (mirrors.2 view (implies view holds))⟩
  | execute locks change next ih =>
      obtain ⟨sameLocks, mirrored, after⟩ := mirrors
      refine ⟨sameLocks, mirrored, ?_⟩
      intro view view' holds changed
      exact ⟨(mirrored view holds).2 view' changed,
        ih (after view view' (implies view holds) changed).2⟩
  | commit next ih => exact ih mirrors

end Program.Mirrors

/-- A request in both worlds: what it has changed so far commutes with the mirror, and
what is left of its program mirrors. -/
structure MirroredThread (inv seen : σ → Prop) (mirror : σ → σ)
    (thread : Thread σ κ τ ε χ ρ) : Prop where
  changes : ∀ db, inv db → thread.changes (mirror db) = mirror (thread.changes db)
  keeps : ∀ db, inv db → inv (thread.changes db)
  sees : ∀ db, seen db → seen (thread.changes db)
  program : thread.program.Mirrors inv seen mirror

theorem MirroredThread.fresh {body : χ → Program σ κ τ ε ρ} {call : χ}
    (mirrors : (body call).Mirrors inv seen mirror) :
    MirroredThread inv seen mirror (Thread.fresh body call) :=
  ⟨fun _ _ => rfl, fun _ holds => holds, fun _ sees => sees, mirrors⟩

/-- A request that has ended or was aborted. -/
theorem MirroredThread.close {thread : Thread σ κ τ ε χ ρ} {status : Status ε ρ}
    (mirrored : MirroredThread inv seen mirror thread) :
    MirroredThread inv seen mirror (thread.close status) :=
  ⟨fun _ _ => rfl, fun _ holds => holds, fun _ sees => sees, mirrored.program⟩

theorem MirroredThread.narrow {thread : Thread σ κ τ ε χ ρ}
    (mirrored : MirroredThread inv seen mirror thread)
    (implies : ∀ view, inv view → seen view) : MirroredThread inv inv mirror thread :=
  ⟨mirrored.changes, mirrored.keeps, mirrored.keeps, mirrored.program.narrow implies⟩

/-- The same requests at the mirrored state. -/
def System.mirrored (mirror : σ → σ) (system : System σ κ τ ε χ ρ) : System σ κ τ ε χ ρ :=
  { system with db := mirror system.db }

section Runs

variable {conflicts : κ → κ → Bool} {body : χ → Program σ κ τ ε ρ}
  {system next : System σ κ τ ε χ ρ} {thread : Thread σ κ τ ε χ ρ} {index : Nat} {time : τ}

/-- A statement replaces the thread that executes it, which keeps its call. -/
theorem System.advance_replaces
    (stepped : system.advance conflicts index time thread = some next) :
    ∃ thread', next.threads = system.threads.set index thread' ∧ thread'.call = thread.call := by
  unfold System.advance at stepped
  split at stepped
  · cases stepped
    exact ⟨_, rfl, rfl⟩
  · cases stepped
    exact ⟨_, rfl, rfl⟩
  · cases stepped
    exact ⟨_, rfl, rfl⟩
  · simp only at stepped
    split at stepped
    · cases stepped
      exact ⟨_, rfl, rfl⟩
    · cases stepped
  · simp only at stepped
    split at stepped
    · split at stepped
      · cases stepped
        exact ⟨_, rfl, rfl⟩
      · cases stepped
        exact ⟨_, rfl, rfl⟩
    · cases stepped
  · cases stepped
    exact ⟨_, rfl, rfl⟩

/-- A request after one more statement still mirrors; the committed state stays as it was
or becomes what the request has made of it. -/
theorem MirroredThread.advance (mirrored : MirroredThread inv seen mirror thread)
    (isSeen : seen system.db)
    (stepped : system.advance conflicts index time thread = some next) :
    ∃ thread', next.threads = system.threads.set index thread' ∧
      MirroredThread inv seen mirror thread' ∧
      (next.db = system.db ∨ next.db = thread.changes system.db) := by
  obtain ⟨changes, keeps, sees, mirrors⟩ := mirrored
  unfold System.advance at stepped
  cases program : thread.program with
  | ret value =>
      rw [program] at stepped
      cases stepped
      exact ⟨_, rfl, .close ⟨changes, keeps, sees, mirrors⟩, .inl rfl⟩
  | raise error =>
      rw [program] at stepped
      cases stepped
      exact ⟨_, rfl, .close ⟨changes, keeps, sees, mirrors⟩, .inl rfl⟩
  | now following =>
      rw [program] at stepped mirrors
      cases stepped
      exact ⟨_, rfl, ⟨changes, keeps, sees, mirrors time⟩, .inl rfl⟩
  | select locks following =>
      rw [program] at mirrors
      simp only [program] at stepped
      split at stepped
      · cases stepped
        exact ⟨_, rfl, ⟨changes, keeps, sees, mirrors.2 _ (sees _ isSeen)⟩, .inl rfl⟩
      · cases stepped
  | execute locks change following =>
      rw [program] at mirrors
      obtain ⟨_, statement, after⟩ := mirrors
      simp only [program] at stepped
      split at stepped
      · split at stepped
        · next view' changed =>
            cases stepped
            have rest := (after _ view' (sees _ isSeen) changed).2
            refine ⟨_, rfl, ⟨?_, ?_, ?_, rest⟩, .inl rfl⟩
            · intro db holds
              exact (congrArg (applied change) (changes db holds)).trans
                (statement.applied (keeps db holds)).1
            · exact fun db holds => (statement.applied (keeps db holds)).2
            · intro db isSeen'
              exact applied_keeps (fun view view' isSeen changed =>
                (after view view' isSeen changed).1) (sees db isSeen')
        · cases stepped
          exact ⟨_, rfl, ⟨changes, keeps, sees, trivial⟩, .inl rfl⟩
      · cases stepped
  | commit following =>
      rw [program] at stepped mirrors
      cases stepped
      exact ⟨_, rfl, ⟨fun _ _ => rfl, fun _ holds => holds, fun _ sees => sees, mirrors⟩, .inr rfl⟩

/-- The same statement in both worlds. -/
theorem MirroredThread.advance_mirrored (mirrored : MirroredThread inv seen mirror thread)
    (holds : inv system.db) :
    (system.mirrored mirror).advance conflicts index time thread =
      (system.advance conflicts index time thread).map (System.mirrored mirror) := by
  obtain ⟨changes, keeps, sees, mirrors⟩ := mirrored
  have view : thread.view (mirror system.db) = mirror (thread.view system.db) :=
    changes system.db holds
  have seenHolds : inv (thread.view system.db) := keeps system.db holds
  unfold System.advance
  cases program : thread.program with
  | ret value => rfl
  | raise error => rfl
  | now following => rfl
  | select locks following =>
      rw [program] at mirrors
      obtain ⟨sameLocks, sameNext⟩ := mirrors.1 _ seenHolds
      simp only [System.mirrored, view, sameLocks, sameNext]
      by_cases grants : system.Grants conflicts index (locks (thread.view system.db))
      · rw [if_pos grants]
        exact if_pos grants
      · rw [if_neg grants]
        exact if_neg grants
  | execute locks change following =>
      rw [program] at mirrors
      obtain ⟨sameLocks, statement, _⟩ := mirrors
      simp only [System.mirrored, view, sameLocks _ seenHolds, (statement _ seenHolds).1]
      by_cases grants : system.Grants conflicts index (locks (thread.view system.db))
      · rw [if_pos grants]
        refine (if_pos grants).trans ?_
        cases change (thread.view system.db) <;> rfl
      · rw [if_neg grants]
        exact if_neg grants
  | commit following =>
      simp only [System.mirrored, view]
      rfl

/-- Two worlds whose running requests all mirror. -/
structure Mirroring (inv : σ → Prop) (mirror : σ → σ) (system : System σ κ τ ε χ ρ) :
    Prop where
  holds : inv system.db
  threads : ∀ thread ∈ system.threads, thread.status = .running →
    MirroredThread inv inv mirror thread

/-- One label in both worlds: it is enabled in both or in neither, and both worlds stay
mirrors of each other. -/
theorem Mirroring.step {label : Label τ χ} (mirroring : Mirroring inv mirror system)
    (bodies : ∀ call, label = .start call → (body call).Mirrors inv inv mirror) :
    (system.mirrored mirror).step conflicts body label =
        (system.step conflicts body label).map (System.mirrored mirror) ∧
      ∀ next, system.step conflicts body label = some next → Mirroring inv mirror next := by
  obtain ⟨holds, threads⟩ := mirroring
  cases label with
  | start call =>
      refine ⟨rfl, ?_⟩
      rintro next ⟨rfl⟩
      refine ⟨holds, ?_⟩
      intro thread member running
      rcases List.mem_append.mp member with before | added
      · exact threads thread before running
      · cases List.mem_singleton.mp added
        exact .fresh (bodies call rfl)
  | advance index time =>
      simp only [System.step]
      cases found : system.threads[index]? with
      | none =>
          refine ⟨?_, ?_⟩
          · simp only [System.mirrored, found]
            rfl
          · intro next stepped
            cases stepped
      | some thread =>
          have member := List.mem_of_getElem? found
          simp only [System.mirrored, found]
          cases status : thread.status with
          | running =>
              have mirrored := threads thread member status
              refine ⟨mirrored.advance_mirrored holds, ?_⟩
              intro next stepped
              obtain ⟨thread', set, mirrored', committed⟩ :=
                mirrored.advance holds stepped
              constructor
              · rcases committed with same | changed
                · exact same ▸ holds
                · exact changed ▸ mirrored.keeps _ holds
              · intro other otherMember running
                rw [set] at otherMember
                rcases List.mem_or_eq_of_mem_set otherMember with before | rfl
                · exact threads other before running
                · exact mirrored'
          | finished result =>
              refine ⟨rfl, ?_⟩
              intro next stepped
              cases stepped
          | aborted =>
              refine ⟨rfl, ?_⟩
              intro next stepped
              cases stepped
  | abort index =>
      simp only [System.step]
      cases found : system.threads[index]? with
      | none =>
          refine ⟨?_, ?_⟩
          · simp only [System.mirrored, found]
            rfl
          · intro next stepped
            cases stepped
      | some thread =>
          simp only [System.mirrored, found]
          cases status : thread.status with
          | running =>
              refine ⟨rfl, ?_⟩
              rintro next ⟨rfl⟩
              refine ⟨holds, ?_⟩
              intro other member running
              rcases List.mem_or_eq_of_mem_set member with before | rfl
              · exact threads other before running
              · cases running
          | finished result =>
              refine ⟨rfl, ?_⟩
              intro next stepped
              cases stepped
          | aborted =>
              refine ⟨rfl, ?_⟩
              intro next stepped
              cases stepped

/-- A whole run in both worlds. -/
theorem Mirroring.follow {labels : List (Label τ χ)} (mirroring : Mirroring inv mirror system)
    (bodies : ∀ call, .start call ∈ labels → (body call).Mirrors inv inv mirror) :
    (system.mirrored mirror).follow conflicts body labels =
      (system.follow conflicts body labels).map (System.mirrored mirror) := by
  induction labels generalizing system with
  | nil => rfl
  | cons label labels ih =>
      have bodiesHere : ∀ call, label = .start call → (body call).Mirrors inv inv mirror :=
        fun call isStart => bodies call (isStart ▸ List.mem_cons_self)
      have stepsAlike : (system.mirrored mirror).step conflicts body label =
            (system.step conflicts body label).map (System.mirrored mirror) ∧
          ∀ next, system.step conflicts body label = some next → Mirroring inv mirror next :=
        mirroring.step bodiesHere
      obtain ⟨same, after⟩ := stepsAlike
      simp only [System.follow, same]
      cases stepped : system.step conflicts body label with
      | none => rfl
      | some next =>
          exact ih (after next stepped) fun call member =>
            bodies call (List.mem_cons_of_mem label member)

/-- Requests in flight at a reachable state mirror whenever their programs do for the views
of the run up to here, where a view of a later moment is one of all earlier moments. -/
theorem Reachable.mirrored {initial : σ → Prop}
    {allowed : System σ κ τ ε χ ρ → Label τ χ → Prop} (apart : χ → Prop)
    (bodies : ∀ call, apart call → (body call).Mirrors inv seen mirror)
    (before : ∀ {system next : System σ κ τ ε χ ρ} {label},
      Reachable conflicts body initial allowed system →
      system.step conflicts body label = some next → seen next.db → seen system.db)
    (reachable : Reachable conflicts body initial allowed system) (isSeen : seen system.db) :
    ∀ thread ∈ system.threads, apart thread.call → MirroredThread inv seen mirror thread := by
  induction reachable with
  | start db begins => exact fun _ member => absurd member List.not_mem_nil
  | @step system next label reached admitted stepped ih =>
      have wasSeen := before reached stepped isSeen
      cases label with
      | start call =>
          cases stepped
          intro thread member isApart
          rcases List.mem_append.mp member with old | added
          · exact ih wasSeen thread old isApart
          · cases List.mem_singleton.mp added
            exact .fresh (bodies call isApart)
      | advance index time =>
          simp only [System.step] at stepped
          split at stepped
          · next thread found =>
              split at stepped
              · intro other member isApart
                have inThreads := List.mem_of_getElem? found
                by_cases threadApart : apart thread.call
                · obtain ⟨thread', set, mirrored', _⟩ :=
                    (ih wasSeen thread inThreads threadApart).advance wasSeen stepped
                  rw [set] at member
                  rcases List.mem_or_eq_of_mem_set member with old | rfl
                  · exact ih wasSeen other old isApart
                  · exact mirrored'
                · obtain ⟨thread', set, sameCall⟩ := System.advance_replaces stepped
                  rw [set] at member
                  rcases List.mem_or_eq_of_mem_set member with old | rfl
                  · exact ih wasSeen other old isApart
                  · exact absurd (sameCall ▸ isApart) threadApart
              · cases stepped
          · cases stepped
      | abort index =>
          simp only [System.step] at stepped
          split at stepped
          · next thread found =>
              split at stepped
              · cases stepped
                intro other member isApart
                rcases List.mem_or_eq_of_mem_set member with old | rfl
                · exact ih wasSeen other old isApart
                · exact (ih wasSeen thread (List.mem_of_getElem? found) isApart).close
              · cases stepped
          · cases stepped

end Runs

end RngGamePlatform.Transactions
