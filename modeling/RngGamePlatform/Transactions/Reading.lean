/-
Module: RngGamePlatform.Transactions.Reading
Purpose: Programs that only read, beside a run of other programs: each of their
  statements sees a moment of that run, and no moment is earlier than the one before.
Trusted boundary: human-reviewed semantics
Main exports: Program.Observes, Observes.le, Observes.bind_ok, Observes.query_ok,
  Observes.require_ok, Observes.orRaise_ok, Observes.map_ok, ReaderAt, Moments.observed
-/
import RngGamePlatform.Transactions.Vocabulary

namespace RngGamePlatform.Transactions

/-!
A program without locks and changes takes no part in what the others do.  At READ
COMMITTED its statements see the committed states of some moments, in their order.
-/

variable {σ κ τ ε α β : Type}

/-- The program, begun at a moment, ends with a result at a later one. -/
inductive Program.Observes (tables : Nat → σ) :
    Program σ κ τ ε α → Nat → Except ε α → Nat → Prop where
  | ret {value : α} {moment : Nat} : Observes tables (.ret value) moment (.ok value) moment
  | raise {error : ε} {moment : Nat} : Observes tables (.raise error) moment (.error error) moment
  | now {next : τ → Program σ κ τ ε α} {moment last : Nat} {result : Except ε α} (time : τ)
      (rest : Observes tables (next time) moment result last) :
      Observes tables (.now next) moment result last
  | select {locks : σ → List κ} {next : σ → Program σ κ τ ε α} {moment seen last : Nat}
      {result : Except ε α} (later : moment ≤ seen)
      (rest : Observes tables (next (tables seen)) seen result last) :
      Observes tables (.select locks next) moment result last

namespace Program.Observes

variable {tables : Nat → σ} {moment last : Nat}

/-- A program ends after its beginning. -/
theorem le {program : Program σ κ τ ε α} {result : Except ε α}
    (observes : program.Observes tables moment result last) : moment ≤ last := by
  induction observes with
  | ret => exact Nat.le_refl _
  | raise => exact Nat.le_refl _
  | now time _ ih => exact ih
  | select later _ ih => exact Nat.le_trans later ih

/-- A program that begins earlier can wait. -/
theorem earlier {program : Program σ κ τ ε α} {result : Except ε α} {before : Nat}
    (observes : program.Observes tables moment result last) (isBefore : before ≤ moment) :
    ∃ end' ≤ last, program.Observes tables before result end' := by
  induction observes with
  | ret => exact ⟨before, isBefore, .ret⟩
  | raise => exact ⟨before, isBefore, .raise⟩
  | now time _ ih =>
      obtain ⟨end', isEnd, observes⟩ := ih isBefore
      exact ⟨end', isEnd, .now time observes⟩
  | select later rest _ => exact ⟨_, Nat.le_refl _, .select (Nat.le_trans isBefore later) rest⟩

theorem ret_ok {value found : α}
    (observes : (Program.ret value : Program σ κ τ ε α).Observes tables moment (.ok found)
      last) : found = value ∧ last = moment := by
  cases observes
  exact ⟨rfl, rfl⟩

/-- A sequence that returns has returned from its first part. -/
theorem bind_ok {program : Program σ κ τ ε α} {f : α → Program σ κ τ ε β} {found : β}
    (observes : (program >>= f).Observes tables moment (.ok found) last) :
    ∃ value middle, program.Observes tables moment (.ok value) middle ∧
      (f value).Observes tables middle (.ok found) last := by
  induction program generalizing moment with
  | ret value => exact ⟨value, moment, .ret, observes⟩
  | raise error => cases observes
  | now next ih =>
      cases observes with
      | now time rest =>
          obtain ⟨value, middle, first, second⟩ := ih time rest
          exact ⟨value, middle, .now time first, second⟩
  | select locks next ih =>
      cases observes with
      | select later rest =>
          obtain ⟨value, middle, first, second⟩ := ih _ rest
          exact ⟨value, middle, .select later first, second⟩
  | execute locks change next ih => cases observes
  | commit next ih => cases observes

/-- A query answers of one later moment. -/
theorem query_ok {locks : σ → List κ} {answer : σ → α} {found : α}
    (observes : (Program.query locks answer : Program σ κ τ ε α).Observes tables moment
      (.ok found) last) : moment ≤ last ∧ found = answer (tables last) := by
  cases observes with
  | select later rest =>
      obtain ⟨isFound, rfl⟩ := rest.ret_ok
      exact ⟨later, isFound⟩

theorem require_ok {error : ε} {condition : Prop} [Decidable condition] {found : Unit}
    (observes : (Program.require error condition : Program σ κ τ ε Unit).Observes tables
      moment (.ok found) last) : condition ∧ last = moment := by
  unfold Program.require at observes
  split at observes
  · next holds => exact ⟨holds, observes.ret_ok.2⟩
  · cases observes

theorem orRaise_ok {error : ε} {value? : Option α} {found : α}
    (observes : (Program.orRaise error value? : Program σ κ τ ε α).Observes tables moment
      (.ok found) last) : value? = some found ∧ last = moment := by
  cases value? with
  | none => cases observes
  | some value =>
      obtain ⟨rfl, isLast⟩ := observes.ret_ok
      exact ⟨rfl, isLast⟩

/-- A sequence ends where its second part ends. -/
theorem bind {program : Program σ κ τ ε α} {f : α → Program σ κ τ ε β} {value : α}
    {middle : Nat} {result : Except ε β}
    (first : program.Observes tables moment (.ok value) middle)
    (second : (f value).Observes tables middle result last) :
    (program >>= f).Observes tables moment result last := by
  induction program generalizing moment with
  | ret found =>
      obtain ⟨rfl, rfl⟩ := first.ret_ok
      exact second
  | raise error => cases first
  | now next ih =>
      cases first with
      | now time rest => exact .now time (ih time rest)
  | select locks next ih =>
      cases first with
      | select later rest => exact .select later (ih _ rest)
  | execute locks change next ih => cases first
  | commit next ih => cases first

/-- A query can answer of each later moment. -/
theorem query {locks : σ → List κ} {answer : σ → α} {seen : Nat} (later : moment ≤ seen) :
    (Program.query locks answer : Program σ κ τ ε α).Observes tables moment
      (.ok (answer (tables seen))) seen :=
  .select later .ret

theorem require {error : ε} {condition : Prop} [Decidable condition] (holds : condition) :
    (Program.require error condition : Program σ κ τ ε Unit).Observes tables moment
      (.ok ()) moment := by
  unfold Program.require
  rw [if_pos holds]
  exact .ret

theorem map_ok {program : Program σ κ τ ε α} {f : α → β} {found : β}
    (observes : (f <$> program).Observes tables moment (.ok found) last) :
    ∃ value, program.Observes tables moment (.ok value) last ∧ found = f value := by
  have asBind : (program >>= fun value => .ret (f value)).Observes tables moment (.ok found)
      last := observes
  obtain ⟨value, middle, first, second⟩ := asBind.bind_ok
  obtain ⟨isFound, rfl⟩ := second.ret_ok
  exact ⟨value, first, isFound⟩

end Program.Observes

/-! ### A reader among the threads -/

section Threads

variable {χ ρ : Type} {conflicts : κ → κ → Bool} {body : χ → Program σ κ τ ε ρ}
  {system next : System σ κ τ ε χ ρ} {index : Nat}

/-- The thread at the index still has to run a program, and has changed nothing. -/
structure ReaderAt (system : System σ κ τ ε χ ρ) (index : Nat) (program : Program σ κ τ ε ρ) :
    Prop where
  thread : ∃ thread, system.threads[index]? = some thread ∧ thread.program = program ∧
    thread.status = .running ∧ thread.changes = id

/-- The thread at the index has the status. -/
def StatusAt (system : System σ κ τ ε χ ρ) (index : Nat) (status : Status ε ρ) : Prop :=
  ∃ thread, system.threads[index]? = some thread ∧ thread.status = status

/-- A statement of a thread leaves the others as they are. -/
theorem advance_others {other : Nat} {time : τ} {thread : Thread σ κ τ ε χ ρ}
    (apart : other ≠ index)
    (stepped : system.advance conflicts other time thread = some next) :
    next.threads[index]? = system.threads[index]? := by
  unfold System.advance at stepped
  cases program : thread.program with
  | ret value =>
      rw [program] at stepped
      cases stepped
      exact List.getElem?_set_ne apart
  | raise error =>
      rw [program] at stepped
      cases stepped
      exact List.getElem?_set_ne apart
  | now following =>
      rw [program] at stepped
      cases stepped
      exact List.getElem?_set_ne apart
  | select locks following =>
      simp only [program] at stepped
      split at stepped
      · cases stepped
        exact List.getElem?_set_ne apart
      · cases stepped
  | execute locks change following =>
      simp only [program] at stepped
      split at stepped
      · split at stepped
        · cases stepped
          exact List.getElem?_set_ne apart
        · cases stepped
          exact List.getElem?_set_ne apart
      · cases stepped
  | commit following =>
      rw [program] at stepped
      cases stepped
      exact List.getElem?_set_ne apart

/-- A step either is one of the running thread at the index or leaves it as it is. -/
theorem step_thread {label : Label τ χ} {thread : Thread σ κ τ ε χ ρ}
    (found : system.threads[index]? = some thread)
    (stepped : system.step conflicts body label = some next) :
    next.threads[index]? = some thread ∨ thread.status = .running ∧
      ((∃ time, system.advance conflicts index time thread = some next) ∨
        next.threads[index]? = some (thread.close .aborted)) := by
  have bound : index < system.threads.length := (List.getElem?_eq_some_iff.mp found).1
  cases label with
  | start new =>
      cases stepped
      left
      exact (List.getElem?_append_left bound).trans found
  | advance other time =>
      simp only [System.step] at stepped
      split at stepped
      · next runner isRunner =>
          split at stepped
          · next running =>
              by_cases same : other = index
              · subst same
                cases isRunner.symm.trans found
                exact .inr ⟨running, .inl ⟨time, stepped⟩⟩
              · exact .inl ((advance_others same stepped).trans found)
          · cases stepped
      · cases stepped
  | abort other =>
      simp only [System.step] at stepped
      split at stepped
      · next runner isRunner =>
          split at stepped
          · next running =>
              cases stepped
              by_cases same : other = index
              · subst same
                cases isRunner.symm.trans found
                exact .inr ⟨running, .inr (List.getElem?_set_self bound)⟩
              · exact .inl ((List.getElem?_set_ne same).trans found)
          · cases stepped
      · cases stepped

/-- What has ended stays as it is. -/
theorem StatusAt.step {label : Label τ χ} {status : Status ε ρ}
    (ended : StatusAt system index status) (notRunning : status ≠ .running)
    (stepped : system.step conflicts body label = some next) :
    StatusAt next index status := by
  obtain ⟨thread, found, rfl⟩ := ended
  rcases step_thread found stepped with same | ⟨running, -⟩
  · exact ⟨thread, same, rfl⟩
  · exact absurd running notRunning

/-- One step beside or of a reader: it still has a program whose observations are
observations of the one before, or it has ended with what it observes. -/
theorem ReaderAt.step {label : Label τ χ} {program : Program σ κ τ ε ρ}
    (reader : ReaderAt system index program) (readOnly : program.ReadOnly)
    (stepped : system.step conflicts body label = some next) :
    (∃ rest, ReaderAt next index rest ∧ rest.ReadOnly ∧
      ∀ (tables : Nat → σ) (moment last : Nat) (result : Except ε ρ),
        tables moment = system.db → rest.Observes tables moment result last →
          program.Observes tables moment result last) ∨
    ∃ status, StatusAt next index status ∧ status ≠ .running ∧
      ∀ (tables : Nat → σ) (moment : Nat) (result : Except ε ρ),
        status = .finished result → program.Observes tables moment result moment := by
  obtain ⟨thread, found, rfl, running, unchanged⟩ := reader.thread
  have bound : index < system.threads.length := (List.getElem?_eq_some_iff.mp found).1
  rcases step_thread found stepped with same | ⟨-, ⟨time, advanced⟩ | aborted⟩
  · left
    exact ⟨thread.program, ⟨⟨thread, same, rfl, running, unchanged⟩⟩, readOnly,
      fun _ _ _ _ _ observes => observes⟩
  · unfold System.advance at advanced
    cases isProgram : thread.program with
    | ret value =>
        rw [isProgram] at advanced
        cases advanced
        right
        refine ⟨_, ⟨_, List.getElem?_set_self bound, rfl⟩, by simp [Thread.close], ?_⟩
        intro tables moment result isResult
        cases isResult
        exact .ret
    | raise error =>
        rw [isProgram] at advanced
        cases advanced
        right
        refine ⟨_, ⟨_, List.getElem?_set_self bound, rfl⟩, by simp [Thread.close], ?_⟩
        intro tables moment result isResult
        cases isResult
        exact .raise
    | now following =>
        rw [isProgram] at advanced readOnly
        cases advanced
        left
        exact ⟨following time,
          ⟨⟨_, List.getElem?_set_self bound, rfl, running, unchanged⟩⟩, readOnly time,
          fun _ _ _ _ _ observes => .now time observes⟩
    | select locks following =>
        rw [isProgram] at readOnly
        simp only [isProgram] at advanced
        split at advanced
        · cases advanced
          left
          refine ⟨_, ⟨⟨_, List.getElem?_set_self bound, rfl, running, unchanged⟩⟩,
            readOnly _, ?_⟩
          intro tables moment last result isState observes
          have isView : thread.view system.db = tables moment := by
            rw [Thread.view, unchanged, isState]
            rfl
          exact .select (Nat.le_refl _) (isView ▸ observes)
        · cases advanced
    | execute locks change following =>
        rw [isProgram] at readOnly
        exact readOnly.elim
    | commit following =>
        rw [isProgram] at readOnly
        exact readOnly.elim
  · right
    refine ⟨_, ⟨_, aborted, rfl⟩, by simp [Thread.close], ?_⟩
    intro tables moment result isResult
    cases isResult

variable {initial : σ → Prop} (moments : Moments conflicts body initial)

theorem StatusAt.later {status : Status ε ρ} {earlier later : Nat} (before : earlier ≤ later)
    (ended : StatusAt (moments.system earlier) index status) (notRunning : status ≠ .running) :
    StatusAt (moments.system later) index status := by
  induction before with
  | refl => exact ended
  | @step moment _ ih =>
      rcases moments.goes moment with same | ⟨label, stepped⟩
      · exact same ▸ ih
      · exact ih.step notRunning stepped

/-- What a thread returns that only reads is what its program observes of the run. -/
theorem Moments.observed {program : Program σ κ τ ε ρ} {earlier later : Nat}
    {result : Except ε ρ} (before : earlier ≤ later)
    (reader : ReaderAt (moments.system earlier) index program) (readOnly : program.ReadOnly)
    (ended : StatusAt (moments.system later) index (.finished result)) :
    ∃ last ≤ later, program.Observes moments.db earlier result last := by
  obtain ⟨steps, rfl⟩ := Nat.exists_eq_add_of_le before
  induction steps generalizing earlier program with
  | zero =>
      obtain ⟨thread, found, -, running, -⟩ := reader.thread
      obtain ⟨other, isOther, finished⟩ := ended
      cases found.symm.trans isOther
      rw [running] at finished
      cases finished
  | succ steps ih =>
      have sooner : earlier + 1 ≤ earlier + 1 + steps := Nat.le_add_right _ _
      have sameEnd : earlier + (steps + 1) = earlier + 1 + steps := by omega
      rw [sameEnd] at ended ⊢
      rcases moments.goes earlier with same | ⟨label, stepped⟩
      · obtain ⟨last, isLast, observes⟩ := ih (same ▸ reader) readOnly sooner ended
        obtain ⟨end', isEnd, observes⟩ := observes.earlier (Nat.le_succ earlier)
        exact ⟨end', Nat.le_trans isEnd isLast, observes⟩
      · rcases reader.step readOnly stepped with ⟨rest, next, restReads, follows⟩ |
          ⟨status, hasEnded, notRunning, observes⟩
        · obtain ⟨last, isLast, observes⟩ := ih next restReads sooner ended
          obtain ⟨end', isEnd, observes⟩ := observes.earlier (Nat.le_succ earlier)
          exact ⟨end', Nat.le_trans isEnd isLast, follows _ _ _ _ rfl observes⟩
        · obtain ⟨thread, found, isStatus⟩ := hasEnded.later moments sooner notRunning
          obtain ⟨other, isOther, finished⟩ := ended
          cases found.symm.trans isOther
          exact ⟨earlier, by omega, observes _ _ _ (isStatus.symm.trans finished)⟩

end Threads

end RngGamePlatform.Transactions
