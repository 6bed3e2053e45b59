/-
Module: RngGamePlatform.Transactions.Telling
Purpose: What the results of interleaved requests say about the committed state, for
  requests whose reads the others may change.
Trusted boundary: none
Main exports: Program.Tells, tells_map, tells_of_outlined, tells_of_meets, Program.Recounts,
  recounts_bind, tells_of_recounts, Contract.Told, Contract.told_of_reachable,
  System.callAt_step
-/
import RngGamePlatform.Transactions.Outlines

namespace RngGamePlatform.Transactions

/-!
An outline asserts what holds while a request runs.  Here its end is judged as well: the
result has to say something true about the committed state, something that no commit
makes untrue.  A request that reads without locks can still tell what it has read, when
what it tells lasts and its own changes have no part in it.
-/

variable {σ κ τ ε χ ρ α β : Type}

/-- No commit makes the assertion untrue. -/
def Contract.Lasting (C : Contract σ κ) (here : σ → Prop) : Prop :=
  ∀ held db db', C.inv db → C.inv db' → C.commits held db db' → here db → here db'

theorem Contract.Lasting.stable {C : Contract σ κ} {here : σ → Prop} {held : List κ}
    (lasting : C.Lasting here) : C.Stable held here := by
  rintro db db' known ⟨held', -, inv, inv', commits⟩
  exact lasting held' db db' inv inv' commits known

/-- The outline of a program whose result tells something about the committed state. -/
def Program.Tells (C : Contract σ κ) (tells : ρ → σ → Prop) :
    Program σ κ τ ε ρ → (σ → Prop) → (σ → σ) → List κ → Prop
  | .ret value, here, _, _ => ∀ db, here db → C.inv db → tells value db
  | .raise _, _, _, _ => True
  | .now next, here, changes, held => ∀ time, (next time).Tells C tells here changes held
  | .select locks next, here, changes, held => ∀ db, here db → C.inv db →
      ∃ there : σ → Prop, there db ∧ C.Stable (locks (changes db) ++ held) there ∧
        (next (changes db)).Tells C tells there changes (locks (changes db) ++ held)
  | .execute locks change next, here, changes, held => ∀ db state, here db → C.inv db →
      change (changes db) = .ok state →
      ∃ there : σ → Prop, there db ∧ C.Stable (locks (changes db) ++ held) there ∧
        next.Tells C tells there (fun state => applied change (changes state))
          (locks (changes db) ++ held)
  | .commit next, here, changes, held => ∀ db, here db → C.inv db → C.inv (changes db) →
      C.commits held db (changes db) →
      ∃ there : σ → Prop, there (changes db) ∧ C.Stable [] there ∧
        next.Tells C tells there id []

section Rules

variable {C : Contract σ κ} {here : σ → Prop} {changes : σ → σ} {held : List κ}

/-- A function of the result tells what the result tells. -/
theorem tells_map {tells : β → σ → Prop} {program : Program σ κ τ ε α} {f : α → β} :
    (f <$> program).Tells C tells here changes held ↔
      program.Tells C (fun value => tells (f value)) here changes held := by
  induction program generalizing here changes held with
  | ret value => exact Iff.rfl
  | raise error => exact Iff.rfl
  | now next ih => exact forall_congr' fun time => ih time
  | select locks next ih =>
      refine forall_congr' fun db => imp_congr_right fun _ => imp_congr_right fun _ => ?_
      exact exists_congr fun there => and_congr_right fun _ => and_congr_right fun _ => ih _
  | execute locks change next ih =>
      refine forall_congr' fun db => forall_congr' fun state => imp_congr_right fun _ =>
        imp_congr_right fun _ => imp_congr_right fun _ => ?_
      exact exists_congr fun there => and_congr_right fun _ => and_congr_right fun _ => ih
  | commit next ih =>
      refine forall_congr' fun db => imp_congr_right fun _ => imp_congr_right fun _ =>
        imp_congr_right fun _ => imp_congr_right fun _ => ?_
      exact exists_congr fun there => and_congr_right fun _ => and_congr_right fun _ => ih

/-- Any outlined program tells what always holds. -/
theorem tells_of_outlined {tells : ρ → σ → Prop} {program : Program σ κ τ ε ρ}
    (outlined : program.Outlined C here changes held) (always : ∀ value db, tells value db) :
    program.Tells C tells here changes held := by
  induction program generalizing here changes held with
  | ret value => exact fun db _ _ => always value db
  | raise error => trivial
  | now next ih => exact fun time => ih time (outlined time)
  | select locks next ih =>
      intro db known inv
      obtain ⟨there, holds, stable, rest⟩ := outlined db known inv
      exact ⟨there, holds, stable, ih _ rest⟩
  | execute locks change next ih =>
      intro db state known inv changed
      obtain ⟨there, holds, stable, rest⟩ := outlined db state known inv changed
      exact ⟨there, holds, stable, ih rest⟩
  | commit next ih =>
      intro db known inv _ _
      exact ⟨fun _ => True, trivial, fun _ _ _ _ => trivial, ih (outlined db known inv).2⟩

/-- A request that meets its judgement tells what the judgement says about its result. -/
theorem tells_of_meets {fails : ε → Prop} {tells : ρ → σ → Prop}
    {origin : Program σ κ τ ε ρ} {post : Except ε ρ → Phase σ κ → Prop}
    (judged : ∀ db, C.inv db → Meets C.Rely
      (fun db db' held => C.inv db → C.inv db' ∧ C.commits held db db') fails origin post
      (.running db id []))
    (means : ∀ value phase, C.inv phase.db → post (.ok value) phase → tells value phase.db)
    (lasting : ∀ value, C.Lasting (tells value)) :
    origin.Tells C tells (fun _ => True) id [] := by
  have stable : ∀ {program : Program σ κ τ ε ρ} {changes : σ → σ} {held : List κ},
      C.Stable held fun db =>
        C.inv db ∧ (Doomed fails program ∨ Path db origin program changes held) := by
    rintro program changes held db db' ⟨inv, doomed | path⟩ relied
    · exact ⟨relied.choose_spec.2.2.1, Or.inl doomed⟩
    · exact ⟨relied.choose_spec.2.2.1, path.transfer (judged db inv)
        (fun subset relied => relied.mono subset) relied⟩
  have telling : ∀ (program : Program σ κ τ ε ρ) (here : σ → Prop) (changes : σ → σ)
      (held : List κ), (∀ db, here db → C.inv db →
        Doomed fails program ∨ Path db origin program changes held) →
        program.Tells C tells here changes held := by
    intro program
    induction program with
    | ret value =>
        intro here changes held stands db known inv
        rcases stands db known inv with doomed | path
        · cases doomed
        · exact means value (.running db changes held) inv (path.meets (judged db inv))
    | raise error => exact fun _ _ _ _ => trivial
    | now next ih =>
        intro here changes held stands time
        apply ih time
        intro db known inv
        rcases stands db known inv with doomed | path
        · cases doomed with
          | now rest => exact Or.inl (rest time)
        · exact Or.inr (path.now time)
    | select locks next ih =>
        intro here changes held stands db known inv
        refine ⟨_, ⟨inv, ?_⟩, stable, ih _ _ _ _ fun _ there _ => there.2⟩
        rcases stands db known inv with doomed | path
        · cases doomed with
          | select rest => exact Or.inl (rest _)
        · exact Or.inr path.select
    | execute locks change next ih =>
        intro here changes held stands db state known inv changed
        refine ⟨_, ⟨inv, ?_⟩, stable, ih _ _ _ fun _ there _ => there.2⟩
        rcases stands db known inv with doomed | path
        · cases doomed
        · exact Or.inr (path.execute changed)
    | commit next ih =>
        intro here changes held stands db known inv inv' _
        rcases stands db known inv with doomed | path
        · cases doomed
        · obtain ⟨-, rest⟩ := Meets.commit_iff.mp (path.meets (judged db inv))
          rcases Meets.settled_cases rest with ⟨value, isRet, ends⟩ | ⟨error, isRaise, _⟩
          · rw [isRet]
            exact ⟨tells value, means value (.settled (changes db)) inv' ends, (lasting value).stable,
              fun _ holds _ => holds⟩
          · rw [isRaise]
            exact ⟨fun _ => True, trivial, fun _ _ _ _ => trivial, trivial⟩
  exact telling origin _ _ _ fun _ _ _ => Or.inr .start

end Rules

/-! ### Telling what was read -/

/-- From the given facts on, the program adds the facts of every view that it reads, its
changes add and remove none and keep the view closed, and its result is as required. -/
def Program.Recounts {ι : Type} (fact : ι → σ → Prop) (closed : σ → Prop)
    (returns : ρ → (ι → Prop) → Prop) : Program σ κ τ ε ρ → (ι → Prop) → Prop
  | .ret value, known => returns value known
  | .raise _, _ => True
  | .now next, known => ∀ time, (next time).Recounts fact closed returns known
  | .select _ next, known => ∀ view, closed view → (∀ i, known i → fact i view) →
      (next view).Recounts fact closed returns fun i => fact i view
  | .execute _ change next, known =>
      (∀ view state, closed view → (∀ i, known i → fact i view) → change view = .ok state →
        closed state ∧ ∀ i, fact i state ↔ fact i view) ∧
        next.Recounts fact closed returns known
  | .commit next, known => next.Recounts fact closed returns known

section Recounting

variable {ι : Type} {fact : ι → σ → Prop} {closed : σ → Prop} {known : ι → Prop}

/-- Sequencing. -/
@[simp] theorem recounts_bind {returns : α → (ι → Prop) → Prop}
    {program : Program σ κ τ ε β} {f : β → Program σ κ τ ε α} :
    (program >>= f).Recounts fact closed returns known ↔
      program.Recounts fact closed
        (fun value => (f value).Recounts fact closed returns) known := by
  induction program generalizing known with
  | ret value => exact Iff.rfl
  | raise error => exact Iff.rfl
  | now next ih => exact forall_congr' fun time => ih time
  | select locks next ih =>
      exact forall_congr' fun view => imp_congr_right fun _ => imp_congr_right fun _ => ih view
  | execute locks change next ih => exact and_congr_right fun _ => ih
  | commit next ih => exact ih

@[simp] theorem recounts_update {locks : σ → List κ} {change : σ → Except ε σ}
    {returns : Unit → (ι → Prop) → Prop} :
    (Program.update locks change : Program σ κ τ ε Unit).Recounts fact closed returns
        known ↔
      (∀ view state, closed view → (∀ i, known i → fact i view) → change view = .ok state →
        closed state ∧ ∀ i, fact i state ↔ fact i view) ∧ returns () known := Iff.rfl

@[simp] theorem recounts_orRaise {error : ε} {found : Option α}
    {returns : α → (ι → Prop) → Prop} :
    (Program.orRaise error found : Program σ κ τ ε α).Recounts fact closed returns known ↔
      ∀ value, found = some value → returns value known := by
  cases found with
  | none => simp [Program.orRaise, Program.Recounts]
  | some value => simp [Program.orRaise, Program.Recounts]

/-- A weaker requirement on the result, from no fewer facts. -/
theorem Program.Recounts.mono {returns weaker : α → (ι → Prop) → Prop}
    {program : Program σ κ τ ε α} (recounts : program.Recounts fact closed returns known)
    (weakens : ∀ value more, (∀ i, known i → more i) → returns value more →
      weaker value more) : program.Recounts fact closed weaker known := by
  induction program generalizing known with
  | ret value => exact weakens value known (fun _ isKnown => isKnown) recounts
  | raise error => trivial
  | now next ih => exact fun time => ih time (recounts time) weakens
  | select locks next ih =>
      intro view isClosed inView
      apply ih view (recounts view isClosed inView)
      intro value more subset
      exact weakens value more fun i isKnown => subset i (inView i isKnown)
  | execute locks change next ih => exact ⟨recounts.1, ih recounts.2 weakens⟩
  | commit next ih => exact ih recounts weakens

/-- Sequencing, with what the first part adds to the known facts. -/
theorem Program.Recounts.bind {first : β → (ι → Prop) → Prop}
    {returns : α → (ι → Prop) → Prop} {program : Program σ κ τ ε β}
    {f : β → Program σ κ τ ε α} (recounts : program.Recounts fact closed first known)
    (rest : ∀ value more, (∀ i, known i → more i) → first value more →
      (f value).Recounts fact closed returns more) :
    (program >>= f).Recounts fact closed returns known :=
  recounts_bind.mpr (recounts.mono rest)

/-- A query answers from a view whose facts are known then. -/
theorem recounts_read {locks : σ → List κ} {answer : σ → α} :
    (Program.query locks answer : Program σ κ τ ε α).Recounts fact closed
      (fun value more => ∃ view, value = answer view ∧ ∀ i, more i ↔ fact i view) known :=
  fun view _ _ => ⟨view, rfl, fun _ => Iff.rfl⟩

/-- A program that only reads adds to what is known. -/
theorem Program.ReadOnly.recounts {program : Program σ κ τ ε α} (readOnly : program.ReadOnly) :
    program.Recounts fact closed (fun _ more => ∀ i, known i → more i) known := by
  induction program generalizing known with
  | ret value => exact fun _ isKnown => isKnown
  | raise error => trivial
  | now next ih => exact fun time => ih time (readOnly time)
  | select locks next ih =>
      intro view _ inView
      apply (ih view (readOnly view)).mono
      exact fun _ more _ adds i isKnown => adds i (inView i isKnown)
  | execute locks change next ih => exact readOnly.elim
  | commit next ih => exact readOnly.elim

/-- A program tells the facts that it has read, when they last. -/
theorem tells_of_recounts {C : Contract σ κ} {tells : ρ → σ → Prop}
    {returns : ρ → (ι → Prop) → Prop} {program : Program σ κ τ ε ρ} {here : σ → Prop}
    {changes : σ → σ} {held : List κ}
    (recounts : program.Recounts fact closed returns known)
    (lasting : ∀ i, C.Lasting (fact i)) (closes : ∀ db, C.inv db → closed db)
    (means : ∀ value known, returns value known →
      ∀ db, (∀ i, known i → fact i db) → tells value db)
    (faithful : ∀ db, C.inv db → (∀ i, known i → fact i db) →
      closed (changes db) ∧ ∀ i, fact i (changes db) ↔ fact i db)
    (holds : ∀ db, here db → ∀ i, known i → fact i db) :
    program.Tells C tells here changes held := by
  have stable : ∀ (more : ι → Prop) held, C.Stable held fun db => ∀ i, more i → fact i db := by
    intro more held db db' known relied i inMore
    exact (lasting i).stable db db' (known i inMore) relied
  induction program generalizing known here changes held with
  | ret value => exact fun db isHere _ => means value known recounts db (holds db isHere)
  | raise error => trivial
  | now next ih => exact fun time => ih time (recounts time) faithful holds
  | select locks next ih =>
      intro db isHere inv
      obtain ⟨isClosed, same⟩ := faithful db inv (holds db isHere)
      have inView : ∀ i, known i → fact i (changes db) :=
        fun i isKnown => (same i).mpr (holds db isHere i isKnown)
      refine ⟨fun db' => ∀ i, fact i (changes db) → fact i db', ?_, stable _ _, ?_⟩
      · exact fun i isSeen => (same i).mp isSeen
      · apply ih (changes db) (recounts (changes db) isClosed inView) _ fun _ isThere => isThere
        intro db' inv' seen
        exact faithful db' inv' fun i isKnown => seen i (inView i isKnown)
  | execute locks change next ih =>
      obtain ⟨keeps, rest⟩ := recounts
      intro db state isHere _ _
      refine ⟨fun db' => ∀ i, known i → fact i db', holds db isHere, stable _ _, ?_⟩
      apply ih rest _ fun _ isThere => isThere
      intro db' inv' isKnown
      obtain ⟨isClosed, same⟩ := faithful db' inv' isKnown
      unfold applied
      cases changed : change (changes db') with
      | error error => exact ⟨isClosed, same⟩
      | ok state =>
          obtain ⟨isClosed', same'⟩ := keeps _ state isClosed
            (fun i inKnown => (same i).mpr (isKnown i inKnown)) changed
          exact ⟨isClosed', fun i => (same' i).trans (same i)⟩
  | commit next ih =>
      intro db isHere inv _ _
      obtain ⟨-, same⟩ := faithful db inv (holds db isHere)
      refine ⟨fun db' => ∀ i, known i → fact i db', ?_, stable _ _, ?_⟩
      · exact fun i isKnown => (same i).mpr (holds db isHere i isKnown)
      · apply ih recounts _ fun _ isThere => isThere
        exact fun db' inv' _ => ⟨closes db' inv', fun _ => Iff.rfl⟩

end Recounting

/-! ### Interleaved requests -/

namespace Contract

variable (C : Contract σ κ) (tells : χ → ρ → σ → Prop)

/-- What holds of the results, and of the requests on their way to them. -/
structure TellsOf (db : σ) (thread : Thread σ κ τ ε χ ρ) : Prop where
  running : thread.status = .running → ∃ here : σ → Prop, here db ∧
    C.Stable thread.held here ∧
      thread.program.Tells C (tells thread.call) here thread.changes thread.held
  finished : ∀ value, thread.status = .finished (.ok value) → tells thread.call value db

/-- All requests tell something true. -/
def Told (system : System σ κ τ ε χ ρ) : Prop :=
  ∀ (index : Nat) (thread : Thread σ κ τ ε χ ρ),
    system.threads[index]? = some thread → C.TellsOf tells system.db thread

variable {C tells} {system next : System σ κ τ ε χ ρ} {body : χ → Program σ κ τ ε ρ}

theorem Told.replace {index : Nat} {new : Thread σ κ τ ε χ ρ} {db' : σ}
    (here : C.TellsOf tells db' new)
    (others : ∀ (other : Nat) (second : Thread σ κ τ ε χ ρ), other ≠ index →
      system.threads[other]? = some second → C.TellsOf tells db' second) :
    C.Told tells { db := db', threads := system.threads.set index new } := by
  intro position thread found
  have found' : (system.threads.set index new)[position]? = some thread := found
  rw [List.getElem?_set] at found'
  by_cases isIndex : index = position
  · rw [if_pos isIndex] at found'
    split_ifs at found'
    cases found'
    exact here
  · rw [if_neg isIndex] at found'
    exact others position thread (Ne.symm isIndex) found'

/-- A request that ended without a value. -/
theorem TellsOf.silent {db : σ} {thread : Thread σ κ τ ε χ ρ}
    (ended : thread.status ≠ .running)
    (noValue : ∀ value, thread.status ≠ .finished (.ok value)) : C.TellsOf tells db thread :=
  ⟨fun running => absurd running ended, fun value isOk => absurd isOk (noValue value)⟩

theorem Told.advance {index : Nat} {time : τ} {thread : Thread σ κ τ ε χ ρ}
    (lasting : ∀ call value, C.Lasting (tells call value)) (told : C.Told tells system)
    (sound : C.Sound system) (found : system.threads[index]? = some thread)
    (running : thread.status = .running)
    (stepped : system.advance C.conflicts index time thread = some next) :
    C.Told tells next := by
  have others : ∀ (other : Nat) (second : Thread σ κ τ ε χ ρ), other ≠ index →
      system.threads[other]? = some second → C.TellsOf tells system.db second :=
    fun other second _ foundOther => told other second foundOther
  obtain ⟨here, known, stable, telling⟩ := (told index thread found).running running
  have going : ∀ {new : Thread σ κ τ ε χ ρ}, new.status = .running →
      ∀ value, new.status = .finished (.ok value) → tells new.call value system.db := by
    intro new isRunning value isOk
    exact absurd (isRunning.symm.trans isOk) nofun
  unfold System.advance at stepped
  cases program : thread.program with
  | ret value =>
      rw [program] at stepped telling
      cases stepped
      have closed : C.TellsOf tells system.db (thread.close (.finished (.ok value))) := by
        constructor
        case running => nofun
        case finished =>
          intro result isResult
          cases isResult
          exact telling _ known sound.inv
      exact Told.replace closed others
  | raise error =>
      rw [program] at stepped
      cases stepped
      have closed : C.TellsOf tells system.db (thread.close (.finished (.error error))) :=
        .silent nofun nofun
      exact Told.replace closed others
  | now following =>
      rw [program] at stepped telling
      cases stepped
      refine Told.replace ⟨fun _ => ?_, going running⟩ others
      exact ⟨here, known, stable, telling time⟩
  | select locks following =>
      rw [program] at telling
      simp only [program] at stepped
      split at stepped
      · cases stepped
        obtain ⟨there, known', stable', telling'⟩ := telling _ known sound.inv
        refine Told.replace ⟨fun _ => ?_, going running⟩ others
        exact ⟨there, known', stable', telling'⟩
      · cases stepped
  | execute locks change following =>
      rw [program] at telling
      simp only [program] at stepped
      split at stepped
      · split at stepped
        · next state changed =>
            cases stepped
            obtain ⟨there, known', stable', telling'⟩ :=
              telling _ state known sound.inv changed
            refine Told.replace ⟨fun _ => ?_, going running⟩ others
            exact ⟨there, known', stable', telling'⟩
        · cases stepped
          refine Told.replace ⟨fun _ => ?_, going running⟩ others
          exact ⟨here, known, stable, trivial⟩
      · cases stepped
  | commit following =>
      obtain ⟨here', known', -, outlined⟩ := (sound.kept found).running running
      rw [program] at stepped telling outlined
      cases stepped
      obtain ⟨⟨inv', committed⟩, -⟩ := outlined _ known' sound.inv
      obtain ⟨there, isThere, stable', telling'⟩ := telling _ known sound.inv inv' committed
      apply Told.replace
      · constructor
        case running => exact fun _ => ⟨there, isThere, stable', telling'⟩
        case finished =>
          intro value isOk
          exact absurd (running.symm.trans isOk) nofun
      · intro other second different foundOther
        have apart : Compatible C.conflicts thread.held second.held :=
          sound.apart (Ne.symm different) found foundOther
        constructor
        case running =>
          intro isRunning
          obtain ⟨here'', known'', stable'', telling''⟩ :=
            (told other second foundOther).running isRunning
          exact ⟨here'', stable'' _ _ known'' ⟨thread.held, apart, sound.inv, inv', committed⟩,
            stable'', telling''⟩
        case finished =>
          intro value isOk
          exact lasting _ _ thread.held _ _ sound.inv inv' committed
            ((told other second foundOther).finished value isOk)

/-- Every step keeps what the requests tell. -/
theorem Told.step {label : Label τ χ}
    (bodies : ∀ call, (body call).Tells C (tells call) (fun _ => True) id [])
    (lasting : ∀ call value, C.Lasting (tells call value)) (told : C.Told tells system)
    (sound : C.Sound system)
    (stepped : system.step C.conflicts body label = some next) : C.Told tells next := by
  cases label with
  | start call =>
      cases stepped
      intro position thread found
      rw [List.getElem?_append] at found
      split at found
      · exact told position thread found
      · have isFresh := List.mem_singleton.mp (List.mem_of_getElem? found)
        subst isFresh
        constructor
        case running => exact fun _ => ⟨_, trivial, fun _ _ _ _ => trivial, bodies call⟩
        case finished =>
          intro value isOk
          cases isOk
  | advance index time =>
      simp only [System.step] at stepped
      split at stepped
      · next thread found =>
          split at stepped
          · next running => exact told.advance lasting sound found running stepped
          · cases stepped
      · cases stepped
  | abort index =>
      simp only [System.step] at stepped
      split at stepped
      · split at stepped
        · cases stepped
          have closed : ∀ thread : Thread σ κ τ ε χ ρ,
              C.TellsOf tells system.db (thread.close .aborted) :=
            fun _ => .silent (by simp [Thread.close]) (by simp [Thread.close])
          exact Told.replace (closed _) fun other second _ => told other second
        · cases stepped
      · cases stepped

/-- In every reachable system of outlined requests the results tell something true. -/
theorem told_of_reachable {initial : σ → Prop}
    {allowed : System σ κ τ ε χ ρ → Label τ χ → Prop}
    (symmetric : ∀ one other, C.conflicts one other = C.conflicts other one)
    (outlined : ∀ call, (body call).Outlined C (fun _ => True) id [])
    (bodies : ∀ call, (body call).Tells C (tells call) (fun _ => True) id [])
    (lasting : ∀ call value, C.Lasting (tells call value))
    (begins : ∀ db, initial db → C.inv db)
    (reachable : Reachable C.conflicts body initial allowed system) : C.Told tells system := by
  induction reachable with
  | start db isInitial =>
      intro position thread found
      simp at found
  | step before permitted stepped ih =>
      exact ih.step bodies lasting (sound_of_reachable symmetric outlined begins before) stepped

end Contract

/-! ### The calls of the requests -/

namespace System

variable {conflicts : κ → κ → Bool} {body : χ → Program σ κ τ ε ρ}
  {system next : System σ κ τ ε χ ρ}

/-- The call of the request at `index`. -/
def callAt (system : System σ κ τ ε χ ρ) (index : Nat) : Option χ :=
  system.threads[index]?.map Thread.call

private theorem callAt_set {index position : Nat} {old new : Thread σ κ τ ε χ ρ} {db' : σ}
    (found : system.threads[index]? = some old) (same : new.call = old.call) :
    callAt { db := db', threads := system.threads.set index new } position =
      system.callAt position := by
  simp only [callAt, List.getElem?_set]
  by_cases isIndex : index = position
  · subst isIndex
    have bound : index < system.threads.length := (List.getElem?_eq_some_iff.mp found).1
    rw [if_pos rfl, if_pos bound, found, Option.map_some, Option.map_some, same]
  · rw [if_neg isIndex]

private theorem callAt_advance {index position : Nat} {time : τ} {thread : Thread σ κ τ ε χ ρ}
    (found : system.threads[index]? = some thread)
    (stepped : system.advance conflicts index time thread = some next) :
    next.callAt position = system.callAt position := by
  unfold advance at stepped
  split at stepped
  · cases stepped
    exact callAt_set found rfl
  · cases stepped
    exact callAt_set found rfl
  · cases stepped
    exact callAt_set found rfl
  · simp only at stepped
    split at stepped
    · cases stepped
      exact callAt_set found rfl
    · cases stepped
  · simp only at stepped
    split at stepped
    · split at stepped
      · cases stepped
        exact callAt_set found rfl
      · cases stepped
        exact callAt_set found rfl
    · cases stepped
  · cases stepped
    exact callAt_set found rfl

/-- A request keeps its call. -/
theorem callAt_step {label : Label τ χ} {position : Nat} {call : χ}
    (called : system.callAt position = some call)
    (stepped : system.step conflicts body label = some next) :
    next.callAt position = some call := by
  cases label with
  | start new =>
      cases stepped
      obtain ⟨thread, found, isCall⟩ := Option.map_eq_some_iff.mp called
      have bound : position < system.threads.length := (List.getElem?_eq_some_iff.mp found).1
      unfold callAt
      rw [List.getElem?_append_left bound]
      exact called
  | advance index time =>
      simp only [step] at stepped
      split at stepped
      · next thread found =>
          split at stepped
          · exact (callAt_advance found stepped).trans called
          · cases stepped
      · cases stepped
  | abort index =>
      simp only [step] at stepped
      split at stepped
      · next thread found =>
          split at stepped
          · cases stepped
            have same : (thread.close .aborted).call = thread.call := rfl
            exact (callAt_set found same).trans called
          · cases stepped
      · cases stepped

end System

end RngGamePlatform.Transactions
