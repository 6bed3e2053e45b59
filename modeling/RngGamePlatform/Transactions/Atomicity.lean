/-
Module: RngGamePlatform.Transactions.Atomicity
Purpose: Transactions that pass their rely/guarantee judgement take effect at
  their commit, as if they had run alone on the state they commit to.
Trusted boundary: none
Main exports: Discipline, Discipline.Rely, Discipline.Judged, Discipline.Lawful,
  Discipline.Sound.step, Discipline.sound_of_reachable,
  Discipline.Lawful.keeping, Discipline.Sound.result, Discipline.Sound.exception,
  Discipline.Sound.raising, Discipline.Sound.follow
-/
import RngGamePlatform.Transactions.Logic

namespace RngGamePlatform.Transactions

/-!
A discipline says what each kind of request may do to the committed state and
what its result says about it.  It is lawful when every request passes its
judgement against the others.  The invariant then holds of every reachable
committed state, every commit is one its request may make, and every result
says what it should about the committed state.
-/

/-- What the requests of a system promise. -/
structure Discipline (σ κ τ ε χ ρ ω : Type) where
  /-- Which locks exclude each other. -/
  conflicts : κ → κ → Bool
  body : χ → Program σ κ τ ε ρ
  /-- The part of a result that other requests cannot make untrue. -/
  settled : ρ → ω
  /-- The invariant, given the requests made so far. -/
  inv : List χ → σ → Prop
  /-- The changes of the committed state that a run makes. -/
  admitted : σ → σ → Prop
  /-- The commits of a request that holds the given locks. -/
  guarantee : χ → σ → σ → List κ → Prop
  /-- What a result says. -/
  fact : χ → ω → σ → Prop
  /-- The exceptions a request may end with. -/
  failure : χ → ε → Prop

namespace Discipline

variable {σ κ τ ε χ ρ ω : Type}

/-- What the other requests may do while a request holds `held`. -/
def Rely (D : Discipline σ κ τ ε χ ρ ω) (calls : List χ) (held : List κ)
    (db db' : σ) : Prop :=
  ∃ call held', call ∈ calls ∧ Compatible D.conflicts held' held ∧
    D.inv calls db ∧ D.admitted db db' ∧ D.guarantee call db db' held'

/-- What the end of a request says. -/
def ends (D : Discipline σ κ τ ε χ ρ ω) (call : χ) :
    Except ε ω → Phase σ κ → Prop
  | .ok value, phase => D.fact call value phase.db
  | .error error, _ => D.failure call error

/-- The judgement of one request. -/
def Judged (D : Discipline σ κ τ ε χ ρ ω) (calls : List χ) (call : χ)
    (db : σ) : Prop :=
  Meets (D.Rely calls) (D.guarantee call) (D.failure call)
    (D.settled <$> D.body call) (D.ends call) (.running db id [])

/-- Every request keeps the discipline. -/
structure Lawful (D : Discipline σ κ τ ε χ ρ ω) : Prop where
  symmetric : ∀ one other, D.conflicts one other = D.conflicts other one
  grows : ∀ {calls call db}, D.inv calls db → D.inv (calls ++ [call]) db
  judged : ∀ {calls call db}, call ∈ calls → D.inv calls db →
    D.Judged calls call db
  preserved : ∀ {calls call db db' held}, call ∈ calls → D.inv calls db →
    D.admitted db db' → D.guarantee call db db' held → D.inv calls db'
  lasting : ∀ {calls call db db' held other value}, call ∈ calls →
    D.inv calls db → D.admitted db db' → D.guarantee call db db' held →
    D.fact other value db → D.fact other value db'

/-- Where a running request stands. -/
inductive Standing (D : Discipline σ κ τ ε χ ρ ω) (db : σ)
    (thread : Thread σ κ τ ε χ ρ) : Prop where
  /-- It will change nothing any more. -/
  | doomed (rest : Doomed (D.failure thread.call) (D.settled <$> thread.program))
  /-- It stands where it would stand had it run on the state committed last. -/
  | onPath (path : Path db (D.settled <$> D.body thread.call)
      (D.settled <$> thread.program) thread.changes thread.held)
  /-- It has committed and is about to return. -/
  | returning (value : ω) (program : D.settled <$> thread.program = .ret value)
      (fact : D.fact thread.call value db)

/-- What holds of a request at every moment. -/
def ThreadSound (D : Discipline σ κ τ ε χ ρ ω) (db : σ)
    (thread : Thread σ κ τ ε χ ρ) : Prop :=
  match thread.status with
  | .running => D.Standing db thread
  | .finished (.ok value) => D.fact thread.call (D.settled value) db
  | .finished (.error error) => D.failure thread.call error
  | .aborted => True

/-- The calls of a system. -/
def calls (system : System σ κ τ ε χ ρ) : List χ :=
  system.threads.map fun thread => thread.call

/-- What holds of a system at every moment. -/
structure Sound (D : Discipline σ κ τ ε χ ρ ω)
    (system : System σ κ τ ε χ ρ) : Prop where
  inv : D.inv (calls system) system.db
  apart : ∀ {index other : Nat} {first second : Thread σ κ τ ε χ ρ},
    index ≠ other → system.threads[index]? = some first → system.threads[other]? = some second →
    Compatible D.conflicts first.held second.held
  threads : ∀ {index : Nat} {thread : Thread σ κ τ ε χ ρ},
    system.threads[index]? = some thread →
    D.ThreadSound system.db thread

variable {D : Discipline σ κ τ ε χ ρ ω} {system next : System σ κ τ ε χ ρ}

theorem call_mem_calls {index : Nat} {thread : Thread σ κ τ ε χ ρ}
    (found : system.threads[index]? = some thread) :
    thread.call ∈ calls system :=
  List.mem_map.mpr ⟨thread, List.mem_of_getElem? found, rfl⟩

/-- Replacing a thread by one with the same call keeps the calls. -/
theorem calls_set {index : Nat} {old new : Thread σ κ τ ε χ ρ}
    (found : system.threads[index]? = some old) (sameCall : new.call = old.call)
    (db : σ) :
    calls { db := db, threads := system.threads.set index new } =
      calls system := by
  apply List.ext_getElem?
  intro position
  simp only [calls, List.getElem?_map, List.getElem?_set]
  split
  · next same =>
      subst same
      rcases List.getElem?_eq_some_iff.mp found with ⟨bound, value⟩
      simp [bound, value, sameCall]
  · rfl

/-- Replace thread `index` and the committed state, when the other threads stay
sound and the new one is apart from them. -/
theorem Sound.replace {index : Nat} {old new : Thread σ κ τ ε χ ρ} {db' : σ}
    (lawful : D.Lawful) (sound : D.Sound system)
    (found : system.threads[index]? = some old) (sameCall : new.call = old.call)
    (inv : D.inv (calls system) db')
    (apart : ∀ {other : Nat} {second : Thread σ κ τ ε χ ρ}, other ≠ index →
      system.threads[other]? = some second →
      Compatible D.conflicts new.held second.held)
    (newSound : D.ThreadSound db' new)
    (othersSound : ∀ {other : Nat} {second : Thread σ κ τ ε χ ρ},
      other ≠ index → system.threads[other]? = some second → D.ThreadSound db' second) :
    D.Sound { db := db', threads := system.threads.set index new } := by
  have bound : index < system.threads.length :=
    (List.getElem?_eq_some_iff.mp found).1
  refine ⟨?_, ?_, ?_⟩
  · rw [calls_set found sameCall]
    exact inv
  · intro one other first second different foundFirst foundSecond
    simp only [List.getElem?_set] at foundFirst foundSecond
    by_cases isOne : index = one
    · subst isOne
      simp only [if_pos, bound, Option.some.injEq, if_neg different]
        at foundFirst foundSecond
      subst foundFirst
      exact apart (Ne.symm different) foundSecond
    · simp only [if_neg isOne] at foundFirst
      by_cases isOther : index = other
      · subst isOther
        simp only [if_pos, bound, Option.some.injEq] at foundSecond
        subst foundSecond
        intro lock inFirst lock' inSecond
        rw [lawful.symmetric]
        exact apart (Ne.symm isOne) foundFirst lock' inSecond lock inFirst
      · simp only [if_neg isOther] at foundSecond
        exact sound.apart different foundFirst foundSecond
  · intro position thread foundThread
    simp only [List.getElem?_set] at foundThread
    by_cases isIndex : index = position
    · subst isIndex
      simp only [if_pos, bound, Option.some.injEq] at foundThread
      subst foundThread
      exact newSound
    · simp only [if_neg isIndex] at foundThread
      exact othersSound (Ne.symm isIndex) foundThread

/-- Replace thread `index` only. -/
theorem Sound.setThread {index : Nat} {old new : Thread σ κ τ ε χ ρ}
    (lawful : D.Lawful) (sound : D.Sound system)
    (found : system.threads[index]? = some old) (sameCall : new.call = old.call)
    (apart : ∀ {other : Nat} {second : Thread σ κ τ ε χ ρ}, other ≠ index →
      system.threads[other]? = some second →
      Compatible D.conflicts new.held second.held)
    (newSound : D.ThreadSound system.db new) :
    D.Sound (system.setThread index new) :=
  sound.replace lawful found sameCall sound.inv apart newSound
    fun _ foundOther => sound.threads foundOther

/-- Locks that are granted are apart from the locks of the other threads. -/
theorem Sound.granted {index : Nat} {old : Thread σ κ τ ε χ ρ}
    {locks : List κ} (sound : D.Sound system)
    (found : system.threads[index]? = some old)
    (grants : system.Grants D.conflicts index locks) {other : Nat}
    {second : Thread σ κ τ ε χ ρ} (different : other ≠ index)
    (foundOther : system.threads[other]? = some second) :
    Compatible D.conflicts (locks ++ old.held) second.held := by
  rcases List.getElem?_eq_some_iff.mp foundOther with ⟨bound, value⟩
  have free := grants other bound different
  simp only [List.get_eq_getElem, value] at free
  exact free.append_left (sound.apart (Ne.symm different) found foundOther)

/-- A commit carries every other request over to the new committed state. -/
theorem ThreadSound.transfer {calls : List χ} {db db' : σ}
    {thread : Thread σ κ τ ε χ ρ} {call : χ} {held : List κ}
    (lawful : D.Lawful) (inv : D.inv calls db) (known : call ∈ calls)
    (threadKnown : thread.call ∈ calls) (admitted : D.admitted db db')
    (guarantee : D.guarantee call db db' held)
    (apart : Compatible D.conflicts held thread.held)
    (sound : D.ThreadSound db thread) : D.ThreadSound db' thread := by
  unfold ThreadSound at sound ⊢
  cases status : thread.status with
  | aborted => trivial
  | finished result =>
      rw [status] at sound
      cases result with
      | ok value => exact lawful.lasting known inv admitted guarantee sound
      | error error => exact sound
  | running =>
      rw [status] at sound
      cases sound with
      | doomed rest => exact .doomed rest
      | returning value program fact =>
          exact .returning value program
            (lawful.lasting known inv admitted guarantee fact)
      | onPath path =>
          have relied : D.Rely calls thread.held db db' :=
            ⟨call, held, known, apart, inv, admitted, guarantee⟩
          have weaker : ∀ {fewer more : List κ}, fewer ⊆ more →
              D.Rely calls more db db' → D.Rely calls fewer db db' := by
            intro fewer more subset wide
            rcases wide with ⟨call, held, known, apart, rest⟩
            exact ⟨call, held, known,
              fun one inOne other inOther =>
                apart one inOne other (subset inOther), rest⟩
          rcases path.transfer (lawful.judged threadKnown inv) weaker relied with
            doomed | again
          · exact .doomed doomed
          · exact .onPath again

/-- What a step can do to the committed state: nothing, or a commit of one
running request that its discipline allows. -/
def Committed (D : Discipline σ κ τ ε χ ρ ω)
    (system next : System σ κ τ ε χ ρ) : Prop :=
  next.db = system.db ∨
    ∃ (index : Nat) (thread : Thread σ κ τ ε χ ρ),
      system.threads[index]? = some thread ∧ D.guarantee thread.call system.db next.db thread.held

section Standing

variable {calls : List χ} {db : σ} {thread : Thread σ κ τ ε χ ρ}

theorem Standing.sound (standing : D.Standing db thread) (running : thread.status = .running) :
    D.ThreadSound db thread := by
  unfold ThreadSound
  rw [running]
  exact standing

theorem ThreadSound.standing (sound : D.ThreadSound db thread)
    (running : thread.status = .running) : D.Standing db thread := by
  unfold ThreadSound at sound
  rw [running] at sound
  exact sound

/-- A result that is returned says what it should. -/
theorem Standing.returned {value : ρ} (standing : D.Standing db thread)
    (judged : D.Judged calls thread.call db) (program : thread.program = .ret value) :
    D.fact thread.call (D.settled value) db := by
  cases standing with
  | doomed rest =>
      rw [program] at rest
      cases rest
  | onPath path =>
      rw [program] at path
      exact path.meets judged
  | returning value' isReturn fact =>
      rw [program, Program.map_ret] at isReturn
      cases isReturn
      exact fact

/-- An exception that is raised is one that the request may end with. -/
theorem Standing.raised {error : ε} (standing : D.Standing db thread)
    (judged : D.Judged calls thread.call db) (program : thread.program = .raise error) :
    D.failure thread.call error := by
  cases standing with
  | doomed rest =>
      rw [program] at rest
      cases rest with
      | raise error expected => exact expected
  | onPath path =>
      rw [program] at path
      exact path.meets judged
  | returning value isReturn fact =>
      rw [program] at isReturn
      cases isReturn

/-- A clock reading. -/
theorem Standing.clocked {following : τ → Program σ κ τ ε ρ}
    (standing : D.Standing db thread) (program : thread.program = .now following) (time : τ) :
    D.Standing db
      { thread with program := following time, times := time :: thread.times } := by
  cases standing with
  | doomed rest =>
      rw [program, Program.map_now] at rest
      cases rest with
      | now rest => exact .doomed (rest time)
  | onPath path =>
      rw [program, Program.map_now] at path
      exact .onPath (path.now time)
  | returning value isReturn fact =>
      rw [program] at isReturn
      cases isReturn

/-- A query, which sees what the committed state is now. -/
theorem Standing.selected {locks : σ → List κ} {following : σ → Program σ κ τ ε ρ}
    (standing : D.Standing db thread) (program : thread.program = .select locks following) :
    D.Standing db
      { thread with
        program := following (thread.view db)
        held := locks (thread.view db) ++ thread.held } := by
  cases standing with
  | doomed rest =>
      rw [program, Program.map_select] at rest
      cases rest with
      | select rest => exact .doomed (rest _)
  | onPath path =>
      rw [program, Program.map_select] at path
      exact .onPath path.select
  | returning value isReturn fact =>
      rw [program] at isReturn
      cases isReturn

/-- A changing statement that succeeds. -/
theorem Standing.executed {locks : σ → List κ} {change : σ → Except ε σ}
    {following : Program σ κ τ ε ρ} {state : σ} (standing : D.Standing db thread)
    (program : thread.program = .execute locks change following)
    (succeeds : change (thread.view db) = .ok state) :
    D.Standing db
      { thread with
        program := following
        changes := fun state => applied change (thread.changes state)
        held := locks (thread.view db) ++ thread.held } := by
  cases standing with
  | doomed rest =>
      rw [program] at rest
      cases rest
  | onPath path =>
      rw [program, Program.map_execute] at path
      exact .onPath (path.execute succeeds)
  | returning value isReturn fact =>
      rw [program] at isReturn
      cases isReturn

/-- A changing statement that fails: the request can only raise its exception. -/
theorem Standing.failed {locks : σ → List κ} {change : σ → Except ε σ}
    {following : Program σ κ τ ε ρ} {error : ε} (standing : D.Standing db thread)
    (judged : D.Judged calls thread.call db)
    (program : thread.program = .execute locks change following)
    (fails : change (thread.view db) = .error error) :
    D.Standing db { thread with program := .raise error } := by
  cases standing with
  | doomed rest =>
      rw [program] at rest
      cases rest
  | onPath path =>
      rw [program, Program.map_execute] at path
      have ended := path.meets judged
      simp only [Thread.view] at fails
      simp only [Meets, fails] at ended
      exact .doomed (.raise error ended)
  | returning value isReturn fact =>
      rw [program] at isReturn
      cases isReturn

/-- A commit is one that the discipline allows, and what the request then returns holds of
what it has committed. -/
theorem Standing.commits {following : Program σ κ τ ε ρ} (standing : D.Standing db thread)
    (judged : D.Judged calls thread.call db) (program : thread.program = .commit following) :
    D.guarantee thread.call db (thread.view db) thread.held ∧
      D.Standing (thread.view db)
        { thread with program := following, changes := id, held := [] } := by
  cases standing with
  | doomed rest =>
      rw [program] at rest
      cases rest
  | returning value isReturn fact =>
      rw [program] at isReturn
      cases isReturn
  | onPath path =>
      rw [program, Program.map_commit] at path
      have ended := path.meets judged
      rw [Meets.commit_iff] at ended
      obtain ⟨guarantee, rest⟩ := ended
      refine ⟨guarantee, ?_⟩
      rcases Meets.settled_cases rest with
        ⟨value, isReturn, fact⟩ | ⟨error, isRaise, failure⟩
      · exact .returning value isReturn fact
      · apply Standing.doomed
        rw [isRaise]
        exact .raise error failure

end Standing

private theorem closed_sound {index : Nat} {thread : Thread σ κ τ ε χ ρ}
    {status : Status ε ρ} (lawful : D.Lawful) (sound : D.Sound system)
    (found : system.threads[index]? = some thread)
    (ended : D.ThreadSound system.db (thread.close status)) :
    D.Sound (system.setThread index (thread.close status)) :=
  sound.setThread lawful found rfl
    (fun _ _ _ inNone => absurd inNone (List.not_mem_nil)) ended

/-- Executing one statement of a running thread keeps the system sound. -/
theorem Sound.advance {index : Nat} {time : τ} {thread : Thread σ κ τ ε χ ρ}
    (lawful : D.Lawful) (sound : D.Sound system)
    (found : system.threads[index]? = some thread)
    (running : thread.status = .running)
    (stepped : system.advance D.conflicts index time thread = some next)
    (admitted : D.admitted system.db next.db) :
    D.Sound next ∧ (next.db = system.db ∨
      D.guarantee thread.call system.db next.db thread.held) := by
  have standing := (sound.threads found).standing running
  have known := call_mem_calls found
  have apart : ∀ {other : Nat} {second : Thread σ κ τ ε χ ρ},
      other ≠ index → system.threads[other]? = some second →
      Compatible D.conflicts thread.held second.held :=
    fun different foundOther =>
      sound.apart (Ne.symm different) found foundOther
  have judged : D.Judged (calls system) thread.call system.db :=
    lawful.judged known sound.inv
  unfold System.advance at stepped
  cases program : thread.program with
  | ret value =>
      rw [program] at stepped
      cases stepped
      exact ⟨closed_sound lawful sound found (standing.returned judged program), Or.inl rfl⟩
  | raise error =>
      rw [program] at stepped
      cases stepped
      exact ⟨closed_sound lawful sound found (standing.raised judged program), Or.inl rfl⟩
  | now following =>
      rw [program] at stepped
      cases stepped
      have stands := standing.clocked program time
      exact ⟨sound.setThread lawful found rfl apart (stands.sound running), Or.inl rfl⟩
  | select locks following =>
      simp only [program] at stepped
      split at stepped
      · next grants =>
          cases stepped
          refine ⟨?_, Or.inl rfl⟩
          exact sound.setThread lawful found rfl (sound.granted found grants)
            ((standing.selected program).sound running)
      · cases stepped
  | execute locks change following =>
      simp only [program] at stepped
      split at stepped
      · next grants =>
          split at stepped
          · next state succeeds =>
              cases stepped
              refine ⟨?_, Or.inl rfl⟩
              exact sound.setThread lawful found rfl (sound.granted found grants)
                ((standing.executed program succeeds).sound running)
          · next error fails =>
              cases stepped
              refine ⟨?_, Or.inl rfl⟩
              exact sound.setThread lawful found rfl apart
                ((standing.failed judged program fails).sound running)
      · cases stepped
  | commit following =>
      rw [program] at stepped
      cases stepped
      obtain ⟨guarantee, stands⟩ := standing.commits judged program
      refine ⟨?_, Or.inr guarantee⟩
      refine sound.replace lawful found rfl
        (lawful.preserved known sound.inv admitted guarantee)
        (fun _ _ _ inNone => absurd inNone (List.not_mem_nil)) ?_ ?_
      · exact stands.sound running
      · intro other second different foundOther
        exact (sound.threads foundOther).transfer lawful sound.inv known
          (call_mem_calls foundOther) admitted guarantee (apart different foundOther)

/-- Every step keeps a system sound and changes the committed state by a commit
only. -/
theorem Sound.step {label : Label τ χ} (lawful : D.Lawful)
    (sound : D.Sound system)
    (stepped : system.step D.conflicts D.body label = some next)
    (admitted : D.admitted system.db next.db) :
    D.Sound next ∧ D.Committed system next := by
  cases label with
  | start call =>
      cases stepped
      refine ⟨⟨?_, ?_, ?_⟩, Or.inl rfl⟩
      · have grown : D.inv (calls system ++ [call]) system.db :=
          lawful.grows sound.inv
        simpa [calls, Thread.fresh] using grown
      · intro one other first second different foundFirst foundSecond
        rw [List.getElem?_append] at foundFirst foundSecond
        split at foundFirst
        · split at foundSecond
          · exact sound.apart different foundFirst foundSecond
          · have isFresh := List.mem_singleton.mp
              (List.mem_of_getElem? foundSecond)
            subst isFresh
            exact fun _ _ _ inNone => absurd inNone List.not_mem_nil
        · have isFresh := List.mem_singleton.mp (List.mem_of_getElem? foundFirst)
          subst isFresh
          exact fun _ inNone => absurd inNone List.not_mem_nil
      · intro position thread found
        rw [List.getElem?_append] at found
        split at found
        · exact sound.threads found
        · have isFresh := List.mem_singleton.mp (List.mem_of_getElem? found)
          subst isFresh
          exact Standing.onPath Path.start
  | advance index time =>
      simp only [System.step] at stepped
      split at stepped
      · next thread found =>
          split at stepped
          · next running =>
              rcases sound.advance lawful found running stepped admitted with
                ⟨sound', same | guarantee⟩
              · exact ⟨sound', Or.inl same⟩
              · exact ⟨sound', Or.inr ⟨index, thread, found, guarantee⟩⟩
          · cases stepped
      · cases stepped
  | abort index =>
      simp only [System.step] at stepped
      split at stepped
      · next thread found =>
          split at stepped
          · cases stepped
            exact ⟨closed_sound lawful sound found trivial, Or.inl rfl⟩
          · cases stepped
      · cases stepped

/-- A step of one request commits nothing, or what its discipline allows. -/
theorem Sound.committed {index : Nat} {time : τ} {thread : Thread σ κ τ ε χ ρ}
    (lawful : D.Lawful) (sound : D.Sound system)
    (found : system.threads[index]? = some thread)
    (stepped : system.step D.conflicts D.body (.advance index time) = some next)
    (admitted : D.admitted system.db next.db) :
    next.db = system.db ∨ D.guarantee thread.call system.db next.db thread.held := by
  simp only [System.step, found] at stepped
  split at stepped
  · next running => exact (sound.advance lawful found running stepped admitted).2
  · cases stepped

section Runs

variable {initial : σ → Prop}
  {allowed : System σ κ τ ε χ ρ → Label τ χ → Prop}

/-- Every reachable system of a lawful discipline is sound. -/
theorem sound_of_reachable (lawful : D.Lawful)
    (begins : ∀ db, initial db → D.inv [] db)
    (admits : ∀ system label next, allowed system label →
      System.step D.conflicts D.body system label = some next →
      D.admitted system.db next.db)
    (reachable : Reachable D.conflicts D.body initial allowed system) :
    D.Sound system := by
  induction reachable with
  | start db isInitial =>
      refine ⟨begins db isInitial, ?_, ?_⟩
      · intro one other first second _ found
        simp at found
      · intro position thread found
        simp at found
  | step before permitted stepped ih =>
      exact (ih.step lawful stepped (admits _ _ _ permitted stepped)).1

/-- The discipline with one more invariant. -/
def keeping (D : Discipline σ κ τ ε χ ρ ω) (also : List χ → σ → Prop) :
    Discipline σ κ τ ε χ ρ ω :=
  { D with inv := fun calls db => D.inv calls db ∧ also calls db }

/-- What every commit keeps is an invariant of the discipline. -/
theorem Lawful.keeping {also : List χ → σ → Prop} (lawful : D.Lawful)
    (grows : ∀ {calls call db}, also calls db → also (calls ++ [call]) db)
    (kept : ∀ {calls call db db' held}, call ∈ calls → D.inv calls db →
      D.admitted db db' → D.guarantee call db db' held → also calls db →
      also calls db') :
    (D.keeping also).Lawful where
  symmetric := lawful.symmetric
  grows := fun inv => ⟨lawful.grows inv.1, grows inv.2⟩
  judged := fun known inv => by
    refine (lawful.judged known inv.1).weaken (fun held db db' relied => ?_)
      (fun _ _ _ => id) (fun _ => id) fun result phase ended => ?_
    · obtain ⟨call, held', isKnown, apart, inv', admitted, guarantee⟩ := relied
      exact ⟨call, held', isKnown, apart, inv'.1, admitted, guarantee⟩
    · cases result with
      | ok value => exact ended
      | error error => exact ended
  preserved := fun known inv admitted guarantee =>
    ⟨lawful.preserved known inv.1 admitted guarantee,
      kept known inv.1 admitted guarantee inv.2⟩
  lasting := fun known inv admitted guarantee fact =>
    lawful.lasting known inv.1 admitted guarantee fact

/-- What a finished request says about the committed state. -/
theorem Sound.result {index : Nat} {thread : Thread σ κ τ ε χ ρ} {value : ρ}
    (sound : D.Sound system) (found : system.threads[index]? = some thread)
    (finished : thread.status = .finished (.ok value)) :
    D.fact thread.call (D.settled value) system.db := by
  have here := sound.threads found
  unfold ThreadSound at here
  rw [finished] at here
  exact here

/-- The exceptions a finished request ended with. -/
theorem Sound.exception {index : Nat} {thread : Thread σ κ τ ε χ ρ} {error : ε}
    (sound : D.Sound system) (found : system.threads[index]? = some thread)
    (finished : thread.status = .finished (.error error)) :
    D.failure thread.call error := by
  have here := sound.threads found
  unfold ThreadSound at here
  rw [finished] at here
  exact here

/-- The exception that a running request is about to end with. -/
theorem Sound.raising {index : Nat} {thread : Thread σ κ τ ε χ ρ} {error : ε}
    (lawful : D.Lawful) (sound : D.Sound system)
    (found : system.threads[index]? = some thread)
    (running : thread.status = .running) (program : thread.program = .raise error) :
    D.failure thread.call error := by
  have standing := (sound.threads found).standing running
  exact standing.raised (lawful.judged (call_mem_calls found) sound.inv) program

/-- What every commit keeps, every run keeps. -/
theorem Sound.follow {related : σ → σ → Prop} {labels : List (Label τ χ)}
    {last : System σ κ τ ε χ ρ} (lawful : D.Lawful) (sound : D.Sound system)
    (admits : ∀ db db', D.admitted db db') (refl : ∀ db, related db db)
    (trans : ∀ {a b c}, related a b → related b c → related a c)
    (commits : ∀ {call db db' held}, D.guarantee call db db' held → related db db')
    (followed : system.follow D.conflicts D.body labels = some last) :
    D.Sound last ∧ related system.db last.db := by
  induction labels generalizing system with
  | nil =>
      cases followed
      exact ⟨sound, refl _⟩
  | cons label labels ih =>
      simp only [System.follow] at followed
      cases stepped : system.step D.conflicts D.body label with
      | none => simp [stepped] at followed
      | some next =>
          rw [stepped] at followed
          rcases sound.step lawful stepped (admits _ _) with ⟨sound', committed⟩
          rcases ih sound' followed with ⟨soundLast, rest⟩
          refine ⟨soundLast, trans ?_ rest⟩
          rcases committed with same | ⟨_, _, _, guarantee⟩
          · rw [same]
            exact refl _
          · exact commits guarantee

end Runs

end Discipline

end RngGamePlatform.Transactions
