/-
Module: RngGamePlatform.Transactions.Outlines
Purpose: Proof outlines of transactions: assertions on the committed state that
  other transactions keep, for requests whose reads they may change.
Trusted boundary: none
Main exports: Contract, Contract.Rely, Program.Outlined, outlined_of_meets,
  Contract.Kept, Contract.Sound, Contract.sound_of_reachable,
  Contract.Sound.step
-/
import RngGamePlatform.Transactions.Logic

namespace RngGamePlatform.Transactions

/-!
The judgement of `Logic` asks that every answer stays what it was until the
commit.  An outline asks less: at every statement some assertion about the
committed state holds that the other requests keep, and it implies what the
commit promises.
-/

/-- What the requests of a system promise each other. -/
structure Contract (σ κ : Type) where
  conflicts : κ → κ → Bool
  inv : σ → Prop
  /-- The commits of a request that holds the given locks. -/
  commits : List κ → σ → σ → Prop

variable {σ κ τ ε χ ρ α β : Type}

namespace Contract

/-- What the other requests may do while a request holds `held`. -/
def Rely (C : Contract σ κ) (held : List κ) (db db' : σ) : Prop :=
  ∃ held', Compatible C.conflicts held' held ∧ C.inv db ∧ C.inv db' ∧
    C.commits held' db db'

/-- The other requests keep the assertion. -/
def Stable (C : Contract σ κ) (held : List κ) (here : σ → Prop) : Prop :=
  ∀ db db', here db → C.Rely held db db' → here db'

theorem Rely.mono {C : Contract σ κ} {fewer more : List κ} {db db' : σ}
    (relied : C.Rely more db db') (subset : fewer ⊆ more) : C.Rely fewer db db' := by
  obtain ⟨held', apart, rest⟩ := relied
  exact ⟨held', fun one inOne other inOther =>
    apart one inOne other (subset inOther), rest⟩

end Contract

/-- The outline of a program that has made the uncommitted `changes`, holds
`held` and runs on some committed state of `here`. -/
def Program.Outlined (C : Contract σ κ) :
    Program σ κ τ ε ρ → (σ → Prop) → (σ → σ) → List κ → Prop
  | .ret _, _, _, _ => True
  | .raise _, _, _, _ => True
  | .now next, here, changes, held => ∀ time, (next time).Outlined C here changes held
  | .select locks next, here, changes, held => ∀ db, here db → C.inv db →
      ∃ there : σ → Prop, there db ∧ C.Stable (locks (changes db) ++ held) there ∧
        (next (changes db)).Outlined C there changes (locks (changes db) ++ held)
  | .execute locks change next, here, changes, held => ∀ db state, here db → C.inv db →
      change (changes db) = .ok state →
      ∃ there : σ → Prop, there db ∧ C.Stable (locks (changes db) ++ held) there ∧
        next.Outlined C there (fun state => applied change (changes state))
          (locks (changes db) ++ held)
  | .commit next, here, changes, held => ∀ db, here db → C.inv db →
      (C.inv (changes db) ∧ C.commits held db (changes db)) ∧
        next.Outlined C (fun _ => True) id []

section Rules

variable {C : Contract σ κ} {here : σ → Prop} {changes : σ → σ} {held : List κ}

/-- The result does not matter. -/
theorem outlined_map {program : Program σ κ τ ε α} {f : α → β} :
    (f <$> program).Outlined C here changes held ↔
      program.Outlined C here changes held := by
  induction program generalizing here changes held with
  | ret value => exact Iff.rfl
  | raise error => exact Iff.rfl
  | now next ih => exact forall_congr' fun time => ih time
  | select locks next ih =>
      refine forall_congr' fun db => imp_congr_right fun _ => imp_congr_right fun _ => ?_
      exact exists_congr fun there => and_congr_right fun _ => and_congr_right fun _ => ih _
  | execute locks change next ih =>
      refine forall_congr' fun db => forall_congr' fun state => imp_congr_right fun _ =>
        imp_congr_right fun _ => imp_congr_right fun _ => ?_
      exact exists_congr fun there => and_congr_right fun _ => and_congr_right fun _ => ih
  | commit next ih =>
      exact forall_congr' fun db => imp_congr_right fun _ => imp_congr_right fun _ =>
        and_congr_right fun _ => ih

/-- A query with the assertion that holds after it. -/
theorem outlined_query_bind {locks : σ → List κ} {answer : σ → α}
    {f : α → Program σ κ τ ε β}
    (next : ∀ db, here db → C.inv db → ∃ there : σ → Prop, there db ∧
      C.Stable (locks (changes db) ++ held) there ∧
        (f (answer (changes db))).Outlined C there changes
          (locks (changes db) ++ held)) :
    (Program.query locks answer >>= f).Outlined C here changes held := next

/-- A query without locks changes nothing about what is known. -/
theorem outlined_read_bind {answer : σ → α} {f : α → Program σ κ τ ε β}
    (stable : C.Stable held here)
    (next : ∀ db, here db → C.inv db →
      (f (answer (changes db))).Outlined C here changes held) :
    (Program.query (fun _ => []) answer >>= f).Outlined C here changes held := by
  intro db known inv
  exact ⟨here, known, stable, next db known inv⟩

theorem outlined_orRaise_bind {error : ε} {found : Option α}
    {f : α → Program σ κ τ ε β}
    (next : ∀ value, found = some value → (f value).Outlined C here changes held) :
    (Program.orRaise error found >>= f).Outlined C here changes held := by
  cases found with
  | none => trivial
  | some value => exact next value rfl

theorem outlined_require_bind {error : ε} {condition : Prop} [Decidable condition]
    {f : Unit → Program σ κ τ ε β}
    (next : condition → (f ()).Outlined C here changes held) :
    (Program.require error condition >>= f).Outlined C here changes held := by
  unfold Program.require
  split
  · next holds => exact next holds
  · trivial

theorem outlined_ofExcept_bind {result : Except ε α} {f : α → Program σ κ τ ε β}
    (next : ∀ value, result = .ok value → (f value).Outlined C here changes held) :
    (Program.ofExcept result >>= f).Outlined C here changes held := by
  cases result with
  | error error => trivial
  | ok value => exact next value rfl

theorem outlined_clock_bind {f : τ → Program σ κ τ ε β}
    (next : ∀ time, (f time).Outlined C here changes held) :
    (Program.clock >>= f).Outlined C here changes held := next

/-- A program that only reads has an outline that says nothing. -/
theorem outlined_of_readOnly {program : Program σ κ τ ε ρ} (readOnly : program.ReadOnly) :
    program.Outlined C (fun _ => True) changes held := by
  induction program generalizing held with
  | ret value => trivial
  | raise error => trivial
  | now next ih => exact fun time => ih time (readOnly time)
  | select locks next ih =>
      intro db _ _
      exact ⟨fun _ => True, trivial, fun _ _ _ _ => trivial, ih _ (readOnly _)⟩
  | execute locks change next ih => exact readOnly.elim
  | commit next ih => exact readOnly.elim

end Rules

/-- A request that meets its judgement against the others has an outline: at
each of its points, that it stands there as if it had run on the state
committed last. -/
theorem outlined_of_meets {C : Contract σ κ} {fails : ε → Prop}
    {origin : Program σ κ τ ε ρ} {post : Except ε ρ → Phase σ κ → Prop}
    (judged : ∀ db, C.inv db → Meets C.Rely
      (fun db db' held => C.inv db → C.inv db' ∧ C.commits held db db') fails origin post
      (.running db id [])) :
    origin.Outlined C (fun _ => True) id [] := by
  have stable : ∀ {program : Program σ κ τ ε ρ} {changes : σ → σ} {held : List κ},
      C.Stable held fun db =>
        C.inv db ∧ (Doomed fails program ∨ Path db origin program changes held) := by
    rintro program changes held db db' ⟨inv, doomed | path⟩ relied
    · exact ⟨relied.choose_spec.2.2.1, Or.inl doomed⟩
    · exact ⟨relied.choose_spec.2.2.1, path.transfer (judged db inv)
        (fun subset relied => relied.mono subset) relied⟩
  have outlined : ∀ (program : Program σ κ τ ε ρ) (here : σ → Prop) (changes : σ → σ)
      (held : List κ), (∀ db, here db → C.inv db →
        Doomed fails program ∨ Path db origin program changes held) →
        program.Outlined C here changes held := by
    intro program
    induction program with
    | ret value => exact fun _ _ _ _ => trivial
    | raise error => exact fun _ _ _ _ => trivial
    | now next ih =>
        intro here changes held stands time
        apply ih time
        intro db known inv
        rcases stands db known inv with doomed | path
        · cases doomed with
          | now rest => exact Or.inl (rest time)
        · exact Or.inr (path.now time)
    | select locks next ih =>
        intro here changes held stands db known inv
        refine ⟨_, ⟨inv, ?_⟩, stable, ih _ _ _ _ fun _ there _ => there.2⟩
        rcases stands db known inv with doomed | path
        · cases doomed with
          | select rest => exact Or.inl (rest _)
        · exact Or.inr path.select
    | execute locks change next ih =>
        intro here changes held stands db state known inv changed
        refine ⟨_, ⟨inv, ?_⟩, stable, ih _ _ _ fun _ there _ => there.2⟩
        rcases stands db known inv with doomed | path
        · cases doomed
        · exact Or.inr (path.execute changed)
    | commit next ih =>
        intro here changes held stands db known inv
        rcases stands db known inv with doomed | path
        · cases doomed
        · obtain ⟨promised, rest⟩ := Meets.commit_iff.mp (path.meets (judged db inv))
          refine ⟨promised inv, ?_⟩
          rcases Meets.settled_cases rest with ⟨value, isRet, _⟩ | ⟨error, isRaise, _⟩
          · rw [isRet]
            trivial
          · rw [isRaise]
            trivial
  exact outlined origin _ _ _ fun _ _ _ => Or.inr .start

namespace Contract

variable (C : Contract σ κ)

/-- What holds of a request at every moment. -/
structure Kept (db : σ) (thread : Thread σ κ τ ε χ ρ) : Prop where
  running : thread.status = .running → ∃ here : σ → Prop, here db ∧
    C.Stable thread.held here ∧
      thread.program.Outlined C here thread.changes thread.held

/-- What holds of a system at every moment. -/
structure Sound (system : System σ κ τ ε χ ρ) : Prop where
  inv : C.inv system.db
  apart : ∀ {index other : Nat} {first second : Thread σ κ τ ε χ ρ},
    index ≠ other → system.threads[index]? = some first →
    system.threads[other]? = some second → Compatible C.conflicts first.held second.held
  kept : ∀ {index : Nat} {thread : Thread σ κ τ ε χ ρ},
    system.threads[index]? = some thread → C.Kept system.db thread

variable {C} {system next : System σ κ τ ε χ ρ} {body : χ → Program σ κ τ ε ρ}

/-- A request that is not running is kept. -/
theorem Kept.ended {db : σ} {thread : Thread σ κ τ ε χ ρ}
    (ended : thread.status ≠ .running) : C.Kept db thread :=
  ⟨fun running => absurd running ended⟩

/-- The commits of the others keep a request. -/
theorem Kept.transfer {db db' : σ} {thread : Thread σ κ τ ε χ ρ}
    (kept : C.Kept db thread) (relied : C.Rely thread.held db db') : C.Kept db' thread := by
  constructor
  intro running
  obtain ⟨here, known, stable, outlined⟩ := kept.running running
  exact ⟨here, stable db db' known relied, stable, outlined⟩

/-- Replace thread `index` and the committed state. -/
theorem Sound.replace {index : Nat} {old new : Thread σ κ τ ε χ ρ} {db' : σ}
    (symmetric : ∀ one other, C.conflicts one other = C.conflicts other one)
    (sound : C.Sound system) (found : system.threads[index]? = some old)
    (inv : C.inv db')
    (apart : ∀ {other : Nat} {second : Thread σ κ τ ε χ ρ}, other ≠ index →
      system.threads[other]? = some second → Compatible C.conflicts new.held second.held)
    (here : C.Kept db' new)
    (others : ∀ {other : Nat} {second : Thread σ κ τ ε χ ρ}, other ≠ index →
      system.threads[other]? = some second → C.Kept db' second) :
    C.Sound { db := db', threads := system.threads.set index new } := by
  have bound : index < system.threads.length := (List.getElem?_eq_some_iff.mp found).1
  have oneOrOther : ∀ {position : Nat} {thread : Thread σ κ τ ε χ ρ},
      (system.threads.set index new)[position]? = some thread →
        position = index ∧ thread = new ∨
          position ≠ index ∧ system.threads[position]? = some thread := by
    intro position thread foundThread
    rw [List.getElem?_set] at foundThread
    by_cases isIndex : index = position
    · subst isIndex
      simp only [if_pos, bound, Option.some.injEq] at foundThread
      exact Or.inl ⟨rfl, foundThread.symm⟩
    · rw [if_neg isIndex] at foundThread
      exact Or.inr ⟨Ne.symm isIndex, foundThread⟩
  constructor
  case inv => exact inv
  case apart =>
    intro one other first second different foundFirst foundSecond
    rcases oneOrOther foundFirst with ⟨rfl, rfl⟩ | ⟨notOne, inOne⟩
    · rcases oneOrOther foundSecond with ⟨rfl, rfl⟩ | ⟨notOther, inOther⟩
      · exact absurd rfl different
      · exact apart notOther inOther
    · rcases oneOrOther foundSecond with ⟨rfl, rfl⟩ | ⟨notOther, inOther⟩
      · intro lock inFirst lock' inSecond
        rw [symmetric]
        exact apart notOne inOne lock' inSecond lock inFirst
      · exact sound.apart different inOne inOther
  case kept =>
    intro position thread foundThread
    rcases oneOrOther foundThread with ⟨rfl, rfl⟩ | ⟨notIndex, inThreads⟩
    · exact here
    · exact others notIndex inThreads

/-- Locks that are granted are apart from the locks of the other threads. -/
theorem Sound.granted {index : Nat} {old : Thread σ κ τ ε χ ρ} {locks : List κ}
    (sound : C.Sound system) (found : system.threads[index]? = some old)
    (grants : system.Grants C.conflicts index locks) {other : Nat}
    {second : Thread σ κ τ ε χ ρ} (different : other ≠ index)
    (foundOther : system.threads[other]? = some second) :
    Compatible C.conflicts (locks ++ old.held) second.held := by
  obtain ⟨bound, value⟩ := List.getElem?_eq_some_iff.mp foundOther
  have free := grants other bound different
  simp only [List.get_eq_getElem, value] at free
  exact free.append_left (sound.apart (Ne.symm different) found foundOther)

/-- A step changes the committed state by a commit of one request or not at all. -/
def Committed (C : Contract σ κ) (db db' : σ) : Prop :=
  db' = db ∨ C.inv db ∧ ∃ held, C.commits held db db'

/-- Executing one statement of a running thread keeps the system sound. -/
theorem Sound.advance {index : Nat} {time : τ} {thread : Thread σ κ τ ε χ ρ}
    (symmetric : ∀ one other, C.conflicts one other = C.conflicts other one)
    (sound : C.Sound system) (found : system.threads[index]? = some thread)
    (running : thread.status = .running)
    (stepped : system.advance C.conflicts index time thread = some next) :
    C.Sound next ∧ C.Committed system.db next.db := by
  have apart : ∀ {other : Nat} {second : Thread σ κ τ ε χ ρ}, other ≠ index →
      system.threads[other]? = some second →
      Compatible C.conflicts thread.held second.held :=
    fun different foundOther => sound.apart (Ne.symm different) found foundOther
  have keptOthers : ∀ {other : Nat} {second : Thread σ κ τ ε χ ρ}, other ≠ index →
      system.threads[other]? = some second → C.Kept system.db second :=
    fun _ foundOther => sound.kept foundOther
  obtain ⟨here, known, stable, outlined⟩ := (sound.kept found).running running
  unfold System.advance at stepped
  cases program : thread.program with
  | ret value =>
      rw [program] at stepped
      cases stepped
      exact ⟨sound.replace symmetric found sound.inv
        (fun _ _ _ inNone => absurd inNone List.not_mem_nil) (.ended nofun) keptOthers,
        Or.inl rfl⟩
  | raise error =>
      rw [program] at stepped
      cases stepped
      exact ⟨sound.replace symmetric found sound.inv
        (fun _ _ _ inNone => absurd inNone List.not_mem_nil) (.ended nofun) keptOthers,
        Or.inl rfl⟩
  | now following =>
      rw [program] at stepped outlined
      cases stepped
      refine ⟨sound.replace symmetric found sound.inv apart ⟨fun _ => ?_⟩ keptOthers,
        Or.inl rfl⟩
      exact ⟨here, known, stable, outlined time⟩
  | select locks following =>
      rw [program] at outlined
      simp only [program] at stepped
      split at stepped
      · next grants =>
          cases stepped
          obtain ⟨there, known', stable', outlined'⟩ := outlined _ known sound.inv
          refine ⟨sound.replace symmetric found sound.inv (sound.granted found grants)
            ⟨fun _ => ?_⟩ keptOthers, Or.inl rfl⟩
          exact ⟨there, known', stable', outlined'⟩
      · cases stepped
  | execute locks change following =>
      rw [program] at outlined
      simp only [program] at stepped
      split at stepped
      · next grants =>
          split at stepped
          · next state changed =>
              cases stepped
              obtain ⟨there, known', stable', outlined'⟩ :=
                outlined _ state known sound.inv changed
              refine ⟨sound.replace symmetric found sound.inv (sound.granted found grants)
                ⟨fun _ => ?_⟩ keptOthers, Or.inl rfl⟩
              exact ⟨there, known', stable', outlined'⟩
          · next error fails =>
              cases stepped
              refine ⟨sound.replace symmetric found sound.inv apart ⟨fun _ => ?_⟩
                keptOthers, Or.inl rfl⟩
              exact ⟨here, known, stable, trivial⟩
      · cases stepped
  | commit following =>
      rw [program] at stepped outlined
      cases stepped
      obtain ⟨⟨inv', committed⟩, rest⟩ := outlined _ known sound.inv
      refine ⟨sound.replace symmetric found inv'
        (fun _ _ _ inNone => absurd inNone List.not_mem_nil) ⟨fun _ => ?_⟩ ?_,
        Or.inr ⟨sound.inv, thread.held, committed⟩⟩
      · exact ⟨fun _ => True, trivial, fun _ _ _ _ => trivial, rest⟩
      · intro other second different foundOther
        exact (sound.kept foundOther).transfer
          ⟨thread.held, apart different foundOther, sound.inv, inv', committed⟩

/-- Every step keeps a system sound and commits what the contract allows. -/
theorem Sound.step {label : Label τ χ}
    (symmetric : ∀ one other, C.conflicts one other = C.conflicts other one)
    (bodies : ∀ call, (body call).Outlined C (fun _ => True) id [])
    (sound : C.Sound system)
    (stepped : system.step C.conflicts body label = some next) :
    C.Sound next ∧ C.Committed system.db next.db := by
  cases label with
  | start call =>
      cases stepped
      refine ⟨⟨sound.inv, ?_, ?_⟩, Or.inl rfl⟩
      · intro one other first second different foundFirst foundSecond
        rw [List.getElem?_append] at foundFirst foundSecond
        split at foundFirst
        · split at foundSecond
          · exact sound.apart different foundFirst foundSecond
          · have isFresh := List.mem_singleton.mp (List.mem_of_getElem? foundSecond)
            subst isFresh
            exact fun _ _ _ inNone => absurd inNone List.not_mem_nil
        · have isFresh := List.mem_singleton.mp (List.mem_of_getElem? foundFirst)
          subst isFresh
          exact fun _ inNone => absurd inNone List.not_mem_nil
      · intro position thread found
        rw [List.getElem?_append] at found
        split at found
        · exact sound.kept found
        · have isFresh := List.mem_singleton.mp (List.mem_of_getElem? found)
          subst isFresh
          exact ⟨fun _ => ⟨_, trivial, fun _ _ _ _ => trivial, bodies call⟩⟩
  | advance index time =>
      simp only [System.step] at stepped
      split at stepped
      · next thread found =>
          split at stepped
          · next running => exact sound.advance symmetric found running stepped
          · cases stepped
      · cases stepped
  | abort index =>
      simp only [System.step] at stepped
      split at stepped
      · next thread found =>
          split at stepped
          · cases stepped
            exact ⟨sound.replace symmetric found sound.inv
              (fun _ _ _ inNone => absurd inNone List.not_mem_nil) (.ended nofun)
              fun _ foundOther => sound.kept foundOther, Or.inl rfl⟩
          · cases stepped
      · cases stepped

section Runs

variable {initial : σ → Prop} {allowed : System σ κ τ ε χ ρ → Label τ χ → Prop}

/-- Every reachable system of outlined requests is sound. -/
theorem sound_of_reachable
    (symmetric : ∀ one other, C.conflicts one other = C.conflicts other one)
    (bodies : ∀ call, (body call).Outlined C (fun _ => True) id [])
    (begins : ∀ db, initial db → C.inv db)
    (reachable : Reachable C.conflicts body initial allowed system) : C.Sound system := by
  induction reachable with
  | start db isInitial =>
      refine ⟨begins db isInitial, ?_, ?_⟩
      · intro one other first second _ found
        simp at found
      · intro position thread found
        simp at found
  | step before permitted stepped ih => exact (ih.step symmetric bodies stepped).1

/-- What every commit keeps, every run keeps. -/
theorem Sound.follow {related : σ → σ → Prop} {labels : List (Label τ χ)}
    {last : System σ κ τ ε χ ρ}
    (symmetric : ∀ one other, C.conflicts one other = C.conflicts other one)
    (bodies : ∀ call, (body call).Outlined C (fun _ => True) id [])
    (sound : C.Sound system) (refl : ∀ db, related db db)
    (trans : ∀ {a b c}, related a b → related b c → related a c)
    (commits : ∀ {held db db'}, C.inv db → C.commits held db db' → related db db')
    (followed : system.follow C.conflicts body labels = some last) :
    C.Sound last ∧ related system.db last.db := by
  induction labels generalizing system with
  | nil =>
      cases followed
      exact ⟨sound, refl _⟩
  | cons label labels ih =>
      simp only [System.follow] at followed
      cases stepped : system.step C.conflicts body label with
      | none => simp [stepped] at followed
      | some next =>
          rw [stepped] at followed
          obtain ⟨sound', committed⟩ := sound.step symmetric bodies stepped
          obtain ⟨soundLast, rest⟩ := ih sound' followed
          refine ⟨soundLast, trans ?_ rest⟩
          rcases committed with same | ⟨inv, held, allowed⟩
          · rw [same]
            exact refl _
          · exact commits inv allowed

end Runs

end Contract

end RngGamePlatform.Transactions
