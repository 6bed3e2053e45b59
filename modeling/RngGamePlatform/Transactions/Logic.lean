/-
Module: RngGamePlatform.Transactions.Logic
Purpose: Rely/guarantee judgements for one transaction and its rules.
Trusted boundary: none
Main exports: Phase, Doomed, Meets, Meets.bind, Meets.weaken, Meets.query_bind,
  Meets.update_bind, Path, Path.meets, Path.transfer
-/
import RngGamePlatform.Transactions.System

namespace RngGamePlatform.Transactions

variable {σ κ τ ε χ ρ α β : Type}

/-- Where a transaction stands: still open on the committed state `db` with its
changes and locks, or settled by a commit that left `db`. -/
inductive Phase (σ κ : Type) where
  | running (db : σ) (changes : σ → σ) (held : List κ)
  | settled (db : σ)

/-- The committed state a phase speaks about. -/
def Phase.db : Phase σ κ → σ
  | .running db _ _ => db
  | .settled db => db

@[simp] theorem Phase.db_running (db : σ) (changes : σ → σ) (held : List κ) :
    (Phase.running db changes held).db = db := rfl

@[simp] theorem Phase.db_settled (db : σ) :
    (Phase.settled db : Phase σ κ).db = db := rfl

/-- Nothing but reads is left before the program raises one of `fails`: it can
change nothing any more. -/
inductive Doomed (fails : ε → Prop) : Program σ κ τ ε ρ → Prop where
  | raise (error : ε) (expected : fails error) : Doomed fails (.raise error)
  | now {next : τ → Program σ κ τ ε ρ}
      (rest : ∀ time, Doomed fails (next time)) : Doomed fails (.now next)
  | select {locks : σ → List κ} {next : σ → Program σ κ τ ε ρ}
      (rest : ∀ view, Doomed fails (next view)) :
      Doomed fails (.select locks next)

theorem Doomed.bind {fails : ε → Prop} {program : Program σ κ τ ε α}
    (doomed : Doomed fails program) (f : α → Program σ κ τ ε β) :
    Doomed fails (program >>= f) := by
  induction doomed with
  | raise error expected => exact .raise error expected
  | now rest ih => exact .now ih
  | select rest ih => exact .select ih

theorem Doomed.imp {fails fails' : ε → Prop} {program : Program σ κ τ ε ρ}
    (wider : ∀ error, fails error → fails' error)
    (doomed : Doomed fails program) : Doomed fails' program := by
  induction doomed with
  | raise error expected => exact .raise error (wider error expected)
  | now rest ih => exact .now ih
  | select rest ih => exact .select ih

theorem Doomed.query_bind {fails : ε → Prop} {locks : σ → List κ}
    {answer : σ → α} {f : α → Program σ κ τ ε β}
    (rest : ∀ value, Doomed fails (f value)) :
    Doomed fails (Program.query locks answer >>= f) :=
  .select fun view => rest (answer view)

section Judgement

variable (rely : List κ → σ → σ → Prop) (guarantee : σ → σ → List κ → Prop)
  (fails : ε → Prop)

/-- The judgement of one transaction that runs on the committed state of its
phase.  Every statement must answer the same on each committed state that the
others can leave while the transaction holds its locks (`rely`), unless the
program is doomed right after it; every commit meets `guarantee`; nothing but
the end of the request follows a commit; and the end meets `post`. -/
def Meets : Program σ κ τ ε ρ → (Except ε ρ → Phase σ κ → Prop) →
    Phase σ κ → Prop
  | .ret value, post, phase => post (.ok value) phase
  | .raise error, post, phase => post (.error error) phase
  | .now next, post, phase =>
      match phase with
      | .running db changes held =>
          ∀ time, Meets (next time) post (.running db changes held)
      | .settled _ => False
  | .select locks next, post, phase =>
      match phase with
      | .running db changes held =>
          (Doomed fails (next (changes db)) ∨
            ∀ db', rely (locks (changes db) ++ held) db db' →
              locks (changes db') = locks (changes db) ∧
                next (changes db') = next (changes db)) ∧
          Meets (next (changes db)) post
            (.running db changes (locks (changes db) ++ held))
      | .settled _ => False
  | .execute locks change next, post, phase =>
      match phase with
      | .running db changes held =>
          match change (changes db) with
          | .error error => post (.error error) (.running db changes held)
          | .ok _ =>
              (∀ db', rely (locks (changes db) ++ held) db db' →
                locks (changes db') = locks (changes db) ∧
                  ∃ state, change (changes db') = .ok state) ∧
              Meets next post
                (.running db (fun state => applied change (changes state))
                  (locks (changes db) ++ held))
      | .settled _ => False
  | .commit next, post, phase =>
      match phase with
      | .running db changes held =>
          guarantee db (changes db) held ∧
            Meets next post (.settled (changes db))
      | .settled _ => False

end Judgement

namespace Meets

variable {rely : List κ → σ → σ → Prop} {guarantee : σ → σ → List κ → Prop}
  {fails : ε → Prop}

@[simp] theorem commit_iff {next : Program σ κ τ ε ρ}
    {post : Except ε ρ → Phase σ κ → Prop} {db : σ} {changes : σ → σ}
    {held : List κ} :
    Meets rely guarantee fails (.commit next) post (.running db changes held) ↔
      guarantee db (changes db) held ∧
        Meets rely guarantee fails next post (.settled (changes db)) := by
  simp [Meets]

/-- Rule of consequence: fewer moves of the others, more commits, more
exceptions and more ends. -/
theorem weaken {rely' : List κ → σ → σ → Prop}
    {guarantee' : σ → σ → List κ → Prop} {fails' : ε → Prop}
    {program : Program σ κ τ ε ρ} {post post' : Except ε ρ → Phase σ κ → Prop}
    {phase : Phase σ κ}
    (fewer : ∀ held db db', rely' held db db' → rely held db db')
    (more : ∀ db db' held, guarantee db db' held → guarantee' db db' held)
    (wider : ∀ error, fails error → fails' error)
    (ends : ∀ result phase, post result phase → post' result phase)
    (meets : Meets rely guarantee fails program post phase) :
    Meets rely' guarantee' fails' program post' phase := by
  induction program generalizing phase with
  | ret value => exact ends _ _ meets
  | raise error => exact ends _ _ meets
  | now next ih =>
      cases phase with
      | running db changes held => exact fun time => ih time (meets time)
      | settled db => exact meets
  | select locks next ih =>
      cases phase with
      | running db changes held =>
          rcases meets with ⟨stable, rest⟩
          refine ⟨?_, ih _ rest⟩
          rcases stable with doomed | same
          · exact Or.inl (doomed.imp wider)
          · exact Or.inr fun db' relied => same db' (fewer _ _ _ relied)
      | settled db => exact meets
  | execute locks change next ih =>
      cases phase with
      | running db changes held =>
          simp only [Meets] at meets ⊢
          cases outcome : change (changes db) with
          | error error =>
              rw [outcome] at meets
              exact ends _ _ meets
          | ok state =>
              rw [outcome] at meets
              exact ⟨fun db' relied => meets.1 db' (fewer _ _ _ relied),
                ih meets.2⟩
      | settled db => exact meets
  | commit next ih =>
      cases phase with
      | running db changes held => exact ⟨more _ _ _ meets.1, ih meets.2⟩
      | settled db => exact meets

/-- What the rest of a sequence must meet after its first program. -/
def After (rely : List κ → σ → σ → Prop) (guarantee : σ → σ → List κ → Prop)
    (fails : ε → Prop) (f : α → Program σ κ τ ε β) (post : Except ε β → Phase σ κ → Prop) :
    Except ε α → Phase σ κ → Prop
  | .ok value, phase => Meets rely guarantee fails (f value) post phase
  | .error error, phase => post (.error error) phase

/-- Sequencing. -/
theorem bind {program : Program σ κ τ ε α} {f : α → Program σ κ τ ε β}
    {post : Except ε β → Phase σ κ → Prop} {phase : Phase σ κ}
    (first : Meets rely guarantee fails program (After rely guarantee fails f post) phase) :
    Meets rely guarantee fails (program >>= f) post phase := by
  induction program generalizing phase with
  | ret value => exact first
  | raise error => exact first
  | now next ih =>
      cases phase with
      | running db changes held => exact fun time => ih time (first time)
      | settled db => exact first
  | select locks next ih =>
      cases phase with
      | running db changes held =>
          rcases first with ⟨stable, rest⟩
          refine ⟨?_, ih _ rest⟩
          rcases stable with doomed | same
          · exact Or.inl (doomed.bind f)
          · refine Or.inr fun db' relied => ?_
            rcases same db' relied with ⟨sameLocks, sameNext⟩
            refine ⟨sameLocks, ?_⟩
            show (next (changes db')).bind f = (next (changes db)).bind f
            rw [sameNext]
      | settled db => exact first
  | execute locks change next ih =>
      cases phase with
      | running db changes held =>
          simp only [Program.execute_bind, Meets] at first ⊢
          cases outcome : change (changes db) with
          | error error =>
              rw [outcome] at first
              exact first
          | ok state =>
              rw [outcome] at first
              exact ⟨first.1, ih first.2⟩
      | settled db => exact first
  | commit next ih =>
      cases phase with
      | running db changes held => exact ⟨first.1, ih first.2⟩
      | settled db => exact first

/-- A `SELECT` and what follows it: the answer is stable, or the program dies
of it. -/
theorem query_bind {locks : σ → List κ} {answer : σ → α}
    {f : α → Program σ κ τ ε β} {post : Except ε β → Phase σ κ → Prop}
    {db : σ} {changes : σ → σ} {held : List κ}
    (stable : Doomed fails (f (answer (changes db))) ∨
      ∀ db', rely (locks (changes db) ++ held) db db' →
        locks (changes db') = locks (changes db) ∧
          answer (changes db') = answer (changes db))
    (rest : Meets rely guarantee fails (f (answer (changes db))) post
      (.running db changes (locks (changes db) ++ held))) :
    Meets rely guarantee fails (Program.query locks answer >>= f) post
      (.running db changes held) := by
  refine ⟨?_, rest⟩
  rcases stable with doomed | same
  · exact Or.inl doomed
  · refine Or.inr fun db' relied => ?_
    rcases same db' relied with ⟨sameLocks, sameAnswer⟩
    exact ⟨sameLocks, by simp only [sameAnswer]⟩

/-- A changing statement and what follows it. -/
theorem update_bind {locks : σ → List κ} {change : σ → Except ε σ}
    {f : Unit → Program σ κ τ ε β} {post : Except ε β → Phase σ κ → Prop}
    {db : σ} {changes : σ → σ} {held : List κ}
    (violated : ∀ error, change (changes db) = .error error →
      post (.error error) (.running db changes held))
    (stable : ∀ state, change (changes db) = .ok state →
      ∀ db', rely (locks (changes db) ++ held) db db' →
        locks (changes db') = locks (changes db) ∧
          ∃ state', change (changes db') = .ok state')
    (rest : ∀ state, change (changes db) = .ok state →
      Meets rely guarantee fails (f ()) post
        (.running db (fun state => applied change (changes state))
          (locks (changes db) ++ held))) :
    Meets rely guarantee fails (Program.update locks change >>= f) post
      (.running db changes held) := by
  simp only [Program.update, Program.execute_bind, Program.ret_bind, Meets]
  cases outcome : change (changes db) with
  | error error => exact violated error outcome
  | ok state => exact ⟨stable state outcome, rest state outcome⟩

/-- After a commit only the end of the request is left. -/
theorem settled_cases {program : Program σ κ τ ε ρ}
    {post : Except ε ρ → Phase σ κ → Prop} {db : σ}
    (meets : Meets rely guarantee fails program post (.settled db)) :
    (∃ value, program = .ret value ∧ post (.ok value) (.settled db)) ∨
      ∃ error, program = .raise error ∧ post (.error error) (.settled db) := by
  cases program with
  | ret value => exact Or.inl ⟨value, rfl, meets⟩
  | raise error => exact Or.inr ⟨error, rfl, meets⟩
  | now next => exact False.elim meets
  | select locks next => exact False.elim meets
  | execute locks change next => exact False.elim meets
  | commit next => exact False.elim meets

end Meets

/-- The points a transaction reaches when all its statements run against one
committed state. -/
inductive Path (db : σ) (origin : Program σ κ τ ε ρ) :
    Program σ κ τ ε ρ → (σ → σ) → List κ → Prop where
  | start : Path db origin origin id []
  | now {next : τ → Program σ κ τ ε ρ} {changes : σ → σ} {held : List κ}
      (before : Path db origin (.now next) changes held) (time : τ) :
      Path db origin (next time) changes held
  | select {locks : σ → List κ} {next : σ → Program σ κ τ ε ρ}
      {changes : σ → σ} {held : List κ}
      (before : Path db origin (.select locks next) changes held) :
      Path db origin (next (changes db)) changes (locks (changes db) ++ held)
  | execute {locks : σ → List κ} {change : σ → Except ε σ}
      {next : Program σ κ τ ε ρ} {changes : σ → σ} {held : List κ} {state : σ}
      (before : Path db origin (.execute locks change next) changes held)
      (succeeds : change (changes db) = .ok state) :
      Path db origin next (fun state => applied change (changes state))
        (locks (changes db) ++ held)

namespace Path

variable {rely : List κ → σ → σ → Prop} {guarantee : σ → σ → List κ → Prop}
  {fails : ε → Prop} {db : σ} {origin program : Program σ κ τ ε ρ} {changes : σ → σ}
  {held : List κ} {post : Except ε ρ → Phase σ κ → Prop}

/-- A point on the path inherits the judgement of the whole program. -/
theorem meets (path : Path db origin program changes held)
    (whole : Meets rely guarantee fails origin post (.running db id [])) :
    Meets rely guarantee fails program post (.running db changes held) := by
  induction path with
  | start => exact whole
  | now before time ih => exact ih time
  | select before ih => exact ih.2
  | execute before succeeds ih =>
      simp only [Meets, succeeds] at ih
      exact ih.2

/-- A point on the path is on the same path over every committed state that the
others can leave, unless the program is doomed there. -/
theorem transfer {db' : σ} (path : Path db origin program changes held)
    (whole : Meets rely guarantee fails origin post (.running db id []))
    (mono : ∀ {fewer more : List κ}, fewer ⊆ more →
      rely more db db' → rely fewer db db')
    (relied : rely held db db') :
    Doomed fails program ∨ Path db' origin program changes held := by
  induction path with
  | start => exact Or.inr .start
  | now before time ih =>
      rcases ih relied with doomed | again
      · cases doomed with
        | now rest => exact Or.inl (rest time)
      · exact Or.inr (again.now time)
  | @select locks next changes held before ih =>
      rcases ih (mono (List.subset_append_right _ _) relied) with
        doomed | again
      · cases doomed with
        | select rest => exact Or.inl (rest _)
      · rcases (before.meets whole).1 with doomed | same
        · exact Or.inl doomed
        · rcases same db' relied with ⟨sameLocks, sameNext⟩
          have there := again.select
          rw [sameLocks, sameNext] at there
          exact Or.inr there
  | @execute locks change next changes held state before succeeds ih =>
      have judged := before.meets whole
      simp only [Meets, succeeds] at judged
      rcases judged.1 db' relied with ⟨sameLocks, state', succeeds'⟩
      rcases ih (mono (List.subset_append_right _ _) relied) with
        doomed | again
      · cases doomed
      · have there := again.execute succeeds'
        rw [sameLocks] at there
        exact Or.inr there

end Path

end RngGamePlatform.Transactions
