/-
Module: RngGamePlatform.Proofs.Rules
Purpose: The judgement of a service program under the moves of the others, and
  one rule for each kind of statement that the services make.
Trusted boundary: none
Main exports: Domain, Runs, Shaped, Runs.bind, Runs.clock, Runs.require,
  Runs.read, Runs.readRow, Runs.lockRow, Runs.update, Runs.write, Runs.commitRet
-/
import RngGamePlatform.Proofs.Isolation
import RngGamePlatform.Services.Common

namespace RngGamePlatform

open Encoding Relational Transactions

/-- A failure that is not the database's. -/
def Domain (error : ServiceError) : Prop := ∀ violated, error ≠ .integrity violated

@[simp] theorem domain_iff {error : ServiceError} :
    Domain error ↔ ∀ violated, error ≠ .integrity violated := Iff.rfl

theorem Domain.report {translated : ServiceError} (domain : Domain translated)
    (error : RulesError) : Domain (error.report translated) := by
  cases error with
  | invalidRulesInput => exact domain
  | validation => nofun
  | zeroDivision => nofun
  | indexError => nofun

/-- The guarantee of a request and the failures it may end with. -/
structure Duty where
  guarantee : Database → Database → List Lock → Prop
  fails : ServiceError → Prop
  /-- The failures of the services themselves are always possible. -/
  domain : ∀ {error}, Domain error → fails error

/-- The end of a program: a good value, or a possible failure. -/
def Duty.ends {ρ : Type} (duty : Duty) (good : ρ → Phase Database Lock → Prop) :
    Except ServiceError ρ → Phase Database Lock → Prop
  | .ok value, phase => good value phase
  | .error error, _ => duty.fails error

/-- The judgement of a program from any phase. -/
abbrev Judges {ρ : Type} (duty : Duty) (good : ρ → Phase Database Lock → Prop)
    (program : Prog ρ) (phase : Phase Database Lock) : Prop :=
  Meets Others duty.guarantee duty.fails program (duty.ends good) phase

/-- The judgement of a program inside its transaction. -/
abbrev Runs {ρ : Type} (duty : Duty) (good : ρ → Phase Database Lock → Prop)
    (program : Prog ρ) (db : Database) (changes : Database → Database)
    (held : List Lock) : Prop :=
  Judges duty good program (.running db changes held)

/-- On whatever the others leave, the changes look like `shift`. -/
def Shaped (changes shift : Database → Database) (db : Database)
    (held : List Lock) : Prop :=
  ∀ db', Others held db db' → changes db' = shift db'

theorem Shaped.start (db : Database) (held : List Lock) : Shaped id id db held :=
  fun _ _ => rfl

theorem Shaped.here {changes shift : Database → Database} {db : Database}
    {held : List Lock} (shaped : Shaped changes shift db held) :
    changes db = shift db := shaped db (.refl held db)

theorem Shaped.mono {changes shift : Database → Database} {db : Database}
    {fewer more : List Lock} (subset : fewer ⊆ more)
    (shaped : Shaped changes shift db fewer) : Shaped changes shift db more :=
  fun db' others => shaped db' (others.mono subset)

/-- A program that can only read before it fails as the services do. -/
abbrev Refused {ρ : Type} (program : Prog ρ) : Prop := Doomed Domain program

namespace Runs

variable {α ρ : Type} {duty : Duty} {good : ρ → Phase Database Lock → Prop}
  {db : Database} {changes : Database → Database} {held : List Lock}
  {f : α → Prog ρ}

theorem ret {value : ρ} (isGood : good value (.running db changes held)) :
    Runs duty good (.ret value) db changes held := isGood

theorem raise {error : ServiceError} (domain : Domain error) :
    Runs duty good (RngGamePlatform.raise error) db changes held :=
  duty.domain domain

/-- Sequencing. -/
theorem bind {program : Prog α}
    (first : Runs duty (fun value phase => Judges duty good (f value) phase)
      program db changes held) :
    Runs duty good (program >>= f) db changes held := by
  refine Meets.bind (first.weaken (fun _ _ _ => id) (fun _ _ _ => id)
    (fun _ => id) ?_)
  intro result phase ended
  cases result with
  | ok value => exact ended
  | error error => exact ended

theorem clock {f : Int → Prog ρ} (rest : ∀ now, Runs duty good (f now) db changes held) :
    Runs duty good (RngGamePlatform.clock >>= f) db changes held := rest

theorem require {error : ServiceError} {condition : Prop} [Decidable condition]
    {f : Unit → Prog ρ} (domain : Domain error)
    (rest : condition → Runs duty good (f ()) db changes held) :
    Runs duty good (RngGamePlatform.require error condition >>= f) db changes
      held := by
  unfold RngGamePlatform.require Program.require
  split
  · next holds => exact rest holds
  · exact duty.domain domain

theorem orRaise {error : ServiceError} {found : Option α} (domain : Domain error)
    (rest : ∀ value, found = some value →
      Runs duty good (f value) db changes held) :
    Runs duty good (RngGamePlatform.orRaise error found >>= f) db changes held := by
  cases found with
  | none => exact duty.domain domain
  | some value => exact rest value rfl

theorem ofExcept {outcome : Except ServiceError α}
    (domain : ∀ error, outcome = .error error → Domain error)
    (rest : ∀ value, outcome = .ok value →
      Runs duty good (f value) db changes held) :
    Runs duty good (Program.ofExcept outcome >>= f) db changes held := by
  cases outcome with
  | error error => exact duty.domain (domain error rfl)
  | ok value => exact rest value rfl

theorem byRules {translated : ServiceError} {outcome : Except RulesError α}
    (domain : Domain translated)
    (rest : ∀ value, outcome = .ok value →
      Runs duty good (f value) db changes held) :
    Runs duty good (RngGamePlatform.byRules translated outcome >>= f) db changes
      held := by
  cases outcome with
  | error error => exact duty.domain (domain.report error)
  | ok value => exact rest value rfl

theorem byFairness {outcome : Except FairnessError α}
    (rest : ∀ value, outcome = .ok value →
      Runs duty good (f value) db changes held) :
    Runs duty good (RngGamePlatform.byFairness outcome >>= f) db changes held := by
  cases outcome with
  | error error => exact duty.domain nofun
  | ok value => exact rest value rfl

/-- A query whose answer the others leave untouched. -/
theorem read {answer : Database → α}
    (stable : ∀ db', Others held db db' →
      answer (changes db') = answer (changes db))
    (rest : Runs duty good (f (answer (changes db))) db changes held) :
    Runs duty good (RngGamePlatform.read answer >>= f) db changes held :=
  Meets.query_bind (Or.inr fun db' others => ⟨rfl, stable db' others⟩) rest

/-- A query whose answer may change, but not what the program does with it. -/
theorem readSame {answer : Database → α}
    (same : ∀ db', Others held db db' →
      f (answer (changes db')) = f (answer (changes db)))
    (rest : Runs duty good (f (answer (changes db))) db changes held) :
    Runs duty good (RngGamePlatform.read answer >>= f) db changes held :=
  ⟨Or.inr fun db' others => ⟨rfl, same db' others⟩, rest⟩

/-- A program that can only fail meets every end. -/
theorem refused {program : Prog ρ} (refused : Refused program) :
    Runs duty good program db changes held := by
  induction refused generalizing held with
  | raise error domain => exact duty.domain domain
  | now rest ih => exact fun time => ih time
  | select rest ih => exact ⟨Or.inl ((rest _).imp fun _ => duty.domain), ih _⟩

/-- A query after which the program can only fail. -/
theorem queryRefused {locks : Database → List Lock} {answer : Database → α}
    (dead : Refused (f (answer (changes db)))) :
    Runs duty good (Program.query locks answer >>= f) db changes held :=
  Meets.query_bind (Or.inl (dead.imp fun _ => duty.domain)) (refused dead)

/-- A query of a row without which the service fails. -/
theorem readRow {answer : Database → Option α} {error : ServiceError}
    (domain : Domain error)
    (rest : ∀ row, answer (changes db) = some row →
      (∀ db', Others held db db' → answer (changes db') = some row) ∧
        Runs duty good (f row) db changes held) :
    Runs duty good
      (RngGamePlatform.read answer >>= fun found =>
        RngGamePlatform.orRaise error found >>= f) db changes held := by
  cases found : answer (changes db) with
  | none =>
      refine Meets.query_bind (Or.inl ?_) ?_
      · rw [found]
        exact .raise error (duty.domain domain)
      · rw [found]
        exact duty.domain domain
  | some row =>
      rcases rest row found with ⟨stable, following⟩
      refine read (fun db' others => by rw [stable db' others, found]) ?_
      rw [found]
      exact following

/-- A query that locks the row it finds, whatever it finds. -/
theorem lock {target : α → Target} {answer : Database → Option α}
    {f : Option α → Prog ρ}
    (stable : ∀ db',
      Others (((answer (changes db)).toList.map fun row =>
        forUpdate (target row)) ++ held) db db' →
      answer (changes db') = answer (changes db))
    (rest : Runs duty good (f (answer (changes db))) db changes
      (((answer (changes db)).toList.map fun row => forUpdate (target row)) ++
        held)) :
    Runs duty good (readForUpdate target answer >>= f) db changes held := by
  refine Meets.query_bind (Or.inr fun db' others => ?_) rest
  have same := stable db' others
  exact ⟨by rw [same], same⟩

/-- A query that locks a row without which the service fails. -/
theorem lockRow {target : α → Target} {answer : Database → Option α}
    {error : ServiceError} (domain : Domain error)
    (rest : ∀ row, answer (changes db) = some row →
      (∀ db', Others (forUpdate (target row) :: held) db db' →
        answer (changes db') = some row) ∧
        Runs duty good (f row) db changes (forUpdate (target row) :: held)) :
    Runs duty good
      (readForUpdate target answer >>= fun found =>
        RngGamePlatform.orRaise error found >>= f) db changes held := by
  cases found : answer (changes db) with
  | none =>
      refine Meets.query_bind (Or.inl ?_) ?_
      · rw [found]
        exact .raise error (duty.domain domain)
      · rw [found]
        exact duty.domain domain
  | some row =>
      rcases rest row found with ⟨stable, following⟩
      refine lock ?_ ?_
      · rw [found]
        exact fun db' others => stable db' others
      · rw [found]
        exact following

/-- A changing statement with fixed locks. -/
theorem update {locks : List Lock} {change : Database → Except ServiceError Database}
    {f : Unit → Prog ρ}
    (fails : ∀ error, change (changes db) = .error error → duty.fails error)
    (rest : ∀ state, change (changes db) = .ok state →
      (∀ db', Others (locks ++ held) db db' →
        ∃ state', change (changes db') = .ok state') ∧
      Runs duty good (f ()) db (fun start => applied change (changes start))
        (locks ++ held)) :
    Runs duty good (Program.update (fun _ => locks) change >>= f) db changes held :=
  Meets.update_bind fails
    (fun state succeeds db' others =>
      ⟨rfl, (rest state succeeds).1 db' others⟩)
    fun state succeeds => (rest state succeeds).2

/-- A changing statement after changes that look like `shift`: on whatever the
others leave it succeeds as it does now, and the changes then look like
`shift'`. -/
theorem write {shift : Database → Database} (shift' : Database → Database)
    {locks : List Lock} {change : Database → Except ServiceError Database}
    {f : Unit → Prog ρ} (shaped : Shaped changes shift db held)
    (fails : ∀ error, change (shift db) = .error error → duty.fails error)
    (stable : ∀ state, change (shift db) = .ok state →
      ∀ db', Others (locks ++ held) db db' → change (shift db') = .ok (shift' db'))
    (rest : change (shift db) = .ok (shift' db) →
      ∀ changes', Shaped changes' shift' db (locks ++ held) →
      Runs duty good (f ()) db changes' (locks ++ held)) :
    Runs duty good (Program.update (fun _ => locks) change >>= f) db changes held := by
  have seen : ∀ db', Others (locks ++ held) db db' → changes db' = shift db' :=
    fun db' others => shaped db' (others.mono (List.subset_append_right _ _))
  have here := shaped.here
  refine update (fun error violated => fails error (here ▸ violated)) ?_
  intro state succeeds
  rw [here] at succeeds
  have following := stable state succeeds
  refine ⟨fun db' others => ⟨shift' db', ?_⟩, ?_⟩
  · rw [seen db' others]
    exact following db' others
  · refine rest (following db (.refl _ db)) _ fun db' others => ?_
    rw [seen db' others]
    exact applied_ok (following db' others)

/-- A query that locks a row without which the service fails, after changes that
look like `shift`. -/
theorem lockRowShaped {shift : Database → Database} {target : α → Target}
    {answer : Database → Option α} {error : ServiceError}
    (shaped : Shaped changes shift db held) (domain : Domain error)
    (rest : ∀ row, answer (shift db) = some row →
      (∀ db', Others (forUpdate (target row) :: held) db db' →
        answer (shift db') = some row) ∧
        Runs duty good (f row) db changes (forUpdate (target row) :: held)) :
    Runs duty good
      (readForUpdate target answer >>= fun found =>
        RngGamePlatform.orRaise error found >>= f) db changes held := by
  refine lockRow domain fun row found => ?_
  rw [shaped.here] at found
  rcases rest row found with ⟨stable, following⟩
  refine ⟨fun db' others => ?_, following⟩
  rw [shaped db' (others.mono (List.subset_cons_self _ _))]
  exact stable db' others

/-- The commit at the end of a successful request. -/
theorem commitRet {value : ρ} (allowed : duty.guarantee db (changes db) held)
    (isGood : good value (.settled (changes db))) :
    Runs duty good (commitWork >>= fun _ => .ret value) db changes held :=
  ⟨allowed, isGood⟩

/-- The commit before a failure. -/
theorem commitRaise {error : ServiceError} (domain : Domain error)
    (allowed : duty.guarantee db (changes db) held) :
    Runs duty good (commitWork >>= fun _ => RngGamePlatform.raise error) db changes
      held :=
  ⟨allowed, duty.domain domain⟩

/-- The value of a program may be mapped. -/
theorem map {β : Type} {program : Prog α} {g : α → β}
    {good : β → Phase Database Lock → Prop}
    (meets : Runs duty (fun value phase => good (g value) phase) program db changes
      held) : Runs duty good (g <$> program) db changes held := by
  rw [map_eq_pure_bind]
  exact bind meets

/-- A weaker end. -/
theorem mono {program : Prog ρ} {good' : ρ → Phase Database Lock → Prop}
    (weaker : ∀ value phase, good value phase → good' value phase)
    (meets : Runs duty good program db changes held) :
    Runs duty good' program db changes held := by
  refine meets.weaken (fun _ _ _ => id) (fun _ _ _ => id) (fun _ => id) ?_
  intro result phase ended
  cases result with
  | ok value => exact weaker value phase ended
  | error error => exact ended

end Runs

end RngGamePlatform
