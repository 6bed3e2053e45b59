/-
Module: RngGamePlatform.Proofs.ScoreSpecs
Purpose: The judgements of the submission of a final score and of the claim of a
  reward.
Trusted boundary: none
Main exports: submitFinalScore_runs, claimSessionReward_runs
-/
import RngGamePlatform.Proofs.PlaySpecs

namespace RngGamePlatform

open Encoding Relational Transactions

section Submit

variable {env : Platform} {duty : Duty} {db : Database} {held : List Lock}

/-- The state after a score and its trigger. -/
def afterScore (row : FinalScore) (view : Database) : Database :=
  { view with
    scores := view.scores ++ [row]
    revisions := Database.advanceRevision row.gameId row.periodStart view.revisions }

theorem insertScore_stable {row : FinalScore} {db' state : Database}
    (others : Others held db db')
    (mine : forUpdate (.session row.sessionId) ∈ held)
    (own : forUpdate (.score row.id) ∈ held)
    (succeeds : Database.insertScore row db = .ok state) :
    Database.insertScore row db' = .ok (afterScore row db') := by
  rcases Database.insertScore_ok.mp succeeds with ⟨⟨newId, newSession, range⟩, _⟩
  exact Database.insertScore_ok.mpr
    ⟨⟨others.scoreById_none own newId,
      (others.scoreBySession mine).trans newSession, range⟩, rfl⟩

/-- Inserting a score under its session's lock. -/
theorem Runs.addFinalScore {ρ : Type} {good : ρ → Phase Database Lock → Prop}
    {row : FinalScore} {f : Unit → Prog ρ} (tolerant : duty.Tolerant)
    (mine : forUpdate (.session row.sessionId) ∈ held)
    (rest : Database.insertScore row db = .ok (afterScore row db) →
      ∀ changes held', held ⊆ held' → forUpdate (.score row.id) ∈ held' →
      forNoKeyUpdate (.revision row.gameId row.periodStart) ∈ held' →
      Shaped changes (afterScore row) db held' →
      Runs duty good (f ()) db changes held') :
    Runs duty good (RngGamePlatform.addFinalScore row >>= f) db id held := by
  refine Meets.update_bind (fun error fails => insertScore_tolerated tolerant fails)
    ?_ ?_
  · intro state inserted db' others
    have sameRevision := others.revisionRow (List.mem_append_left held
      (show forNoKeyUpdate (.revision row.gameId row.periodStart) ∈ _ by simp))
    refine ⟨?_, _, insertScore_stable others (List.mem_append_right _ mine) (by simp)
      inserted⟩
    simp only [id_eq, sameRevision]
  · intro state inserted
    have stable : ∀ held' db', forUpdate (.session row.sessionId) ∈ held' →
        forUpdate (.score row.id) ∈ held' → Others held' db db' →
        Database.insertScore row db' = .ok (afterScore row db') :=
      fun _ _ mine own others => insertScore_stable others mine own inserted
    have here := stable (forUpdate (.score row.id) :: held) db
      (List.mem_cons_of_mem _ mine) List.mem_cons_self (.refl _ db)
    refine rest here _ _ (List.subset_append_right _ _) (by simp) (by simp)
      fun db' others => ?_
    exact applied_ok (stable _ db' (List.mem_append_right _ mine) (by simp) others)

/-- Storing a score under its session's lock. -/
theorem storeScore_runs {good : FinalScore × Bool × PyStr →
      Phase Database Lock → Prop} {row : FinalScore} {gameKey : PyStr}
    (tolerant : duty.Tolerant)
    (mine : forUpdate (.session row.sessionId) ∈ held)
    (allows : ∀ {middle db' held'}, Database.insertScore row db = .ok middle →
      insertEvidence [scoreAudit row gameKey] [scoreEvent row gameKey] middle =
        .ok db' →
      Moves held' db db' →
      duty.guarantee db db' held' ∧ good (row, true, gameKey) (.settled db')) :
    Runs duty good (storeScore row gameKey) db id held := by
  refine Runs.addFinalScore tolerant mine
    fun inserted changes held₁ subset scoreMine revisionMine shaped => ?_
  refine Runs.write (fun db => { afterScore row db with
      audits := db.audits ++ [scoreAudit row gameKey]
      analytics := db.analytics ++ [scoreEvent row gameKey] })
    shaped (fun _ fails => insertEvidence_tolerated tolerant fails)
    (fun _ evidence _ others => insertEvidence_stable others
      (by simp [analyticsLocks]) (by rfl) (by rfl) evidence)
    fun evidence changes shaped => ?_
  have fresh : ScoreFresh (analyticsLocks (scoreEvent row gameKey) ++ held₁) row :=
    ⟨List.mem_append_right _ (subset mine), List.mem_append_right _ scoreMine,
      .forKeyShare, by simp [analyticsLocks, scoreEvent, forKeyShare]⟩
  have moves := (Moves.insertScore inserted fresh
    (List.mem_append_right _ revisionMine)).trans
      (Moves.insertEvidence evidence (by simp [analyticsLocks]))
  have granted := allows inserted evidence moves
  refine Runs.commitRet ?_ ?_
  · rw [shaped.here]
    exact granted.1
  · rw [shaped.here]
    exact granted.2

theorem submitNew_runs {gameSession : GameSession} {ownerId scoreId : Uuid}
    (permits : Permits env (.submitFinalScore gameSession.id ownerId scoreId) db duty)
    (found : sessionById gameSession.id db = some gameSession)
    (owner : gameSession.playerId = ownerId)
    (absent : scoreBySession gameSession.id db = none)
    (mine : forUpdate (.session gameSession.id) ∈ held) :
    Runs duty (fun rows phase => Scored gameSession.id ownerId rows.1 phase.db)
      (submitNew env gameSession ownerId scoreId) db id held := by
  unfold submitNew
  refine Runs.readFixed (fun db' others => others.playerById _) ?_
  refine Runs.orRaise nofun fun player _ => ?_
  refine Runs.require nofun fun _ => ?_
  refine Runs.readFixed (fun db' others => others.gameById _) ?_
  refine Runs.orRaise nofun fun game foundGame => ?_
  refine Runs.byRules nofun fun rules isRules => ?_
  refine Runs.require nofun fun isCompleted => ?_
  refine Runs.orRaise nofun fun endedAt ended => ?_
  refine Runs.readFixed (fun db' others => others.outcomeBySession mine) ?_
  refine Runs.orRaise nofun fun outcome foundOutcome => ?_
  refine Runs.require nofun fun _ => ?_
  refine Runs.readFixed (fun db' others => others.configById _) ?_
  refine Runs.orRaise nofun fun config foundConfig => ?_
  refine Runs.byRules nofun fun value scored => ?_
  refine Runs.clock fun now => ?_
  refine Runs.require nofun fun _ => ?_
  refine storeScore_runs permits.toTolerant mine ?_
  intro middle db' final inserted evidence moves
  refine ⟨permits.allows ⟨moves, .one (.score rfl found owner isCompleted ended
    foundGame isRules foundOutcome foundConfig scored rfl inserted evidence), ?_⟩, ?_⟩
  · rintro ⟨score, foundScore⟩
    exact absurd (absent.symm.trans foundScore) nofun
  · rcases Database.insertScore_ok.mp inserted with ⟨⟨_, newSession, _⟩, rfl⟩
    rcases insertEvidence_ok.mp evidence with ⟨_, rfl⟩
    exact ⟨lookup_append_self newSession, gameSession, found, owner⟩

theorem submitFinalScore_runs {sessionId ownerId scoreId : Uuid}
    (permits : Permits env (.submitFinalScore sessionId ownerId scoreId) db duty) :
    Runs duty (fun rows phase => Scored sessionId ownerId rows.1 phase.db)
      (submitFinalScore env sessionId ownerId scoreId) db id [] := by
  unfold submitFinalScore
  refine Runs.lockedSession fun row found isId => ?_
  subst isId
  refine Runs.require nofun fun owner => ?_
  refine Runs.readFixed (fun db' others =>
    others.scoreBySession List.mem_cons_self) ?_
  cases existing : scoreBySession row.id db with
  | some score =>
      refine Runs.readFixed (fun db' others => others.gameById _) ?_
      refine Runs.orRaise nofun fun game _ => ?_
      exact Runs.commitRet (permits.allows (.unchanged env _ db _))
        ⟨existing, row, found, owner⟩
  | none => exact submitNew_runs permits found owner existing List.mem_cons_self

end Submit

section Claim

variable {env : Platform} {duty : Duty} {db : Database} {held : List Lock}

theorem claimReward_ok {reward : Reward} {now : Int} {changed : Option Reward}
    (claimed : claimReward reward now = .ok changed) :
    changed = none ∨ reward.status = .issued ∧
      changed = some { reward with status := .claimed, claimedAt := some now } := by
  unfold claimReward at claimed
  split at claimed
  · cases claimed
    exact Or.inl rfl
  · split at claimed
    · cases claimed
    · next issued =>
        cases claimed
        exact Or.inr ⟨not_not.mp issued, rfl⟩

theorem claimReward_domain {reward : Reward} {now : Int} {error : ServiceError}
    (fails : claimReward reward now = .error error) : Domain error := by
  unfold claimReward at fails
  split at fails
  · cases fails
  · split at fails <;> cases fails
    nofun

/-- The game of a stored reward stays known. -/
theorem Others.gameKeyOfReward {rewardId : Uuid} {gameKey : PyStr} {db' : Database}
    (others : Others held db db')
    (found : gameKeyOfReward rewardId db = some gameKey) :
    gameKeyOfReward rewardId db' = some gameKey := by
  rcases others with ⟨held', _, moves⟩
  simp only [RngGamePlatform.gameKeyOfReward, Option.bind_eq_bind,
    Option.bind_eq_some_iff] at found ⊢
  rcases found with ⟨reward, foundReward, outcomeId, isOutcome, outcome,
    foundOutcome, row, foundRow, game, foundGame, isKey⟩
  rcases moves.rewards.lookup_some (fun _ _ step => step.id) foundReward with
    ⟨reward', foundReward', rewardStep⟩
  rcases moves.session_some foundRow with ⟨row', foundRow', step⟩
  refine ⟨reward', foundReward', outcomeId, rewardStep.outcomeId.trans isOutcome,
    outcome, moves.outcomeById_some foundOutcome, row', foundRow', game, ?_, isKey⟩
  rw [step.sameRound, moves.gameById]
  exact foundGame

/-- A session without a reward is refused. -/
theorem missingReward_refused {sessionId ownerId : Uuid} :
    Refused (missingReward sessionId ownerId) := by
  unfold missingReward
  refine Doomed.query_bind fun found => ?_
  cases found with
  | none => exact .raise _ nofun
  | some row =>
      simp only [RngGamePlatform.orRaise, Program.orRaise, Program.ret_bind,
        RngGamePlatform.require, Program.require]
      split
      · exact .raise _ nofun
      · exact .raise _ nofun

theorem claimSessionReward_runs {sessionId ownerId : Uuid}
    (permits : Permits env (.claimSessionReward sessionId ownerId) db duty)
    (sane : Sane db) :
    Runs duty (fun _ _ => True) (claimSessionReward sessionId ownerId) db id [] := by
  unfold claimSessionReward
  refine Runs.lockReward missingReward_refused
    fun pair found held _ outcomeMine rewardMine => ?_
  refine Runs.require nofun fun owner => ?_
  refine Runs.clock fun now => ?_
  refine Runs.ofExcept (fun error fails => claimReward_domain fails)
    fun changed isChanged => ?_
  rcases claimReward_ok isChanged with rfl | ⟨issued, rfl⟩
  · exact Runs.commitRet (permits.allows (.unchanged env _ db _)) trivial
  refine Runs.readRow nofun fun gameKey isKey => ⟨fun db' others =>
    others.gameKeyOfReward isKey, ?_⟩
  have member : pair.2 ∈ db.rewards := by
    simp only [rewardBySession, Option.bind_eq_bind, Option.bind_eq_some_iff] at found
    rcases found with ⟨outcome, _, reward, foundReward, isPair⟩
    cases isPair
    exact lookup_mem foundReward
  refine Runs.write (fun db => { db with
      rewards := replace Reward.id
        { pair.2 with status := .claimed, claimedAt := some now } db.rewards
      audits := db.audits ++ [rewardAudit
        { pair.2 with status := .claimed, claimedAt := some now }
        (py "reward_claimed") gameKey]
      analytics := db.analytics ++ [rewardEvent
        { pair.2 with status := .claimed, claimedAt := some now }
        (py "reward_claimed") gameKey] })
    (.start db held) (fun _ fails => insertEvidence_tolerated permits.toTolerant fails)
    (fun _ written _ others => insertEvidence_stable others
      (by simp [analyticsLocks]) (by rfl) (by rfl) written)
    fun written changes shaped => ?_
  refine Runs.commitRet ?_ trivial
  rw [shaped.here]
  refine permits.allows ⟨?_, .one (.claim found issued written),
    fun answered => answered.elim⟩
  rcases bind_eq_ok.mp written with ⟨middle, updated, evidence⟩
  refine (Moves.updateReward updated fun old inDb same => ?_).trans
    (Moves.insertEvidence evidence (by simp [analyticsLocks]))
  have isReward := sane.rewardIds.eq inDb member same
  subst isReward
  exact Or.inr ⟨List.mem_append_right _ rewardMine,
    ⟨.forKeyShare, by simp [analyticsLocks, rewardEvent, forKeyShare]⟩, rfl⟩

end Claim

end RngGamePlatform
