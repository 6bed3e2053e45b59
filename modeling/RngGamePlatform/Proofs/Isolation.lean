/-
Module: RngGamePlatform.Proofs.Isolation
Purpose: What a committing transaction may change under its locks, and which
  answers that leaves untouched for the others.
Trusted boundary: none
Main exports: SessionStep, ProofStep, RewardStep, Moves, Others, Moves.refl,
  Moves.trans, Others.sessionById, Others.proofBySession, Others.eventsOf
-/
import RngGamePlatform.Repositories
import RngGamePlatform.Transactions.Logic

namespace RngGamePlatform

open Encoding Relational Transactions

/-- The transaction holds the row in some mode. -/
def Shares (held : List Lock) (target : Target) : Prop :=
  ∃ mode, (⟨target, mode⟩ : Lock) ∈ held

/-- The columns of a session that never change. -/
def SameRound (old new : GameSession) : Prop :=
  new = { old with status := new.status, endedAt := new.endedAt }

/-- A session changes only from active to ended, under its row lock. -/
def SessionStep (held : List Lock) (old new : GameSession) : Prop :=
  old = new ∨
    forUpdate (.session old.id) ∈ held ∧ old.status = .active ∧
      new.status ≠ .active ∧ SameRound old new

/-- A session is added under its request key and its player's row lock. -/
def SessionFresh (held : List Lock) (row : GameSession) : Prop :=
  forUpdate (.session row.id) ∈ held ∧ forUpdate (.player row.playerId) ∈ held ∧
    forUpdate (.advisory (requestLockKey row.requestId)) ∈ held

/-- The columns of a proof that never change. -/
def SameCommitment (old new : FairnessProof) : Prop :=
  new.id = old.id ∧ new.sessionId = old.sessionId ∧ new.playerId = old.playerId

/-- The transaction holds the outcome that a proof names. -/
def OwnsOutcome (held : List Lock) (row : FairnessProof) : Prop :=
  ∀ outcome, row.outcomeId = some outcome → forUpdate (.outcome outcome) ∈ held

/-- A proof changes only once, out of its committed state, under its own lock
and its session's. -/
def ProofStep (held : List Lock) (old new : FairnessProof) : Prop :=
  old = new ∨
    forUpdate (.session old.sessionId) ∈ held ∧ forUpdate (.proof old.id) ∈ held ∧
      old.status = .committed ∧ new.status ≠ .committed ∧
      SameCommitment old new ∧ OwnsOutcome held new

def ProofFresh (held : List Lock) (row : FairnessProof) : Prop :=
  forUpdate (.session row.sessionId) ∈ held ∧
    forUpdate (.proof row.id) ∈ held ∧ OwnsOutcome held row

def OutcomeFresh (held : List Lock) (row : Outcome) : Prop :=
  forUpdate (.session row.sessionId) ∈ held ∧ forUpdate (.outcome row.id) ∈ held ∧
    Shares held (.player row.playerId)

/-- A reward changes only by a claim, under its row lock. -/
def RewardStep (held : List Lock) (old new : Reward) : Prop :=
  old = new ∨
    forUpdate (.reward old.id) ∈ held ∧ Shares held (.player old.playerId) ∧
      new = { old with status := new.status, claimedAt := new.claimedAt }

def RewardFresh (held : List Lock) (row : Reward) : Prop :=
  forUpdate (.reward row.id) ∈ held ∧ Shares held (.player row.playerId) ∧
    ∀ outcome, row.outcomeId = some outcome → forUpdate (.outcome outcome) ∈ held

def ScoreFresh (held : List Lock) (row : FinalScore) : Prop :=
  forUpdate (.session row.sessionId) ∈ held ∧ forUpdate (.score row.id) ∈ held ∧
    Shares held (.player row.playerId)

/-- What a commit under the locks `held` may do to the tables. -/
structure Moves (held : List Lock) (db db' : Database) : Prop where
  players : db'.players = db.players
  games : db'.games = db.games
  configs : db'.configs = db.configs
  sessions : Grows (SessionStep held) (SessionFresh held) db.sessions db'.sessions
  proofs : Grows (ProofStep held) (ProofFresh held) db.proofs db'.proofs
  custodies : ∀ proofId, forUpdate (.proof proofId) ∉ held →
    custodyByProof proofId db' = custodyByProof proofId db
  events : Grows Eq (fun row => forUpdate (.proof row.proofId) ∈ held)
    db.events db'.events
  outcomes : Grows Eq (OutcomeFresh held) db.outcomes db'.outcomes
  rewards : Grows (RewardStep held) (RewardFresh held) db.rewards db'.rewards
  scores : Grows Eq (ScoreFresh held) db.scores db'.scores
  revisions : ∀ gameId periodStart,
    forNoKeyUpdate (.revision gameId periodStart) ∉ held →
    revisionRow gameId periodStart db' = revisionRow gameId periodStart db
  analytics : Grows Eq (fun row => forUpdate (.analytics row.eventKey) ∈ held)
    db.analytics db'.analytics

theorem SameRound.refl (row : GameSession) : SameRound row row := rfl

theorem SameRound.trans {a b c : GameSession} (ab : SameRound a b)
    (bc : SameRound b c) : SameRound a c := by
  unfold SameRound at *
  rw [bc, ab]

theorem SameRound.id {old new : GameSession} (same : SameRound old new) :
    new.id = old.id := by
  rw [same]

theorem SessionStep.refl (held : List Lock) (row : GameSession) :
    SessionStep held row row := Or.inl rfl

theorem SessionStep.sameRound {held : List Lock} {old new : GameSession}
    (step : SessionStep held old new) : SameRound old new := by
  rcases step with rfl | ⟨_, _, _, same⟩
  · exact .refl _
  · exact same

theorem SessionStep.id {held : List Lock} {old new : GameSession}
    (step : SessionStep held old new) : new.id = old.id := step.sameRound.id

/-- An ended session does not change. -/
theorem SessionStep.ended {held : List Lock} {old new : GameSession}
    (step : SessionStep held old new) (ended : old.status ≠ .active) : new = old := by
  rcases step with rfl | ⟨_, active, _⟩
  · rfl
  · exact absurd active ended

theorem SessionStep.trans {held : List Lock} (a b c : GameSession)
    (ab : SessionStep held a b) (bc : SessionStep held b c) :
    SessionStep held a c := by
  rcases ab with rfl | ⟨locked, active, ended, same⟩
  · exact bc
  · rcases bc with rfl | ⟨_, active', _⟩
    · exact Or.inr ⟨locked, active, ended, same⟩
    · exact absurd active' ended

theorem SessionFresh.step {held : List Lock} (a b : GameSession)
    (fresh : SessionFresh held a) (step : SessionStep held a b) :
    SessionFresh held b := by
  have same := step.sameRound
  rw [SessionFresh, same]
  exact fresh

theorem ProofStep.refl (held : List Lock) (row : FairnessProof) :
    ProofStep held row row := Or.inl rfl

theorem ProofStep.same {held : List Lock} {old new : FairnessProof}
    (step : ProofStep held old new) : SameCommitment old new := by
  rcases step with rfl | ⟨_, _, _, _, same, _⟩
  · exact ⟨rfl, rfl, rfl⟩
  · exact same

theorem ProofStep.trans {held : List Lock} (a b c : FairnessProof)
    (ab : ProofStep held a b) (bc : ProofStep held b c) : ProofStep held a c := by
  rcases ab with rfl | ⟨locked, own, committed, ended, rest⟩
  · exact bc
  · rcases bc with rfl | ⟨_, _, committed', _⟩
    · exact Or.inr ⟨locked, own, committed, ended, rest⟩
    · exact absurd committed' ended

theorem ProofFresh.step {held : List Lock} (a b : FairnessProof)
    (fresh : ProofFresh held a) (step : ProofStep held a b) :
    ProofFresh held b := by
  rcases step with rfl | ⟨_, _, _, _, ⟨id, sessionId, _⟩, owns⟩
  · exact fresh
  · rw [ProofFresh, id, sessionId]
    exact ⟨fresh.1, fresh.2.1, owns⟩

theorem RewardStep.refl (held : List Lock) (row : Reward) :
    RewardStep held row row := Or.inl rfl

theorem RewardStep.id {held : List Lock} {old new : Reward}
    (step : RewardStep held old new) : new.id = old.id := by
  rcases step with rfl | ⟨_, _, same⟩
  · rfl
  · rw [same]

theorem RewardStep.outcomeId {held : List Lock} {old new : Reward}
    (step : RewardStep held old new) : new.outcomeId = old.outcomeId := by
  rcases step with rfl | ⟨_, _, same⟩
  · rfl
  · rw [same]

theorem RewardStep.playerId {held : List Lock} {old new : Reward}
    (step : RewardStep held old new) : new.playerId = old.playerId := by
  rcases step with rfl | ⟨_, _, same⟩
  · rfl
  · rw [same]

theorem RewardStep.trans {held : List Lock} (a b c : Reward)
    (ab : RewardStep held a b) (bc : RewardStep held b c) :
    RewardStep held a c := by
  rcases ab with rfl | ⟨locked, shares, same⟩
  · exact bc
  · rcases bc with rfl | ⟨_, _, same'⟩
    · exact Or.inr ⟨locked, shares, same⟩
    · refine Or.inr ⟨locked, shares, ?_⟩
      rw [same', same]

theorem RewardFresh.step {held : List Lock} (a b : Reward)
    (fresh : RewardFresh held a) (step : RewardStep held a b) :
    RewardFresh held b := by
  rcases step with rfl | ⟨_, _, same⟩
  · exact fresh
  · rw [RewardFresh, same]
    exact fresh

private theorem eq_carries {ρ : Type} {fresh : ρ → Prop} (a b : ρ)
    (isFresh : fresh a) (same : a = b) : fresh b := same ▸ isFresh

private theorem eq_trans' {ρ : Type} (a b c : ρ) (ab : a = b) (bc : b = c) :
    a = c := ab.trans bc

namespace Moves

variable {held : List Lock} {db db' later : Database}

theorem refl (held : List Lock) (db : Database) : Moves held db db where
  players := rfl
  games := rfl
  configs := rfl
  sessions := .refl (SessionStep.refl held) _
  proofs := .refl (ProofStep.refl held) _
  custodies := fun _ _ => rfl
  events := .refl (fun _ => rfl) _
  outcomes := .refl (fun _ => rfl) _
  rewards := .refl (RewardStep.refl held) _
  scores := .refl (fun _ => rfl) _
  revisions := fun _ _ _ => rfl
  analytics := .refl (fun _ => rfl) _

theorem trans (first : Moves held db db') (second : Moves held db' later) :
    Moves held db later where
  players := second.players.trans first.players
  games := second.games.trans first.games
  configs := second.configs.trans first.configs
  sessions := first.sessions.trans SessionStep.trans SessionFresh.step second.sessions
  proofs := first.proofs.trans ProofStep.trans ProofFresh.step second.proofs
  custodies := fun proofId free =>
    (second.custodies proofId free).trans (first.custodies proofId free)
  events := first.events.trans eq_trans' eq_carries second.events
  outcomes := first.outcomes.trans eq_trans' eq_carries second.outcomes
  rewards := first.rewards.trans RewardStep.trans RewardFresh.step second.rewards
  scores := first.scores.trans eq_trans' eq_carries second.scores
  revisions := fun gameId periodStart free =>
    (second.revisions gameId periodStart free).trans
      (first.revisions gameId periodStart free)
  analytics := first.analytics.trans eq_trans' eq_carries second.analytics

end Moves

/-- What another transaction may commit while one holds `held`. -/
def Others (held : List Lock) (db db' : Database) : Prop :=
  ∃ held', Compatible Lock.conflicts held' held ∧ Moves held' db db'

/-- Two transactions do not both hold a row when one holds it for update. -/
theorem not_mem_of_compatible {held held' : List Lock} {target : Target}
    (apart : Compatible Lock.conflicts held' held) (mine : forUpdate target ∈ held)
    (mode : LockMode) : (⟨target, mode⟩ : Lock) ∉ held' := by
  intro theirs
  have free := apart _ theirs _ mine
  simp [Lock.conflicts, forUpdate] at free
  cases mode <;> simp [LockMode.excludes] at free

theorem not_updates_of_compatible {held held' : List Lock} {target : Target}
    (apart : Compatible Lock.conflicts held' held)
    (mine : forNoKeyUpdate target ∈ held) : forNoKeyUpdate target ∉ held' := by
  intro theirs
  have free := apart _ theirs _ mine
  simp [Lock.conflicts, forNoKeyUpdate, LockMode.excludes] at free

theorem Others.refl (held : List Lock) (db : Database) : Others held db db :=
  ⟨[], fun _ inNone => absurd inNone List.not_mem_nil, Moves.refl [] db⟩

theorem Others.mono {fewer more : List Lock} {db db' : Database}
    (subset : fewer ⊆ more) (others : Others more db db') : Others fewer db db' := by
  rcases others with ⟨held', apart, moves⟩
  exact ⟨held', fun one inOne other inOther =>
    apart one inOne other (subset inOther), moves⟩

namespace Others

variable {held : List Lock} {db db' : Database}

theorem players (others : Others held db db') : db'.players = db.players := by
  rcases others with ⟨_, _, moves⟩
  exact moves.players

theorem games (others : Others held db db') : db'.games = db.games := by
  rcases others with ⟨_, _, moves⟩
  exact moves.games

theorem configs (others : Others held db db') : db'.configs = db.configs := by
  rcases others with ⟨_, _, moves⟩
  exact moves.configs

theorem playerById (others : Others held db db') (id : Uuid) :
    playerById id db' = playerById id db := by
  simp only [RngGamePlatform.playerById, others.players]

theorem gameById (others : Others held db db') (id : Uuid) :
    gameById id db' = gameById id db := by
  simp only [RngGamePlatform.gameById, others.games]

theorem configById (others : Others held db db') (id : Uuid) :
    configById id db' = configById id db := by
  simp only [RngGamePlatform.configById, others.configs]

/-- A locked session stays as it is. -/
theorem sessionById {id : Uuid} (others : Others held db db')
    (mine : forUpdate (.session id) ∈ held) :
    sessionById id db' = sessionById id db := by
  rcases others with ⟨held', apart, moves⟩
  have free := not_mem_of_compatible apart mine .forUpdate
  refine moves.sessions.lookup_eq (fun _ _ step => step.id) ?_ ?_
  · intro a b step isId
    rcases step with same | ⟨locked, _⟩
    · exact same.symm
    · exact absurd (isId ▸ locked) free
  · intro row fresh isId
    exact free (isId ▸ fresh.1)

/-- The proof of a locked session stays as it is. -/
theorem proofBySession {id : Uuid} (others : Others held db db')
    (mine : forUpdate (.session id) ∈ held) :
    proofBySession id db' = proofBySession id db := by
  rcases others with ⟨held', apart, moves⟩
  have free := not_mem_of_compatible apart mine .forUpdate
  refine moves.proofs.lookup_eq (fun _ _ step => step.same.2.1) ?_ ?_
  · intro a b step isId
    rcases step with same | ⟨locked, _⟩
    · exact same.symm
    · exact absurd (isId ▸ locked) free
  · intro row fresh isId
    exact free (isId ▸ fresh.1)

/-- A locked proof stays as it is. -/
theorem proofById {id : Uuid} (others : Others held db db')
    (mine : forUpdate (.proof id) ∈ held) :
    proofById id db' = proofById id db := by
  rcases others with ⟨held', apart, moves⟩
  have free := not_mem_of_compatible apart mine .forUpdate
  refine moves.proofs.lookup_eq (fun _ _ step => step.same.1) ?_ ?_
  · intro a b step isId
    rcases step with same | ⟨_, locked, _⟩
    · exact same.symm
    · exact absurd (isId ▸ locked) free
  · intro row fresh isId
    exact free (isId ▸ fresh.2.1)

/-- No other proof comes to name an outcome that is locked. -/
theorem outcomeUnclaimed {id outcome : Uuid} (others : Others held db db')
    (mine : forUpdate (.outcome outcome) ∈ held)
    (unclaimed : ∀ other ∈ db.proofs,
      other.id = id ∨ other.outcomeId ≠ some outcome) :
    ∀ other ∈ db'.proofs, other.id = id ∨ other.outcomeId ≠ some outcome := by
  rcases others with ⟨held', apart, moves⟩
  have free := not_mem_of_compatible apart mine .forUpdate
  intro other member
  rcases moves.proofs.source member with ⟨before, inDb, step⟩ | fresh
  · rcases step with rfl | ⟨_, _, _, _, _, owns⟩
    · exact unclaimed before inDb
    · exact Or.inr fun isOutcome => free (owns outcome isOutcome)
  · exact Or.inr fun isOutcome => free (fresh.2.2 outcome isOutcome)

/-- The seed of a locked proof stays as it is. -/
theorem custodyByProof {id : Uuid} (others : Others held db db')
    (mine : forUpdate (.proof id) ∈ held) :
    custodyByProof id db' = custodyByProof id db := by
  rcases others with ⟨held', apart, moves⟩
  exact moves.custodies id (not_mem_of_compatible apart mine .forUpdate)

/-- The events of a locked proof stay as they are. -/
theorem events {id : Uuid} (others : Others held db db')
    (mine : forUpdate (.proof id) ∈ held) :
    (db'.events.filter fun row => row.proofId = id) =
      db.events.filter fun row => row.proofId = id := by
  rcases others with ⟨held', apart, moves⟩
  have free := not_mem_of_compatible apart mine .forUpdate
  refine moves.events.filter_eq (fun _ _ same => by rw [same])
    (fun _ _ same _ => same.symm) ?_
  intro row fresh
  simp only [decide_eq_false_iff_not]
  intro isId
  exact free (isId ▸ fresh)

theorem eventsOf {id : Uuid} (others : Others held db db')
    (mine : forUpdate (.proof id) ∈ held) : eventsOf id db' = eventsOf id db := by
  simp only [RngGamePlatform.eventsOf, others.events mine]

/-- The outcome of a locked session stays as it is. -/
theorem outcomeBySession {id : Uuid} (others : Others held db db')
    (mine : forUpdate (.session id) ∈ held) :
    outcomeBySession id db' = outcomeBySession id db := by
  rcases others with ⟨held', apart, moves⟩
  have free := not_mem_of_compatible apart mine .forUpdate
  refine moves.outcomes.lookup_eq (fun _ _ same => by rw [same])
    (fun _ _ same _ => same.symm) ?_
  intro row fresh isId
  exact free (isId ▸ fresh.1)

theorem outcomeById_some {id : Uuid} {outcome : Outcome}
    (others : Others held db db')
    (found : RngGamePlatform.outcomeById id db = some outcome) :
    RngGamePlatform.outcomeById id db' = some outcome := by
  rcases others with ⟨held', apart, moves⟩
  rcases moves.outcomes.lookup_some (fun _ _ same => by rw [same]) found with
    ⟨outcome', found', same⟩
  rw [RngGamePlatform.outcomeById, found', same]

/-- An outcome id that is locked and unused stays unused. -/
theorem outcomeById_none {id : Uuid} (others : Others held db db')
    (mine : forUpdate (.outcome id) ∈ held)
    (absent : RngGamePlatform.outcomeById id db = none) :
    RngGamePlatform.outcomeById id db' = none := by
  rcases others with ⟨held', apart, moves⟩
  have free := not_mem_of_compatible apart mine .forUpdate
  refine moves.outcomes.lookup_none (fun _ _ same => by rw [same]) absent ?_
  intro row fresh isId
  exact free (isId ▸ fresh.2.1)

/-- The score of a locked session stays as it is. -/
theorem scoreBySession {id : Uuid} (others : Others held db db')
    (mine : forUpdate (.session id) ∈ held) :
    scoreBySession id db' = scoreBySession id db := by
  rcases others with ⟨held', apart, moves⟩
  have free := not_mem_of_compatible apart mine .forUpdate
  refine moves.scores.lookup_eq (fun _ _ same => by rw [same])
    (fun _ _ same _ => same.symm) ?_
  intro row fresh isId
  exact free (isId ▸ fresh.1)

/-- The sessions of a locked player: none is added, and an ended one does not
change. -/
theorem sessionsOf {playerId : Uuid} (others : Others held db db')
    (mine : forUpdate (.player playerId) ∈ held) {condition : GameSession → Bool}
    (ofPlayer : ∀ row, condition row = true → row.playerId = playerId)
    (keeps : ∀ old new, SameRound old new → condition new = condition old) :
    ∃ held', Compatible Lock.conflicts held' held ∧
      List.Forall₂ (SessionStep held') (db.sessions.filter condition)
        (db'.sessions.filter condition) := by
  rcases others with ⟨held', apart, moves⟩
  have free := not_mem_of_compatible apart mine .forUpdate
  refine ⟨held', apart, moves.sessions.filter_forall₂
    (fun _ _ step => keeps _ _ step.sameRound) ?_⟩
  intro row fresh
  by_contra selected
  rw [Bool.not_eq_false] at selected
  exact free (ofPlayer row selected ▸ fresh.2.1)

/-- A request key that is locked and unused stays unused. -/
theorem sessionByRequest_none {requestId : Uuid} (others : Others held db db')
    (mine : forUpdate (.advisory (requestLockKey requestId)) ∈ held)
    (absent : sessionByRequest requestId db = none) :
    sessionByRequest requestId db' = none := by
  rcases others with ⟨held', apart, moves⟩
  have free := not_mem_of_compatible apart mine .forUpdate
  refine moves.sessions.lookup_none (fun _ _ step => ?_) absent ?_
  · rw [step.sameRound]
  · intro row fresh isId
    exact free (isId ▸ fresh.2.2)

/-- The session of a request stays, up to its end. -/
theorem sessionByRequest_some {requestId : Uuid} {row : GameSession}
    (others : Others held db db')
    (found : sessionByRequest requestId db = some row) :
    ∃ row', sessionByRequest requestId db' = some row' ∧ SameRound row row' := by
  rcases others with ⟨held', apart, moves⟩
  have sameRequest : ∀ old new, SessionStep held' old new →
      new.requestId = old.requestId := fun _ _ step => by rw [step.sameRound]
  rcases moves.sessions.lookup_some sameRequest found with ⟨row', found', step⟩
  exact ⟨row', found', step.sameRound⟩

/-- The owner and the session of a proof stay as they are. -/
theorem proofById_some {id : Uuid} {row : FairnessProof}
    (others : Others held db db')
    (found : RngGamePlatform.proofById id db = some row) :
    ∃ row', RngGamePlatform.proofById id db' = some row' ∧
      SameCommitment row row' := by
  rcases others with ⟨held', apart, moves⟩
  rcases moves.proofs.lookup_some (fun _ _ step => step.same.1) found with
    ⟨row', found', step⟩
  exact ⟨row', found', step.same⟩

/-- A revision row that is locked stays as it is. -/
theorem revisionRow {gameId : Uuid} {periodStart : Int}
    (others : Others held db db')
    (mine : forNoKeyUpdate (.revision gameId periodStart) ∈ held) :
    revisionRow gameId periodStart db' = revisionRow gameId periodStart db := by
  rcases others with ⟨held', apart, moves⟩
  exact moves.revisions gameId periodStart (not_updates_of_compatible apart mine)

/-- A key that is locked and unused in a table of constant rows stays unused. -/
theorem analytics_none {eventKey : PyStr} (others : Others held db db')
    (mine : forUpdate (.analytics eventKey) ∈ held)
    (absent : lookup AnalyticsEvent.eventKey eventKey db.analytics = none) :
    lookup AnalyticsEvent.eventKey eventKey db'.analytics = none := by
  rcases others with ⟨held', apart, moves⟩
  have free := not_mem_of_compatible apart mine .forUpdate
  refine moves.analytics.lookup_none (fun _ _ same => by rw [same]) absent ?_
  intro row fresh isKey
  exact free (isKey ▸ fresh)

theorem rewardById_none {id : Uuid} (others : Others held db db')
    (mine : forUpdate (.reward id) ∈ held)
    (absent : lookup Reward.id id db.rewards = none) :
    lookup Reward.id id db'.rewards = none := by
  rcases others with ⟨held', apart, moves⟩
  have free := not_mem_of_compatible apart mine .forUpdate
  refine moves.rewards.lookup_none (fun _ _ step => step.id) absent ?_
  intro row fresh isId
  exact free (isId ▸ fresh.1)

theorem rewardByOutcome_none {id : Uuid} (others : Others held db db')
    (mine : forUpdate (.outcome id) ∈ held)
    (absent : rewardByOutcome id db = none) : rewardByOutcome id db' = none := by
  rcases others with ⟨held', apart, moves⟩
  have free := not_mem_of_compatible apart mine .forUpdate
  refine moves.rewards.lookup_none (fun _ _ step => step.outcomeId) absent ?_
  intro row fresh isOutcome
  exact free (fresh.2.2 id isOutcome)

theorem scoreById_none {id : Uuid} (others : Others held db db')
    (mine : forUpdate (.score id) ∈ held)
    (absent : lookup FinalScore.id id db.scores = none) :
    lookup FinalScore.id id db'.scores = none := by
  rcases others with ⟨held', apart, moves⟩
  have free := not_mem_of_compatible apart mine .forUpdate
  refine moves.scores.lookup_none (fun _ _ same => by rw [same]) absent ?_
  intro row fresh isId
  exact free (isId ▸ fresh.2.1)

theorem sessionById_none {id : Uuid} (others : Others held db db')
    (mine : forUpdate (.session id) ∈ held)
    (absent : RngGamePlatform.sessionById id db = none) :
    RngGamePlatform.sessionById id db' = none := by
  rw [others.sessionById mine, absent]

end Others

end RngGamePlatform
