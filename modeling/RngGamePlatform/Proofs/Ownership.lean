/-
Module: RngGamePlatform.Proofs.Ownership
Purpose: The rows of one player, and the statements that leave the rows of every
  other player alone.
Trusted boundary: none
Main exports: PlayerRows, playerRowsOf, Isolated, Isolated.between,
  Isolated.session_owned, Isolated.proof_owned
-/
import RngGamePlatform.Proofs.PlatformContract
import RngGamePlatform.Transactions.Keeping

namespace RngGamePlatform

open Encoding Relational Transactions

/-- The rows that belong to one player. -/
structure PlayerRows where
  sessions : List GameSession
  proofs : List FairnessProof
  custodies : List FairnessSeedCustody
  events : List FairnessProofEvent
  outcomes : List Outcome
  rewards : List Reward
  scores : List FinalScore
deriving DecidableEq

/-- The proofs of a player. -/
def proofsOf (playerId : Uuid) (db : Database) : List FairnessProof :=
  db.proofs.filter fun row => row.playerId = playerId

/-- A seed or an event belongs to the player of its proof. -/
def ofProofOf (playerId : Uuid) (db : Database) (proofId : Uuid) : Bool :=
  (proofsOf playerId db).any fun row => row.id = proofId

/-- What the tables have of a player. -/
def playerRowsOf (playerId : Uuid) (db : Database) : PlayerRows where
  sessions := db.sessions.filter fun row => row.playerId = playerId
  proofs := proofsOf playerId db
  custodies := db.custodies.filter fun row => ofProofOf playerId db row.proofId
  events := db.events.filter fun row => ofProofOf playerId db row.proofId
  outcomes := db.outcomes.filter fun row => row.playerId = playerId
  rewards := db.rewards.filter fun row => row.playerId = playerId
  scores := db.scores.filter fun row => row.playerId = playerId

/-- The view has the rows of every player but the owner as `db` has them. -/
structure Isolated (owner : Uuid) (db view : Database) : Prop where
  others : ∀ playerId, playerId ≠ owner → playerRowsOf playerId view = playerRowsOf playerId db
  sessionIds : Unique GameSession.id view.sessions
  proofIds : Unique FairnessProof.id view.proofs
  outcomeIds : Unique Outcome.id view.outcomes
  rewardIds : Unique Reward.id view.rewards

/-- At its start a transaction has changed nothing. -/
theorem Isolated.start {db : Database} (keys : Keys db) (owner : Uuid) :
    Isolated owner db db where
  others := fun _ _ => rfl
  sessionIds := keys.sessionIds
  proofIds := keys.proofIds
  outcomeIds := keys.outcomeIds
  rewardIds := keys.rewardIds

section Owners

variable {owner : Uuid} {db view later : Database}

/-- A row that is not the owner's has been there from the start. -/
theorem other_mem {ρ : Type} {player : ρ → Uuid} {rows earlier : List ρ} {row : ρ}
    (same : ∀ playerId, playerId ≠ owner →
      rows.filter (fun row => player row = playerId) =
        earlier.filter fun row => player row = playerId)
    (member : row ∈ rows) (other : player row ≠ owner) : row ∈ earlier := by
  have selected : row ∈ rows.filter fun old => player old = player row :=
    List.mem_filter.mpr ⟨member, by simp⟩
  rw [same (player row) other] at selected
  exact (List.mem_filter.mp selected).1

/-- The key of a row of the owner's stays the owner's. -/
theorem owned_key {ρ : Type} {player key : ρ → Uuid} {rows earlier : List ρ} {row : ρ}
    (unique : Unique key earlier)
    (same : ∀ playerId, playerId ≠ owner →
      rows.filter (fun row => player row = playerId) =
        earlier.filter fun row => player row = playerId)
    (member : row ∈ earlier) (own : player row = owner) :
    ∀ old ∈ rows, key old = key row → player old = owner := by
  intro old inRows isKey
  by_contra other
  have inEarlier := other_mem same inRows other
  rw [unique.eq inEarlier member isKey] at other
  exact other own

/-- Between two views of one transaction the rows of the others have not changed. -/
theorem Isolated.between (earlier : Isolated owner db view) (isolated : Isolated owner db later)
    (playerId : Uuid) (other : playerId ≠ owner) :
    playerRowsOf playerId later = playerRowsOf playerId view :=
  (isolated.others playerId other).trans (earlier.others playerId other).symm

/-- A session that was the owner's still is, under its id. -/
theorem Isolated.session_owned {row : GameSession} (earlier : Isolated owner db view)
    (isolated : Isolated owner db later) (member : row ∈ view.sessions)
    (own : row.playerId = owner) :
    ∀ old ∈ later.sessions, old.id = row.id → old.playerId = owner :=
  owned_key earlier.sessionIds
    (fun playerId other =>
      congrArg PlayerRows.sessions (earlier.between isolated playerId other)) member own

/-- A proof that was the owner's still is, under its id. -/
theorem Isolated.proof_owned {row : FairnessProof} (earlier : Isolated owner db view)
    (isolated : Isolated owner db later) (member : row ∈ view.proofs)
    (own : row.playerId = owner) :
    ∀ old ∈ later.proofs, old.id = row.id → old.playerId = owner :=
  owned_key earlier.proofIds
    (fun playerId other =>
      congrArg PlayerRows.proofs (earlier.between isolated playerId other)) member own

/-- A reward that was the owner's still is, under its id. -/
theorem Isolated.reward_owned {row : Reward} (earlier : Isolated owner db view)
    (isolated : Isolated owner db later) (member : row ∈ view.rewards)
    (own : row.playerId = owner) :
    ∀ old ∈ later.rewards, old.id = row.id → old.playerId = owner :=
  owned_key earlier.rewardIds
    (fun playerId other =>
      congrArg PlayerRows.rewards (earlier.between isolated playerId other)) member own

/-- The proof with this id is the owner's. -/
def OwnsProof (owner : Uuid) (view : Database) (proofId : Uuid) : Prop :=
  ∃ proof ∈ view.proofs, proof.id = proofId ∧ proof.playerId = owner

/-- What belongs to a proof of the owner's belongs to no other player. -/
theorem Isolated.ofProofOf_other {proofId playerId : Uuid} (isolated : Isolated owner db view)
    (owns : OwnsProof owner view proofId) (other : playerId ≠ owner) :
    ofProofOf playerId view proofId = false := by
  obtain ⟨proof, member, rfl, own⟩ := owns
  simp only [ofProofOf, proofsOf, List.any_filter, List.any_eq_false, Bool.and_eq_true,
    decide_eq_true_eq, not_and]
  intro row inProofs ofPlayer sameId
  rw [isolated.proofIds.eq inProofs member sameId, own] at ofPlayer
  exact other ofPlayer.symm

end Owners

section Statements

variable {owner : Uuid} {db view view' : Database}

/-- A row of the owner's is none of another player's. -/
theorem not_other {playerId player : Uuid} (own : player = owner) (other : playerId ≠ owner) :
    decide (player = playerId) = false := by
  rw [own]
  exact decide_eq_false fun same => other same.symm

/-- Changes outside the seven tables. -/
theorem Isolated.congr (isolated : Isolated owner db view)
    (sessions : view'.sessions = view.sessions) (proofs : view'.proofs = view.proofs)
    (custodies : view'.custodies = view.custodies) (events : view'.events = view.events)
    (outcomes : view'.outcomes = view.outcomes) (rewards : view'.rewards = view.rewards)
    (scores : view'.scores = view.scores) : Isolated owner db view' where
  others := fun playerId other => by
    rw [← isolated.others playerId other]
    simp only [playerRowsOf, ofProofOf, proofsOf, sessions, proofs, custodies, events, outcomes,
      rewards, scores]
  sessionIds := sessions ▸ isolated.sessionIds
  proofIds := proofs ▸ isolated.proofIds
  outcomeIds := outcomes ▸ isolated.outcomeIds
  rewardIds := rewards ▸ isolated.rewardIds

/-- The owner's sessions may be inserted and changed. -/
theorem Isolated.insertSession {row : GameSession} (isolated : Isolated owner db view)
    (own : row.playerId = owner) (inserted : Database.insertSession row view = .ok view') :
    Isolated owner db view' := by
  obtain ⟨⟨absent, _⟩, rfl⟩ := Database.insertSession_ok.mp inserted
  refine { isolated with
    others := fun playerId other => ?_
    sessionIds := isolated.sessionIds.append (lookup_none.mp absent) }
  rw [← isolated.others playerId other]
  simp only [playerRowsOf, ofProofOf, proofsOf, PlayerRows.mk.injEq, and_true]
  exact filter_append_other (not_other own other)

theorem Isolated.updateSession {row : GameSession} (isolated : Isolated owner db view)
    (own : row.playerId = owner)
    (olds : ∀ old ∈ view.sessions, old.id = row.id → old.playerId = owner)
    (updated : Database.updateSession row view = .ok view') : Isolated owner db view' := by
  obtain ⟨_, rfl⟩ := Database.updateSession_ok.mp updated
  refine { isolated with
    others := fun playerId other => ?_
    sessionIds := isolated.sessionIds.replace fun _ _ same => same }
  rw [← isolated.others playerId other]
  simp only [playerRowsOf, ofProofOf, proofsOf, PlayerRows.mk.injEq, and_true]
  exact filter_replace_other (not_other own other) fun old member same =>
    not_other (olds old member same) other

/-- The proofs of the other players decide what else is theirs. -/
theorem Isolated.proofs {rows : List FairnessProof} (isolated : Isolated owner db view)
    (unique : Unique FairnessProof.id rows)
    (same : ∀ playerId, playerId ≠ owner →
      rows.filter (fun row => row.playerId = playerId) = proofsOf playerId view) :
    Isolated owner db { view with proofs := rows } := by
  refine { isolated with
    others := fun playerId other => ?_
    proofIds := unique }
  rw [← isolated.others playerId other]
  have sameProofs : proofsOf playerId { view with proofs := rows } =
      proofsOf playerId view := same playerId other
  simp only [playerRowsOf, ofProofOf, sameProofs]

/-- The owner's proofs may be inserted and changed. -/
theorem Isolated.insertProof {row : FairnessProof} (isolated : Isolated owner db view)
    (own : row.playerId = owner) (inserted : Database.insertProof row view = .ok view') :
    Isolated owner db view' := by
  obtain ⟨⟨absent, _⟩, rfl⟩ := Database.insertProof_ok.mp inserted
  apply isolated.proofs (isolated.proofIds.append (lookup_none.mp absent))
  exact fun playerId other => filter_append_other (not_other own other)

theorem Isolated.updateProof {row : FairnessProof} (isolated : Isolated owner db view)
    (own : row.playerId = owner)
    (olds : ∀ old ∈ view.proofs, old.id = row.id → old.playerId = owner)
    (updated : Database.updateProof row view = .ok view') : Isolated owner db view' := by
  obtain ⟨_, rfl⟩ := Database.updateProof_ok.mp updated
  apply isolated.proofs (isolated.proofIds.replace fun _ _ same => same)
  exact fun playerId other => filter_replace_other (not_other own other)
    fun old member same => not_other (olds old member same) other

/-- The seed of a proof of the owner's may be put into custody. -/
theorem Isolated.insertCustody {row : FairnessSeedCustody} (isolated : Isolated owner db view)
    (owns : OwnsProof owner view row.proofId)
    (inserted : Database.insertCustody row view = .ok view') : Isolated owner db view' := by
  obtain ⟨_, rfl⟩ := Database.insertCustody_ok.mp inserted
  refine { isolated with others := fun playerId other => ?_ }
  rw [← isolated.others playerId other]
  simp only [playerRowsOf, PlayerRows.mk.injEq, true_and]
  refine ⟨rfl, ?_, rfl, trivial⟩
  exact filter_append_other (isolated.ofProofOf_other owns other)

/-- The seed of a proof of the owner's may leave custody. -/
theorem Isolated.deleteCustody {proofId : Uuid} (isolated : Isolated owner db view)
    (owns : OwnsProof owner view proofId) :
    Isolated owner db (Database.deleteCustody proofId view) := by
  refine { isolated with others := fun playerId other => ?_ }
  rw [← isolated.others playerId other]
  simp only [playerRowsOf, Database.deleteCustody, PlayerRows.mk.injEq, true_and]
  refine ⟨rfl, ?_, rfl, trivial⟩
  refine filter_remove_other fun row _ same => ?_
  rw [same]
  exact isolated.ofProofOf_other owns other

/-- The chain of a proof of the owner's may grow. -/
theorem Isolated.insertEvent {row : FairnessProofEvent} (isolated : Isolated owner db view)
    (owns : OwnsProof owner view row.proofId)
    (inserted : Database.insertEvent row view = .ok view') : Isolated owner db view' := by
  obtain ⟨_, rfl⟩ := Database.insertEvent_ok.mp inserted
  refine { isolated with others := fun playerId other => ?_ }
  rw [← isolated.others playerId other]
  simp only [playerRowsOf, PlayerRows.mk.injEq, true_and]
  refine ⟨rfl, rfl, ?_, trivial⟩
  exact filter_append_other (isolated.ofProofOf_other owns other)

theorem Isolated.insertOutcome {row : Outcome} (isolated : Isolated owner db view)
    (own : row.playerId = owner) (inserted : Database.insertOutcome row view = .ok view') :
    Isolated owner db view' := by
  obtain ⟨⟨absent, _⟩, rfl⟩ := Database.insertOutcome_ok.mp inserted
  refine { isolated with
    others := fun playerId other => ?_
    outcomeIds := isolated.outcomeIds.append (lookup_none.mp absent) }
  rw [← isolated.others playerId other]
  simp only [playerRowsOf, ofProofOf, proofsOf, PlayerRows.mk.injEq, true_and, and_true]
  exact filter_append_other (not_other own other)

/-- The owner's rewards may be inserted and changed. -/
theorem Isolated.insertReward {row : Reward} (isolated : Isolated owner db view)
    (own : row.playerId = owner) (inserted : Database.insertReward row view = .ok view') :
    Isolated owner db view' := by
  obtain ⟨⟨_, absent, _⟩, rfl⟩ := Database.insertReward_ok.mp inserted
  refine { isolated with
    others := fun playerId other => ?_
    rewardIds := isolated.rewardIds.append (lookup_none.mp absent) }
  rw [← isolated.others playerId other]
  simp only [playerRowsOf, ofProofOf, proofsOf, PlayerRows.mk.injEq, true_and, and_true]
  exact filter_append_other (not_other own other)

theorem Isolated.updateReward {row : Reward} (isolated : Isolated owner db view)
    (own : row.playerId = owner)
    (olds : ∀ old ∈ view.rewards, old.id = row.id → old.playerId = owner)
    (updated : Database.updateReward row view = .ok view') : Isolated owner db view' := by
  cases updated
  refine { isolated with
    others := fun playerId other => ?_
    rewardIds := isolated.rewardIds.replace fun _ _ same => same }
  rw [← isolated.others playerId other]
  simp only [playerRowsOf, ofProofOf, proofsOf, PlayerRows.mk.injEq, true_and, and_true]
  exact filter_replace_other (not_other own other) fun old member same =>
    not_other (olds old member same) other

theorem Isolated.insertScore {row : FinalScore} (isolated : Isolated owner db view)
    (own : row.playerId = owner) (inserted : Database.insertScore row view = .ok view') :
    Isolated owner db view' := by
  obtain ⟨_, rfl⟩ := Database.insertScore_ok.mp inserted
  refine { isolated with others := fun playerId other => ?_ }
  rw [← isolated.others playerId other]
  simp only [playerRowsOf, ofProofOf, proofsOf, PlayerRows.mk.injEq, true_and]
  exact filter_append_other (not_other own other)

/-- Evidence is in none of the seven tables. -/
theorem Isolated.insertEvidence {audits : List AuditRecord} {events : List AnalyticsEvent}
    (isolated : Isolated owner db view)
    (inserted : RngGamePlatform.insertEvidence audits events view = .ok view') :
    Isolated owner db view' := by
  obtain ⟨_, rfl⟩ := insertEvidence_ok.mp inserted
  exact isolated.congr rfl rfl rfl rfl rfl rfl rfl

end Statements

end RngGamePlatform
