/-
Module: RngGamePlatform.Proofs.OwnershipIsolation
Purpose: A call leaves the rows of every player but its owner as they are, and
  returns no row of another player.
Trusted boundary: none
Main exports: Coherent, Private, Operation.OwnedBy, Answer.BelongsTo,
  ownership_isolated
-/
import RngGamePlatform.Proofs.EvidenceConservation
import RngGamePlatform.Proofs.Fingerprints
import RngGamePlatform.Proofs.Ownership

namespace RngGamePlatform

open Encoding Relational Transactions

/-- The rows of a round belong to the player of its session. -/
structure Coherent (db : Database) : Prop where
  proofs : ∀ proof ∈ db.proofs, ∃ row ∈ db.sessions,
    row.id = proof.sessionId ∧ row.playerId = proof.playerId
  outcomes : ∀ outcome ∈ db.outcomes, ∃ row ∈ db.sessions,
    row.id = outcome.sessionId ∧ row.playerId = outcome.playerId
  scores : ∀ score ∈ db.scores, ∃ row ∈ db.sessions,
    row.id = score.sessionId ∧ row.playerId = score.playerId
  rewards : ∀ reward ∈ db.rewards, ∀ outcomeId, reward.outcomeId = some outcomeId →
    ∃ outcome ∈ db.outcomes, outcome.id = outcomeId ∧ outcome.playerId = reward.playerId
  revealed : ∀ proof ∈ db.proofs, ∀ outcomeId, proof.outcomeId = some outcomeId →
    ∃ outcome ∈ db.outcomes, outcome.id = outcomeId ∧ outcome.playerId = proof.playerId

/-- In a consistent database the rows of a round belong together. -/
theorem Consistent.coherent {env : Platform} {calls : List Call} {db : Database}
    (consistent : Consistent env calls db) (ledger : Ledger db) : Coherent db where
  proofs := fun proof member => by
    obtain ⟨gameSession, record, commitment, _⟩ := consistent.proofs proof member
    exact ⟨gameSession, lookup_mem commitment.session, lookup_key commitment.session,
      commitment.owner⟩
  outcomes := fun outcome member => by
    obtain ⟨gameSession, found, _, same⟩ := consistent.rounds.outcomeOf outcome member
    exact ⟨gameSession, lookup_mem found, lookup_key found, same⟩
  scores := fun score member => by
    obtain ⟨outcome, found, same⟩ := consistent.rounds.scoreOf score member
    have ofSession : outcome.sessionId = score.sessionId := lookup_key found
    obtain ⟨gameSession, foundSession, _, sameOwner⟩ :=
      consistent.rounds.outcomeOf outcome (lookup_mem found)
    rw [ofSession] at foundSession
    exact ⟨gameSession, lookup_mem foundSession, lookup_key foundSession,
      sameOwner.trans same⟩
  rewards := fun reward member outcomeId isOutcome => by
    cases ledger.origin reward member with
    | @outcome outcome inOutcomes same _ =>
        obtain ⟨other, found, sameOwner⟩ := consistent.rounds.rewardOf outcome inOutcomes
        have ofOutcome : other.outcomeId = some outcome.id := lookup_key found
        have isReward := consistent.keys.rewardOutcomes other (lookup_mem found) reward
          member (by rw [ofOutcome]; exact Option.some_ne_none _) (ofOutcome.trans same.symm)
        rw [isReward] at sameOwner
        exact ⟨outcome, inOutcomes, Option.some.inj (same.symm.trans isOutcome),
          sameOwner.symm⟩
    | recipient _ noOutcome =>
        rw [noOutcome] at isOutcome
        cases isOutcome
  revealed := fun proof member outcomeId isOutcome => by
    obtain ⟨gameSession, record, commitment, _, evidence⟩ := consistent.proofs proof member
    cases evidence with
    | committed status whole =>
        rw [← whole] at isOutcome
        cases isOutcome
    | @revealed _ _ _ draw derivation status disclosed =>
        rw [disclosed.columns] at isOutcome
        obtain rfl : draw.outcomeId = outcomeId := Option.some.inj isOutcome
        exact ⟨_, lookup_mem disclosed.outcome, rfl, commitment.owner⟩
    | ended status whole =>
        rw [← whole] at isOutcome
        cases isOutcome

/-- A program that changes no row of another player. -/
abbrev Private {ρ : Type} (owner : Uuid) (db : Database)
    (returns : ρ → Database → Prop) (program : Prog ρ) (view : Database) : Prop :=
  program.Keeps (Isolated owner db) returns view

section Rules

variable {owner : Uuid} {db view : Database} {α : Type} {returns : α → Database → Prop}

@[simp] theorem private_clock {returns : Int → Database → Prop} :
    Private owner db returns clock view ↔ ∀ now, returns now view := Iff.rfl

@[simp] theorem private_read {answer : Database → α} :
    Private owner db returns (read answer) view ↔ returns (answer view) view := Iff.rfl

@[simp] theorem private_readForUpdate {target : α → Target}
    {answer : Database → Option α} {returns : Option α → Database → Prop} :
    Private owner db returns (readForUpdate target answer) view ↔
      returns (answer view) view := Iff.rfl

@[simp] theorem private_commitWork {returns : Unit → Database → Prop} :
    Private owner db returns commitWork view ↔ returns () view := Iff.rfl

@[simp] theorem private_raise {error : ServiceError} :
    Private owner db returns (raise error : Prog α) view := trivial

@[simp] theorem private_orRaise {error : ServiceError} {found : Option α} :
    Private owner db returns (orRaise error found) view ↔
      ∀ value, found = some value → returns value view := keeps_orRaise

@[simp] theorem private_require {error : ServiceError} {condition : Prop}
    [Decidable condition] {returns : Unit → Database → Prop} :
    Private owner db returns (require error condition) view ↔
      (condition → returns () view) := keeps_require

/-- What the rules refuse ends the program. -/
@[simp] theorem private_byRules {translated : ServiceError}
    {outcome : Except RulesError α} :
    Private owner db returns (byRules translated outcome) view ↔
      ∀ value, outcome = .ok value → returns value view := by
  cases outcome <;> simp [byRules]

/-- What the protocol refuses ends the program. -/
@[simp] theorem private_byFairness {outcome : Except FairnessError α} :
    Private owner db returns (byFairness outcome) view ↔
      ∀ value, outcome = .ok value → returns value view := by
  cases outcome <;> simp [byFairness]

end Rules

section Sessions

variable {env : Platform} {owner : Uuid} {db view : Database}

/-- The id of a session of the owner's. -/
def OwnsSession (owner : Uuid) (view : Database) (id : Uuid) : Prop :=
  ∀ old ∈ view.sessions, old.id = id → old.playerId = owner

/-- What belongs to a session of the owner's is the owner's. -/
theorem Isolated.of_session {ρ : Type} {player session : ρ → Uuid} {rows earlier : List ρ}
    {row : ρ} (isolated : Isolated owner db view)
    (coherent : ∀ row ∈ earlier, ∃ gameSession ∈ db.sessions,
      gameSession.id = session row ∧ gameSession.playerId = player row)
    (same : ∀ playerId, playerId ≠ owner →
      rows.filter (fun row => player row = playerId) =
        earlier.filter fun row => player row = playerId)
    (owns : OwnsSession owner view (session row)) (member : row ∈ rows) :
    player row = owner := by
  by_contra other
  obtain ⟨gameSession, inSessions, isSession, ofPlayer⟩ :=
    coherent row (other_mem same member other)
  have inView : gameSession ∈ view.sessions :=
    other_mem (fun playerId other =>
      (congrArg PlayerRows.sessions (isolated.others playerId other)).symm) inSessions
      (ofPlayer ▸ other)
  exact other (ofPlayer ▸ owns gameSession inView isSession)

/-- The proof of a session of the owner's is the owner's. -/
theorem Isolated.proofOwner {proof : FairnessProof} (isolated : Isolated owner db view)
    (coherent : Coherent db) (member : proof ∈ view.proofs)
    (owns : OwnsSession owner view proof.sessionId) : proof.playerId = owner :=
  isolated.of_session coherent.proofs
    (fun playerId other => congrArg PlayerRows.proofs (isolated.others playerId other))
    owns member

/-- The outcome of a session of the owner's is the owner's. -/
theorem Isolated.outcomeOwner {outcome : Outcome} (isolated : Isolated owner db view)
    (coherent : Coherent db) (member : outcome ∈ view.outcomes)
    (owns : OwnsSession owner view outcome.sessionId) : outcome.playerId = owner :=
  isolated.of_session coherent.outcomes
    (fun playerId other => congrArg PlayerRows.outcomes (isolated.others playerId other))
    owns member

/-- The score of a session of the owner's is the owner's. -/
theorem Isolated.scoreOwner {score : FinalScore} (isolated : Isolated owner db view)
    (coherent : Coherent db) (member : score ∈ view.scores)
    (owns : OwnsSession owner view score.sessionId) : score.playerId = owner :=
  isolated.of_session coherent.scores
    (fun playerId other => congrArg PlayerRows.scores (isolated.others playerId other))
    owns member

/-- The reward of an outcome of the owner's is the owner's. -/
theorem Isolated.rewardOwner {outcome : Outcome} {reward : Reward}
    (isolated : Isolated owner db view) (coherent : Coherent db)
    (inOutcomes : outcome ∈ view.outcomes) (own : outcome.playerId = owner)
    (member : reward ∈ view.rewards) (ofOutcome : reward.outcomeId = some outcome.id) :
    reward.playerId = owner := by
  by_contra other
  have inRewards := other_mem (fun playerId other =>
    congrArg PlayerRows.rewards (isolated.others playerId other)) member other
  obtain ⟨source, inDb, isOutcome, ofPlayer⟩ :=
    coherent.rewards reward inRewards outcome.id ofOutcome
  have inView : source ∈ view.outcomes :=
    other_mem (fun playerId other =>
      (congrArg PlayerRows.outcomes (isolated.others playerId other)).symm) inDb
      (ofPlayer ▸ other)
  rw [isolated.outcomeIds.eq inView inOutcomes isOutcome, own] at ofPlayer
  exact other ofPlayer.symm

theorem Isolated.owns_session {row : GameSession} (isolated : Isolated owner db view)
    (member : row ∈ view.sessions) (own : row.playerId = owner) :
    OwnsSession owner view row.id := isolated.session_owned isolated member own

/-- What is the owner's stays the owner's. -/
theorem OwnsSession.later {view' : Database} {id : Uuid} (owns : OwnsSession owner view id)
    (isolated : Isolated owner db view) (isolated' : Isolated owner db view') :
    OwnsSession owner view' id := by
  intro old member isId
  by_contra other
  have inView := other_mem (fun playerId other =>
    congrArg PlayerRows.sessions (isolated.between isolated' playerId other)) member other
  exact other (owns old inView isId)

end Sessions

section Termination

variable {env : Platform} {crypto : Crypto} {owner : Uuid} {db view : Database}
  {gameSession : GameSession} {now : Int}

/-- The owner's session is saved. -/
theorem saveSession_private {returns : Unit → Database → Prop}
    (isolated : Isolated owner db view) (own : gameSession.playerId = owner)
    (owns : OwnsSession owner view gameSession.id)
    (rest : ∀ view', Isolated owner db view' → returns () view') :
    Private owner db returns (saveSession gameSession) view := by
  intro view' updated
  have isolated' := isolated.updateSession own owns updated
  exact ⟨isolated', rest view' isolated'⟩

/-- The owner's session, its proof and the event of the chain are flushed together. -/
theorem flushTermination_private {proof : FairnessProof} {event : FairnessProofEvent}
    {view' : Database} (isolated : Isolated owner db view)
    (own : gameSession.playerId = owner) (owns : OwnsSession owner view gameSession.id)
    (ownProof : proof.playerId = owner)
    (ownsProof : OwnsProof owner view proof.id) (ofProof : event.proofId = proof.id)
    (flushed : flushTermination gameSession proof event view = .ok view') :
    Isolated owner db view' := by
  obtain ⟨first, one, flushed⟩ := bind_eq_ok.mp flushed
  obtain ⟨second, two, flushed⟩ := bind_eq_ok.mp flushed
  obtain ⟨row, member, isRow, ownRow⟩ := ownsProof
  have isolated₁ := isolated.updateSession own owns one
  obtain ⟨_, rfl⟩ := Database.updateSession_ok.mp one
  have isolated₂ := isolated₁.updateProof ownProof
    (fun old inProofs same => isolated.proof_owned isolated member ownRow old inProofs
      (same.trans isRow.symm)) two
  obtain ⟨_, rfl⟩ := Database.updateProof_ok.mp two
  have owns₂ : OwnsProof owner
      { view with
        sessions := replace GameSession.id gameSession view.sessions
        proofs := replace FairnessProof.id proof view.proofs } proof.id :=
    ⟨proof, mem_replace_self member isRow, rfl, ownProof⟩
  have isolated₃ := isolated₂.deleteCustody owns₂
  exact isolated₃.insertEvent (ofProof ▸ owns₂) flushed

/-- The end of the owner's proof; the session is saved with it, or nothing is changed. -/
theorem endCommittedFairnessProof_private {returns : Bool → Database → Prop}
    {proof : FairnessProof} {status : FairnessProofStatus}
    (isolated : Isolated owner db view) (own : gameSession.playerId = owner)
    (owns : OwnsSession owner view gameSession.id) (member : proof ∈ view.proofs)
    (ownProof : proof.playerId = owner)
    (rest : ∀ changed view', Isolated owner db view' → (changed = false → view' = view) →
      returns changed view') :
    Private owner db returns
      (endCommittedFairnessProof crypto gameSession proof status now) view := by
  unfold endCommittedFairnessProof
  split
  · exact rest false view isolated fun _ => rfl
  split
  · trivial
  simp only [lockLatestFairnessProofEvent, getFairnessSeedCustody, keeps_bind,
    private_readForUpdate, private_orRaise, private_read, keeps_update, Program.pure_eq,
    keeps_ret]
  intro previous _ view' flushed
  have ownEnded : (proof.withStatus status).playerId = owner := ownProof
  have isolated' := flushTermination_private isolated own owns ownEnded
    ⟨proof, member, rfl, ownProof⟩ rfl flushed
  exact ⟨isolated', rest true view' isolated' (by simp)⟩

/-- The proof of the owner's session is the owner's. -/
theorem boundProof_own (isolated : Isolated owner db view) (coherent : Coherent db)
    (owns : OwnsSession owner view gameSession.id) {proof : FairnessProof}
    (bound : proofBySession gameSession.id view = some proof) :
    proof ∈ view.proofs ∧ proof.playerId = owner := by
  have ofSession : proof.sessionId = gameSession.id := lookup_key bound
  exact ⟨lookup_mem bound, isolated.proofOwner coherent (lookup_mem bound) (ofSession ▸ owns)⟩

/-- The proof that is locked for a session of the owner's is the owner's. -/
theorem lockedProofOr_private {returns : Option FairnessProof → Database → Prop}
    {lockedProof : Option FairnessProof} (isolated : Isolated owner db view)
    (coherent : Coherent db) (owns : OwnsSession owner view gameSession.id)
    (isLocked : ∀ proof, lockedProof = some proof →
      proof ∈ view.proofs ∧ proof.playerId = owner)
    (rest : ∀ found, (∀ proof, found = some proof →
      proof ∈ view.proofs ∧ proof.playerId = owner) → returns found view) :
    Private owner db returns (lockedProofOr lockedProof gameSession.id) view := by
  cases lockedProof with
  | none => exact rest _ fun proof bound => boundProof_own isolated coherent owns bound
  | some proof => exact rest _ isLocked

/-- An expired session of the owner's ends, with its proof. -/
theorem finalizeExpiredSession_private {returns : Bool × GameSession → Database → Prop}
    {lockedProof : Option FairnessProof} (isolated : Isolated owner db view)
    (coherent : Coherent db) (own : gameSession.playerId = owner)
    (owns : OwnsSession owner view gameSession.id)
    (isLocked : ∀ proof, lockedProof = some proof →
      proof ∈ view.proofs ∧ proof.playerId = owner)
    (rest : ∀ changed row view', Isolated owner db view' → row.playerId = owner →
      row.id = gameSession.id → (changed = false → view' = view) →
      returns (changed, row) view') :
    Private owner db returns
      (finalizeExpiredSession crypto gameSession now lockedProof) view := by
  have same : (expireIfDue gameSession now).2.id = gameSession.id ∧
      (expireIfDue gameSession now).2.playerId = gameSession.playerId := by
    unfold expireIfDue
    split <;> exact ⟨rfl, rfl⟩
  obtain ⟨sameId, samePlayer⟩ := same
  unfold finalizeExpiredSession
  generalize expireIfDue gameSession now = due at sameId samePlayer ⊢
  obtain ⟨sessionChanged, changed⟩ := due
  have own' : changed.playerId = owner := samePlayer.trans own
  have owns' : OwnsSession owner view changed.id := sameId ▸ owns
  have saved : ∀ view', Isolated owner db view' → OwnsSession owner view' changed.id →
      view' = view → Private owner db (fun _ => returns (sessionChanged, changed))
        (saveIfChanged sessionChanged changed) view' := by
    intro view' isolated' owns'' same
    unfold saveIfChanged
    split
    · next isChanged =>
        exact saveSession_private isolated' own' owns'' fun later isLater =>
          rest _ _ later isLater own' sameId fun unchanged => by
            rw [isChanged] at unchanged
            cases unchanged
    · exact rest _ _ view' isolated' own' sameId fun _ => same
  simp only
  split
  · exact rest _ _ view isolated own rfl fun _ => rfl
  apply keeps_bind.mpr
  apply lockedProofOr_private isolated coherent owns' isLocked
  intro found isOwn
  cases found with
  | none => exact keeps_bind.mpr (saved view isolated owns' rfl)
  | some proof =>
      apply keeps_bind.mpr
      apply endCommittedFairnessProof_private isolated own' owns' (isOwn proof rfl).1
        (isOwn proof rfl).2
      intro proofChanged view' isolated' same
      split
      · exact rest _ _ view' isolated' own' sameId nofun
      · next unchanged =>
          exact keeps_bind.mpr (saved view' isolated' (owns'.later isolated isolated')
            (same (Bool.eq_false_of_not_eq_true unchanged)))

/-- The expired sessions of the owner end; the induction is on their list. -/
theorem finalizeExpiredSessions_private {returns : Unit → Database → Prop}
    {sessions : List GameSession} (isolated : Isolated owner db view)
    (coherent : Coherent db)
    (owned : ∀ row ∈ sessions, row.playerId = owner ∧ OwnsSession owner view row.id)
    (rest : ∀ view', Isolated owner db view' → returns () view') :
    Private owner db returns (finalizeExpiredSessions env sessions now) view := by
  induction sessions generalizing view with
  | nil => exact rest view isolated
  | cons row sessions ih =>
      obtain ⟨own, owns⟩ := owned row List.mem_cons_self
      apply keeps_bind.mpr
      apply finalizeExpiredSession_private isolated coherent own owns
        (fun _ same => by cases same)
      intro _ _ view' isolated' _ _ _
      apply ih isolated'
      intro other member
      obtain ⟨own', owns'⟩ := owned other (List.mem_cons_of_mem _ member)
      exact ⟨own', owns'.later isolated isolated'⟩

/-- The elapsed sessions of the owner. -/
theorem elapsed_owned {gameId : Uuid} (isolated : Isolated owner db view) :
    ∀ row ∈ elapsedSessions owner gameId now view,
      row.playerId = owner ∧ OwnsSession owner view row.id := by
  intro row member
  obtain ⟨inSessions, isElapsed⟩ := List.mem_filter.mp member
  have own := (elapsed_iff.mp isElapsed).1
  exact ⟨own, isolated.owns_session inSessions own⟩

end Termination

section Lifecycle

variable {env : Platform} {owner : Uuid} {db view : Database}

theorem loadedPayload_private {returns : GameConfigPayload → Database → Prop}
    (configVersionId : Uuid) (rest : ∀ payload, returns payload view) :
    Private owner db returns (loadedPayload env configVersionId) view := by
  simp only [loadedPayload, getConfigById, keeps_bind, private_read, private_orRaise,
    private_byRules]
  exact fun _ _ payload _ => rest payload

theorem checkLatest_private {returns : Unit → Database → Prop}
    (latest : Option GameSession) (now : Int) (rest : returns () view) :
    Private owner db returns (checkLatest env latest now) view := by
  cases latest with
  | none => exact rest
  | some latest =>
      simp only [checkLatest, keeps_bind, private_require]
      intro _
      apply loadedPayload_private
      intro payload
      exact private_require.mpr fun _ => rest

/-- The new session is the owner's, as are the expired ones that end before it. -/
theorem createNewSession_private {returns : GameSession → Database → Prop}
    {requestId : Uuid} {player : Player} {gameKey : PyStr} {draw : SessionDraw}
    {startedAt : Int} (isolated : Isolated owner db view) (coherent : Coherent db)
    (isOwner : player.id = owner)
    (rest : ∀ row view', Isolated owner db view' → row.playerId = owner →
      returns row view') :
    Private owner db returns
      (createNewSession env requestId player gameKey draw startedAt) view := by
  simp only [createNewSession, getGame, getActiveConfig, lockExpiredActiveSessions,
    keeps_bind, private_require, private_read, private_orRaise, private_clock, keeps_query,
    isOwner]
  intro _ game _ _ config _ now
  apply finalizeExpiredSessions_private isolated coherent (elapsed_owned isolated)
  intro finalized isFinalized
  apply keeps_bind.mpr
  apply keeps_bind.mpr
  apply checkLatest_private
  simp only [storeSession, addSession, keeps_bind, private_byRules, keeps_update,
    private_commitWork, Program.pure_eq, keeps_ret]
  intro payload _ rules _ middle inserted
  have isolated' := isFinalized.insertSession rfl inserted
  refine ⟨isolated', fun last evidence => ?_⟩
  have isLast := isolated'.insertEvidence evidence
  exact ⟨isLast, rest _ last isLast rfl⟩

/-- A creation inserts a session of the owner's, or answers the one of the known request. -/
theorem createSession_private {returns : GameSession → Database → Prop}
    {requestId playerId : Uuid} {gameKey : PyStr} {draw : SessionDraw}
    (isolated : Isolated owner db view) (coherent : Coherent db)
    (replayed : playerId = owner → ∀ row, sessionByRequest requestId view = some row →
      row.requestFingerprint = createSessionFingerprint env playerId gameKey →
      returns row view)
    (rest : ∀ row view', Isolated owner db view' → row.playerId = owner →
      returns row view') :
    Private owner db returns
      (createSession env requestId playerId owner gameKey draw) view := by
  simp only [createSession, lockSessionRequestId, lockPlayer, getSessionByRequest,
    keeps_bind, private_require, private_clock, keeps_query, private_readForUpdate,
    private_orRaise, private_read]
  rintro rfl startedAt player found
  split
  · next existing isExisting =>
      simp only [keeps_bind, private_require, private_commitWork, Program.pure_eq,
        keeps_ret]
      exact fun same => replayed rfl existing isExisting same
  · exact createNewSession_private isolated coherent (lookup_key found) rest

/-- A session that is locked for the owner is the owner's. -/
theorem lockOwnedSession_private {returns : GameSession → Database → Prop}
    {sessionId : Uuid} (isolated : Isolated owner db view)
    (rest : ∀ row, row ∈ view.sessions → row.playerId = owner →
      OwnsSession owner view row.id → returns row view) :
    Private owner db returns (lockOwnedSession sessionId owner) view := by
  simp only [lockOwnedSession, lockSession, keeps_bind, private_readForUpdate,
    private_orRaise, private_require, Program.pure_eq, keeps_ret]
  intro row found own
  exact rest row (lookup_mem found) own (isolated.owns_session (lookup_mem found) own)

/-- A retrieval answers a session of the owner's. -/
theorem retrieveSession_private {returns : GameSession → Database → Prop}
    {sessionId : Uuid} (isolated : Isolated owner db view) (coherent : Coherent db)
    (rest : ∀ row view', Isolated owner db view' → row.playerId = owner →
      returns row view') :
    Private owner db returns (retrieveSession env sessionId owner) view := by
  apply keeps_bind.mpr
  apply lockOwnedSession_private isolated
  intro gameSession _ own owns
  simp only [keeps_bind, private_clock]
  intro now
  apply finalizeExpiredSession_private isolated coherent own owns
    (fun _ same => by cases same)
  intro changed row view' isolated' own' _ _
  split
  · exact rest row view' isolated' own'
  · exact rest row view' isolated' own'

/-- A cancellation ends a session of the owner's. -/
theorem cancelSession_private {returns : GameSession → Database → Prop}
    {sessionId : Uuid} (isolated : Isolated owner db view) (coherent : Coherent db)
    (rest : ∀ row view', Isolated owner db view' → row.playerId = owner →
      returns row view') :
    Private owner db returns (cancelSession env sessionId owner) view := by
  apply keeps_bind.mpr
  apply lockOwnedSession_private isolated
  intro gameSession _ own owns
  simp only [keeps_bind, private_clock]
  intro now
  apply finalizeExpiredSession_private isolated coherent own owns
    (fun _ same => by cases same)
  intro changed row middle isMiddle own' sameId _
  have owns' : OwnsSession owner middle row.id := sameId ▸ owns.later isolated isMiddle
  split
  · exact rest row middle isMiddle own'
  simp only [cancelLocked, lockFairnessProofBySession, keeps_bind, keeps_ofExcept,
    private_readForUpdate]
  intro cancelled isCancelled
  have same : cancelled.playerId = owner ∧ cancelled.id = row.id := by
    unfold cancelActive at isCancelled
    split at isCancelled
    · cases isCancelled
    · cases isCancelled
      exact ⟨own', rfl⟩
  obtain ⟨ownCancelled, cancelledId⟩ := same
  have ownsCancelled : OwnsSession owner middle cancelled.id := cancelledId ▸ owns'
  cases bound : proofBySession cancelled.id middle with
  | none =>
      apply saveSession_private isMiddle ownCancelled ownsCancelled
      exact fun last isLast => rest cancelled last isLast ownCancelled
  | some proof =>
      obtain ⟨member, ownProof⟩ := boundProof_own isMiddle coherent ownsCancelled bound
      apply keeps_bind.mpr
      apply endCommittedFairnessProof_private isMiddle ownCancelled ownsCancelled member
        ownProof
      intro ended later isLater _
      split
      · exact rest cancelled later isLater ownCancelled
      · apply saveSession_private isLater ownCancelled (ownsCancelled.later isMiddle isLater)
        exact fun last isLast => rest cancelled last isLast ownCancelled

end Lifecycle

section Recovery

variable {env : Platform} {owner : Uuid} {db view : Database}

/-- The rows of a recovery state belong to one player. -/
structure PlayerGameState.BelongsTo (owner : Uuid) (state : PlayerGameState) : Prop where
  gameSession : ∀ row, state.gameSession = some row → row.playerId = owner
  outcome : ∀ row, state.outcome = some row → row.playerId = owner
  reward : ∀ row, state.reward = some row → row.playerId = owner
  fairnessProof : ∀ row, state.fairnessProof = some row → row.playerId = owner
  finalScore : ∀ row, state.finalScore = some row → row.playerId = owner

/-- The outcome and the reward of the owner's session. -/
theorem round_own {sessionId : Uuid} (isolated : Isolated owner db view)
    (coherent : Coherent db) (owns : OwnsSession owner view sessionId) {outcome : Outcome}
    (found : outcomeBySession sessionId view = some outcome) :
    outcome.playerId = owner := by
  have ofSession : outcome.sessionId = sessionId := lookup_key found
  exact isolated.outcomeOwner coherent (lookup_mem found) (ofSession ▸ owns)

/-- The reward of a session of the owner's is the owner's. -/
theorem reward_own {sessionId : Uuid} (isolated : Isolated owner db view)
    (coherent : Coherent db) (owns : OwnsSession owner view sessionId) {outcome : Outcome}
    {reward : Reward} (found : rewardBySession sessionId view = some (outcome, reward)) :
    reward ∈ view.rewards ∧ reward.playerId = owner := by
  simp only [rewardBySession, Option.bind_eq_bind, Option.bind_eq_some_iff, Option.pure_def,
    Option.some.injEq, Prod.mk.injEq] at found
  obtain ⟨source, foundOutcome, issued, foundReward, rfl, rfl⟩ := found
  have own := round_own isolated coherent owns foundOutcome
  exact ⟨lookup_mem foundReward, isolated.rewardOwner coherent (lookup_mem foundOutcome) own
    (lookup_mem foundReward) (lookup_key foundReward)⟩

theorem nextPlayAt_private {returns : Option Int → Database → Prop}
    (latest : Option GameSession) (now : Int) (rest : ∀ value, returns value view) :
    Private owner db returns (nextPlayAt env latest now) view := by
  cases latest with
  | none => exact rest none
  | some latest =>
      apply keeps_bind.mpr
      apply loadedPayload_private
      exact fun payload => rest _

/-- The state of the owner has rows of the owner only. -/
theorem readState_private {returns : PlayerGameState → Database → Prop} {game : Game}
    {now : Int} (isolated : Isolated owner db view) (coherent : Coherent db)
    (rest : ∀ state, state.BelongsTo owner → returns state view) :
    Private owner db returns (readState env owner game now) view := by
  simp only [readState, latestSession, keeps_bind, private_read]
  apply nextPlayAt_private
  intro nextPlay
  cases found : latestSessionRow owner game.id view with
  | none =>
      apply rest
      constructor <;> exact fun _ isRow => by cases isRow
  | some latest =>
      obtain ⟨inSessions, ofOwner⟩ := List.mem_filter.mp (newest_mem found)
      have own : latest.playerId = owner := (of_decide_eq_true ofOwner).1
      have owns := isolated.owns_session inSessions own
      apply rest
      constructor
      case gameSession =>
        intro row isRow
        cases isRow
        exact own
      case outcome => exact fun row isRow => round_own isolated coherent owns isRow
      case reward =>
        intro row isRow
        obtain ⟨pair, isPair, rfl⟩ := Option.map_eq_some_iff.mp isRow
        exact (reward_own isolated coherent owns isPair).2
      case fairnessProof =>
        exact fun row isRow => (boundProof_own isolated coherent owns isRow).2
      case finalScore =>
        intro row isRow
        have ofSession : row.sessionId = latest.id := lookup_key isRow
        exact isolated.scoreOwner coherent (lookup_mem isRow) (ofSession ▸ owns)

/-- A recovery ends expired sessions of the owner's, and answers the owner's state. -/
theorem retrievePlayerGameState_private {returns : PlayerGameState → Database → Prop}
    {playerId : Uuid} {gameKey : PyStr} (isolated : Isolated owner db view)
    (coherent : Coherent db)
    (rest : ∀ state view', Isolated owner db view' → state.BelongsTo owner →
      returns state view') :
    Private owner db returns (retrievePlayerGameState env playerId owner gameKey)
      view := by
  simp only [retrievePlayerGameState, lockPlayer, getGame, getActiveConfig,
    lockExpiredActiveSessions, keeps_bind, private_require, private_clock, keeps_query,
    private_readForUpdate, private_read, private_orRaise]
  rintro rfl player found game _ config _ now
  have isOwner : player.id = playerId := lookup_key found
  rw [isOwner]
  apply finalizeExpiredSessions_private isolated coherent (elapsed_owned isolated)
  intro view' isolated'
  apply keeps_bind.mpr
  apply readState_private isolated' coherent
  intro state belongs
  split
  · exact rest state view' isolated' belongs
  · exact rest state view' isolated' belongs

end Recovery

section Fairness

variable {env : Platform} {owner : Uuid} {db view : Database}

theorem gameAndConfig_private {returns : Game × GameConfigVersion → Database → Prop}
    {error : ServiceError} {gameId configVersionId : Uuid}
    (rest : ∀ pair, returns pair view) :
    Private owner db returns (gameAndConfig error gameId configVersionId) view := by
  simp only [gameAndConfig, getGameById, getConfigById, keeps_bind, private_read,
    private_orRaise, private_require, Program.pure_eq, keeps_ret]
  exact fun _ _ _ _ _ => rest _

/-- The proof of the owner's is stored with its seed and the first event. -/
theorem storeCommitment_private {returns : FairnessProof → Database → Prop}
    {proof : FairnessProof} {seed : Bytes} {now : Int} (isolated : Isolated owner db view)
    (own : proof.playerId = owner)
    (rest : ∀ view', Isolated owner db view' → returns proof view') :
    Private owner db returns (storeCommitment env proof seed now) view := by
  simp only [storeCommitment, addFairnessProof, addFairnessSeedCustody,
    addFairnessProofEvent, keeps_bind, keeps_update, private_commitWork, Program.pure_eq,
    keeps_ret]
  intro first inserted
  have isFirst := isolated.insertProof own inserted
  refine ⟨isFirst, fun second kept => ?_⟩
  obtain ⟨_, isInserted⟩ := Database.insertProof_ok.mp inserted
  obtain ⟨_, isKept⟩ := Database.insertCustody_ok.mp kept
  have owns : OwnsProof owner first proof.id := by
    rw [← isInserted]
    exact ⟨proof, List.mem_append_right _ List.mem_cons_self, rfl, own⟩
  have isSecond := isFirst.insertCustody owns kept
  have ownsEvent : OwnsProof owner second (commitEvent env proof now).proofId := by
    rw [← isKept]
    exact owns
  refine ⟨isSecond, fun third chained => ?_⟩
  have isThird := isSecond.insertEvent ownsEvent chained
  exact ⟨isThird, rest third isThird⟩

/-- A commitment stores a proof of the owner's, or answers the stored one. -/
theorem commitFairness_private {returns : FairnessProof → Database → Prop}
    {sessionId : Uuid} {draw : CommitDraw} (isolated : Isolated owner db view)
    (coherent : Coherent db)
    (rest : ∀ row view', Isolated owner db view' → row.playerId = owner →
      returns row view') :
    Private owner db returns (commitFairness env sessionId owner draw) view := by
  simp only [commitFairness, lockSession, keeps_bind, private_readForUpdate,
    private_orRaise, private_require, private_clock]
  intro gameSession found own now
  have owns := isolated.owns_session (lookup_mem found) own
  apply finalizeExpiredSession_private isolated coherent own owns
    (fun _ same => by cases same)
  intro changed row view' isolated' own' sameId unchanged
  have owns' : OwnsSession owner view' row.id := sameId ▸ owns.later isolated isolated'
  split
  · trivial
  simp only [commitLocked, keeps_bind, private_require]
  intro _
  apply gameAndConfig_private
  intro loaded
  simp only [lockFairnessProofBySession, keeps_bind, private_readForUpdate]
  split
  · next existing bound =>
      obtain ⟨_, ownProof⟩ := boundProof_own isolated' coherent owns' bound
      exact rest existing view' isolated' ownProof
  · simp only [commitNew, keeps_bind, private_byRules, private_byFairness]
    intro bands _ commitment _ digest _
    apply storeCommitment_private isolated' rfl
    exact fun last isLast => rest _ last isLast rfl

/-- The accepted outcome and its reward are inserted. -/
theorem storeReveal_private {returns : Outcome × Reward × FairnessProof → Database → Prop}
    {gameSession : GameSession} {proof : FairnessProof} {game : Game} {seed : Bytes}
    {clientSeed fingerprint : PyStr} {draw : EvaluateDraw}
    {derivation : DailySpinDerivation} {now : Int} (isolated : Isolated owner db view)
    (own : gameSession.playerId = owner) (owns : OwnsSession owner view gameSession.id)
    (member : proof ∈ view.proofs) (ownProof : proof.playerId = owner)
    (rest : ∀ rows view', Isolated owner db view' → rows.1.playerId = owner →
      rows.2.1.playerId = owner → rows.2.2.playerId = owner → returns rows view') :
    Private owner db returns (storeReveal env gameSession proof game seed owner clientSeed
      fingerprint draw derivation now) view := by
  simp only [storeReveal, addOutcome, addReward, lockLatestFairnessProofEvent,
    completePlay, keeps_bind, keeps_update, private_readForUpdate, private_orRaise,
    private_commitWork, Program.pure_eq, keeps_ret]
  intro first inserted
  have isFirst := isolated.insertOutcome own inserted
  refine ⟨isFirst, fun second rewarded => ?_⟩
  have isSecond := isFirst.insertReward rfl rewarded
  refine ⟨isSecond, fun previous _ third written => ?_⟩
  obtain ⟨middle, updated, chained⟩ := bind_eq_ok.mp written
  obtain ⟨_, rfl⟩ := Database.insertOutcome_ok.mp inserted
  obtain ⟨_, rfl⟩ := Database.insertReward_ok.mp rewarded
  have ownRevealed : (revealedProof proof draw.outcomeId clientSeed fingerprint derivation
      seed now).playerId = owner := ownProof
  have isMiddle := isSecond.updateProof ownRevealed
    (fun old inProofs same => isolated.proof_owned isolated member ownProof old inProofs
      same) updated
  obtain ⟨_, rfl⟩ := Database.updateProof_ok.mp updated
  have isThird := isMiddle.insertEvent
    ⟨_, mem_replace_self member rfl, rfl, ownRevealed⟩ chained
  refine ⟨isThird, fun last finished => ?_⟩
  obtain ⟨completed, ended, evidence⟩ := bind_eq_ok.mp finished
  have ownCompleted : (RngGamePlatform.completed gameSession now).playerId = owner := own
  have isCompleted := isThird.updateSession ownCompleted (owns.later isolated isThird) ended
  have isLast := isCompleted.insertEvidence evidence
  exact ⟨isLast, rest _ last isLast own rfl ownProof⟩

/-- The proof of an evaluation and its session belong to the same player. -/
theorem proofSession_own {proof : FairnessProof} {gameSession : GameSession}
    (isolated : Isolated owner db db) (coherent : Coherent db) (member : proof ∈ db.proofs)
    (own : proof.playerId = owner)
    (found : sessionById proof.sessionId db = some gameSession) :
    gameSession.playerId = owner := by
  obtain ⟨row, inSessions, isSession, ofPlayer⟩ := coherent.proofs proof member
  have same := isolated.sessionIds.eq inSessions (lookup_mem found)
    (isSession.trans (lookup_key found).symm)
  rw [← same, ofPlayer]
  exact own

/-- An evaluation stores and answers rows of the owner's. -/
theorem evaluateFairness_private
    {returns : Outcome × Reward × FairnessProof → Database → Prop} {proofId : Uuid}
    {clientSeed : PyStr} {draw : EvaluateDraw} (isolated : Isolated owner db db)
    (coherent : Coherent db)
    (rest : ∀ rows view', Isolated owner db view' → rows.1.playerId = owner →
      rows.2.1.playerId = owner → rows.2.2.playerId = owner → returns rows view') :
    Private owner db returns (evaluateFairness env proofId owner clientSeed draw) db := by
  simp only [evaluateFairness, getFairnessProof, lockSession, lockFairnessProof, keeps_bind,
    private_read, private_readForUpdate, private_orRaise, private_require]
  intro visible isVisible ownVisible gameSession foundSession proof foundProof
  simp only [foundProof, Option.map_some, Option.some.injEq] at isVisible
  subst isVisible
  have ownProof : proof.playerId = owner := ownVisible
  have member : proof ∈ db.proofs := lookup_mem foundProof
  have own := proofSession_own isolated coherent member ownProof foundSession
  have owns := isolated.owns_session (lookup_mem foundSession) own
  unfold evaluateLocked
  split
  · simp only [replayEvaluation, getOutcome, lockRewardBySession, keeps_bind,
      private_require, private_read, private_orRaise, keeps_query, private_commitWork,
      Program.pure_eq, keeps_ret]
    intro _ outcomeId isOutcome outcome foundOutcome reward foundReward
    obtain ⟨source, inOutcomes, isSource, ofPlayer⟩ :=
      coherent.revealed proof member outcomeId isOutcome
    have same := isolated.outcomeIds.eq (lookup_mem foundOutcome) inOutcomes
      ((lookup_key foundOutcome).trans isSource.symm)
    obtain ⟨pair, isPair, rfl⟩ := Option.map_eq_some_iff.mp foundReward
    have ofSession : gameSession.id = proof.sessionId := lookup_key foundSession
    obtain ⟨_, ownReward⟩ := reward_own isolated coherent (ofSession ▸ owns) isPair
    exact rest _ db isolated (same ▸ ofPlayer.trans ownProof) ownReward ownProof
  simp only [keeps_bind, private_clock]
  intro now
  apply finalizeExpiredSession_private isolated coherent own owns
  case isLocked =>
    intro locked same
    cases same
    exact ⟨member, ownProof⟩
  intro changed row view' isolated' own' sameId unchanged
  split
  · trivial
  next isIdle =>
    obtain rfl : view' = db := unchanged (Bool.eq_false_of_not_eq_true isIdle)
    simp only [evaluateCommitted, getGameById, getConfigById, getFairnessSeedCustody,
      keeps_bind, private_require, private_read, private_orRaise, private_byRules,
      keeps_ofExcept]
    intro _ game _ config _ custody _ bands _ derivation _
    exact storeReveal_private isolated own' (sameId ▸ owns) member ownProof rest

end Fairness

section Plays

variable {env : Platform} {owner : Uuid} {db view : Database}

/-- A play stores and answers an outcome of the owner's. -/
theorem playSession_private {returns : Outcome → Database → Prop} {sessionId : Uuid}
    {intent : PlayIntent} {provider : OutcomeProvider} {draw : PlayDraw}
    (isolated : Isolated owner db view) (coherent : Coherent db)
    (rest : ∀ row view', Isolated owner db view' → row.playerId = owner →
      returns row view') :
    Private owner db returns (playSession env sessionId owner intent provider draw)
      view := by
  simp only [playSession, lockSession, keeps_bind, private_readForUpdate, private_orRaise,
    private_require, private_clock]
  intro gameSession found own now
  have owns := isolated.owns_session (lookup_mem found) own
  apply finalizeExpiredSession_private isolated coherent own owns
    (fun _ same => by cases same)
  intro changed row view' isolated' own' sameId unchanged
  have owns' : OwnsSession owner view' row.id := sameId ▸ owns.later isolated isolated'
  split
  · trivial
  split
  · unfold replayPlay
    split
    · trivial
    simp only [getGameById, getOutcomeBySession, keeps_bind, private_read]
    split
    · next game outcome _ foundOutcome =>
        simp only [keeps_bind, private_byRules]
        intro rules _
        split
        · exact rest outcome view' isolated'
            (round_own isolated' coherent owns' foundOutcome)
        · trivial
        · trivial
    · trivial
  simp only [playActive, keeps_bind]
  apply gameAndConfig_private
  intro loaded
  simp only [storePlay, addOutcome, addReward, completePlay, keeps_bind, private_byRules,
    private_require, keeps_update, private_commitWork, Program.pure_eq, keeps_ret]
  intro rules _ _ result _ first inserted
  have isFirst := isolated'.insertOutcome own' inserted
  refine ⟨isFirst, fun value _ second rewarded => ?_⟩
  have isSecond := isFirst.insertReward rfl rewarded
  refine ⟨isSecond, fun last finished => ?_⟩
  obtain ⟨middle, ended, evidence⟩ := bind_eq_ok.mp finished
  have ownCompleted : (completed row now).playerId = owner := own'
  have isMiddle := isSecond.updateSession ownCompleted (owns'.later isolated' isSecond) ended
  have isLast := isMiddle.insertEvidence evidence
  exact ⟨isLast, rest _ last isLast own'⟩

/-- A claim changes and answers a reward of the owner's. -/
theorem claimSessionReward_private {returns : Reward → Database → Prop} {sessionId : Uuid}
    (isolated : Isolated owner db view)
    (rest : ∀ row view', Isolated owner db view' → row.playerId = owner →
      returns row view') :
    Private owner db returns (claimSessionReward sessionId owner) view := by
  simp only [claimSessionReward, lockRewardBySession, keeps_bind, keeps_query]
  split
  · simp [missingReward, getSession]
  · next reward found =>
      obtain ⟨pair, isPair, rfl⟩ := Option.map_eq_some_iff.mp found
      have member : pair.2 ∈ view.rewards := rewardBySession_mem isPair
      simp only [claimLocked, keeps_bind, private_require, private_clock, keeps_ofExcept]
      intro own now changed isChanged
      split
      · exact rest pair.2 view isolated own
      · next claimed =>
          have same : claimed.id = pair.2.id ∧ claimed.playerId = owner := by
            unfold claimReward at isChanged
            split at isChanged
            · cases isChanged
            · split at isChanged <;> cases isChanged
              exact ⟨rfl, own⟩
          simp only [gameKeyForReward, saveClaim, keeps_bind, private_read,
            private_orRaise, keeps_update, private_commitWork, Program.pure_eq, keeps_ret]
          intro gameKey _ last flushed
          obtain ⟨middle, updated, evidence⟩ := bind_eq_ok.mp flushed
          have isMiddle := isolated.updateReward same.2
            (fun old inRewards sameId => isolated.reward_owned isolated member own old
              inRewards (sameId.trans same.1)) updated
          have isLast := isMiddle.insertEvidence evidence
          exact ⟨isLast, rest claimed last isLast same.2⟩

/-- A submission stores and answers a score of the owner's. -/
theorem submitFinalScore_private {returns : FinalScore × Bool × PyStr → Database → Prop}
    {sessionId scoreId : Uuid} (isolated : Isolated owner db view) (coherent : Coherent db)
    (rest : ∀ rows view', Isolated owner db view' → rows.1.playerId = owner →
      returns rows view') :
    Private owner db returns (submitFinalScore env sessionId owner scoreId) view := by
  simp only [submitFinalScore, lockSession, getFinalScoreBySession, keeps_bind,
    private_readForUpdate, private_orRaise, private_require, private_read]
  intro gameSession found own
  have owns := isolated.owns_session (lookup_mem found) own
  have sameId : gameSession.id = sessionId := lookup_key found
  split
  · next existing isExisting =>
      have ofSession : existing.sessionId = sessionId := lookup_key isExisting
      have ownScore := isolated.scoreOwner coherent (lookup_mem isExisting)
        (by rw [ofSession, ← sameId]; exact owns)
      simp only [getGameById, keeps_bind, private_read, private_orRaise,
        private_commitWork, Program.pure_eq, keeps_ret]
      exact fun game _ => rest _ view isolated ownScore
  · simp only [submitNew, getPlayer, getGameById, getOutcomeBySession, getConfigById,
      storeScore, addFinalScore, keeps_bind, private_read, private_orRaise,
      private_require, private_byRules, private_clock, keeps_update, private_commitWork,
      Program.pure_eq, keeps_ret]
    intro player _ _ game _ rules _ _ endedAt _ outcome _ _ config _ value _ now _ middle
      inserted
    have isMiddle := isolated.insertScore rfl inserted
    refine ⟨isMiddle, fun last evidence => ?_⟩
    have isLast := isMiddle.insertEvidence evidence
    exact ⟨isLast, rest _ last isLast rfl⟩

end Plays

section Reads

variable {env : Platform} {owner : Uuid} {db : Database}

/-- The evidence of a proof of the owner's. -/
def RevealedFairnessProof.BelongsTo (owner : Uuid) (db : Database)
    (revealed : RevealedFairnessProof) : Prop :=
  ∃ proof ∈ db.proofs, proof.playerId = owner ∧ asRevealedProof proof = .ok revealed

/-- An outcome that is read for the owner is the owner's. -/
theorem ownedOutcome_private {returns : Outcome × GameSession → Database → Prop}
    {outcomeId : Uuid} (isolated : Isolated owner db db) (coherent : Coherent db)
    (rest : ∀ owned, owned.1 ∈ db.outcomes → owned.1.playerId = owner → returns owned db) :
    Private owner db returns (ownedOutcome outcomeId owner) db := by
  simp only [ownedOutcome, getOutcome, getSession, keeps_bind, private_read,
    private_orRaise, private_require, Program.pure_eq, keeps_ret]
  intro outcome foundOutcome gameSession foundSession own
  have owns := isolated.owns_session (lookup_mem foundSession) own
  have ofSession : gameSession.id = outcome.sessionId := lookup_key foundSession
  exact rest _ (lookup_mem foundOutcome)
    (isolated.outcomeOwner coherent (lookup_mem foundOutcome) (ofSession ▸ owns))

/-- The evidence that is read for the owner is of a proof of the owner's. -/
theorem retrieveFairnessProof_private
    {returns : RevealedFairnessProof × List RewardBand → Database → Prop} {outcomeId : Uuid}
    (isolated : Isolated owner db db) (coherent : Coherent db)
    (rest : ∀ pair, pair.1.BelongsTo owner db → returns pair db) :
    Private owner db returns (retrieveFairnessProof env outcomeId owner) db := by
  apply keeps_bind.mpr
  apply ownedOutcome_private isolated coherent
  intro owned inOutcomes own
  simp only [getFairnessProofByOutcome, getConfigById, keeps_bind, private_read,
    private_orRaise, keeps_ofExcept, private_byRules, Program.pure_eq, keeps_ret]
  intro proof foundProof revealed isRevealed config _ bands _
  obtain ⟨source, inDb, isSource, ofPlayer⟩ :=
    coherent.revealed proof (lookup_mem foundProof) owned.1.id (lookup_key foundProof)
  have same := isolated.outcomeIds.eq inDb inOutcomes isSource
  rw [same, own] at ofPlayer
  exact rest _ ⟨proof, lookup_mem foundProof, ofPlayer.symm, isRevealed⟩

/-- The evidence that is verified for the owner is of a proof of the owner's. -/
theorem verifyFairnessProof_private
    {returns : RevealedFairnessProof × List RewardBand × PyStr × Bool → Database → Prop}
    {fuel : Nat} {outcomeId : Uuid} (isolated : Isolated owner db db)
    (coherent : Coherent db)
    (rest : ∀ verdict, verdict.1.BelongsTo owner db → returns verdict db) :
    Private owner db returns (verifyFairnessProof env fuel outcomeId owner) db := by
  simp only [verifyFairnessProof, getFairnessProofByOutcome, keeps_bind, private_read]
  apply retrieveFairnessProof_private isolated coherent
  intro retrieved belongs
  simp only [keeps_bind, private_orRaise, keeps_ofExcept]
  intro proof _ verdict _
  split
  · exact rest _ belongs
  · simp only [listFairnessProofEvents, keeps_bind, private_read, keeps_ofExcept]
    intro chain _
    exact rest _ belongs

/-- The rewards that are listed for the owner are the owner's. -/
theorem playerRewards_private {returns : List Reward → Database → Prop}
    {createdAt : Uuid → Int} {playerId : Uuid} {limit offset : Nat}
    (rest : ∀ rows, (∀ row ∈ rows, row.playerId = owner) → returns rows db) :
    Private owner db returns (playerRewards createdAt playerId owner limit offset) db := by
  simp only [playerRewards, getPlayer, listPlayerRewards, keeps_bind, private_require,
    private_read, private_orRaise]
  rintro rfl player _
  apply rest
  intro row member
  have listed := (orderBy_perm _ _).mem_iff.mp (List.mem_of_mem_drop (List.mem_of_mem_take member))
  exact of_decide_eq_true (List.mem_filter.mp listed).2

end Reads

/-! ### The calls of one player -/

/-- The player that makes a request. -/
def Call.ownerId : Call → Uuid
  | .createSession _ _ ownerId _ _ => ownerId
  | .retrieveSession _ ownerId => ownerId
  | .retrievePlayerGameState _ ownerId _ => ownerId
  | .cancelSession _ ownerId => ownerId
  | .commitFairness _ ownerId _ => ownerId
  | .evaluateFairness _ ownerId _ _ => ownerId
  | .playSession _ ownerId _ _ _ => ownerId
  | .submitFinalScore _ ownerId _ => ownerId
  | .claimSessionReward _ ownerId => ownerId

/-- The call works on the rows of its owner alone. -/
def Operation.OwnedBy (owner : Uuid) : Operation → Prop
  | .request call => call.ownerId = owner
  | .retrieveFairnessProof _ ownerId => ownerId = owner
  | .verifyFairnessProof _ _ ownerId => ownerId = owner
  | .retrieveOutcomeAudit _ ownerId => ownerId = owner
  | .playerRewards _ _ ownerId _ _ => ownerId = owner
  | _ => False

/-- Every row of a result belongs to the player. -/
def Result.BelongsTo (owner : Uuid) : Result → Prop
  | .session row => row.playerId = owner
  | .state recovered => recovered.BelongsTo owner
  | .proof row => row.playerId = owner
  | .evaluation accepted issued revealed =>
      accepted.playerId = owner ∧ issued.playerId = owner ∧ revealed.playerId = owner
  | .outcome row => row.playerId = owner
  | .score row _ _ => row.playerId = owner
  | .reward row => row.playerId = owner

/-- Every row of an answer belongs to the player. -/
def Answer.BelongsTo (owner : Uuid) (db : Database) : Answer → Prop
  | .result value => value.BelongsTo owner
  | .revealed proof _ => proof.BelongsTo owner db
  | .verified proof _ _ _ => proof.BelongsTo owner db
  | .outcomeAudit outcome _ => outcome.playerId = owner
  | .rewards rows => ∀ row ∈ rows, row.playerId = owner
  | _ => False

/-- The canonical text of a creation. -/
def creationText (playerId : Uuid) (gameKey : PyStr) : PyStr :=
  requestIntent (py "create_session")
    [(py "player_id", idText playerId), (py "game_key", text gameKey)]

/-- The keys of the three games. -/
def registeredKeys : List PyStr :=
  [GameKey.dailySpin.value, GameKey.predictionCard.value, GameKey.skillCheck.value]

/-- The hash function does not confuse the text of a creation with the text that a
stored session may have been created from. -/
def CreationsApart (env : Platform) (db : Database) (playerId : Uuid) (gameKey : PyStr) :
    Prop :=
  ∀ row ∈ db.sessions, ∀ key ∈ registeredKeys,
    env.crypto.sha256 (encodeAscii (creationText row.playerId key)) =
      env.crypto.sha256 (encodeAscii (creationText playerId gameKey)) →
    creationText row.playerId key = creationText playerId gameKey

/-- What a call needs of the hash: a creation may take no other creation for its own. -/
def FingerprintsApart (env : Platform) (db : Database) : Operation → Prop
  | .request (.createSession _ playerId _ gameKey _) =>
      CreationsApart env db playerId gameKey
  | _ => True

section Replays

variable {env : Platform} {db : Database}

/-- A game with rules has one of the keys. -/
theorem registered_of_rules {gameKey : PyStr} {rules : GameKey}
    (isRules : rulesFor gameKey = .ok rules) : gameKey ∈ registeredKeys := by
  unfold rulesFor at isRules
  unfold registeredKeys
  split at isRules
  · next same => simp [same]
  · split at isRules
    · next same => simp [same]
    · split at isRules
      · next same => simp [same]
      · cases isRules

/-- A session with the fingerprint of a creation belongs to the player of it. -/
theorem replay_own {calls : List Call} {playerId : Uuid} {gameKey : PyStr}
    {row : GameSession} (apart : CreationsApart env db playerId gameKey)
    (created : CreatedBy env calls row) (member : row ∈ db.sessions)
    (same : row.requestFingerprint = createSessionFingerprint env playerId gameKey) :
    row.playerId = playerId := by
  obtain ⟨_, key, _, rules, _, isRules, isFingerprint⟩ := created
  rw [isFingerprint] at same
  have sameText := apart row member key (registered_of_rules isRules)
    (Subtype.ext (hexOfBytes_injective same))
  have sameInput := requestIntent_injective (basic_py "create_session" rfl)
    (fun field inFields => by
      simp only [List.mem_cons, List.not_mem_nil, or_false] at inFields
      rcases inFields with rfl | rfl
      · exact ⟨basic_py "player_id" rfl, basic_uuidStr row.playerId⟩
      · exact ⟨basic_py "game_key" rfl, basic_of_rules isRules⟩) sameText
  exact uuidStr_injective (Json.str.inj (object_two_injective (by decide) sameInput).1)

end Replays

/-- What a call of one player leaves and returns. -/
structure OwnershipIsolated (env : Platform) (db : Database) (operation : Operation)
    (owner : Uuid) : Prop where
  others : ∀ times result final,
    (operate env operation).run times db db = some (result, final) →
    ∀ playerId, playerId ≠ owner → playerRowsOf playerId final = playerRowsOf playerId db
  returned : FingerprintsApart env db operation → ∀ times answer final,
    (operate env operation).run times db db = some (.ok answer, final) →
    answer.BelongsTo owner db

section Calls

variable {env : Platform} {owner : Uuid} {db : Database} {calls : List Call}

/-- Every call works on the rows of its owner. -/
theorem body_private (consistent : Consistent env calls db) (coherent : Coherent db)
    (call : Call) :
    Private call.ownerId db
      (fun value _ => FingerprintsApart env db (.request call) →
        value.BelongsTo call.ownerId) (body env call) db := by
  have isolated := Isolated.start consistent.keys call.ownerId
  cases call with
  | createSession requestId playerId ownerId gameKey draw =>
      apply keeps_map.mpr
      apply createSession_private isolated coherent
      case replayed =>
        rintro isOwner row found same apart
        have member : row ∈ db.sessions := lookup_mem found
        exact (replay_own apart (consistent.created row member) member same).trans isOwner
      case rest => exact fun row _ _ own _ => own
  | retrieveSession =>
      apply keeps_map.mpr
      exact retrieveSession_private isolated coherent fun row _ _ own _ => own
  | retrievePlayerGameState =>
      apply keeps_map.mpr
      exact retrievePlayerGameState_private isolated coherent fun _ _ _ belongs _ => belongs
  | cancelSession =>
      apply keeps_map.mpr
      exact cancelSession_private isolated coherent fun row _ _ own _ => own
  | commitFairness =>
      apply keeps_map.mpr
      exact commitFairness_private isolated coherent fun row _ _ own _ => own
  | evaluateFairness =>
      apply keeps_map.mpr
      exact evaluateFairness_private isolated coherent
        fun rows _ _ ownOutcome ownReward ownProof _ => ⟨ownOutcome, ownReward, ownProof⟩
  | playSession =>
      apply keeps_map.mpr
      exact playSession_private isolated coherent fun row _ _ own _ => own
  | submitFinalScore =>
      apply keeps_map.mpr
      exact submitFinalScore_private isolated coherent fun rows _ _ own _ => own
  | claimSessionReward =>
      apply keeps_map.mpr
      exact claimSessionReward_private isolated fun row _ _ own _ => own

/-- Every operation of an owner works on the rows of that owner. -/
theorem operate_private (consistent : Consistent env calls db) (coherent : Coherent db)
    {operation : Operation} (owned : operation.OwnedBy owner) :
    Private owner db
      (fun answer _ => FingerprintsApart env db operation → answer.BelongsTo owner db)
      (operate env operation) db := by
  have isolated := Isolated.start consistent.keys owner
  cases operation with
  | request call =>
      obtain rfl : call.ownerId = owner := owned
      apply keeps_map.mpr
      exact body_private consistent coherent call
  | retrieveFairnessProof outcomeId ownerId =>
      obtain rfl : ownerId = owner := owned
      apply keeps_map.mpr
      exact retrieveFairnessProof_private isolated coherent fun _ belongs _ => belongs
  | verifyFairnessProof fuel outcomeId ownerId =>
      obtain rfl : ownerId = owner := owned
      apply keeps_map.mpr
      exact verifyFairnessProof_private isolated coherent fun _ belongs _ => belongs
  | retrieveOutcomeAudit outcomeId ownerId =>
      obtain rfl : ownerId = owner := owned
      apply keeps_map.mpr
      apply keeps_bind.mpr
      apply ownedOutcome_private isolated coherent
      intro owned _ own
      simp only [getOutcomeAudit, keeps_bind, private_read, private_orRaise]
      exact fun audit _ _ => own
  | playerRewards createdAt playerId ownerId limit offset =>
      obtain rfl : ownerId = owner := owned
      apply keeps_map.mpr
      exact playerRewards_private fun _ belong _ => belong
  | settleLeaderboard => exact owned.elim
  | canonicalLeaderboard => exact owned.elim
  | leaderboardProjectionFacts => exact owned.elim
  | canonicalPlayerRank => exact owned.elim

end Calls

/-- In every reachable state a call of one player leaves the rows of every other
player as they are, and returns rows of its own player only. -/
theorem ownership_isolated {env : Platform} {db : Database} {operation : Operation}
    {owner : Uuid} (reachable : ReachableState env db) (owned : operation.OwnedBy owner) :
    OwnershipIsolated env db operation owner := by
  obtain ⟨system, reached, rfl⟩ := reachable
  obtain ⟨⟨calls, consistent⟩, ledger⟩ := (platform_sound reached).inv
  have isPrivate := operate_private consistent (consistent.coherent ledger) owned
  have isolated := Isolated.start consistent.keys owner
  constructor
  case others =>
    intro times result final ran
    exact (isPrivate.run isolated isolated ran).1.others
  case returned =>
    intro apart times answer final ran
    obtain ⟨_, _, belongs⟩ := (isPrivate.run isolated isolated ran).2 answer rfl
    exact belongs apart

/-- Another player asks for the reward of a claimed round: it is refused, and the
rows of the round stay. -/
theorem ownership_isolated_foreign :
    (playerRowsOf 1 Sample.claimedSpin.db).rewards.map Reward.status = [.claimed] ∧
      OwnershipIsolated Sample.platform Sample.claimedSpin.db
        (.request (.claimSessionReward 32 9)) 9 := by
  obtain ⟨-, row, isRow, owner, status, -⟩ := Sample.claimedSpin_rows
  constructor
  · simp [playerRowsOf, isRow, owner, status]
  · exact ownership_isolated ⟨_, Sample.claimedSpin_reachable, rfl⟩ rfl

end RngGamePlatform
