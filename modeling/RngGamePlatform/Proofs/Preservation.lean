/-
Module: RngGamePlatform.Proofs.Preservation
Purpose: Every effect of a request keeps the invariant of the committed tables.
Trusted boundary: none
Main exports: Ends, Effect.keys, Effect.moves, Rounds.step, Effect.rounds
-/
import RngGamePlatform.Proofs.Invariant
import RngGamePlatform.Proofs.PlaySpecs
import RngGamePlatform.Proofs.ScoreSpecs

namespace RngGamePlatform

open Encoding Relational Transactions

variable {env : Platform} {call : Call} {calls : List Call} {db db' : Database}

section Shape

/-- An active session and its row after its end. -/
structure Ends (db : Database) (row ended : GameSession) : Prop where
  found : sessionById row.id db = some row
  active : row.status = .active
  same : SameRound row ended
  notActive : ended.status ≠ .active

namespace Ends

variable {row ended : GameSession}

theorem endedAs {status : SessionStatus} {proofStatus : FairnessProofStatus}
    {now : Int} (kind : EndStatus status proofStatus)
    (found : sessionById row.id db = some row) (active : row.status = .active) :
    Ends db row (endedAs row status now) :=
  ⟨found, active, endedAs_sameRound row status now, kind.session_ne⟩

theorem completed {now : Int} (found : sessionById row.id db = some row)
    (active : row.status = .active) : Ends db row (completed row now) :=
  ⟨found, active, endedAs_sameRound row .completed now, nofun⟩

theorem id (ends : Ends db row ended) : ended.id = row.id := ends.same.id

theorem lookup_self (ends : Ends db row ended) :
    lookup GameSession.id row.id (replace GameSession.id ended db.sessions) =
      some ended := by
  rw [← ends.id]
  exact lookup_replace (ends.id ▸ ends.found) ends.id.symm fun _ _ same => same

theorem lookup_of_ne (ends : Ends db row ended) {other : Uuid}
    (different : other ≠ row.id) :
    lookup GameSession.id other (replace GameSession.id ended db.sessions) =
      sessionById other db :=
  lookup_replace_of_ne (fun _ _ same => same)
    fun same => different (same.symm.trans ends.id)

/-- A row with the id of the session is the session. -/
theorem only (ends : Ends db row ended) (unique : Unique GameSession.id db.sessions)
    {old : GameSession} (member : old ∈ db.sessions) (same : old.id = ended.id) :
    old = row :=
  unique.eq member (lookup_mem ends.found) (same.trans ends.id)

end Ends

/-- The tables after a reveal. -/
theorem reveal_result {outcome : Outcome} {reward : Reward}
    {revealed : FairnessProof} {event : FairnessProofEvent} {row : GameSession}
    {playerId : Uuid} {gameKey : PyStr} {now : Int}
    {first second third : Database}
    (inserted : Database.insertOutcome outcome db = .ok first)
    (rewarded : Database.insertReward reward first = .ok second)
    (written : flushReveal revealed event second = .ok third)
    (finished : flushCompletion (RngGamePlatform.completed row now) outcome reward
      playerId gameKey third = .ok db') :
    db' = afterCompletion (RngGamePlatform.completed row now) outcome reward playerId
      gameKey (afterReveal revealed event
        { db with
          outcomes := db.outcomes ++ [outcome]
          rewards := db.rewards ++ [reward] }) := by
  rcases Database.insertOutcome_ok.mp inserted with ⟨_, rfl⟩
  rcases Database.insertReward_ok.mp rewarded with ⟨_, rfl⟩
  rcases bind_eq_ok.mp written with ⟨middle, updated, chained⟩
  rcases Database.updateProof_ok.mp updated with ⟨_, rfl⟩
  rcases Database.insertEvent_ok.mp chained with ⟨_, rfl⟩
  rcases flushCompletion_ok.mp finished with ⟨_, rfl⟩
  rfl

/-- The tables after a direct play. -/
theorem play_result {outcome : Outcome} {reward : Reward} {row : GameSession}
    {playerId : Uuid} {gameKey : PyStr} {now : Int} {first second : Database}
    (inserted : Database.insertOutcome outcome db = .ok first)
    (rewarded : Database.insertReward reward first = .ok second)
    (finished : flushCompletion (RngGamePlatform.completed row now) outcome reward
      playerId gameKey second = .ok db') :
    db' = afterCompletion (RngGamePlatform.completed row now) outcome reward playerId
      gameKey { db with
        outcomes := db.outcomes ++ [outcome]
        rewards := db.rewards ++ [reward] } := by
  rcases Database.insertOutcome_ok.mp inserted with ⟨_, rfl⟩
  rcases Database.insertReward_ok.mp rewarded with ⟨_, rfl⟩
  rcases flushCompletion_ok.mp finished with ⟨_, rfl⟩
  rfl

end Shape

section Keys

theorem Ends.sessionIds {row ended : GameSession} (_ : Ends db row ended)
    (keys : Keys db) :
    Unique GameSession.id (replace GameSession.id ended db.sessions) :=
  keys.sessionIds.replace fun _ _ same => same

theorem Ends.sessionRequests {row ended : GameSession} (ends : Ends db row ended)
    (keys : Keys db) :
    Unique GameSession.requestId (replace GameSession.id ended db.sessions) := by
  refine keys.sessionRequests.replace fun old member same => ?_
  rw [ends.only keys.sessionIds member same, ends.same]

/-- A reward of an outcome without one. -/
theorem rewardOutcomes_append {rewards : List Reward} {reward : Reward}
    (unique : ∀ one ∈ rewards, ∀ other ∈ rewards,
      one.outcomeId ≠ none → one.outcomeId = other.outcomeId → one = other)
    (absent : reward.outcomeId = none ∨
      lookup Reward.outcomeId reward.outcomeId rewards = none) :
    ∀ one ∈ rewards ++ [reward], ∀ other ∈ rewards ++ [reward],
      one.outcomeId ≠ none → one.outcomeId = other.outcomeId → one = other := by
  have apart : ∀ old ∈ rewards, old.outcomeId ≠ none →
      old.outcomeId ≠ reward.outcomeId := by
    intro old member isSome same
    rcases absent with isNone | absent
    · exact isSome (same.trans isNone)
    · exact lookup_none.mp absent old member same
  intro one inOne other inOther isSome same
  rcases List.mem_append.mp inOne with oldOne | newOne
  · rcases List.mem_append.mp inOther with oldOther | newOther
    · exact unique one oldOne other oldOther isSome same
    · rw [List.mem_singleton.mp newOther] at same
      exact absurd same (apart one oldOne isSome)
  · rcases List.mem_append.mp inOther with oldOther | newOther
    · rw [List.mem_singleton.mp newOne] at same isSome
      exact absurd same.symm (apart other oldOther (same ▸ isSome))
    · rw [List.mem_singleton.mp newOne, List.mem_singleton.mp newOther]

theorem rewardOutcomes_replace {old new : Reward} (keys : Keys db)
    (member : old ∈ db.rewards) (sameId : new.id = old.id)
    (sameOutcome : new.outcomeId = old.outcomeId) :
    ∀ one ∈ replace Reward.id new db.rewards,
      ∀ other ∈ replace Reward.id new db.rewards,
      one.outcomeId ≠ none → one.outcomeId = other.outcomeId → one = other := by
  intro one inOne other inOther isSome same
  rcases mem_replace inOne with rfl | ⟨oldOne, differs⟩
  · rcases mem_replace inOther with rfl | ⟨oldOther, differs'⟩
    · rfl
    · rw [sameOutcome] at isSome same
      have isOther := keys.rewardOutcomes old member other oldOther isSome same
      exact absurd (isOther ▸ sameId.symm) differs'
  · rcases mem_replace inOther with rfl | ⟨oldOther, _⟩
    · rw [sameOutcome] at same
      have isOne := keys.rewardOutcomes one oldOne old member isSome same
      exact absurd (isOne ▸ sameId.symm) differs
    · exact keys.rewardOutcomes one oldOne other oldOther isSome same

theorem rewardBySession_mem {sessionId : Uuid} {pair : Outcome × Reward}
    (found : rewardBySession sessionId db = some pair) : pair.2 ∈ db.rewards := by
  simp only [rewardBySession, Option.bind_eq_bind, Option.bind_eq_some_iff] at found
  rcases found with ⟨outcome, _, reward, foundReward, isPair⟩
  cases isPair
  exact lookup_mem foundReward

theorem sessionById_self {id : Uuid} {row : GameSession}
    (found : sessionById id db = some row) : sessionById row.id db = some row :=
  (sessionById_id found).symm ▸ found

/-- The keys after the rows of a play are inserted. -/
theorem Keys.rows {outcome : Outcome} {reward : Reward} {first second : Database}
    (keys : Keys db) (inserted : Database.insertOutcome outcome db = .ok first)
    (rewarded : Database.insertReward reward first = .ok second) : Keys second := by
  rcases Database.insertOutcome_ok.mp inserted with ⟨⟨newId, newSession⟩, rfl⟩
  rcases Database.insertReward_ok.mp rewarded with
    ⟨⟨_, newReward, newOutcome, _⟩, rfl⟩
  exact
    { keys with
      outcomeIds := keys.outcomeIds.append (lookup_none.mp newId)
      outcomeSessions := keys.outcomeSessions.append (lookup_none.mp newSession)
      rewardIds := keys.rewardIds.append (lookup_none.mp newReward)
      rewardOutcomes := rewardOutcomes_append keys.rewardOutcomes newOutcome }

theorem Keys.proofReplaced {old new : FairnessProof} (keys : Keys db)
    (member : old ∈ db.proofs) (sameId : new.id = old.id)
    (sameSession : new.sessionId = old.sessionId) :
    Unique FairnessProof.sessionId (replace FairnessProof.id new db.proofs) := by
  refine keys.proofSessions.replace fun other inProofs isSame => ?_
  rw [keys.proofIds.eq inProofs member (isSame.trans sameId), sameSession]

/-- Every effect keeps the keys. -/
theorem Effect.keys (keys : Keys db) (effect : Effect env call db db') : Keys db' := by
  cases effect with
  | endAlone kind found active noneCommitted written =>
      rcases Database.updateSession_ok.mp written with ⟨_, rfl⟩
      exact { keys with
        sessionIds := (Ends.endedAs kind found active).sessionIds keys
        sessionRequests := (Ends.endedAs kind found active).sessionRequests keys }
  | endWithProof kind found active bound committed latest written =>
      have result := Runs.flushTermination_result written
      subst result
      exact { keys with
        sessionIds := (Ends.endedAs kind found active).sessionIds keys
        sessionRequests := (Ends.endedAs kind found active).sessionRequests keys
        proofIds := keys.proofIds.replace fun _ _ same => same
        proofSessions := keys.proofReplaced (lookup_mem bound) rfl rfl }
  | create isCall foundPlayer foundGame isRules isRow inserted evidence =>
      rcases Database.insertSession_ok.mp inserted with ⟨⟨newId, newRequest, _⟩, rfl⟩
      rcases insertEvidence_ok.mp evidence with ⟨_, rfl⟩
      exact { keys with
        sessionIds := keys.sessionIds.append (lookup_none.mp newId)
        sessionRequests := keys.sessionRequests.append (lookup_none.mp newRequest) }
  | commit isCall found active owner foundGame foundConfig belongs unbound mapped
      hashed isProof inserted kept chained =>
      rcases Database.insertProof_ok.mp inserted with ⟨⟨newId, newSession, _⟩, rfl⟩
      rcases Database.insertCustody_ok.mp kept with ⟨_, rfl⟩
      rcases Database.insertEvent_ok.mp chained with ⟨_, rfl⟩
      exact { keys with
        proofIds := keys.proofIds.append (lookup_none.mp newId)
        proofSessions := keys.proofSessions.append (lookup_none.mp newSession) }
  | reveal isCall found active foundProof committed owner foundGame foundConfig
      foundCustody mapped derived isOutcome isReward isRevealed latest inserted
      rewarded written finished =>
      have rows := keys.rows inserted rewarded
      rcases Database.insertOutcome_ok.mp inserted with ⟨_, rfl⟩
      rcases Database.insertReward_ok.mp rewarded with ⟨_, rfl⟩
      have result := reveal_result inserted rewarded written finished
      subst result isRevealed
      have here := sessionById_self found
      exact { rows with
        sessionIds := (Ends.completed here active).sessionIds keys
        sessionRequests := (Ends.completed here active).sessionRequests keys
        proofIds := keys.proofIds.replace fun _ _ same => same
        proofSessions := keys.proofReplaced (lookup_mem foundProof) rfl rfl }
  | play isCall found active owner foundGame isRules direct foundConfig belongs
      evaluated isOutcome isReward inserted rewarded finished =>
      have rows := keys.rows inserted rewarded
      rcases Database.insertOutcome_ok.mp inserted with ⟨_, rfl⟩
      rcases Database.insertReward_ok.mp rewarded with ⟨_, rfl⟩
      have result := play_result inserted rewarded finished
      subst result
      exact { rows with
        sessionIds := (Ends.completed found active).sessionIds keys
        sessionRequests := (Ends.completed found active).sessionRequests keys }
  | score isCall found owner isCompleted ended foundGame isRules foundOutcome
      foundConfig scored isRow inserted evidence =>
      rcases Database.insertScore_ok.mp inserted with ⟨⟨_, newSession, _⟩, rfl⟩
      rcases insertEvidence_ok.mp evidence with ⟨_, rfl⟩
      exact { keys with
        scoreSessions := keys.scoreSessions.append (lookup_none.mp newSession) }
  | claim found issued written =>
      rcases bind_eq_ok.mp written with ⟨middle, updated, evidence⟩
      cases updated
      rcases insertEvidence_ok.mp evidence with ⟨_, rfl⟩
      exact { keys with
        rewardIds := keys.rewardIds.replace fun _ _ same => same
        rewardOutcomes := rewardOutcomes_replace keys (rewardBySession_mem found)
          rfl rfl }

end Keys

section Moves

/-- The moves of a session that ends, under its lock. -/
theorem Ends.step {row ended : GameSession} {held : List Lock}
    (ends : Ends db row ended) (keys : Keys db)
    (mine : forUpdate (.session row.id) ∈ held) :
    ∀ old ∈ db.sessions, old.id = ended.id → SessionStep held old ended := by
  intro old member same
  rw [ends.only keys.sessionIds member same]
  exact Or.inr ⟨mine, ends.active, ends.notActive, ends.same⟩

/-- The end of a session with its committed proof. -/
theorem Moves.terminated {gameSession : GameSession} {proof : FairnessProof}
    {status : SessionStatus} {proofStatus : FairnessProofStatus} {previous : FairnessProofEvent}
    {now : Int} (keys : Keys db) (kind : EndStatus status proofStatus)
    (found : sessionById gameSession.id db = some gameSession)
    (active : gameSession.status = .active)
    (bound : proofBySession gameSession.id db = some proof) (committed : proof.status = .committed)
    (written : flushTermination (endedAs gameSession status now) (proof.withStatus proofStatus)
      (terminalEvent env.crypto (proof.withStatus proofStatus) previous now) db = .ok db') :
    ∃ held, Moves held db db' := by
  rcases Runs.flushTermination_ok.mp written with
    ⟨first, second, updated, changed, inserted⟩
  have ofSession : proof.sessionId = gameSession.id := lookup_key bound
  rcases Database.updateProof_ok.mp changed with ⟨⟨_, _, checks⟩, _⟩
  refine ⟨[forUpdate (.session gameSession.id), forUpdate (.proof proof.id)],
    ((Moves.updateSession updated
      ((Ends.endedAs kind found active).step keys (by simp))).trans
      (Moves.updateProof changed ?_)).trans
      ((Moves.deleteCustody (by simp [FairnessProof.withStatus])).trans
        (Moves.insertEvent inserted
          (by simp [terminalEvent, FairnessProof.withStatus])))⟩
  rcases Database.updateSession_ok.mp updated with ⟨_, rfl⟩
  intro old member same
  rw [keys.proofIds.eq member (lookup_mem bound) same]
  refine Or.inr ⟨by simp [ofSession], by simp, committed, kind.proof_ne.1,
    ⟨rfl, rfl, rfl⟩, fun outcome isSome => ?_⟩
  cases (unrevealed_outcome kind checks).symm.trans isSome

/-- The locks of a new outcome and of its reward. -/
def playLocks (outcome : Outcome) (reward : Reward) : List Lock :=
  [forUpdate (.session outcome.sessionId), forUpdate (.outcome outcome.id),
    forUpdate (.player outcome.playerId), forUpdate (.reward reward.id),
    forUpdate (.player reward.playerId)]

theorem playLocked {outcome : Outcome} {reward : Reward} {held : List Lock}
    (locks : playLocks outcome reward ⊆ held) (isBound : reward.outcomeId = some outcome.id) :
    PlayLocked held outcome reward where
  session := locks (by simp [playLocks])
  player := ⟨.forUpdate, locks (by simp [playLocks, forUpdate])⟩
  ofOutcome := locks (by simp [playLocks])
  ofReward := locks (by simp [playLocks])
  owner := ⟨.forUpdate, locks (by simp [playLocks, forUpdate])⟩
  bound := isBound

/-- The reveal of a committed proof, with the completion of its session. -/
theorem Moves.revealed {gameSession : GameSession} {proof : FairnessProof} {outcome : Outcome}
    {reward : Reward} {clientSeed fingerprint : PyStr} {derivation : DailySpinDerivation}
    {seed : Bytes} {revealed : FairnessProof} {event : FairnessProofEvent} {ownerId : Uuid}
    {gameKey : PyStr} {now : Int} {first second third : Database} (keys : Keys db)
    (found : sessionById gameSession.id db = some gameSession)
    (active : gameSession.status = .active) (foundProof : proofById proof.id db = some proof)
    (committed : proof.status = .committed) (isBound : reward.outcomeId = some outcome.id)
    (isRevealed : revealed =
      revealedProof proof outcome.id clientSeed fingerprint derivation seed now)
    (ofProof : event.proofId = revealed.id)
    (inserted : Database.insertOutcome outcome db = .ok first)
    (rewarded : Database.insertReward reward first = .ok second)
    (written : flushReveal revealed event second = .ok third)
    (finished : flushCompletion (completed gameSession now) outcome reward ownerId gameKey
      third = .ok db') : ∃ held, Moves held db db' := by
  have sameId : revealed.id = proof.id := by rw [isRevealed]; rfl
  refine ⟨[forUpdate (.session proof.sessionId), forUpdate (.proof revealed.id),
      forUpdate (.session gameSession.id)] ++ (playLocks outcome reward ++
        completionLocks (completed gameSession now) outcome reward ownerId gameKey),
    (Moves.revealRows (playLocked ?_ isBound) inserted rewarded written ofProof (by simp)
      (Or.inr ⟨by simp, by simp [sameId], committed, by simp [isRevealed, revealedProof],
        by rw [isRevealed]; exact ⟨rfl, rfl, rfl⟩, ?_⟩) ?_).trans
      (Moves.completion finished (by simp) ?_ active ?_)⟩
  · exact fun lock member => List.mem_append_right _ (List.mem_append_left _ member)
  · intro other isOther
    rw [isRevealed] at isOther
    cases isOther
    simp [playLocks]
  · intro old member same
    exact keys.proofIds.eq member (lookup_mem foundProof) (same.trans sameId)
  · exact fun lock member => List.mem_append_right _ (List.mem_append_right _ member)
  · rcases Database.insertOutcome_ok.mp inserted with ⟨_, rfl⟩
    rcases Database.insertReward_ok.mp rewarded with ⟨_, rfl⟩
    rcases bind_eq_ok.mp written with ⟨middle, updated, chained⟩
    rcases Database.updateProof_ok.mp updated with ⟨_, rfl⟩
    rcases Database.insertEvent_ok.mp chained with ⟨_, rfl⟩
    intro old member same
    exact keys.sessionIds.eq member (lookup_mem found) same

/-- A direct play, with the completion of its session. -/
theorem Moves.played {gameSession : GameSession} {outcome : Outcome} {reward : Reward}
    {ownerId : Uuid} {gameKey : PyStr} {now : Int} {first second : Database} (keys : Keys db)
    (found : sessionById gameSession.id db = some gameSession)
    (active : gameSession.status = .active) (isBound : reward.outcomeId = some outcome.id)
    (inserted : Database.insertOutcome outcome db = .ok first)
    (rewarded : Database.insertReward reward first = .ok second)
    (finished : flushCompletion (completed gameSession now) outcome reward ownerId gameKey
      second = .ok db') : ∃ held, Moves held db db' := by
  refine ⟨forUpdate (.session gameSession.id) :: (playLocks outcome reward ++
      completionLocks (completed gameSession now) outcome reward ownerId gameKey),
    (Moves.playRows (playLocked ?_ isBound) inserted rewarded).trans
      (Moves.completion finished (by simp) ?_ active ?_)⟩
  · exact fun lock member => List.mem_cons_of_mem _ (List.mem_append_left _ member)
  · exact fun lock member => List.mem_cons_of_mem _ (List.mem_append_right _ member)
  · rcases Database.insertOutcome_ok.mp inserted with ⟨_, rfl⟩
    rcases Database.insertReward_ok.mp rewarded with ⟨_, rfl⟩
    intro old member same
    exact keys.sessionIds.eq member (lookup_mem found) same

/-- Every effect is one of the moves that some locks allow. -/
theorem Effect.moves (keys : Keys db) (effect : Effect env call db db') :
    ∃ held, Moves held db db' := by
  cases effect with
  | @endAlone gameSession status proofStatus now kind found active _ written =>
      exact ⟨[forUpdate (.session gameSession.id)], Moves.updateSession written
        ((Ends.endedAs kind found active).step keys (by simp))⟩
  | @endWithProof gameSession proof previous status proofStatus now kind found active
      bound committed latest written =>
      exact Moves.terminated keys kind found active bound committed written
  | @create requestId playerId ownerId gameKey draw player game config payload rules
      challenge startedAt now row middle isCall _ _ _ isRow inserted evidence =>
      exact ⟨[forUpdate (.session row.id), forUpdate (.player row.playerId),
          forUpdate (.advisory (requestLockKey row.requestId)),
          forUpdate (.analytics (sessionStartedEvent row game.key).eventKey)],
        (Moves.insertSession inserted (by simp [SessionFresh])).trans
          (Moves.insertEvidence evidence (by simp))⟩
  | @commit gameSession game config ownerId draw bands digest proof now middle last
      isCall found active owner foundGame foundConfig belongs unbound mapped hashed
      isProof inserted kept chained =>
      refine ⟨[forUpdate (.session proof.sessionId), forUpdate (.proof proof.id)],
        ((Moves.insertProof inserted ⟨by simp, by simp, fun outcome isSome => ?_⟩).trans
          (Moves.insertCustody kept (by simp))).trans
          (Moves.insertEvent chained (by simp [commitEvent]))⟩
      rw [isProof] at isSome
      cases isSome
  | @reveal gameSession proof revealed game config custody bands ownerId clientSeed
      draw derivation outcome reward previous now first second third isCall found
      active foundProof committed owner foundGame foundConfig foundCustody mapped
      derived isOutcome isReward isRevealed latest inserted rewarded written
      finished =>
      exact Moves.revealed keys (sessionById_self found) active foundProof committed
        (by rw [isReward]; rfl) isRevealed rfl inserted rewarded written finished
  | @play gameSession game config rules ownerId intent provider draw result value
      outcome reward now first second isCall found active owner foundGame isRules
      direct foundConfig belongs evaluated isOutcome isReward inserted rewarded
      finished =>
      exact Moves.played keys found active (by rw [isReward]; rfl) inserted rewarded finished
  | @score gameSession game outcome config rules ownerId scoreId endedAt value row
      middle isCall found owner isCompleted ended foundGame isRules foundOutcome
      foundConfig scored isRow inserted evidence =>
      exact ⟨[forUpdate (.session row.sessionId), forUpdate (.score row.id),
          forUpdate (.player row.playerId),
          forNoKeyUpdate (.revision row.gameId row.periodStart),
          forUpdate (.analytics (scoreEvent row game.key).eventKey)],
        (Moves.insertScore inserted
          ⟨by simp, by simp, .forUpdate, by simp [forUpdate]⟩ (by simp)).trans
          (Moves.insertEvidence evidence (by simp))⟩
  | @claim sessionId outcome reward gameKey now found issued written =>
      rcases bind_eq_ok.mp written with ⟨middle, updated, evidence⟩
      refine ⟨[forUpdate (.reward reward.id), forUpdate (.player reward.playerId),
          forUpdate (.analytics (rewardEvent
            { reward with status := .claimed, claimedAt := some now }
            (py "reward_claimed") gameKey).eventKey)],
        (Moves.updateReward updated ?_).trans (Moves.insertEvidence evidence (by simp))⟩
      intro old member same
      have isReward := keys.rewardIds.eq member (rewardBySession_mem found) same
      subst isReward
      exact Or.inr ⟨by simp, ⟨.forUpdate, by simp [forUpdate]⟩, rfl⟩

end Moves

section Rounds

/-- What the rows that a change adds or rewrites refer to. -/
structure NewRows (db db' : Database) : Prop where
  events : ∀ event ∈ db'.events, event ∈ db.events ∨
    ∃ proof, proofById event.proofId db' = some proof
  outcomes : ∀ outcome ∈ db'.outcomes, outcome ∈ db.outcomes ∨
    (∃ gameSession, sessionById outcome.sessionId db' = some gameSession ∧
      gameSession.status = .completed ∧ gameSession.playerId = outcome.playerId) ∧
    ∃ reward, rewardByOutcome outcome.id db' = some reward ∧
      reward.playerId = outcome.playerId
  completions : ∀ row ∈ db'.sessions, row.status = .completed →
    row ∈ db.sessions ∨ ∃ outcome, outcomeBySession row.id db' = some outcome
  scores : ∀ score ∈ db'.scores, score ∈ db.scores ∨
    ∃ outcome, outcomeBySession score.sessionId db' = some outcome ∧
      outcome.playerId = score.playerId
  active : ∀ row ∈ db'.sessions, row.status = .active → row ∈ db.sessions ∨
    ∀ other ∈ db'.sessions, other.status = .active →
      other.playerId = row.playerId → other.gameId = row.gameId → other = row

/-- References that hold before a change hold after it. -/
theorem Rounds.step {held : List Lock} (rounds : Rounds db)
    (moves : Moves held db db') (new : NewRows db db') : Rounds db' where
  activeOnce := by
    intro one inOne other inOther activeOne activeOther ofPlayer ofGame
    rcases new.active one inOne activeOne with oldOne | onlyOne
    · rcases new.active other inOther activeOther with oldOther | onlyOther
      · exact rounds.activeOnce one oldOne other oldOther activeOne activeOther
          ofPlayer ofGame
      · exact onlyOther one inOne activeOne ofPlayer ofGame
    · exact (onlyOne other inOther activeOther ofPlayer.symm ofGame.symm).symm
  eventOf := by
    intro event member
    rcases new.events event member with old | found
    · rcases rounds.eventOf event old with ⟨proof, found⟩
      rcases moves.proofs.lookup_some (fun _ _ step => step.same.1) found with
        ⟨proof', found', _⟩
      exact ⟨proof', found'⟩
    · exact found
  outcomeOf := by
    intro outcome member
    rcases new.outcomes outcome member with old | ⟨found, _⟩
    · rcases rounds.outcomeOf outcome old with ⟨row, found, isCompleted, owner⟩
      rcases moves.session_some found with ⟨row', found', step⟩
      have same : row' = row := step.ended (by rw [isCompleted]; decide)
      exact ⟨row', found', same ▸ isCompleted, same ▸ owner⟩
    · exact found
  completedOf := by
    intro row member isCompleted
    rcases new.completions row member isCompleted with old | found
    · rcases rounds.completedOf row old isCompleted with ⟨outcome, found⟩
      exact ⟨outcome, moves.outcomeBySession_some found⟩
    · exact found
  rewardOf := by
    intro outcome member
    rcases new.outcomes outcome member with old | ⟨_, found⟩
    · rcases rounds.rewardOf outcome old with ⟨reward, found, owner⟩
      rcases moves.rewards.lookup_some (fun _ _ step => step.outcomeId) found with
        ⟨reward', found', step⟩
      exact ⟨reward', found', step.playerId.trans owner⟩
    · exact found
  scoreOf := by
    intro score member
    rcases new.scores score member with old | found
    · rcases rounds.scoreOf score old with ⟨outcome, found, owner⟩
      exact ⟨outcome, moves.outcomeBySession_some found, owner⟩
    · exact found

/-- Among the sessions after an end, the active ones were there before. -/
theorem Ends.active_source {row ended other : GameSession}
    (ends : Ends db row ended)
    (member : other ∈ replace GameSession.id ended db.sessions)
    (active : other.status = .active) : other ∈ db.sessions := by
  rcases mem_replace member with rfl | ⟨inDb, _⟩
  · exact absurd active ends.notActive
  · exact inDb

theorem proofById_replace {id : Uuid} {old new : FairnessProof}
    {proofs : List FairnessProof}
    (found : lookup FairnessProof.id id proofs = some old) (isNew : new.id = id) :
    lookup FairnessProof.id id (replace FairnessProof.id new proofs) = some new := by
  subst isNew
  exact lookup_replace found (lookup_key found) fun _ _ same => same

/-- The rows of a play are found afterwards. -/
theorem playRows_found {outcome : Outcome} {reward : Reward} {first second : Database}
    (isBound : reward.outcomeId = some outcome.id)
    (inserted : Database.insertOutcome outcome db = .ok first)
    (rewarded : Database.insertReward reward first = .ok second)
    (outcomes : db'.outcomes = db.outcomes ++ [outcome])
    (rewards : db'.rewards = db.rewards ++ [reward]) :
    outcomeById outcome.id db' = some outcome ∧
      outcomeBySession outcome.sessionId db' = some outcome ∧
        rewardByOutcome outcome.id db' = some reward := by
  rcases Database.insertOutcome_ok.mp inserted with ⟨⟨newId, newSession⟩, rfl⟩
  rcases Database.insertReward_ok.mp rewarded with ⟨⟨_, _, newOutcome, _⟩, _⟩
  have absent : lookup Reward.outcomeId reward.outcomeId db.rewards = none := by
    rcases newOutcome with isNone | absent
    · cases isBound.symm.trans isNone
    · exact absent
  refine ⟨?_, ?_, ?_⟩
  · rw [outcomeById, outcomes]
    exact lookup_append_self newId
  · rw [outcomeBySession, outcomes]
    exact lookup_append_self newSession
  · rw [rewardByOutcome, rewards, ← isBound]
    exact lookup_append_self absent

/-- The rows of a play that the tables now refer to. -/
theorem NewRows.play {row : GameSession} {outcome : Outcome} {reward : Reward}
    {now : Int} {first second : Database}
    (found : sessionById row.id db = some row) (active : row.status = .active)
    (ofSession : outcome.sessionId = row.id)
    (isBound : reward.outcomeId = some outcome.id)
    (owner : row.playerId = outcome.playerId)
    (rewardOwner : reward.playerId = outcome.playerId)
    (inserted : Database.insertOutcome outcome db = .ok first)
    (rewarded : Database.insertReward reward first = .ok second)
    (sessions : db'.sessions =
      replace GameSession.id (completed row now) db.sessions)
    (outcomes : db'.outcomes = db.outcomes ++ [outcome])
    (rewards : db'.rewards = db.rewards ++ [reward])
    (scores : db'.scores = db.scores)
    (events : ∀ event ∈ db'.events, event ∈ db.events ∨
      ∃ proof, proofById event.proofId db' = some proof) : NewRows db db' where
  events := events
  scores := fun score member => Or.inl (scores ▸ member)
  active := fun other member isActive => Or.inl
    ((Ends.completed found active).active_source (sessions ▸ member) isActive)
  outcomes := by
    intro other member
    rw [outcomes] at member
    rcases List.mem_append.mp member with old | new
    · exact Or.inl old
    · rw [List.mem_singleton.mp new]
      refine Or.inr ⟨⟨completed row now, ?_, rfl, owner⟩, reward, ?_, rewardOwner⟩
      · rw [sessionById, sessions, ofSession]
        exact (Ends.completed found active).lookup_self
      · exact (playRows_found isBound inserted rewarded outcomes rewards).2.2
  completions := by
    intro other member isCompleted
    rw [sessions] at member
    rcases mem_replace member with rfl | ⟨old, _⟩
    · have stored := (playRows_found isBound inserted rewarded outcomes rewards).2.1
      rw [ofSession] at stored
      exact Or.inr ⟨outcome, stored⟩
    · exact Or.inl old

/-- A session that ends without an outcome; its proof may have a new event. -/
theorem NewRows.ended {row ended : GameSession} (ends : Ends db row ended)
    (notCompleted : ended.status ≠ .completed)
    (sessions : db'.sessions = replace GameSession.id ended db.sessions)
    (outcomes : db'.outcomes = db.outcomes) (scores : db'.scores = db.scores)
    (events : ∀ event ∈ db'.events, event ∈ db.events ∨
      ∃ proof, proofById event.proofId db' = some proof) : NewRows db db' where
  events := events
  outcomes := fun outcome member => Or.inl (outcomes ▸ member)
  scores := fun score member => Or.inl (scores ▸ member)
  active := fun other member isActive =>
    Or.inl (ends.active_source (sessions ▸ member) isActive)
  completions := by
    intro other member isCompleted
    rw [sessions] at member
    rcases mem_replace member with rfl | ⟨old, _⟩
    · exact absurd isCompleted notCompleted
    · exact Or.inl old

/-- A new active session, which no other session of its player and game is. -/
theorem NewRows.created {row : GameSession} (isActive : row.status = .active)
    (inserted : Database.insertSession row db = .ok db') : NewRows db db' := by
  rcases Database.insertSession_ok.mp inserted with ⟨⟨newId, _, free, _⟩, rfl⟩
  refine ⟨fun _ => Or.inl, fun _ => Or.inl, ?_, fun _ => Or.inl, ?_⟩
  · intro other member isCompleted
    rcases List.mem_append.mp member with old | new
    · exact Or.inl old
    · rw [List.mem_singleton.mp new, isActive] at isCompleted
      cases isCompleted
  · intro other member _
    rcases List.mem_append.mp member with old | new
    · exact Or.inl old
    · rw [List.mem_singleton.mp new]
      refine Or.inr fun another inAll anotherActive ofPlayer ofGame => ?_
      rcases List.mem_append.mp inAll with old | new'
      · have noneActive := free isActive
        simp only [Database.activeElsewhere, List.any_eq_false,
          decide_eq_true_eq] at noneActive
        exact absurd ⟨lookup_none.mp newId another old, ofPlayer, ofGame,
          anotherActive⟩ (noneActive another old)
      · exact List.mem_singleton.mp new'

/-- A new score, of the outcome of its session. -/
theorem NewRows.scored {score : FinalScore} {outcome : Outcome}
    (foundOutcome : outcomeBySession score.sessionId db = some outcome)
    (owner : outcome.playerId = score.playerId)
    (inserted : Database.insertScore score db = .ok db') : NewRows db db' := by
  rcases Database.insertScore_ok.mp inserted with ⟨_, rfl⟩
  refine ⟨fun _ => Or.inl, fun _ => Or.inl, fun _ member _ => Or.inl member, ?_,
    fun _ member _ => Or.inl member⟩
  intro other member
  rcases List.mem_append.mp member with old | new
  · exact Or.inl old
  · rw [List.mem_singleton.mp new]
    exact Or.inr ⟨_, foundOutcome, owner⟩

/-- Evidence refers to nothing. -/
theorem NewRows.withEvidence {audits : List AuditRecord} {events : List AnalyticsEvent}
    {middle : Database} (new : NewRows db middle)
    (evidence : insertEvidence audits events middle = .ok db') : NewRows db db' := by
  rcases insertEvidence_ok.mp evidence with ⟨_, rfl⟩
  exact ⟨new.events, new.outcomes, new.completions, new.scores, new.active⟩

/-- Every effect keeps the references. -/
theorem Effect.rounds (consistent : Consistent env calls db)
    (effect : Effect env call db db') : Rounds db' := by
  have keys := consistent.keys
  rcases effect.moves keys with ⟨held, moves⟩
  refine consistent.rounds.step moves ?_
  clear moves
  cases effect with
  | endAlone kind found active noneCommitted written =>
      rcases Database.updateSession_ok.mp written with ⟨_, rfl⟩
      exact NewRows.ended (Ends.endedAs kind found active) kind.not_completed rfl rfl rfl
        fun _ => Or.inl
  | endWithProof kind found active bound committed latest written =>
      have foundProof := keys.proofIds.lookup (lookup_mem bound) rfl
      have result := Runs.flushTermination_result written
      subst result
      refine NewRows.ended (Ends.endedAs kind found active) kind.not_completed rfl rfl rfl
        ?_
      intro event member
      rcases List.mem_append.mp member with old | new
      · exact Or.inl old
      · rw [List.mem_singleton.mp new]
        exact Or.inr ⟨_, proofById_replace foundProof rfl⟩
  | create isCall foundPlayer foundGame isRules isRow inserted evidence =>
      exact (NewRows.created (by rw [isRow]; rfl) inserted).withEvidence evidence
  | commit isCall found active owner foundGame foundConfig belongs unbound mapped
      hashed isProof inserted kept chained =>
      rcases Database.insertProof_ok.mp inserted with ⟨⟨newId, _⟩, rfl⟩
      rcases Database.insertCustody_ok.mp kept with ⟨_, rfl⟩
      rcases Database.insertEvent_ok.mp chained with ⟨_, rfl⟩
      refine ⟨?_, fun _ => Or.inl, fun _ member _ => Or.inl member, fun _ => Or.inl,
        fun _ member _ => Or.inl member⟩
      intro event member
      rcases List.mem_append.mp member with old | new
      · exact Or.inl old
      · rw [List.mem_singleton.mp new]
        exact Or.inr ⟨_, lookup_append_self newId⟩
  | reveal isCall found active foundProof committed owner foundGame foundConfig
      foundCustody mapped derived isOutcome isReward isRevealed latest inserted
      rewarded written finished =>
      have result := reveal_result inserted rewarded written finished
      refine NewRows.play (sessionById_self found) active
        (by rw [isOutcome]; rfl) (by rw [isReward]; rfl) (by rw [isOutcome]; rfl)
        ?_ inserted rewarded (by rw [result]; rfl) (by rw [result]; rfl)
        (by rw [result]; rfl) (by rw [result]; rfl) ?_
      · rw [isOutcome, isReward]
        exact owner.symm.trans (consistent.sane.proofOwner _ (lookup_mem foundProof)
          _ found).symm
      subst result
      intro event member
      rcases List.mem_append.mp member with old | new
      · exact Or.inl old
      · rw [List.mem_singleton.mp new, isRevealed]
        exact Or.inr ⟨_, proofById_replace foundProof rfl⟩
  | play isCall found active owner foundGame isRules direct foundConfig belongs
      evaluated isOutcome isReward inserted rewarded finished =>
      have result := play_result inserted rewarded finished
      refine NewRows.play found active (by rw [isOutcome]; rfl)
        (by rw [isReward]; rfl) (by rw [isOutcome]; rfl)
        (by rw [isOutcome, isReward]; exact owner.symm) inserted rewarded
        (by rw [result]; rfl) (by rw [result]; rfl) (by rw [result]; rfl)
        (by rw [result]; rfl) ?_
      subst result
      exact fun _ => Or.inl
  | @score gameSession game outcome config rules ownerId scoreId endedAt value score middle
      isCall found owner isCompleted ended foundGame isRules foundOutcome foundConfig scored
      isRow inserted evidence =>
      rcases consistent.rounds.outcomeOf _ (lookup_mem foundOutcome) with
        ⟨row, foundRow, _, ofPlayer⟩
      rw [lookup_key foundOutcome] at foundRow
      cases found.symm.trans foundRow
      have ofSession : outcomeBySession score.sessionId db = some outcome := by
        rw [isRow]
        exact foundOutcome
      have ofOwner : outcome.playerId = score.playerId := by
        rw [isRow]
        exact ofPlayer.symm.trans owner
      exact (NewRows.scored ofSession ofOwner inserted).withEvidence evidence
  | claim found issued written =>
      rcases bind_eq_ok.mp written with ⟨middle, updated, evidence⟩
      cases updated
      rcases insertEvidence_ok.mp evidence with ⟨_, rfl⟩
      exact ⟨fun _ => Or.inl, fun _ => Or.inl, fun _ member _ => Or.inl member,
        fun _ => Or.inl, fun _ member _ => Or.inl member⟩

end Rounds

end RngGamePlatform
