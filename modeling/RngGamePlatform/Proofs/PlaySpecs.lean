/-
Module: RngGamePlatform.Proofs.PlaySpecs
Purpose: The judgements of the requests that store outcomes and rewards: the
  evaluation of a proof and the direct play of a session.
Trusted boundary: none
Main exports: evaluateFairness_runs, playSession_runs
-/
import RngGamePlatform.Proofs.Answers
import RngGamePlatform.Proofs.SessionSpecs
import RngGamePlatform.Proofs.Stability

namespace RngGamePlatform

open Encoding Relational Transactions

section Stability

variable {held : List Lock} {db db' view view' state : Database}

/-- The state after the completing flush of a play. -/
def afterCompletion (row : GameSession) (outcome : Outcome) (reward : Reward)
    (playerId : Uuid) (gameKey : PyStr) (view : Database) : Database :=
  { view with
    sessions := replace GameSession.id row view.sessions
    audits := view.audits ++ [outcomeAudit outcome playerId gameKey,
      rewardAudit reward (py "reward_issued") gameKey]
    analytics := view.analytics ++ [gamePlayedEvent outcome playerId gameKey,
      rewardEvent reward (py "reward_issued") gameKey] }

theorem completed_eq (row : GameSession) (now : Int) :
    completed row now = endedAs row .completed now := rfl

theorem flushCompletion_ok {row : GameSession} {outcome : Outcome}
    {reward : Reward} {playerId : Uuid} {gameKey : PyStr} {now : Int} :
    flushCompletion (completed row now) outcome reward playerId gameKey db =
        .ok state ↔
      FreshKeys [gamePlayedEvent outcome playerId gameKey,
        rewardEvent reward (py "reward_issued") gameKey] db ∧
      afterCompletion (completed row now) outcome reward playerId gameKey db =
        state := by
  have written : Database.updateSession (endedAs row .completed now) db = _ :=
    updateSession_endedAs (by decide) db
  simp only [flushCompletion, completed_eq, written]
  exact insertEvidence_ok

theorem flushCompletion_stable {row : GameSession} {outcome : Outcome}
    {reward : Reward} {playerId : Uuid} {gameKey : PyStr} {now : Int}
    (others : Others held db db')
    (mine : ∀ lock ∈ completionLocks (completed row now) outcome reward playerId
      gameKey, lock ∈ held)
    (same : view.analytics = db.analytics) (same' : view'.analytics = db'.analytics)
    (succeeds : flushCompletion (completed row now) outcome reward playerId gameKey
      view = .ok state) :
    flushCompletion (completed row now) outcome reward playerId gameKey view' =
      .ok (afterCompletion (completed row now) outcome reward playerId gameKey
        view') := by
  rcases flushCompletion_ok.mp succeeds with ⟨⟨fresh, unique⟩, _⟩
  refine flushCompletion_ok.mpr ⟨⟨fun event member => ?_, unique⟩, rfl⟩
  have absent := fresh event member
  rw [same] at absent
  rw [same']
  refine others.analytics_none (mine _ ?_) absent
  rcases List.mem_pair.mp member with rfl | rfl
  · simp [completionLocks, analyticsLocks]
  · simp [completionLocks, analyticsLocks]

end Stability

section Completion

variable {env : Platform} {duty : Duty} {db : Database} {held : List Lock}

theorem flushCompletion_tolerated (tolerant : duty.Tolerant) {row : GameSession}
    {outcome : Outcome} {reward : Reward} {playerId : Uuid} {gameKey : PyStr}
    {now : Int} {view : Database} {error : ServiceError}
    (fails : flushCompletion (completed row now) outcome reward playerId gameKey
      view = .error error) : duty.fails error := by
  rcases bind_eq_error.mp fails with violated | ⟨_, _, rest⟩
  · rw [completed_eq, updateSession_endedAs (by decide)] at violated
    cases violated
  · exact insertEvidence_tolerated tolerant rest

theorem flushReveal_tolerated (tolerant : duty.Tolerant) {proof old : FairnessProof}
    {event : FairnessProofEvent} {view : Database} {error : ServiceError}
    (found : lookup FairnessProof.id proof.id view.proofs = some old)
    (committed : old.status = .committed) (ended : proof.status ≠ .committed)
    (fails : flushReveal proof event view = .error error) : duty.fails error := by
  rcases bind_eq_error.mp fails with violated | ⟨_, _, rest⟩
  · exact updateProof_tolerated tolerant found committed ended violated
  · exact insertEvent_tolerated tolerant rest

/-- The moves of a completing flush. -/
theorem Moves.completion {row : GameSession} {outcome : Outcome} {reward : Reward}
    {playerId : Uuid} {gameKey : PyStr} {now : Int} {view state : Database}
    (succeeds : flushCompletion (completed row now) outcome reward playerId gameKey
      view = .ok state)
    (mine : forUpdate (.session row.id) ∈ held)
    (locks : ∀ lock ∈ completionLocks (completed row now) outcome reward playerId
      gameKey, lock ∈ held)
    (active : row.status = .active)
    (only : ∀ old ∈ view.sessions, old.id = row.id → old = row) :
    Moves held view state := by
  rcases bind_eq_ok.mp succeeds with ⟨middle, updated, evidence⟩
  refine (Moves.updateSession updated ?_).trans (Moves.insertEvidence evidence ?_)
  · intro old member same
    rw [only old member same]
    exact Or.inr ⟨mine, active, nofun, endedAs_sameRound _ .completed _⟩
  · intro event member
    refine locks _ ?_
    rcases List.mem_pair.mp member with rfl | rfl
    · simp [completionLocks, analyticsLocks]
    · simp [completionLocks, analyticsLocks]

end Completion

namespace Runs

variable {ρ : Type} {duty : Duty} {good : ρ → Phase Database Lock → Prop}
  {db : Database} {held : List Lock} {f : Unit → Prog ρ}

/-- Inserting an outcome under its session's lock. -/
theorem addOutcome {outcome : Outcome} (tolerant : duty.Tolerant)
    (mine : forUpdate (.session outcome.sessionId) ∈ held)
    (rest : Database.insertOutcome outcome db =
        .ok { db with outcomes := db.outcomes ++ [outcome] } →
      ∀ changes held', held ⊆ held' → forUpdate (.outcome outcome.id) ∈ held' →
      Shaped changes (fun db => { db with outcomes := db.outcomes ++ [outcome] }) db
        held' →
      Runs duty good (f ()) db changes held') :
    Runs duty good (RngGamePlatform.addOutcome outcome >>= f) db id held := by
  refine Runs.write (fun db => { db with outcomes := db.outcomes ++ [outcome] })
    (.start db held) (fun _ fails => insertOutcome_tolerated tolerant fails)
    (fun _ inserted _ others => insertOutcome_stable others
      (List.mem_append_right _ mine) (by simp) (by rfl) (by rfl) inserted)
    fun inserted changes shaped => ?_
  exact rest inserted changes _ (List.subset_append_right _ _) (by simp) shaped

/-- Inserting the reward of an outcome that the transaction has inserted. -/
theorem addReward {outcome : Outcome} {rewardId playerId : Uuid} {value : Int}
    {changes : Database → Database} (tolerant : duty.Tolerant)
    (outcomeMine : forUpdate (.outcome outcome.id) ∈ held)
    (shaped : Shaped changes
      (fun db => { db with outcomes := db.outcomes ++ [outcome] }) db held)
    (rest : Database.insertReward (issuedReward outcome rewardId playerId value)
        { db with outcomes := db.outcomes ++ [outcome] } =
        .ok { db with
          outcomes := db.outcomes ++ [outcome]
          rewards := db.rewards ++ [issuedReward outcome rewardId playerId value] } →
      ∀ changes held', held ⊆ held' → forUpdate (.reward rewardId) ∈ held' →
      Shaped changes (fun db => { db with
        outcomes := db.outcomes ++ [outcome]
        rewards := db.rewards ++ [issuedReward outcome rewardId playerId value] }) db
        held' →
      Runs duty good (f ()) db changes held') :
    Runs duty good
      (RngGamePlatform.addReward (issuedReward outcome rewardId playerId value) >>= f)
      db changes held := by
  refine Runs.write (fun db => { db with
      outcomes := db.outcomes ++ [outcome]
      rewards := db.rewards ++ [issuedReward outcome rewardId playerId value] })
    shaped (fun _ fails => insertReward_tolerated tolerant fails)
    (fun _ inserted _ others => insertReward_stable others rfl rfl
      (List.mem_append_right _ outcomeMine) (by simp [issuedReward]) (by rfl) (by rfl)
      inserted)
    fun inserted changes shaped => ?_
  exact rest inserted changes _ (List.subset_append_right _ _)
    (by simp [issuedReward]) shaped

/-- The completing flush of a play. -/
theorem completePlay {row : GameSession} {outcome : Outcome} {reward : Reward}
    {playerId : Uuid} {gameKey : PyStr} {now : Int}
    {changes shift : Database → Database} (tolerant : duty.Tolerant)
    (shaped : Shaped changes shift db held)
    (keeps : ∀ db, (shift db).analytics = db.analytics)
    (rest : flushCompletion (completed row now) outcome reward playerId gameKey
        (shift db) = .ok (afterCompletion (completed row now) outcome reward playerId
          gameKey (shift db)) →
      ∀ changes held', held ⊆ held' →
      (∀ lock ∈ completionLocks (completed row now) outcome reward playerId gameKey,
        lock ∈ held') →
      Shaped changes (fun db => afterCompletion (completed row now) outcome reward
        playerId gameKey (shift db)) db held' →
      Runs duty good (f ()) db changes held') :
    Runs duty good
      (RngGamePlatform.completePlay (completed row now) outcome reward playerId
        gameKey >>= f) db changes held := by
  refine Runs.write (fun db => afterCompletion (completed row now) outcome reward
      playerId gameKey (shift db))
    shaped (fun _ fails => flushCompletion_tolerated tolerant fails)
    (fun _ finished db' others => flushCompletion_stable others
      (fun lock member => List.mem_append_left _ member) (keeps db) (keeps db')
      finished)
    fun finished changes shaped => ?_
  exact rest finished changes _ (List.subset_append_right _ _)
    (fun lock member => List.mem_append_left _ member) shaped

end Runs

section Evaluate

variable {env : Platform} {duty : Duty} {db : Database} {held : List Lock}

/-- The state after the revealing flush. -/
def afterReveal (revealed : FairnessProof) (event : FairnessProofEvent)
    (view : Database) : Database :=
  { view with
    proofs := replace FairnessProof.id revealed view.proofs
    events := view.events ++ [event] }

theorem flushReveal_stable {revealed : FairnessProof} {event : FairnessProofEvent}
    {db' view view' state : Database} (others : Others held db db')
    (proofMine : forUpdate (.proof revealed.id) ∈ held)
    (isProof : event.proofId = revealed.id) (owns : OwnsOutcome held revealed)
    (sameProofs : view.proofs = db.proofs) (sameEvents : view.events = db.events)
    (sameProofs' : view'.proofs = db'.proofs) (sameEvents' : view'.events = db'.events)
    (succeeds : flushReveal revealed event view = .ok state) :
    flushReveal revealed event view' = .ok (afterReveal revealed event view') := by
  rcases bind_eq_ok.mp succeeds with ⟨middle, updated, inserted⟩
  refine bind_eq_ok.mpr
    ⟨_, updateProof_stable others proofMine owns sameProofs sameProofs' updated, ?_⟩
  rcases Database.updateProof_ok.mp updated with ⟨_, rfl⟩
  exact insertEvent_stable others (isProof ▸ proofMine) (by exact sameEvents)
    (by exact sameEvents') inserted

/-- The moves of a revealing flush. -/
theorem Moves.reveal {proof revealed : FairnessProof} {event : FairnessProofEvent}
    {view state : Database}
    (succeeds : flushReveal revealed event view = .ok state)
    (isProof : event.proofId = revealed.id)
    (proofMine : forUpdate (.proof revealed.id) ∈ held)
    (steps : ProofStep held proof revealed)
    (only : ∀ old ∈ view.proofs, old.id = revealed.id → old = proof) :
    Moves held view state := by
  rcases bind_eq_ok.mp succeeds with ⟨middle, updated, inserted⟩
  refine (Moves.updateProof updated fun old member same => ?_).trans
    (Moves.insertEvent inserted (isProof ▸ proofMine))
  rw [only old member same]
  exact steps

/-- The locks under which the outcome of a play and its reward are inserted. -/
structure PlayLocked (held : List Lock) (outcome : Outcome) (reward : Reward) : Prop where
  session : forUpdate (.session outcome.sessionId) ∈ held
  player : Shares held (.player outcome.playerId)
  ofOutcome : forUpdate (.outcome outcome.id) ∈ held
  ofReward : forUpdate (.reward reward.id) ∈ held
  owner : Shares held (.player reward.playerId)
  bound : reward.outcomeId = some outcome.id

section PlayRows

variable {outcome : Outcome} {reward : Reward} {first second third : Database}
  (locked : PlayLocked held outcome reward)
  (inserted : Database.insertOutcome outcome db = .ok first)
  (rewarded : Database.insertReward reward first = .ok second)
include locked inserted rewarded

/-- The outcome of a play and its reward are inserted. -/
theorem Moves.playRows : Moves held db second := by
  apply (Moves.insertOutcome inserted ⟨locked.session, locked.ofOutcome, locked.player⟩).trans
  refine Moves.insertReward rewarded ⟨locked.ofReward, locked.owner, fun other isOther => ?_⟩
  rw [locked.bound] at isOther
  cases isOther
  exact locked.ofOutcome

/-- They are inserted, and their proof is revealed. -/
theorem Moves.revealRows {proof revealed : FairnessProof} {event : FairnessProofEvent}
    (written : flushReveal revealed event second = .ok third)
    (ofProof : event.proofId = revealed.id)
    (proofMine : forUpdate (.proof revealed.id) ∈ held)
    (steps : ProofStep held proof revealed)
    (only : ∀ old ∈ db.proofs, old.id = revealed.id → old = proof) : Moves held db third := by
  apply (Moves.playRows locked inserted rewarded).trans
  apply Moves.reveal written ofProof proofMine steps
  rcases Database.insertOutcome_ok.mp inserted with ⟨_, rfl⟩
  rcases Database.insertReward_ok.mp rewarded with ⟨_, rfl⟩
  exact only

end PlayRows

/-- The completion of a play holds the row of the player. -/
theorem shares_player_of_completion {gameSession : GameSession} {outcome : Outcome}
    {reward : Reward} {playerId : Uuid} {gameKey : PyStr}
    (locks : completionLocks gameSession outcome reward playerId gameKey ⊆ held) :
    Shares held (.player playerId) :=
  ⟨.forKeyShare, locks (by
    simp [completionLocks, analyticsLocks, gamePlayedEvent, forKeyShare])⟩

/-- Writing a reveal under the locks of its session and its proof. -/
theorem storeReveal_runs {good : Outcome × Reward × FairnessProof →
      Phase Database Lock → Prop} {gameSession : GameSession}
    {proof : FairnessProof} {game : Game} {seed : Bytes} {ownerId : Uuid}
    {clientSeed fingerprint : PyStr} {draw : EvaluateDraw}
    {derivation : DailySpinDerivation} {now : Int} (tolerant : duty.Tolerant)
    (sane : Sane db)
    (found : sessionById gameSession.id db = some gameSession)
    (active : gameSession.status = .active)
    (foundProof : proofById proof.id db = some proof)
    (committed : proof.status = .committed)
    (bound : proof.sessionId = gameSession.id)
    (owner : gameSession.playerId = ownerId)
    (mine : forUpdate (.session gameSession.id) ∈ held)
    (proofMine : forUpdate (.proof proof.id) ∈ held)
    (allows : ∀ {outcome reward revealed previous first second third db' held'},
      outcome = revealedOutcome gameSession draw.outcomeId derivation →
      reward = issuedReward outcome draw.rewardId ownerId derivation.reward.value →
      revealed = revealedProof proof outcome.id clientSeed fingerprint derivation
        seed now →
      latestEvent proof.id db = some previous →
      Database.insertOutcome outcome db = .ok first →
      Database.insertReward reward first = .ok second →
      flushReveal revealed (revealedEvent env revealed previous now) second =
        .ok third →
      flushCompletion (completed gameSession now) outcome reward ownerId game.key
        third = .ok db' →
      Moves held' db db' →
      duty.guarantee db db' held' ∧ good (outcome, reward, revealed) (.settled db')) :
    Runs duty good (storeReveal env gameSession proof game seed ownerId clientSeed
      fingerprint draw derivation now) db id held := by
  unfold storeReveal
  simp only
  generalize isOutcome : revealedOutcome gameSession draw.outcomeId derivation =
    outcome
  have ofSession : outcome.sessionId = gameSession.id := by rw [← isOutcome]; rfl
  have ofPlayer : outcome.playerId = ownerId := by rw [← isOutcome]; exact owner
  refine Runs.addOutcome tolerant (ofSession ▸ mine)
    fun inserted changes held₁ subset₁ outcomeMine shaped => ?_
  refine Runs.addReward tolerant outcomeMine shaped
    fun rewarded changes held₂ subset₂ rewardMine shaped => ?_
  generalize isRevealed : revealedProof proof outcome.id clientSeed fingerprint
    derivation seed now = revealed
  have sameId : revealed.id = proof.id := by rw [← isRevealed]; rfl
  refine Runs.lockRowShaped shaped (by simp) fun previous latest => ⟨?_, ?_⟩
  · intro db' others
    simp only [latestEvent, eventsOf] at latest ⊢
    rw [others.events (List.mem_cons_of_mem _ (subset₂ (subset₁ (sameId ▸ proofMine))))]
    exact latest
  have proofDeep : ∀ locks, forUpdate (.proof revealed.id) ∈
      locks ++ (forUpdate (.event previous.proofId previous.sequence) :: held₂) :=
    fun locks => List.mem_append_right _
      (List.mem_cons_of_mem _ (subset₂ (subset₁ (sameId ▸ proofMine))))
  have owns : ∀ locks, OwnsOutcome
      (locks ++ (forUpdate (.event previous.proofId previous.sequence) :: held₂))
      revealed := by
    intro locks other isOther
    rw [← isRevealed] at isOther
    cases isOther
    exact List.mem_append_right _ (List.mem_cons_of_mem _ (subset₂ outcomeMine))
  have ended : revealed.status ≠ .committed := by
    rw [← isRevealed]
    intro same
    cases same
  refine Runs.write (fun db => afterReveal revealed
      (revealedEvent env revealed previous now)
      { db with
        outcomes := db.outcomes ++ [outcome]
        rewards := db.rewards ++
          [issuedReward outcome draw.rewardId ownerId derivation.reward.value] })
    (shaped.mono (List.subset_cons_self _ _))
    (fun _ fails => flushReveal_tolerated tolerant (sameId ▸ foundProof) committed
      ended fails)
    (fun _ written _ others => flushReveal_stable others (proofDeep _) rfl (owns _)
      (by rfl) (by rfl) (by rfl) (by rfl) written)
    fun written changes shaped => ?_
  refine Runs.completePlay tolerant shaped (fun _ => rfl)
    fun finished changes held₃ subset₃ locks shaped => ?_
  have deep : ∀ {lock : Lock}, lock ∈ held₂ → lock ∈ held₃ := fun member =>
    subset₃ (List.mem_append_right _ (List.mem_cons_of_mem _ member))
  have sessionDeep := deep (subset₂ (subset₁ mine))
  have playerDeep := shares_player_of_completion fun _ => locks _
  have locked : PlayLocked held₃ outcome
      (issuedReward outcome draw.rewardId ownerId derivation.reward.value) :=
    ⟨ofSession ▸ sessionDeep, ofPlayer ▸ playerDeep, deep (subset₂ outcomeMine),
      deep rewardMine, playerDeep, rfl⟩
  have steps : ProofStep held₃ proof revealed :=
    Or.inr ⟨bound ▸ sessionDeep, deep (subset₂ (subset₁ proofMine)), committed, ended,
      by rw [← isRevealed]; exact ⟨rfl, rfl, rfl⟩,
      fun other isOther => subset₃ (owns _ other isOther)⟩
  have moves : Moves held₃ db _ :=
    (Moves.revealRows locked inserted rewarded written rfl
      (deep (subset₂ (subset₁ (sameId ▸ proofMine)))) steps fun old member same =>
        sane.proof_eq (lookup_mem foundProof) member (same.trans sameId)).trans
      (Moves.completion finished sessionDeep locks active
        fun old member same => sane.session_eq found member same)
  have granted := allows isOutcome.symm rfl isRevealed.symm (sameId ▸ latest) inserted
    rewarded written finished moves
  refine Runs.commitRet ?_ ?_
  · rw [shaped.here]
    exact granted.1
  · rw [shaped.here]
    exact granted.2

/-- Locking the reward of a session together with its outcome. -/
theorem Runs.lockReward {ρ : Type} {good : ρ → Phase Database Lock → Prop}
    {sessionId : Uuid} {f : Option Reward → Prog ρ}
    (absent : Refused (f none))
    (rest : ∀ pair, rewardBySession sessionId db = some pair →
      ∀ held', held ⊆ held' → forUpdate (.outcome pair.1.id) ∈ held' →
      forUpdate (.reward pair.2.id) ∈ held' →
      Runs duty good (f (some pair.2)) db id held') :
    Runs duty good (lockRewardBySession sessionId >>= f) db id held := by
  unfold lockRewardBySession
  cases found : rewardBySession sessionId db with
  | none =>
      refine Runs.queryRefused ?_
      simpa [found] using absent
  | some pair =>
      refine Meets.query_bind (Or.inr fun db' others => ?_) ?_
      · simp only [id_eq, found] at others ⊢
        rcases others with ⟨held', apart, moves⟩
        rcases moves.rewardBySession_some found with ⟨reward', found', step⟩
        have same : pair.2 = reward' := by
          rcases step with same | ⟨locked, _⟩
          · exact same
          · exact absurd locked
              (not_mem_of_compatible apart (by simp) .forUpdate)
        rw [found', ← same]
        simp
      · simp only [id_eq, found]
        exact rest pair found _ (List.subset_append_right _ _) (by simp) (by simp)

/-- A repeated evaluation changes nothing and returns the stored rows. -/
theorem replayEvaluation_runs {proof : FairnessProof} {ownerId : Uuid}
    {clientSeed : PyStr} {draw : EvaluateDraw}
    (permits : Permits env (.evaluateFairness proof.id ownerId clientSeed draw) db
      duty)
    (foundProof : proofById proof.id db = some proof)
    (revealed : proof.status = .revealed) (owner : proof.playerId = ownerId) :
    Runs duty (fun rows phase => Evaluated env proof.id ownerId clientSeed rows.1
        (entitlementOf rows.2.1) rows.2.2 phase.db)
      (replayEvaluation proof (evaluationFingerprintOf env proof.id clientSeed)) db id
      held := by
  unfold replayEvaluation
  refine Runs.require nofun fun intent => ?_
  refine Runs.orRaise nofun fun outcomeId bound => ?_
  cases foundOutcome : outcomeById outcomeId db with
  | none =>
      refine Runs.queryRefused (Doomed.query_bind fun _ => ?_)
      simp only [id_eq, foundOutcome]
      exact .raise _ nofun
  | some outcome =>
      have isId : outcome.id = outcomeId := lookup_key foundOutcome
      refine Runs.read (fun db' others => ?_) ?_
      · simp only [id_eq, foundOutcome]
        exact others.outcomeById_some foundOutcome
      · simp only [id_eq, foundOutcome]
        refine Runs.lockReward (.raise _ nofun) fun pair foundReward held' _ _ _ => ?_
        refine Runs.commitRet (permits.allows (.unchanged env _ db _)) ?_
        exact
          { stored := foundProof
            revealed := revealed
            owner := owner
            intent := intent
            outcomeStored := isId ▸ foundOutcome
            outcomeBound := isId ▸ bound
            rewarded := ⟨pair.2, by simp [foundReward], rfl⟩ }

/-- The rows of a reveal are found again. -/
theorem evaluated_of_reveal {proof revealed : FairnessProof}
    {gameSession : GameSession} {outcome : Outcome} {reward : Reward}
    {derivation : DailySpinDerivation} {seed : Bytes} {ownerId : Uuid}
    {clientSeed gameKey : PyStr} {draw : EvaluateDraw} {event : FairnessProofEvent}
    {now : Int} {first second third db' : Database}
    (foundProof : proofById proof.id db = some proof)
    (bound : proof.sessionId = gameSession.id) (owner : proof.playerId = ownerId)
    (isOutcome : outcome = revealedOutcome gameSession draw.outcomeId derivation)
    (isReward : reward =
      issuedReward outcome draw.rewardId ownerId derivation.reward.value)
    (isRevealed : revealed = revealedProof proof outcome.id clientSeed
      (evaluationFingerprintOf env proof.id clientSeed) derivation seed now)
    (inserted : Database.insertOutcome outcome db = .ok first)
    (rewarded : Database.insertReward reward first = .ok second)
    (written : flushReveal revealed event second = .ok third)
    (finished : flushCompletion (completed gameSession now) outcome reward ownerId
      gameKey third = .ok db') :
    Evaluated env proof.id ownerId clientSeed outcome (entitlementOf reward) revealed
      db' := by
  rcases Database.insertOutcome_ok.mp inserted with ⟨⟨newId, newSession⟩, rfl⟩
  rcases Database.insertReward_ok.mp rewarded with ⟨⟨_, _, newOutcome, _⟩, rfl⟩
  rcases bind_eq_ok.mp written with ⟨middle, updated, chained⟩
  rcases Database.updateProof_ok.mp updated with ⟨_, rfl⟩
  rcases Database.insertEvent_ok.mp chained with ⟨_, rfl⟩
  rcases flushCompletion_ok.mp finished with ⟨_, rfl⟩
  have ofSession : outcome.sessionId = proof.sessionId := by
    rw [isOutcome, bound]
    rfl
  have isBound : reward.outcomeId = some outcome.id := by rw [isReward]; rfl
  have absent : lookup Reward.outcomeId (some outcome.id) db.rewards = none := by
    rcases newOutcome with isNone | absent
    · exact absurd (isBound.symm.trans isNone) nofun
    · rwa [isBound] at absent
  have foundOutcome : outcomeBySession revealed.sessionId
      { db with outcomes := db.outcomes ++ [outcome] } = some outcome := by
    have same : revealed.sessionId = outcome.sessionId := by
      rw [isRevealed, ofSession]
      rfl
    rw [same]
    exact lookup_append_self newSession
  have foundReward : rewardByOutcome outcome.id
      { db with rewards := db.rewards ++ [reward] } = some reward := by
    rw [← isBound] at absent
    rw [rewardByOutcome, ← isBound]
    exact lookup_append_self absent
  refine
    { stored := ?_
      revealed := by rw [isRevealed]; rfl
      owner := by rw [isRevealed]; exact owner
      intent := by rw [isRevealed]; rfl
      outcomeStored := lookup_append_self newId
      outcomeBound := by rw [isRevealed]; rfl
      rewarded := ⟨reward, ?_, rfl⟩ }
  · have sameId : revealed.id = proof.id := by rw [isRevealed]; rfl
    show lookup FairnessProof.id proof.id
      (replace FairnessProof.id revealed db.proofs) = some revealed
    rw [← sameId]
    exact lookup_replace (sameId ▸ foundProof) sameId.symm fun _ _ same => same
  · simp only [rewardBySession, outcomeBySession, rewardByOutcome, afterCompletion]
      at foundOutcome foundReward ⊢
    simp [foundOutcome, foundReward]

theorem evaluateFairness_runs {proofId ownerId : Uuid} {clientSeed : PyStr}
    {draw : EvaluateDraw}
    (permits : Permits env (.evaluateFairness proofId ownerId clientSeed draw) db duty)
    (sane : Sane db) :
    Runs duty (fun rows phase => Evaluated env proofId ownerId clientSeed rows.1
        (entitlementOf rows.2.1) rows.2.2 phase.db)
      (evaluateFairness env proofId ownerId clientSeed draw) db id [] := by
  unfold evaluateFairness
  refine Runs.readRow nofun fun visible isVisible => ?_
  rcases Option.map_eq_some_iff.mp isVisible with ⟨proof, foundProof, rfl⟩
  have isId : proof.id = proofId := lookup_key foundProof
  subst isId
  refine ⟨fun db' others => ?_, ?_⟩
  · rcases others.proofById_some foundProof with ⟨row', found', same⟩
    simp only [id_eq, found', Option.map_some, same.2.1, same.2.2]
  refine Runs.require nofun fun owner => ?_
  refine Runs.lockedSession fun gameSession found isSession => ?_
  refine Runs.lockRow nofun fun locked isLocked => ?_
  cases foundProof.symm.trans isLocked
  refine ⟨fun db' others => ?_, ?_⟩
  · exact (others.proofById (by simp)).trans foundProof
  have here : sessionById gameSession.id db = some gameSession := isSession ▸ found
  unfold evaluateLocked
  by_cases revealed : proof.status = .revealed
  · rw [if_pos revealed]
    exact replayEvaluation_runs permits foundProof revealed owner
  rw [if_neg revealed]
  refine Runs.clock fun now => ?_
  have bound : proofBySession gameSession.id db = some proof :=
    sane.proofSessions.lookup (lookup_mem foundProof) isSession.symm
  have unanswered : ¬Answered (.evaluateFairness proof.id ownerId clientSeed draw)
      db := by
    rintro ⟨other, foundOther, isRevealed⟩
    cases foundProof.symm.trans foundOther
    exact revealed isRevealed
  refine Runs.finalize permits.toTolerant sane here (by simp)
    (fun row isSome => by cases isSome; exact ⟨bound, by simp⟩) ?_ ?_
  · intro held' subset _
    refine Runs.require nofun fun both => ?_
    refine Runs.readFixed (fun db' others => others.gameById _) ?_
    refine Runs.readFixed (fun db' others => others.configById _) ?_
    refine Runs.readFixed (fun db' others =>
      others.custodyByProof (subset List.mem_cons_self)) ?_
    refine Runs.orRaise nofun fun game foundGame => ?_
    refine Runs.orRaise nofun fun config foundConfig => ?_
    refine Runs.orRaise nofun fun custody foundCustody => ?_
    refine Runs.byRules nofun fun bands mapped => ?_
    refine Runs.ofExcept (fun error fails => ?_) fun derivation derived => ?_
    · unfold evaluationOf at fails
      split at fails <;> cases fails <;> nofun
    have ownerSession : gameSession.playerId = ownerId :=
      (sane.proofOwner proof (lookup_mem foundProof) gameSession found).trans owner
    refine storeReveal_runs permits.toTolerant sane here both.2 foundProof both.1
      isSession.symm ownerSession (subset (by simp)) (subset List.mem_cons_self) ?_
    intro outcome reward revealedRow previous first second third db' final isOutcome
      isReward isRevealed latest inserted rewarded written finished moves
    refine ⟨permits.allows ⟨moves, .one ?_, fun answered =>
      absurd answered unanswered⟩, ?_⟩
    · exact .reveal rfl found both.2 foundProof both.1 owner foundGame foundConfig
        foundCustody mapped derived isOutcome isReward isRevealed latest inserted
        rewarded written finished
    · exact evaluated_of_reveal foundProof isSession.symm owner isOutcome
        isReward isRevealed inserted rewarded written finished
  · intro _ _ changes held' _ terminated
    exact Runs.commitRaise nofun (permits.allows (terminated.guarantee unanswered))

end Evaluate

section Play

variable {env : Platform} {duty : Duty} {db : Database} {held : List Lock}

/-- An accepted prediction stores the choice of its intent. -/
theorem predictionCardEvaluate_choice {schema : Schema} {gameSession : GameSession}
    {config : GameConfigVersion} {intent : PlayIntent} {provider : OutcomeProvider}
    {result : Json}
    (evaluated : predictionCardEvaluate schema gameSession config intent provider =
      .ok result) :
    intent.actions = none ∧ ∃ choice, intent.choice = some choice ∧
      result.get? (py "player_choice") = some (.str choice) := by
  simp only [predictionCardEvaluate, bind_eq_ok] at evaluated
  rcases evaluated with ⟨payload, _, accepted⟩
  cases payload with
  | dailySpin payload => cases accepted
  | skillCheck payload => cases accepted
  | predictionCard payload =>
      simp only at accepted
      cases chosen : intent.choice with
      | none => simp [chosen] at accepted
      | some choice =>
          simp only [chosen] at accepted
          split at accepted
          · cases accepted
          · next legal =>
              simp only [not_or, Bool.not_eq_true, Option.isSome_eq_false_iff,
                Option.isNone_iff_eq_none] at legal
              split at accepted
              · cases accepted
              · cases accepted
                refine ⟨legal.2, choice, rfl, ?_⟩
                rw [Json.get?_object]
                rfl

/-- The stored choice of an accepted prediction matches its own intent. -/
theorem retryMatches_of_predicted {gameSession : GameSession}
    {config : GameConfigVersion} {intent : PlayIntent} {provider : OutcomeProvider}
    {now : Int} {result : Json} {outcomeId : Uuid}
    (evaluated : evaluatePlay env.schema gameSession config intent provider now
      .predictionCard = .ok result) :
    retryMatches (playedOutcome gameSession outcomeId result) intent
      .predictionCard = some true := by
  rcases predictionCardEvaluate_choice evaluated with ⟨noActions, choice, chosen, stored⟩
  simp [retryMatches, playedOutcome, noActions, chosen, stored, Json.ofOption]

/-- Storing the rows of a play under its session lock. -/
theorem storePlay_runs {good : Outcome → Phase Database Lock → Prop}
    {gameSession : GameSession} {game : Game} {config : GameConfigVersion}
    {ownerId : Uuid} {result : Json} {draw : PlayDraw} {now : Int}
    (tolerant : duty.Tolerant) (sane : Sane db)
    (found : sessionById gameSession.id db = some gameSession)
    (active : gameSession.status = .active) (owner : gameSession.playerId = ownerId)
    (mine : forUpdate (.session gameSession.id) ∈ held)
    (allows : ∀ {outcome reward value first second db' held'},
      outcome = playedOutcome gameSession draw.outcomeId result →
      rewardValue env config outcome game.key = .ok value →
      reward = issuedReward outcome draw.rewardId ownerId value →
      Database.insertOutcome outcome db = .ok first →
      Database.insertReward reward first = .ok second →
      flushCompletion (completed gameSession now) outcome reward ownerId game.key
        second = .ok db' →
      Moves held' db db' →
      duty.guarantee db db' held' ∧ good outcome (.settled db')) :
    Runs duty good (storePlay env gameSession game config ownerId result draw now)
      db id held := by
  unfold storePlay
  simp only
  generalize isOutcome : playedOutcome gameSession draw.outcomeId result = outcome
  have ofSession : outcome.sessionId = gameSession.id := by rw [← isOutcome]; rfl
  have ofPlayer : outcome.playerId = ownerId := by rw [← isOutcome]; exact owner
  refine Runs.addOutcome tolerant (ofSession ▸ mine)
    fun inserted changes held₁ subset₁ outcomeMine shaped => ?_
  refine Runs.byRules nofun fun value entitled => ?_
  refine Runs.addReward tolerant outcomeMine shaped
    fun rewarded changes held₂ subset₂ rewardMine shaped => ?_
  refine Runs.completePlay tolerant shaped (fun _ => rfl)
    fun finished changes held₃ subset₃ locks shaped => ?_
  have sessionDeep := subset₃ (subset₂ (subset₁ mine))
  have playerDeep := shares_player_of_completion fun _ => locks _
  have locked : PlayLocked held₃ outcome (issuedReward outcome draw.rewardId ownerId value) :=
    ⟨ofSession ▸ sessionDeep, ofPlayer ▸ playerDeep, subset₃ (subset₂ outcomeMine),
      subset₃ rewardMine, playerDeep, rfl⟩
  have moves : Moves held₃ db _ :=
    (Moves.playRows locked inserted rewarded).trans
      (Moves.completion finished sessionDeep locks active
        fun old member same => sane.session_eq found member same)
  have granted := allows isOutcome.symm entitled rfl inserted rewarded finished moves
  refine Runs.commitRet ?_ ?_
  · rw [shaped.here]
    exact granted.1
  · rw [shaped.here]
    exact granted.2

/-- The repeated play of an ended session changes nothing. -/
theorem replayPlay_runs {gameSession : GameSession} {ownerId : Uuid}
    {intent : PlayIntent} {provider : OutcomeProvider} {draw : PlayDraw}
    (permits : Permits env
      (.playSession gameSession.id ownerId intent provider draw) db duty)
    (found : sessionById gameSession.id db = some gameSession)
    (owner : gameSession.playerId = ownerId)
    (mine : forUpdate (.session gameSession.id) ∈ held) :
    Runs duty (fun row phase => Played gameSession.id ownerId intent row phase.db)
      (replayPlay gameSession intent) db id held := by
  unfold replayPlay
  split
  · exact Runs.raise nofun
  refine Runs.readFixed (fun db' others => others.gameById _) ?_
  refine Runs.readFixed (fun db' others => others.outcomeBySession mine) ?_
  cases foundGame : gameById gameSession.gameId db with
  | none => exact Runs.raise nofun
  | some game =>
      cases foundOutcome : outcomeBySession gameSession.id db with
      | none => exact Runs.raise nofun
      | some outcome =>
          refine Runs.byRules nofun fun rules isRules => ?_
          simp only
          split
          · next matched =>
              refine Runs.commitRet (permits.allows (.unchanged env _ db _)) ?_
              refine ⟨foundOutcome, gameSession, game, rules, found, owner, foundGame,
                isRules, fun _ => ?_⟩
              split at matched
              · exact matched
              · cases matched
          · exact Runs.raise nofun
          · exact Runs.raise nofun

theorem playSession_runs {sessionId ownerId : Uuid} {intent : PlayIntent}
    {provider : OutcomeProvider} {draw : PlayDraw}
    (permits : Permits env (.playSession sessionId ownerId intent provider draw) db
      duty)
    (sane : Sane db) :
    Runs duty (fun row phase => Played sessionId ownerId intent row phase.db)
      (playSession env sessionId ownerId intent provider draw) db id [] := by
  unfold playSession
  refine Runs.lockedSession fun row found isId => ?_
  subst isId
  refine Runs.require nofun fun owner => ?_
  refine Runs.clock fun now => ?_
  have unanswered : row.status = .active →
      ¬Answered (.playSession row.id ownerId intent provider draw) db := by
    rintro active ⟨outcome, foundOutcome⟩
    have isCompleted := sane.outcomeCompleted found foundOutcome
    rw [active] at isCompleted
    cases isCompleted
  refine Runs.finalize permits.toTolerant sane found List.mem_cons_self
    (fun _ isSome => by cases isSome) ?_ ?_
  · intro held' subset _
    show Runs duty _ (if row.status ≠ .active then replayPlay row intent
      else playActive env row ownerId intent provider draw now) db id held'
    split
    · exact replayPlay_runs permits found owner (subset List.mem_cons_self)
    · next notEnded =>
        have active : row.status = .active := not_not.mp notEnded
        refine Runs.gameAndConfig nofun
          fun game config foundGame foundConfig belongs => ?_
        refine Runs.byRules nofun fun rules isRules => ?_
        refine Runs.require nofun fun direct => ?_
        refine Runs.byRules nofun fun result evaluated => ?_
        refine storePlay_runs permits.toTolerant sane found active owner
          (subset List.mem_cons_self) ?_
        intro outcome reward value first second db' final isOutcome entitled isReward
          inserted rewarded finished moves
        refine ⟨permits.allows ⟨moves, .one (.play rfl found active owner foundGame
          isRules direct foundConfig belongs evaluated isOutcome isReward inserted
          rewarded finished entitled), fun answered => absurd answered (unanswered active)⟩, ?_⟩
        have stored : outcomeBySession row.id first = some outcome := by
          rcases Database.insertOutcome_ok.mp inserted with ⟨⟨_, newSession⟩, rfl⟩
          subst isOutcome
          exact lookup_append_self newSession
        rcases Database.insertReward_ok.mp rewarded with ⟨_, rfl⟩
        rcases flushCompletion_ok.mp finished with ⟨_, rfl⟩
        rcases moves.session_some found with ⟨kept, foundKept, step⟩
        refine ⟨stored, kept, game, rules, foundKept, ?_, ?_, isRules, ?_⟩
        · rw [step.sameRound]
          exact owner
        · rw [step.sameRound, Phase.db_settled, moves.gameById]
          exact foundGame
        · rintro rfl
          rw [isOutcome]
          exact retryMatches_of_predicted evaluated
  · intro active _ changes held' _ terminated
    exact Runs.commitRaise nofun
      (permits.allows (terminated.guarantee (unanswered active)))

end Play

end RngGamePlatform
