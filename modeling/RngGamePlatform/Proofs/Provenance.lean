/-
Module: RngGamePlatform.Proofs.Provenance
Purpose: Every effect of a request keeps the provenance and the evidence of the
  fairness proofs, and with them the whole invariant.
Trusted boundary: none
Main exports: ProofSound.frame, Effect.proofs, Effect.consistent,
  Effects.consistent
-/
import RngGamePlatform.Proofs.Preservation

namespace RngGamePlatform

open Encoding Relational Transactions

variable {env : Platform} {call : Call} {calls : List Call} {db db' : Database}

section Frame

variable {held : List Lock} {proof : FairnessProof}

/-- A change leaves everything alone that a proof is tied to. -/
structure Apart (db db' : Database) (proof : FairnessProof) : Prop where
  session : ∀ row, sessionById proof.sessionId db = some row →
    sessionById proof.sessionId db' = some row
  custody : custodyByProof proof.id db' = custodyByProof proof.id db
  chain : chainOf proof.id db' = chainOf proof.id db

theorem Disclosure.step {gameSession row : GameSession} {record : CommitRecord}
    {clientSeed : PyStr} {draw : EvaluateDraw} {derivation : DailySpinDerivation}
    {now : Int} (moves : Moves held db db') (same : SameRound gameSession row)
    (disclosed : Disclosure env calls db proof gameSession record clientSeed draw
      derivation now) :
    Disclosure env calls db' proof row record clientSeed draw derivation now := by
  rcases disclosed.reward with ⟨reward, found, value, owner⟩
  rcases moves.rewards.lookup_some (fun _ _ step => step.outcomeId) found with
    ⟨reward', found', step⟩
  refine
    { disclosed with
      outcome := ?_
      reward := ⟨reward', found', ?_⟩ }
  · rw [moves.outcomeById_some disclosed.outcome, same]
    rfl
  · rcases step with rfl | ⟨_, _, changed⟩
    · exact ⟨value, owner⟩
    · rw [changed]
      exact ⟨value, owner⟩

theorem Commitment.step {gameSession row : GameSession} {record : CommitRecord}
    (moves : Moves held db db') (same : SameRound gameSession row)
    (session : sessionById proof.sessionId db' = some row)
    (commitment : Commitment env calls db proof gameSession record) :
    Commitment env calls db' proof row record where
  called := by
    rw [same.id]
    exact commitment.called
  session := session
  owner := by
    rw [same]
    exact commitment.owner
  game := by
    rw [same, moves.gameById]
    exact commitment.game
  config := by
    rw [same, moves.configById]
    exact commitment.config
  belongs := commitment.belongs
  mapped := commitment.mapped
  hashed := commitment.hashed
  columns := by
    rw [commitment.columns, same]
    rfl

/-- A proof that a change leaves alone stays sound. -/
theorem ProofSound.frame (moves : Moves held db db') (apart : Apart db db' proof)
    (sound : ProofSound env calls db proof) : ProofSound env calls db' proof := by
  rcases sound with ⟨gameSession, record, commitment, coupled, evidence⟩
  refine ⟨gameSession, record, commitment.step moves (.refl _)
    (apart.session _ commitment.session), coupled, ?_⟩
  cases evidence with
  | committed status whole custody chain =>
      exact .committed status whole (apart.custody.trans custody)
        (apart.chain.trans chain)
  | revealed status disclosed custody chain =>
      exact .revealed status (disclosed.step moves (.refl _))
        (apart.custody.trans custody) (apart.chain.trans chain)
  | ended status whole custody chain =>
      exact .ended status whole (apart.custody.trans custody)
        (apart.chain.trans chain)

/-- The proof of an active session is committed. -/
theorem Consistent.committed_of_active (consistent : Consistent env calls db)
    (member : proof ∈ db.proofs) {row : GameSession}
    (found : sessionById proof.sessionId db = some row)
    (active : row.status = .active) : proof.status = .committed := by
  rcases consistent.proofs proof member with ⟨_, _, commitment, coupled, _⟩
  cases commitment.session.symm.trans found
  rw [coupled, active]
  rfl

/-- What is stored of a committed proof. -/
theorem ProofSound.of_committed (sound : ProofSound env calls db proof)
    (committed : proof.status = .committed) :
    ∃ gameSession record committedAt,
      Commitment env calls db proof gameSession record ∧
        commitmentOf proof = proof ∧
        custodyByProof proof.id db = some ⟨proof.id, record.draw.seed.val⟩ ∧
        chainOf proof.id db = [commitEvent env proof committedAt] := by
  rcases sound with ⟨gameSession, record, commitment, _, evidence⟩
  cases evidence with
  | @committed committedAt status whole custody chain =>
      exact ⟨gameSession, record, committedAt, commitment, whole, custody, chain⟩
  | revealed status disclosed custody chain =>
      rw [committed] at status
      cases status
  | ended status whole custody chain =>
      rw [committed] at status
      rcases status with status | status <;> cases status

/-- The chain of a proof, sorted by sequence. -/
theorem eventsOf_eq (proofId : Uuid) (db : Database) :
    eventsOf proofId db =
      (chainOf proofId db).mergeSort fun one other => one.sequence ≤ other.sequence :=
  rfl

theorem eventsOf_one {proofId : Uuid} {event : FairnessProofEvent}
    (chain : chainOf proofId db = [event]) : eventsOf proofId db = [event] := by
  rw [eventsOf_eq, chain, List.mergeSort_singleton]

theorem eventsOf_two {proofId : Uuid} {first second : FairnessProofEvent}
    (chain : chainOf proofId db = [first, second])
    (order : first.sequence ≤ second.sequence) :
    eventsOf proofId db = [first, second] := by
  rw [eventsOf_eq, chain]
  exact List.mergeSort_of_pairwise (by simpa using order)

end Frame

section Cases

/-- The chain of a proof after one of its events is added. -/
theorem chainOf_append {event : FairnessProofEvent} {proofId : Uuid}
    (events : db'.events = db.events ++ [event]) (same : event.proofId = proofId) :
    chainOf proofId db' = chainOf proofId db ++ [event] := by
  rw [chainOf, events, List.filter_append, chainOf]
  simp [same]

/-- The chain of a proof after an event of another one is added. -/
theorem chainOf_append_of_ne {event : FairnessProofEvent} {proofId : Uuid}
    (events : db'.events = db.events ++ [event])
    (different : event.proofId ≠ proofId) :
    chainOf proofId db' = chainOf proofId db := by
  rw [chainOf, events, List.filter_append, chainOf]
  simp [different]

/-- A session found before another one is added is found after it. -/
theorem sessionById_append {id : Uuid} {row new : GameSession}
    (found : sessionById id db = some row) :
    lookup GameSession.id id (db.sessions ++ [new]) = some row := by
  have found' : lookup GameSession.id id db.sessions = some row := found
  rw [lookup_append, found', Option.some_or]

/-- A proof of another session than the one that ends. -/
theorem Ends.session_of_ne {row ended found : GameSession} {id : Uuid}
    (ends : Ends db row ended) (different : id ≠ row.id)
    (isFound : sessionById id db = some found) :
    lookup GameSession.id id (replace GameSession.id ended db.sessions) =
      some found := by
  rw [ends.lookup_of_ne different, isFound]

/-- Only games of the fairness mode have bands. -/
theorem fairnessBands_mode {gameKey : PyStr} {config : GameConfigVersion}
    {bands : List RewardBand}
    (mapped : fairnessBands env gameKey config = .ok bands) :
    ∃ rules, rulesFor gameKey = .ok rules ∧ rules.mode = .fairness := by
  simp only [fairnessBands, fairnessRewardBands, bind_eq_ok] at mapped
  rcases mapped with ⟨rules, isRules, rest⟩
  refine ⟨rules, isRules, ?_⟩
  by_contra other
  rw [if_pos other] at rest
  cases rest

/-- A change to one proof and its session leaves the other proofs alone. -/
theorem Apart.ofProof {row ended : GameSession} {proof other : FairnessProof}
    {event : FairnessProofEvent} (keys : Keys db) (ends : Ends db row ended)
    (here : proof ∈ db.proofs) (ofSession : proof.sessionId = row.id)
    (inDb : other ∈ db.proofs) (different : other.id ≠ proof.id)
    (isEvent : event.proofId = proof.id)
    (sessions : db'.sessions = replace GameSession.id ended db.sessions)
    (custody : custodyByProof other.id db' = custodyByProof other.id db)
    (events : db'.events = db.events ++ [event]) : Apart db db' other where
  session := fun found isFound => by
    rw [sessionById, sessions]
    refine ends.session_of_ne (fun same => different ?_) isFound
    rw [keys.proofSessions.eq inDb here (same.trans ofSession.symm)]
  custody := custody
  chain := chainOf_append_of_ne events fun same =>
    different (same.symm.trans isEvent)

/-- A change to one session that has no proof leaves every proof alone. -/
theorem Apart.ofSession {row ended : GameSession} {proof : FairnessProof}
    (ends : Ends db row ended) (unbound : proof.sessionId ≠ row.id)
    (sessions : db'.sessions = replace GameSession.id ended db.sessions)
    (custodies : db'.custodies = db.custodies) (events : db'.events = db.events) :
    Apart db db' proof where
  session := fun found isFound => by
    rw [sessionById, sessions]
    exact ends.session_of_ne unbound isFound
  custody := by rw [custodyByProof, custodies]; rfl
  chain := by rw [chainOf, events]; rfl

/-- A change that leaves the sessions and the evidence as they are. -/
theorem Apart.same {proof : FairnessProof} (sessions : db'.sessions = db.sessions)
    (custodies : db'.custodies = db.custodies) (events : db'.events = db.events) :
    Apart db db' proof where
  session := fun found isFound => by
    rw [sessionById, sessions]
    exact isFound
  custody := by rw [custodyByProof, custodies]; rfl
  chain := by rw [chainOf, events]; rfl

/-- The latest event of a committed proof is its first one. -/
theorem latestEvent_of_committed {proof : FairnessProof} {committedAt : Int}
    {previous : FairnessProofEvent}
    (chain : chainOf proof.id db = [commitEvent env proof committedAt])
    (latest : latestEvent proof.id db = some previous) :
    previous = commitEvent env proof committedAt := by
  rw [latestEvent, eventsOf_one chain] at latest
  exact (Option.some.inj latest).symm

/-- The proof that a termination has ended. -/
theorem ProofSound.ended {row : GameSession} {proof : FairnessProof}
    {previous : FairnessProofEvent} {status : SessionStatus}
    {proofStatus : FairnessProofStatus} {now : Int} {held : List Lock}
    (sound : ProofSound env calls db proof) (moves : Moves held db db')
    (kind : EndStatus status proofStatus)
    (found : sessionById row.id db = some row) (active : row.status = .active)
    (bound : proofBySession row.id db = some proof)
    (committed : proof.status = .committed)
    (latest : latestEvent proof.id db = some previous)
    (sessions : db'.sessions =
      replace GameSession.id (endedAs row status now) db.sessions)
    (custodies : db'.custodies =
      remove FairnessSeedCustody.proofId proof.id db.custodies)
    (events : db'.events = db.events ++ [terminalEvent env.crypto
      (proof.withStatus proofStatus) previous now]) :
    ProofSound env calls db' (proof.withStatus proofStatus) := by
  rcases sound.of_committed committed with
    ⟨gameSession, record, committedAt, commitment, whole, _, chain⟩
  have isSession : gameSession = row := by
    have ofSession : proof.sessionId = row.id := lookup_key bound
    have there := commitment.session
    rw [ofSession, found] at there
    exact (Option.some.inj there).symm
  subst isSession
  have isPrevious := latestEvent_of_committed chain latest
  subst isPrevious
  have session : sessionById (proof.withStatus proofStatus).sessionId db' =
      some (endedAs gameSession status now) := by
    have ofSession : proof.sessionId = gameSession.id := lookup_key bound
    show sessionById proof.sessionId db' = _
    rw [ofSession, sessionById, sessions]
    exact (Ends.endedAs kind found active).lookup_self
  have moved : Commitment env calls db' proof (endedAs gameSession status now) record :=
    commitment.step moves (endedAs_sameRound _ _ _) session
  have custody : custodyByProof proof.id db' = none := by
    rw [custodyByProof, custodies]
    exact lookup_remove_self
  have chain' : chainOf proof.id db' = [commitEvent env proof committedAt,
      terminalEvent env.crypto (proof.withStatus proofStatus)
        (commitEvent env proof committedAt) now] := by
    have appended : chainOf proof.id db' = _ := chainOf_append events rfl
    rw [appended, chain]
    rfl
  have kept : (commitmentOf (proof.withStatus proofStatus)).withStatus proofStatus =
      proof.withStatus proofStatus := by
    rw [commitmentOf_withStatus, whole]
  have isEnd : proofStatus = .expired ∨ proofStatus = .cancelled := by
    cases kind
    · exact Or.inl rfl
    · exact Or.inr rfl
  refine ⟨endedAs gameSession status now, record, { moved with }, ?_,
    .ended isEnd kept custody chain'⟩
  cases kind <;> rfl

/-- What a request loads for a proof is what its commitment was made with. -/
theorem Commitment.loaded {row : GameSession} {proof : FairnessProof} {record : CommitRecord}
    {game : Game} {config : GameConfigVersion} {bands : List RewardBand}
    (commitment : Commitment env calls db proof row record)
    (whole : commitmentOf proof = proof)
    (foundGame : gameById proof.gameId db = some game)
    (foundConfig : configById proof.configVersionId db = some config)
    (mapped : fairnessBands env game.key config = .ok bands) :
    record.game = game ∧ record.config = config ∧ record.bands = bands := by
  have columns := commitment.columns
  rw [whole] at columns
  have isGame : record.game = game := by
    have there : proof.gameId = record.game.id := by rw [columns]; rfl
    have here : record.game.id = row.gameId := lookup_key commitment.game
    rw [there, here, commitment.game] at foundGame
    exact Option.some.inj foundGame
  have isConfig : record.config = config := by
    have there : proof.configVersionId = record.config.id := by rw [columns]; rfl
    have here : record.config.id = row.configVersionId :=
      lookup_key commitment.config
    rw [there, here, commitment.config] at foundConfig
    exact Option.some.inj foundConfig
  subst isGame isConfig
  exact ⟨rfl, rfl, Except.ok.inj (commitment.mapped.symm.trans mapped)⟩

/-- The commitment of a proof that is revealed while its session is completed. -/
theorem Commitment.revealed {row : GameSession} {proof : FairnessProof}
    {record : CommitRecord} {outcomeId : Uuid} {clientSeed fingerprint : PyStr}
    {derivation : DailySpinDerivation} {seed : Bytes} {now : Int} {held : List Lock}
    (commitment : Commitment env calls db proof row record) (moves : Moves held db db')
    (found : sessionById proof.sessionId db = some row) (active : row.status = .active)
    (sessions : db'.sessions = replace GameSession.id (completed row now) db.sessions) :
    Commitment env calls db' (revealedProof proof outcomeId clientSeed fingerprint derivation
      seed now) (completed row now) record := by
  have session : sessionById proof.sessionId db' = some (completed row now) := by
    have ends : Ends db row (completed row now) :=
      .completed (sessionById_self found) active
    rw [← sessionById_id found, sessionById, sessions]
    exact ends.lookup_self
  have there : Commitment env calls db' proof (completed row now) record :=
    commitment.step moves (endedAs_sameRound row .completed now) session
  exact { there with }

/-- The proof that an evaluation has revealed. -/
theorem ProofSound.revealed {row : GameSession} {proof : FairnessProof}
    {config : GameConfigVersion} {game : Game} {custody : FairnessSeedCustody}
    {bands : List RewardBand} {ownerId : Uuid} {clientSeed : PyStr}
    {draw : EvaluateDraw} {derivation : DailySpinDerivation} {outcome : Outcome}
    {reward : Reward} {previous : FairnessProofEvent} {now : Int} {held : List Lock}
    {first second : Database} {new : FairnessProof}
    (sound : ProofSound env calls db proof) (moves : Moves held db db')
    (isCall : .evaluateFairness proof.id ownerId clientSeed draw ∈ calls)
    (found : sessionById proof.sessionId db = some row)
    (active : row.status = .active)
    (committed : proof.status = .committed) (owner : proof.playerId = ownerId)
    (foundGame : gameById proof.gameId db = some game)
    (foundConfig : configById proof.configVersionId db = some config)
    (foundCustody : custodyByProof proof.id db = some custody)
    (mapped : fairnessBands env game.key config = .ok bands)
    (derived : evaluationOf env proof custody.serverSeedMaterial bands clientSeed
      draw.fuel = .ok derivation)
    (isOutcome : outcome = revealedOutcome row draw.outcomeId derivation)
    (isReward : reward =
      issuedReward outcome draw.rewardId ownerId derivation.reward.value)
    (isRevealed : new = revealedProof proof outcome.id clientSeed
      (evaluationFingerprintOf env proof.id clientSeed) derivation
      custody.serverSeedMaterial now)
    (latest : latestEvent proof.id db = some previous)
    (inserted : Database.insertOutcome outcome db = .ok first)
    (rewarded : Database.insertReward reward first = .ok second)
    (sessions : db'.sessions =
      replace GameSession.id (completed row now) db.sessions)
    (custodies : db'.custodies = db.custodies)
    (events : db'.events = db.events ++ [revealedEvent env new previous now])
    (outcomes : db'.outcomes = db.outcomes ++ [outcome])
    (rewards : db'.rewards = db.rewards ++ [reward]) :
    ProofSound env calls db' new := by
  rcases sound.of_committed committed with
    ⟨gameSession, record, committedAt, commitment, whole, kept, chain⟩
  cases commitment.session.symm.trans found
  cases foundCustody.symm.trans kept
  have isPrevious := latestEvent_of_committed chain latest
  subst isPrevious
  have ofSession : row.id = proof.sessionId := sessionById_id found
  obtain ⟨isGame, isConfig, isBands⟩ := commitment.loaded whole foundGame foundConfig mapped
  subst isGame isConfig isBands
  have bound : reward.outcomeId = some outcome.id := by
    rw [isReward]
    rfl
  obtain ⟨foundOutcome, _, foundReward⟩ :=
    playRows_found bound inserted rewarded outcomes rewards
  subst isOutcome isReward isRevealed
  have moved : Commitment env calls db'
      (revealedProof proof draw.outcomeId clientSeed
        (evaluationFingerprintOf env proof.id clientSeed) derivation record.draw.seed.val now)
      (completed row now) record :=
    commitment.revealed moves found active sessions
  have custody' : custodyByProof proof.id db' = some ⟨proof.id, record.draw.seed.val⟩ := by
    rw [custodyByProof, custodies]
    exact kept
  have chain' : chainOf proof.id db' = [commitEvent env proof committedAt,
      revealedEvent env (revealedProof proof draw.outcomeId clientSeed
        (evaluationFingerprintOf env proof.id clientSeed) derivation record.draw.seed.val now)
        (commitEvent env proof committedAt) now] := by
    have appended : chainOf proof.id db' = _ := chainOf_append events rfl
    rw [appended, chain]
    rfl
  have disclosed : Disclosure env calls db'
      (revealedProof proof draw.outcomeId clientSeed
        (evaluationFingerprintOf env proof.id clientSeed) derivation record.draw.seed.val now)
      (completed row now) record clientSeed draw derivation now :=
    { called := owner ▸ isCall
      derived := whole.symm ▸ derived
      columns := congrArg (revealedProof · draw.outcomeId clientSeed
        (evaluationFingerprintOf env proof.id clientSeed) derivation record.draw.seed.val now)
        whole.symm
      outcome := foundOutcome
      reward := ⟨_, foundReward, rfl, owner.symm⟩ }
  exact ⟨completed row now, record, moved, rfl, .revealed rfl disclosed custody' chain'⟩

/-- The proof that a commitment has stored. -/
theorem ProofSound.stored {row : GameSession} {game : Game}
    {config : GameConfigVersion} {draw : CommitDraw} {bands : List RewardBand}
    {digest : PyStr} {proof : FairnessProof} {now : Int} {held : List Lock}
    {middle last : Database} (consistent : Consistent env calls db)
    (moves : Moves held db db')
    (isCall : .commitFairness row.id row.playerId draw ∈ calls)
    (found : sessionById row.id db = some row) (active : row.status = .active)
    (foundGame : gameById row.gameId db = some game)
    (foundConfig : configById row.configVersionId db = some config)
    (belongs : config.gameId = game.id)
    (mapped : fairnessBands env game.key config = .ok bands)
    (hashed : dailySpinMappingDigest env.crypto bands = .ok digest)
    (isProof : proof = newProof row game config row.playerId draw.proofId
      (env.crypto.sha256 draw.seed.val).hex digest)
    (inserted : Database.insertProof proof db = .ok middle)
    (kept : Database.insertCustody ⟨proof.id, draw.seed.val⟩ middle = .ok last)
    (chained : Database.insertEvent (commitEvent env proof now) last = .ok db') :
    ProofSound env calls db' proof := by
  rcases Database.insertProof_ok.mp inserted with ⟨⟨newId, _⟩, rfl⟩
  rcases Database.insertCustody_ok.mp kept with ⟨⟨noSeed, _⟩, rfl⟩
  rcases Database.insertEvent_ok.mp chained with ⟨_, rfl⟩
  have isCommitted : proof.status = .committed := by
    rw [isProof]
    rfl
  have noEvents : chainOf proof.id db = [] := by
    refine List.filter_eq_nil_iff.mpr fun event member => ?_
    rcases consistent.rounds.eventOf event member with ⟨other, foundOther⟩
    simp only [decide_eq_true_eq]
    intro same
    rw [proofById, same, newId] at foundOther
    cases foundOther
  have commitment : Commitment env calls db proof row
      ⟨draw, game, config, bands, digest⟩ :=
    { called := by rw [isProof]; exact isCall
      session := by rw [isProof]; exact found
      owner := by rw [isProof]; rfl
      game := foundGame
      config := foundConfig
      belongs := belongs
      mapped := mapped
      hashed := hashed
      columns := by rw [isProof]; rfl }
  have session : sessionById proof.sessionId db = some row := by
    rw [isProof]
    exact found
  have chain : ∀ after : Database,
      after.events = db.events ++ [commitEvent env proof now] →
      chainOf proof.id after = [commitEvent env proof now] := by
    intro after events
    have appended : chainOf proof.id after = _ := chainOf_append events rfl
    rw [appended, noEvents]
    rfl
  have coupled : proof.status = row.status.proofStatus := by
    rw [isCommitted, active]
    rfl
  exact ⟨row, _, commitment.step moves (.refl row) session, coupled,
    .committed isCommitted (by rw [isProof]; rfl) (lookup_append_self noSeed)
      (chain _ rfl)⟩

end Cases

section Start

/-- A session that a call has just created. -/
structure Started (env : Platform) (call : Call) (row : GameSession) : Prop where
  active : row.status = .active
  called : ∃ ownerId gameKey draw rules,
    call = .createSession row.requestId row.playerId ownerId gameKey draw ∧
      rulesFor gameKey = .ok rules ∧
      row.requestFingerprint = createSessionFingerprint env row.playerId gameKey

/-- The sessions of `db'` are those of `db`, or have just started. -/
def Starts (env : Platform) (call : Call) (db db' : Database) : Prop :=
  ∀ row ∈ db'.sessions, (∃ old ∈ db.sessions, SameRound old row) ∨
    Started env call row

theorem Starts.same (same : db'.sessions = db.sessions) :
    Starts env call db db' :=
  fun row member => Or.inl ⟨row, same ▸ member, .refl row⟩

theorem Ends.starts {row ended : GameSession} (ends : Ends db row ended)
    (sessions : db'.sessions = replace GameSession.id ended db.sessions) :
    Starts env call db db' := by
  intro other member
  rw [sessions] at member
  rcases mem_replace member with rfl | ⟨inDb, _⟩
  · exact Or.inl ⟨row, sessionById_mem ends.found, ends.same⟩
  · exact Or.inl ⟨other, inDb, .refl other⟩

/-- A session that an effect adds was created by its call. -/
theorem Effect.starts (effect : Effect env call db db') :
    Starts env call db db' := by
  cases effect with
  | endAlone kind found active noneCommitted written =>
      rcases Database.updateSession_ok.mp written with ⟨_, rfl⟩
      exact (Ends.endedAs kind found active).starts rfl
  | endWithProof kind found active bound committed latest written =>
      have result := Runs.flushTermination_result written
      subst result
      exact (Ends.endedAs kind found active).starts rfl
  | @create requestId playerId ownerId gameKey draw player game config payload rules
      challenge startedAt now row middle isCall foundPlayer foundGame isRules isRow
      inserted evidence =>
      rcases Database.insertSession_ok.mp inserted with ⟨_, rfl⟩
      rcases insertEvidence_ok.mp evidence with ⟨_, rfl⟩
      intro other member
      rcases List.mem_append.mp member with inDb | isNew
      · exact Or.inl ⟨other, inDb, .refl other⟩
      · have sameKey : game.key = gameKey := lookup_key foundGame
        have samePlayer : player.id = playerId := lookup_key foundPlayer
        rw [List.mem_singleton.mp isNew, isRow]
        subst sameKey samePlayer
        exact Or.inr ⟨rfl, _, _, _, _, isCall, isRules, rfl⟩
  | commit isCall found active owner foundGame foundConfig belongs unbound mapped
      hashed isProof inserted kept chained =>
      rcases Database.insertProof_ok.mp inserted with ⟨_, rfl⟩
      rcases Database.insertCustody_ok.mp kept with ⟨_, rfl⟩
      rcases Database.insertEvent_ok.mp chained with ⟨_, rfl⟩
      exact .same rfl
  | reveal isCall found active foundProof committed owner foundGame foundConfig
      foundCustody mapped derived isOutcome isReward isRevealed latest inserted
      rewarded written finished =>
      have result := reveal_result inserted rewarded written finished
      subst result
      exact (Ends.completed (sessionById_self found) active).starts rfl
  | play isCall found active owner foundGame isRules direct foundConfig belongs
      evaluated isOutcome isReward inserted rewarded finished =>
      have result := play_result inserted rewarded finished
      subst result
      exact (Ends.completed found active).starts rfl
  | score isCall found owner isCompleted ended foundGame isRules foundOutcome
      foundConfig scored isRow inserted evidence =>
      rcases Database.insertScore_ok.mp inserted with ⟨_, rfl⟩
      rcases insertEvidence_ok.mp evidence with ⟨_, rfl⟩
      exact .same rfl
  | claim found issued written =>
      rcases bind_eq_ok.mp written with ⟨middle, updated, evidence⟩
      cases updated
      rcases insertEvidence_ok.mp evidence with ⟨_, rfl⟩
      exact .same rfl

/-- Every session stays one that a call has created. -/
theorem Effect.created (consistent : Consistent env calls db) (known : call ∈ calls)
    (effect : Effect env call db db') :
    ∀ row ∈ db'.sessions, CreatedBy env calls row := by
  intro row member
  rcases effect.starts row member with ⟨old, inDb, same⟩ | started
  · exact (consistent.created old inDb).sameRound same
  · rcases started.called with ⟨ownerId, gameKey, draw, rules, isCall, rest⟩
    exact ⟨ownerId, gameKey, draw, rules, isCall ▸ known, rest⟩

end Start

section Whole

/-- Every effect keeps every proof sound. -/
theorem Effect.proofs (consistent : Consistent env calls db) (known : call ∈ calls)
    (effect : Effect env call db db') :
    ∀ proof ∈ db'.proofs, ProofSound env calls db' proof := by
  have keys := consistent.keys
  rcases effect.moves keys with ⟨held, moves⟩
  have framed : ∀ proof ∈ db.proofs, Apart db db' proof →
      ProofSound env calls db' proof := fun proof member apart =>
    (consistent.proofs proof member).frame moves apart
  cases effect with
  | @endAlone gameSession status proofStatus now kind found active noneCommitted
      written =>
      rcases Database.updateSession_ok.mp written with ⟨_, rfl⟩
      intro proof member
      refine framed proof member (.ofSession (.endedAs kind found active) ?_ rfl rfl rfl)
      intro same
      refine noneCommitted proof (keys.proofSessions.lookup member same) ?_
      exact consistent.committed_of_active member (same ▸ found) active
  | @endWithProof gameSession proof previous status proofStatus now kind found active
      bound committed latest written =>
      have result := Runs.flushTermination_result written
      subst result
      intro other member
      rcases mem_replace member with rfl | ⟨inDb, different⟩
      · exact (consistent.proofs proof (lookup_mem bound)).ended moves kind found active
          bound committed latest rfl rfl rfl
      · refine framed other inDb (.ofProof keys (.endedAs kind found active)
          (lookup_mem bound) (lookup_key bound) inDb different rfl rfl ?_ rfl)
        exact lookup_remove_of_ne different
  | create isCall foundPlayer foundGame isRules isRow inserted evidence =>
      rcases Database.insertSession_ok.mp inserted with ⟨_, rfl⟩
      rcases insertEvidence_ok.mp evidence with ⟨_, rfl⟩
      intro proof member
      exact framed proof member ⟨fun _ found => sessionById_append found, rfl, rfl⟩
  | commit isCall found active owner foundGame foundConfig belongs unbound mapped
      hashed isProof inserted kept chained =>
      intro other member
      subst isCall owner
      have isStored := ProofSound.stored consistent moves known found active foundGame
        foundConfig belongs mapped hashed isProof inserted kept chained
      rcases Database.insertProof_ok.mp inserted with ⟨⟨newId, _⟩, rfl⟩
      rcases Database.insertCustody_ok.mp kept with ⟨_, rfl⟩
      rcases Database.insertEvent_ok.mp chained with ⟨_, rfl⟩
      rcases List.mem_append.mp member with inDb | isNew
      · have different := lookup_none.mp newId other inDb
        refine framed other inDb ⟨fun _ found => found, ?_, ?_⟩
        · exact lookup_append_of_ne (Ne.symm different)
        · exact chainOf_append_of_ne rfl (Ne.symm different)
      · rw [List.mem_singleton.mp isNew]
        exact isStored
  | reveal isCall found active foundProof committed owner foundGame foundConfig
      foundCustody mapped derived isOutcome isReward isRevealed latest inserted
      rewarded written finished =>
      have result := reveal_result inserted rewarded written finished
      subst result
      intro other member
      have here := lookup_mem foundProof
      have sameId := congrArg FairnessProof.id isRevealed
      rcases mem_replace member with rfl | ⟨inDb, different⟩
      · exact (consistent.proofs _ here).revealed moves (isCall ▸ known) found active
          committed owner foundGame foundConfig foundCustody mapped derived isOutcome
          isReward isRevealed latest inserted rewarded rfl rfl rfl rfl rfl
      · exact framed other inDb (.ofProof keys (.completed (sessionById_self found)
          active) here (sessionById_id found).symm inDb
          (fun same => different (same.trans sameId.symm)) sameId rfl rfl rfl)
  | play isCall found active owner foundGame isRules direct foundConfig belongs
      evaluated isOutcome isReward inserted rewarded finished =>
      have result := play_result inserted rewarded finished
      subst result
      intro proof member
      refine framed proof member (.ofSession (.completed found active) ?_ rfl rfl rfl)
      intro same
      rcases consistent.proofs proof member with ⟨_, record, commitment, _⟩
      have session := commitment.session
      rw [same, found] at session
      cases session
      cases commitment.game.symm.trans foundGame
      rcases fairnessBands_mode commitment.mapped with ⟨rules, isFair, mode⟩
      cases isFair.symm.trans isRules
      exact direct mode
  | score isCall found owner isCompleted ended foundGame isRules foundOutcome
      foundConfig scored isRow inserted evidence =>
      rcases Database.insertScore_ok.mp inserted with ⟨_, rfl⟩
      rcases insertEvidence_ok.mp evidence with ⟨_, rfl⟩
      exact fun proof member => framed proof member (.same rfl rfl rfl)
  | claim found issued written =>
      rcases bind_eq_ok.mp written with ⟨middle, updated, evidence⟩
      cases updated
      rcases insertEvidence_ok.mp evidence with ⟨_, rfl⟩
      exact fun proof member => framed proof member (.same rfl rfl rfl)

/-- Every effect keeps the invariant. -/
theorem Effect.consistent (consistent : Consistent env calls db) (known : call ∈ calls)
    (effect : Effect env call db db') : Consistent env calls db' where
  keys := effect.keys consistent.keys
  rounds := effect.rounds consistent
  created := effect.created consistent known
  proofs := effect.proofs consistent known

/-- Every request keeps the invariant. -/
theorem Effects.consistent (consistent : Consistent env calls db)
    (known : call ∈ calls) (effects : Effects env call db db') :
    Consistent env calls db' := by
  cases effects with
  | unchanged same => exact same ▸ consistent
  | one effect => exact effect.consistent consistent known
  | ending first _ effect =>
      exact effect.consistent (first.consistent consistent known) known

end Whole

end RngGamePlatform
