/-
Module: RngGamePlatform.Proofs.ScoringTruth
Purpose: One score for every completed round: its reward, its proof and its final
  score carry what the rules compute from its outcome and its configuration.
Trusted boundary: none
Main exports: service_invariant, Origin, ScoreOf, Scores, OneScore,
  one_scoring_truth
-/
import RngGamePlatform.Proofs.ProvableFairness
import RngGamePlatform.Proofs.ScoringRules

namespace RngGamePlatform

open Encoding Relational Transactions

variable {env : Platform} {call : Call} {calls : List Call} {db db' : Database}
  {held : List Lock}

/-- What holds of a catalogue and is kept by every effect holds of every reachable
state. -/
theorem service_invariant {invariant : List Call → Database → Prop}
    {allowed : ServiceSystem → Label Int Call → Prop} {system : ServiceSystem}
    (begins : ∀ db, CatalogueOnly db → invariant [] db)
    (grows : ∀ {calls call db}, invariant calls db → invariant (calls ++ [call]) db)
    (kept : ∀ {calls call db db'}, call ∈ calls → Consistent env calls db →
      Effect env call db db' → invariant calls db → invariant calls db')
    (reachable : ServiceReachable env allowed system) :
    invariant (Discipline.calls system) system.db := by
  have lawful : ((service env False).keeping invariant).Lawful := by
    refine service_lawful.keeping grows ?_
    intro calls call db db' held known inv _ guarantee holds
    have consistent : Consistent env calls db := inv.1
    cases guarantee.effects with
    | unchanged same => exact same ▸ holds
    | one effect => exact kept known consistent effect holds
    | ending first _ effect =>
        have middle := first.consistent consistent known
        exact kept known middle effect (kept known consistent first holds)
  have sound := Discipline.sound_of_reachable lawful
    (fun db empty => ⟨⟨.catalogueOnly empty, fun absurd => absurd.elim⟩, begins db empty⟩)
    (fun _ _ _ _ _ absurd => absurd.elim) reachable
  exact sound.inv.2

section Origins

/-- Where a stored outcome comes from: a direct play, or the reveal of a proof. -/
inductive Origin (env : Platform) (calls : List Call) (db : Database)
    (outcome : Outcome) : Prop where
  | played {active gameSession : GameSession} {game : Game}
      {config : GameConfigVersion} {rules : GameKey} {ownerId : Uuid}
      {intent : PlayIntent} {provider : OutcomeProvider} {draw : PlayDraw}
      {result : Json} {value now : Int}
      (called : .playSession active.id ownerId intent provider draw ∈ calls)
      (session : sessionById outcome.sessionId db = some gameSession)
      (same : SameRound active gameSession)
      (foundGame : gameById gameSession.gameId db = some game)
      (isRules : rulesFor game.key = .ok rules)
      (direct : rules.mode ≠ .fairness)
      (foundConfig : configById gameSession.configVersionId db = some config)
      (evaluated : evaluatePlay env.schema active config intent provider now rules =
        .ok result)
      (isOutcome : outcome = playedOutcome active draw.outcomeId result)
      (entitled : rewardValue env config outcome game.key = .ok value)
      (issued : ∃ reward, rewardByOutcome outcome.id db = some reward ∧
        reward.value = value)
  | revealed {proof : FairnessProof}
      (found : proofBySession outcome.sessionId db = some proof)
      (status : proof.status = .revealed)
      (bound : proof.outcomeId = some outcome.id)

/-- The score that the rules compute from a stored outcome. -/
def ScoreOf (env : Platform) (db : Database) (outcome : Outcome) (value : Int) : Prop :=
  ∃ gameSession game config rules,
    sessionById outcome.sessionId db = some gameSession ∧
      gameById gameSession.gameId db = some game ∧
      rulesFor game.key = .ok rules ∧
      configById gameSession.configVersionId db = some config ∧
      leaderboardScore env.schema config outcome rules = .ok value

/-- The rules compute one score. -/
theorem ScoreOf.unique {outcome : Outcome} {value other : Int}
    (one : ScoreOf env db outcome value) (two : ScoreOf env db outcome other) :
    value = other := by
  obtain ⟨gameSession, game, config, rules, session, foundGame, isRules, foundConfig,
    scored⟩ := one
  obtain ⟨_, _, _, _, session', foundGame', isRules', foundConfig', scored'⟩ := two
  cases session.symm.trans session'
  cases foundGame.symm.trans foundGame'
  cases isRules.symm.trans isRules'
  cases foundConfig.symm.trans foundConfig'
  cases scored.symm.trans scored'
  rfl

/-- Every outcome has an origin, and every final score is that of its outcome. -/
structure Scores (env : Platform) (calls : List Call) (db : Database) : Prop where
  origins : ∀ outcome ∈ db.outcomes, Origin env calls db outcome
  scores : ∀ score ∈ db.scores, ∃ outcome,
    outcomeBySession score.sessionId db = some outcome ∧
      ScoreOf env db outcome score.finalScore

theorem Origin.grows {more : List Call} {outcome : Outcome} (subset : calls ⊆ more)
    (origin : Origin env calls db outcome) : Origin env more db outcome := by
  cases origin with
  | played called session same foundGame isRules direct foundConfig evaluated isOutcome
      entitled issued =>
      exact .played (subset called) session same foundGame isRules direct foundConfig
        evaluated isOutcome entitled issued
  | revealed found status bound => exact .revealed found status bound

theorem Scores.grows {more : List Call} (subset : calls ⊆ more)
    (scores : Scores env calls db) : Scores env more db :=
  { scores with
    origins := fun outcome member => (scores.origins outcome member).grows subset }

/-- The proof of a session stays once it is not committed any more. -/
theorem Moves.proofBySession_ended (moves : Moves held db db') {id : Uuid}
    {proof : FairnessProof} (found : proofBySession id db = some proof)
    (ended : proof.status ≠ .committed) : proofBySession id db' = some proof := by
  obtain ⟨proof', found', step⟩ :=
    moves.proofs.lookup_some (fun _ _ step => step.same.2.1) found
  rw [proofBySession, found']
  rcases step with same | ⟨_, _, committed, _⟩
  · rw [same]
  · exact absurd committed ended

/-- The value of the reward of an outcome stays. -/
theorem Moves.rewardValue (moves : Moves held db db') {outcomeId : Uuid}
    {reward : Reward} (found : rewardByOutcome outcomeId db = some reward) :
    ∃ reward', rewardByOutcome outcomeId db' = some reward' ∧
      reward'.value = reward.value := by
  obtain ⟨reward', found', step⟩ :=
    moves.rewards.lookup_some (fun _ _ step => step.outcomeId) found
  refine ⟨reward', found', ?_⟩
  rcases step with same | ⟨_, _, same⟩
  · rw [same]
  · rw [same]

theorem Origin.frame {outcome : Outcome} (origin : Origin env calls db outcome)
    (moves : Moves held db db') : Origin env calls db' outcome := by
  cases origin with
  | played called session same foundGame isRules direct foundConfig evaluated isOutcome
      entitled issued =>
      obtain ⟨row, session', step⟩ := moves.session_some session
      obtain ⟨reward, foundReward, isValue⟩ := issued
      obtain ⟨reward', foundReward', sameValue⟩ := moves.rewardValue foundReward
      have sameRow := step.sameRound
      refine .played called session' (same.trans sameRow) ?_ isRules direct ?_ evaluated
        isOutcome entitled ⟨reward', foundReward', sameValue.trans isValue⟩
      · rw [moves.gameById, sameRow]
        exact foundGame
      · rw [moves.configById, sameRow]
        exact foundConfig
  | revealed found status bound =>
      exact .revealed (moves.proofBySession_ended found (by rw [status]; decide)) status
        bound

theorem ScoreOf.frame {outcome : Outcome} {value : Int}
    (scored : ScoreOf env db outcome value) (moves : Moves held db db') :
    ScoreOf env db' outcome value := by
  obtain ⟨gameSession, game, config, rules, session, foundGame, isRules, foundConfig,
    isScore⟩ := scored
  obtain ⟨row, session', step⟩ := moves.session_some session
  have sameRow := step.sameRound
  refine ⟨row, game, config, rules, session', ?_, isRules, ?_, isScore⟩
  · rw [moves.gameById, sameRow]
    exact foundGame
  · rw [moves.configById, sameRow]
    exact foundConfig

/-- What the outcomes and the scores that a change adds come from. -/
structure NewScores (env : Platform) (calls : List Call) (db db' : Database) :
    Prop where
  outcomes : ∀ outcome ∈ db'.outcomes, outcome ∈ db.outcomes ∨
    Origin env calls db' outcome
  scores : ∀ score ∈ db'.scores, score ∈ db.scores ∨ ∃ outcome,
    outcomeBySession score.sessionId db' = some outcome ∧
      ScoreOf env db' outcome score.finalScore

theorem NewScores.same (outcomes : db'.outcomes = db.outcomes)
    (scores : db'.scores = db.scores) : NewScores env calls db db' :=
  ⟨fun _ member => Or.inl (outcomes ▸ member), fun _ member => Or.inl (scores ▸ member)⟩

/-- A new outcome with its origin, beside the scores that were there. -/
theorem NewScores.ofOutcome {outcome : Outcome}
    (outcomes : db'.outcomes = db.outcomes ++ [outcome]) (scores : db'.scores = db.scores)
    (origin : Origin env calls db' outcome) : NewScores env calls db db' where
  outcomes := by
    intro other member
    rw [outcomes] at member
    rcases List.mem_append.mp member with old | new
    · exact Or.inl old
    · rw [List.mem_singleton.mp new]
      exact Or.inr origin
  scores := fun _ member => Or.inl (scores ▸ member)

/-- A new score of a stored outcome, beside the outcomes that were there. -/
theorem NewScores.ofScore {row : FinalScore} {outcome : Outcome}
    (outcomes : db'.outcomes = db.outcomes) (scores : db'.scores = db.scores ++ [row])
    (found : outcomeBySession row.sessionId db' = some outcome)
    (isScore : ScoreOf env db' outcome row.finalScore) : NewScores env calls db db' where
  outcomes := fun _ member => Or.inl (outcomes ▸ member)
  scores := by
    intro other member
    rw [scores] at member
    rcases List.mem_append.mp member with old | new
    · exact Or.inl old
    · rw [List.mem_singleton.mp new]
      exact Or.inr ⟨outcome, found, isScore⟩

/-- A proof that is rewritten stays the proof of its session. -/
theorem proofBySession_rewritten {proof rewritten : FairnessProof} (keys : Keys db)
    (found : proofById proof.id db = some proof) (sameId : rewritten.id = proof.id)
    (sameSession : rewritten.sessionId = proof.sessionId)
    (proofs : db'.proofs = replace FairnessProof.id rewritten db.proofs) :
    proofBySession rewritten.sessionId db' = some rewritten := by
  have here : proofBySession rewritten.sessionId db = some proof :=
    keys.proofSessions.lookup (lookup_mem found) sameSession.symm
  rw [proofBySession, proofs]
  refine lookup_replace here sameId.symm fun old member same => ?_
  have isProof := keys.proofIds.eq member (lookup_mem found) (same.trans sameId)
  rw [isProof, sameSession]

theorem Scores.step (before : Scores env calls db) (moves : Moves held db db')
    (new : NewScores env calls db db') : Scores env calls db' where
  origins := fun outcome member => by
    rcases new.outcomes outcome member with old | fresh
    · exact (before.origins outcome old).frame moves
    · exact fresh
  scores := fun score member => by
    rcases new.scores score member with old | fresh
    · obtain ⟨outcome, found, isScore⟩ := before.scores score old
      exact ⟨outcome, moves.outcomeBySession_some found, isScore.frame moves⟩
    · exact fresh

/-- Every effect keeps the origins and the scores. -/
theorem Effect.scores (known : call ∈ calls) (consistent : Consistent env calls db)
    (effect : Effect env call db db') (before : Scores env calls db) :
    Scores env calls db' := by
  have keys := consistent.keys
  obtain ⟨held, moves⟩ := effect.moves keys
  refine before.step moves ?_
  cases effect with
  | endAlone kind found active noneCommitted written =>
      obtain ⟨_, rfl⟩ := Database.updateSession_ok.mp written
      exact .same rfl rfl
  | endWithProof kind found active bound committed latest written =>
      have result := Runs.flushTermination_result written
      subst result
      exact .same rfl rfl
  | create isCall foundPlayer foundGame isRules isRow inserted evidence =>
      obtain ⟨_, rfl⟩ := Database.insertSession_ok.mp inserted
      obtain ⟨_, rfl⟩ := insertEvidence_ok.mp evidence
      exact .same rfl rfl
  | commit isCall found active owner foundGame foundConfig belongs unbound mapped
      hashed isProof inserted kept chained =>
      obtain ⟨_, rfl⟩ := Database.insertProof_ok.mp inserted
      obtain ⟨_, rfl⟩ := Database.insertCustody_ok.mp kept
      obtain ⟨_, rfl⟩ := Database.insertEvent_ok.mp chained
      exact .same rfl rfl
  | claim found issued written =>
      obtain ⟨middle, updated, evidence⟩ := bind_eq_ok.mp written
      cases updated
      obtain ⟨_, rfl⟩ := insertEvidence_ok.mp evidence
      exact .same rfl rfl
  | @reveal gameSession proof revealed game config custody bands ownerId clientSeed
      draw derivation outcome reward previous now first second third isCall found
      active foundProof committed owner foundGame foundConfig foundCustody mapped
      derived isOutcome isReward isRevealed latest inserted rewarded written
      finished =>
      have result := reveal_result inserted rewarded written finished
      have isSession : outcome.sessionId = revealed.sessionId := by
        rw [isOutcome, isRevealed]
        exact sessionById_id found
      have stored : proofBySession outcome.sessionId db' = some revealed := by
        rw [isSession]
        apply proofBySession_rewritten keys foundProof
        case sameId => rw [isRevealed]; rfl
        case sameSession => rw [isRevealed]; rfl
        case proofs => rw [result]; rfl
      apply NewScores.ofOutcome
      case outcomes => rw [result]; rfl
      case scores => rw [result]; rfl
      case origin =>
        apply Origin.revealed stored
        case status => rw [isRevealed]; rfl
        case bound => rw [isRevealed]; rfl
  | @play gameSession game config rules ownerId intent provider draw result value
      outcome reward now first second isCall found active owner foundGame isRules
      direct foundConfig belongs evaluated isOutcome isReward inserted rewarded
      finished entitled =>
      have result := play_result inserted rewarded finished
      have outcomes : db'.outcomes = db.outcomes ++ [outcome] := by rw [result]; rfl
      have rewards : db'.rewards = db.rewards ++ [reward] := by rw [result]; rfl
      have isBound : reward.outcomeId = some outcome.id := by rw [isReward]; rfl
      have isValue : reward.value = value := by rw [isReward]; rfl
      have stored : sessionById outcome.sessionId db' = some (completed gameSession now) := by
        have ofSession : outcome.sessionId = gameSession.id := by rw [isOutcome]; rfl
        rw [sessionById, result, ofSession]
        exact (Ends.completed found active).lookup_self
      have foundReward := (playRows_found isBound inserted rewarded outcomes rewards).2.2
      apply NewScores.ofOutcome outcomes
      case scores => rw [result]; rfl
      case origin =>
        exact .played (isCall ▸ known) stored (endedAs_sameRound gameSession .completed now)
          ((moves.gameById _).trans foundGame) isRules direct
          ((moves.configById _).trans foundConfig) evaluated isOutcome entitled
          ⟨reward, foundReward, isValue⟩
  | @score gameSession game outcome config rules ownerId scoreId endedAt value row
      middle isCall found owner isCompleted ended foundGame isRules foundOutcome
      foundConfig scored isRow inserted evidence =>
      have isScore : ScoreOf env db outcome value := by
        have ofSession : outcome.sessionId = gameSession.id := lookup_key foundOutcome
        refine ⟨gameSession, game, config, rules, ?_, foundGame, isRules, foundConfig,
          scored⟩
        rw [ofSession]
        exact found
      have kept := isScore.frame moves
      have foundOutcome' := moves.outcomeBySession_some foundOutcome
      obtain ⟨_, rfl⟩ := Database.insertScore_ok.mp inserted
      obtain ⟨_, rfl⟩ := insertEvidence_ok.mp evidence
      subst isRow
      exact .ofScore rfl rfl foundOutcome' kept

end Origins

section Truth

/-- One value is the score of a completed round wherever it appears. -/
structure OneScore (env : Platform) (calls : List Call) (db : Database)
    (gameSession : GameSession) (game : Game) (config : GameConfigVersion)
    (rules : GameKey) (outcome : Outcome) (value : Int) : Prop where
  foundGame : gameById gameSession.gameId db = some game
  isRules : rulesFor game.key = .ok rules
  foundConfig : configById gameSession.configVersionId db = some config
  foundOutcome : outcomeBySession gameSession.id db = some outcome
  /-- The rules score the stored outcome without failing. -/
  scored : leaderboardScore env.schema config outcome rules = .ok value
  issued : ∃ reward, rewardByOutcome outcome.id db = some reward ∧ reward.value = value
  spun : rules = .dailySpin → ∃ proof,
    proofBySession gameSession.id db = some proof ∧ proof.rewardValue = some value
  submitted : ∀ score, scoreBySession gameSession.id db = some score →
    score.finalScore = value
  /-- The score of a skill check is the share of the longest common prefix of the
  played actions and the challenge. -/
  skill : rules = .skillCheck → ∃ ownerId intent provider draw skill actions challenge,
    .playSession gameSession.id ownerId intent provider draw ∈ calls ∧
      draw.outcomeId = outcome.id ∧
      validatedConfig env.schema config = .ok (.skillCheck skill) ∧
      intent.actions = some actions ∧
      gameSession.challenge.get? (py "sequence") = some (.arr challenge) ∧
      SkillScore skill.maxScore value actions challenge

/-- Only daily spin reveals proofs. -/
theorem GameKey.mode_fairness {rules : GameKey} :
    rules.mode = .fairness ↔ rules = .dailySpin := by
  cases rules <;> simp [GameKey.mode]

/-- The entitlement of a play is the score of its outcome. -/
theorem leaderboardScore_of_entitled {config : GameConfigVersion} {outcome : Outcome}
    {gameKey : PyStr} {rules : GameKey} {value : Int}
    (isRules : rulesFor gameKey = .ok rules)
    (entitled : rewardValue env config outcome gameKey = .ok value) :
    leaderboardScore env.schema config outcome rules = .ok value := by
  have named : gameKey ≠ [] := by
    rintro rfl
    cases isRules
  obtain ⟨payload, _, entitled⟩ := bind_eq_ok.mp entitled
  rw [if_neg named] at entitled
  obtain ⟨rules', isRules', entitled⟩ := bind_eq_ok.mp entitled
  cases isRules.symm.trans isRules'
  exact entitled

/-- The value of a final score is the one that the rules compute. -/
theorem Scores.submitted (scores : Scores env calls db) {gameSession : GameSession}
    {outcome : Outcome} {value : Int}
    (foundOutcome : outcomeBySession gameSession.id db = some outcome)
    (scored : ScoreOf env db outcome value) {score : FinalScore}
    (found : scoreBySession gameSession.id db = some score) :
    score.finalScore = value := by
  have ofSession : score.sessionId = gameSession.id := lookup_key found
  obtain ⟨other, foundOther, isScore⟩ := scores.scores score (lookup_mem found)
  rw [ofSession] at foundOther
  cases foundOutcome.symm.trans foundOther
  exact isScore.unique scored

/-- The rounds that direct plays complete. -/
theorem Scores.played (scores : Scores env calls db)
    {active gameSession : GameSession} {game : Game} {config : GameConfigVersion}
    {rules : GameKey} {ownerId : Uuid} {intent : PlayIntent}
    {provider : OutcomeProvider} {draw : PlayDraw} {result : Json} {value now : Int}
    {outcome : Outcome}
    (called : .playSession active.id ownerId intent provider draw ∈ calls)
    (session : sessionById gameSession.id db = some gameSession)
    (foundOutcome : outcomeBySession gameSession.id db = some outcome)
    (same : SameRound active gameSession)
    (foundGame : gameById gameSession.gameId db = some game)
    (isRules : rulesFor game.key = .ok rules) (direct : rules.mode ≠ .fairness)
    (foundConfig : configById gameSession.configVersionId db = some config)
    (evaluated : evaluatePlay env.schema active config intent provider now rules =
      .ok result)
    (isOutcome : outcome = playedOutcome active draw.outcomeId result)
    (entitled : rewardValue env config outcome game.key = .ok value)
    (issued : ∃ reward, rewardByOutcome outcome.id db = some reward ∧
      reward.value = value) :
    OneScore env calls db gameSession game config rules outcome value := by
  have scored := leaderboardScore_of_entitled isRules entitled
  have ofSession : outcome.sessionId = gameSession.id := lookup_key foundOutcome
  constructor
  case foundGame => exact foundGame
  case isRules => exact isRules
  case foundConfig => exact foundConfig
  case foundOutcome => exact foundOutcome
  case scored => exact scored
  case issued => exact issued
  case spun => exact fun isSpin => absurd (GameKey.mode_fairness.mpr isSpin) direct
  case submitted =>
    intro score found
    refine scores.submitted foundOutcome ?_ found
    exact ⟨gameSession, game, config, rules, ofSession ▸ session, foundGame, isRules,
      foundConfig, scored⟩
  case skill =>
    rintro rfl
    obtain ⟨skill, actions, challenge, score, validated, isActions, isChallenge,
      isScore, scored'⟩ := skillCheck_scores evaluated draw.outcomeId
    rw [← isOutcome, scored] at scored'
    cases scored'
    refine ⟨ownerId, intent, provider, draw, skill, actions, challenge, ?_, ?_,
      validated, isActions, ?_, isScore⟩
    · rw [same.id]
      exact called
    · rw [isOutcome]
      rfl
    · rw [same]
      exact isChallenge

/-- The rounds that reveals complete. -/
theorem Scores.revealed (scores : Scores env calls db)
    (consistent : Consistent env calls db) {gameSession : GameSession}
    {proof : FairnessProof} {outcome : Outcome}
    (session : sessionById gameSession.id db = some gameSession)
    (foundOutcome : outcomeBySession gameSession.id db = some outcome)
    (found : proofBySession gameSession.id db = some proof)
    (status : proof.status = .revealed) (bound : proof.outcomeId = some outcome.id) :
    ∃ game config value,
      OneScore env calls db gameSession game config .dailySpin outcome value := by
  have ofSession : outcome.sessionId = gameSession.id := lookup_key foundOutcome
  obtain ⟨row, record, commitment, _, evidence⟩ :=
    consistent.proofs proof (lookup_mem found)
  have isRow : proof.sessionId = gameSession.id := lookup_key found
  have here := commitment.session
  rw [isRow] at here
  cases session.symm.trans here
  cases evidence with
  | committed isCommitted => simp [status] at isCommitted
  | ended isEnded => simp [status] at isEnded
  | @revealed _ now clientSeed draw derivation _ disclosed =>
      obtain ⟨rules, isRules, isFair⟩ := fairnessBands_mode commitment.mapped
      cases GameKey.mode_fairness.mp isFair
      obtain ⟨spin, validated, isBands⟩ := fairnessRewardBands_eq_ok commitment.mapped
      have drawn : draw.outcomeId = outcome.id := by
        rw [disclosed.columns] at bound
        exact Option.some.inj bound
      have isOutcome : outcome =
          revealedOutcome gameSession draw.outcomeId derivation := by
        have foundHere := consistent.keys.outcomeIds.lookup (lookup_mem foundOutcome) rfl
        rw [← drawn] at foundHere
        exact Option.some.inj (foundHere.symm.trans disclosed.outcome)
      have valid : ValidBands spin.bands := by
        obtain ⟨bytes, mapped, _⟩ := bind_eq_ok.mp commitment.hashed
        obtain ⟨_, accepted, _⟩ := bind_eq_ok.mp mapped
        rw [isBands] at accepted
        exact validateRewardBands_iff.mp accepted
      have member : derivation.reward ∈ spin.bands := by
        have derived := disclosed.derives commitment
        rw [isBands] at derived
        obtain ⟨_, _, _, _, _, spinDraw⟩ :=
          (valid.fairSpin.drawn _ _ _ _ _ _ _ _ _ _ _ _).mp derived
        exact selectDailySpinReward_mem valid spinDraw.selected
      have scored := revealed_scores validated valid member gameSession draw.outcomeId
      rw [← isOutcome] at scored
      obtain ⟨reward, foundReward, isValue, _⟩ := disclosed.reward
      refine ⟨record.game, record.config, derivation.reward.value, ?_⟩
      constructor
      case foundGame => exact commitment.game
      case isRules => exact isRules
      case foundConfig => exact commitment.config
      case foundOutcome => exact foundOutcome
      case scored => exact scored
      case issued => exact ⟨reward, drawn ▸ foundReward, isValue⟩
      case spun =>
        refine fun _ => ⟨proof, found, ?_⟩
        rw [disclosed.columns]
        rfl
      case submitted =>
        intro score foundScore
        refine scores.submitted foundOutcome ?_ foundScore
        exact ⟨gameSession, record.game, record.config, .dailySpin, ofSession ▸ session,
          commitment.game, isRules, commitment.config, scored⟩
      case skill => exact nofun

end Truth

/-! ### Every run -/

/-- In every run of the services every completed round has one score. -/
theorem one_scoring_truth {env : Platform} {system : ServiceSystem}
    (reachable : ServiceReachable env AnyStep system) :
    ∀ gameSession ∈ system.db.sessions, gameSession.status = .completed →
      ∃ game config rules outcome value,
        OneScore env (Discipline.calls system) system.db gameSession game config rules
          outcome value := by
  intro gameSession member isCompleted
  have consistent := (service_sound reachable).inv.1
  have scores : Scores env (Discipline.calls system) system.db := by
    refine service_invariant (fun db empty => ?_) (fun before => ?_)
      (fun known consistent effect before => effect.scores known consistent before)
      reachable
    · constructor <;> simp [empty.outcomes, empty.scores]
    · exact before.grows (List.subset_append_left _ _)
  obtain ⟨outcome, foundOutcome⟩ :=
    consistent.rounds.completedOf gameSession member isCompleted
  have session := consistent.keys.sessionIds.lookup member rfl
  have ofSession : outcome.sessionId = gameSession.id := lookup_key foundOutcome
  cases scores.origins outcome (lookup_mem foundOutcome) with
  | played called foundSession same foundGame isRules direct foundConfig evaluated
      isOutcome entitled issued =>
      rw [ofSession] at foundSession
      cases session.symm.trans foundSession
      exact ⟨_, _, _, outcome, _, scores.played called session foundOutcome same
        foundGame isRules direct foundConfig evaluated isOutcome entitled issued⟩
  | revealed found status bound =>
      rw [ofSession] at found
      obtain ⟨game, config, value, one⟩ :=
        scores.revealed consistent session foundOutcome found status bound
      exact ⟨game, config, .dailySpin, outcome, value, one⟩

namespace Sample

/-- The creation of a skill-check session. -/
def skill : Call := .createSession 36 1 1 (py "skill_check") ⟨37, [3, 1, 4]⟩

/-- A play of it that misses the last step of the challenge. -/
def playSkill : Call :=
  .playSession 37 1 ⟨none, some [3, 1, 5]⟩ ⟨fun _ _ _ _ _ => ⟨0, []⟩⟩ ⟨38, 39⟩

/-- The submission of its score. -/
def submitSkill : Call := .submitFinalScore 37 1 40

/-- A session is created, played and submitted. -/
def submittedLabels : List (Label Int Call) :=
  [.start skill] ++ statements 0 13 1000 ++ [.start playSkill] ++
    statements 1 9 2000 ++ [.start submitSkill] ++ statements 2 11 3000

theorem submitted_runs : (run submittedLabels).isSome = true := by
  decide +kernel

@[irreducible] def submitted : ServiceSystem := (run submittedLabels).get submitted_runs

theorem submitted_reachable : ServiceReachable platform AnyStep submitted := by
  unfold submitted
  exact reachable (Option.some_get submitted_runs).symm

end Sample

/-- A run that submits two thirds of the largest score. -/
theorem one_scoring_truth_submitted :
    Sample.submitted.db.scores.map FinalScore.finalScore = [66] ∧
      ∃ gameSession ∈ Sample.submitted.db.sessions,
        ∃ game config rules outcome value,
          OneScore Sample.platform (Discipline.calls Sample.submitted)
            Sample.submitted.db gameSession game config rules outcome value := by
  refine ⟨by decide +kernel, ?_⟩
  obtain ⟨gameSession, member, isCompleted⟩ : ∃ gameSession ∈
      Sample.submitted.db.sessions, gameSession.status = .completed := by
    decide +kernel
  exact ⟨gameSession, member,
    one_scoring_truth Sample.submitted_reachable gameSession member isCompleted⟩

end RngGamePlatform
