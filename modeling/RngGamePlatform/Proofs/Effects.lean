/-
Module: RngGamePlatform.Proofs.Effects
Purpose: The changes of the committed tables that requests make, one constructor
  for each, with the facts the services have checked before.
Trusted boundary: none
Main exports: EndStatus, endedAs, Effect, Effects, Answered, Guarantee
-/
import RngGamePlatform.Proofs.Statements
import RngGamePlatform.Services.Requests

namespace RngGamePlatform

open Encoding Relational Transactions

/-- How a session can end without an outcome, and what becomes of its proof. -/
inductive EndStatus : SessionStatus → FairnessProofStatus → Prop where
  | expired : EndStatus .expired .expired
  | cancelled : EndStatus .cancelled .cancelled

/-- A session ended at `now`. -/
def endedAs (gameSession : GameSession) (status : SessionStatus) (now : Int) :
    GameSession :=
  { gameSession with status := status, endedAt := some now }

/-- One change that a request makes to the committed tables. -/
inductive Effect (env : Platform) (call : Call) (db db' : Database) : Prop where
  /-- An active session without a committed proof ends. -/
  | endAlone {gameSession : GameSession} {status : SessionStatus}
      {proofStatus : FairnessProofStatus} {now : Int}
      (kind : EndStatus status proofStatus)
      (found : sessionById gameSession.id db = some gameSession)
      (active : gameSession.status = .active)
      (noneCommitted : ∀ proof, proofBySession gameSession.id db = some proof →
        proof.status ≠ .committed)
      (written :
        Database.updateSession (endedAs gameSession status now) db = .ok db')
  /-- An active session ends together with its committed proof. -/
  | endWithProof {gameSession : GameSession} {proof : FairnessProof}
      {previous : FairnessProofEvent} {status : SessionStatus}
      {proofStatus : FairnessProofStatus} {now : Int}
      (kind : EndStatus status proofStatus)
      (found : sessionById gameSession.id db = some gameSession)
      (active : gameSession.status = .active)
      (bound : proofBySession gameSession.id db = some proof)
      (committed : proof.status = .committed)
      (latest : latestEvent proof.id db = some previous)
      (written : flushTermination (endedAs gameSession status now)
        (proof.withStatus proofStatus)
        (terminalEvent env.crypto (proof.withStatus proofStatus) previous now)
        db = .ok db')
  /-- A session is created. -/
  | create {requestId playerId ownerId : Uuid} {gameKey : PyStr}
      {draw : SessionDraw} {player : Player} {game : Game}
      {config : GameConfigVersion} {payload : GameConfigPayload} {rules : GameKey}
      {challenge : Json} {startedAt now : Int} {row : GameSession}
      {middle : Database}
      (isCall : call = .createSession requestId playerId ownerId gameKey draw)
      (foundPlayer : playerById playerId db = some player)
      (foundGame : lookup Game.key gameKey db.games = some game)
      (isRules : rulesFor game.key = .ok rules)
      (isRow : row = newSession requestId player.id game config payload
        (createSessionFingerprint env player.id gameKey) challenge draw.sessionId
        startedAt now)
      (inserted : Database.insertSession row db = .ok middle)
      (evidence : insertEvidence [sessionAudit row]
        [sessionStartedEvent row game.key] middle = .ok db')
  /-- A proof is committed. -/
  | commit {gameSession : GameSession} {game : Game} {config : GameConfigVersion}
      {ownerId : Uuid} {draw : CommitDraw} {bands : List RewardBand}
      {digest : PyStr} {proof : FairnessProof} {now : Int}
      {middle last : Database}
      (isCall : call = .commitFairness gameSession.id ownerId draw)
      (found : sessionById gameSession.id db = some gameSession)
      (active : gameSession.status = .active)
      (owner : gameSession.playerId = ownerId)
      (foundGame : gameById gameSession.gameId db = some game)
      (foundConfig : configById gameSession.configVersionId db = some config)
      (belongs : config.gameId = game.id)
      (unbound : proofBySession gameSession.id db = none)
      (mapped : fairnessBands env game.key config = .ok bands)
      (hashed : dailySpinMappingDigest env.crypto bands = .ok digest)
      (isProof : proof = newProof gameSession game config ownerId draw.proofId
        (env.crypto.sha256 draw.seed.val).hex digest)
      (inserted : Database.insertProof proof db = .ok middle)
      (kept : Database.insertCustody ⟨proof.id, draw.seed.val⟩ middle = .ok last)
      (chained : Database.insertEvent (commitEvent env proof now) last = .ok db')
  /-- A committed proof is revealed. -/
  | reveal {gameSession : GameSession} {proof revealed : FairnessProof}
      {game : Game} {config : GameConfigVersion} {custody : FairnessSeedCustody}
      {bands : List RewardBand} {ownerId : Uuid} {clientSeed : PyStr}
      {draw : EvaluateDraw} {derivation : DailySpinDerivation} {outcome : Outcome}
      {reward : Reward} {previous : FairnessProofEvent} {now : Int}
      {first second third : Database}
      (isCall : call = .evaluateFairness proof.id ownerId clientSeed draw)
      (found : sessionById proof.sessionId db = some gameSession)
      (active : gameSession.status = .active)
      (foundProof : proofById proof.id db = some proof)
      (committed : proof.status = .committed)
      (owner : proof.playerId = ownerId)
      (foundGame : gameById proof.gameId db = some game)
      (foundConfig : configById proof.configVersionId db = some config)
      (foundCustody : custodyByProof proof.id db = some custody)
      (mapped : fairnessBands env game.key config = .ok bands)
      (derived : evaluationOf env proof custody.serverSeedMaterial bands clientSeed
        draw.fuel = .ok derivation)
      (isOutcome : outcome = revealedOutcome gameSession draw.outcomeId derivation)
      (isReward : reward =
        issuedReward outcome draw.rewardId ownerId derivation.reward.value)
      (isRevealed : revealed = revealedProof proof outcome.id clientSeed
        (evaluationFingerprintOf env proof.id clientSeed) derivation
        custody.serverSeedMaterial now)
      (latest : latestEvent proof.id db = some previous)
      (inserted : Database.insertOutcome outcome db = .ok first)
      (rewarded : Database.insertReward reward first = .ok second)
      (written : flushReveal revealed (revealedEvent env revealed previous now)
        second = .ok third)
      (finished : flushCompletion (completed gameSession now) outcome reward ownerId
        game.key third = .ok db')
  /-- A direct game is played. -/
  | play {gameSession : GameSession} {game : Game} {config : GameConfigVersion}
      {rules : GameKey} {ownerId : Uuid} {intent : PlayIntent}
      {provider : OutcomeProvider} {draw : PlayDraw} {result : Json} {value : Int}
      {outcome : Outcome} {reward : Reward} {now : Int} {first second : Database}
      (isCall : call = .playSession gameSession.id ownerId intent provider draw)
      (found : sessionById gameSession.id db = some gameSession)
      (active : gameSession.status = .active)
      (owner : gameSession.playerId = ownerId)
      (foundGame : gameById gameSession.gameId db = some game)
      (isRules : rulesFor game.key = .ok rules)
      (direct : rules.mode ≠ .fairness)
      (foundConfig : configById gameSession.configVersionId db = some config)
      (belongs : config.gameId = game.id)
      (evaluated : evaluatePlay env.schema gameSession config intent provider now
        rules = .ok result)
      (isOutcome : outcome = playedOutcome gameSession draw.outcomeId result)
      (isReward : reward = issuedReward outcome draw.rewardId ownerId value)
      (inserted : Database.insertOutcome outcome db = .ok first)
      (rewarded : Database.insertReward reward first = .ok second)
      (finished : flushCompletion (completed gameSession now) outcome reward ownerId
        game.key second = .ok db')
      (entitled : rewardValue env config outcome game.key = .ok value)
  /-- A final score is stored. -/
  | score {gameSession : GameSession} {game : Game} {outcome : Outcome}
      {config : GameConfigVersion} {rules : GameKey}
      {ownerId scoreId : Uuid} {endedAt value : Int} {row : FinalScore}
      {middle : Database}
      (isCall : call = .submitFinalScore gameSession.id ownerId scoreId)
      (found : sessionById gameSession.id db = some gameSession)
      (owner : gameSession.playerId = ownerId)
      (isCompleted : gameSession.status = .completed)
      (ended : gameSession.endedAt = some endedAt)
      (foundGame : gameById gameSession.gameId db = some game)
      (isRules : leaderboardRulesFor game.key = .ok rules)
      (foundOutcome : outcomeBySession gameSession.id db = some outcome)
      (foundConfig : configById gameSession.configVersionId db = some config)
      (scored : leaderboardScore env.schema config outcome rules = .ok value)
      (isRow : row =
        newScore gameSession game outcome config ownerId scoreId endedAt value)
      (inserted : Database.insertScore row db = .ok middle)
      (evidence : insertEvidence [scoreAudit row game.key]
        [scoreEvent row game.key] middle = .ok db')
  /-- An issued reward is claimed. -/
  | claim {sessionId : Uuid} {outcome : Outcome} {reward : Reward} {gameKey : PyStr}
      {now : Int}
      (found : rewardBySession sessionId db = some (outcome, reward))
      (issued : reward.status = .issued)
      (written : flushClaim { reward with status := .claimed, claimedAt := some now }
        gameKey db = .ok db')

/-- What one commit of a request makes of the committed tables: nothing, one
effect, or one effect after the end of an elapsed session. -/
inductive Effects (env : Platform) (call : Call) (db db' : Database) : Prop where
  | unchanged (same : db' = db)
  | one (effect : Effect env call db db')
  | ending {middle : Database} (first : Effect env call db middle)
      (rounds : ∀ row ∈ middle.sessions, ∃ old ∈ db.sessions, SameRound old row)
      (effect : Effect env call middle db')

/-- The rows that a request is to create are there already. -/
def Answered : Call → Database → Prop
  | .createSession requestId _ _ _ _, db =>
      ∃ row, sessionByRequest requestId db = some row
  | .evaluateFairness proofId _ _ _, db =>
      ∃ proof, proofById proofId db = some proof ∧ proof.status = .revealed
  | .playSession sessionId _ _ _ _, db =>
      ∃ outcome, outcomeBySession sessionId db = some outcome
  | .submitFinalScore sessionId _ _, db =>
      ∃ score, scoreBySession sessionId db = some score
  | _, _ => False

/-- What every commit of a request meets. -/
structure Guarantee (env : Platform) (call : Call) (db db' : Database)
    (held : List Lock) : Prop where
  moves : Moves held db db'
  effects : Effects env call db db'
  answered : Answered call db → db' = db

/-- A commit without changes. -/
theorem Guarantee.unchanged (env : Platform) (call : Call) (db : Database)
    (held : List Lock) : Guarantee env call db db held where
  moves := .refl held db
  effects := .unchanged rfl
  answered := fun _ => rfl

end RngGamePlatform
