/-
Module: RngGamePlatform.Proofs.Answers
Purpose: What the answer of a successful request says about the stored rows, and
  why no later commit makes it untrue.
Trusted boundary: none
Main exports: roundOf, entitlementOf, settled, Fact, Fact.lasting
-/
import RngGamePlatform.Proofs.Effects

namespace RngGamePlatform

open Encoding Relational Transactions

/-- A session without the columns that its end writes. -/
def roundOf (row : GameSession) : GameSession :=
  { row with status := .active, endedAt := none }

/-- A reward without the columns that its claim writes. -/
def entitlementOf (row : Reward) : Reward :=
  { row with status := .issued, claimedAt := none }

/-- The part of a result that no later commit changes. -/
def settled : Result → Result
  | .session row => .session (roundOf row)
  | .state _ => .state (emptyState 0 [])
  | .evaluation outcome reward proof =>
      .evaluation outcome (entitlementOf reward) proof
  | result => result

variable (env : Platform)

/-- A session of the request id exists and was created with this intent. -/
structure Created (requestId playerId ownerId : Uuid) (gameKey : PyStr)
    (row : GameSession) (db : Database) : Prop where
  owner : playerId = ownerId
  stored : ∃ kept, sessionByRequest requestId db = some kept ∧
    roundOf kept = row ∧
    kept.requestFingerprint = createSessionFingerprint env playerId gameKey

/-- The proof was revealed for this client seed, and these are its rows. -/
structure Evaluated (proofId ownerId : Uuid) (clientSeed : PyStr)
    (outcome : Outcome) (reward : Reward) (proof : FairnessProof)
    (db : Database) : Prop where
  stored : proofById proofId db = some proof
  revealed : proof.status = .revealed
  owner : proof.playerId = ownerId
  intent : proof.evaluationFingerprint =
    some (evaluationFingerprintOf env proofId clientSeed)
  outcomeStored : outcomeById outcome.id db = some outcome
  outcomeBound : proof.outcomeId = some outcome.id
  rewarded : ∃ kept, (rewardBySession proof.sessionId db).map Prod.snd = some kept ∧
    entitlementOf kept = reward

/-- The session was played with this intent, as far as its game compares it. -/
structure Played (sessionId ownerId : Uuid) (intent : PlayIntent)
    (outcome : Outcome) (db : Database) : Prop where
  stored : outcomeBySession sessionId db = some outcome
  matched : ∃ gameSession game rules,
    sessionById sessionId db = some gameSession ∧
      gameSession.playerId = ownerId ∧
      gameById gameSession.gameId db = some game ∧ rulesFor game.key = .ok rules ∧
      (rules = .predictionCard → retryMatches outcome intent rules = some true)

/-- The session has this score. -/
structure Scored (sessionId ownerId : Uuid) (row : FinalScore) (db : Database) :
    Prop where
  stored : scoreBySession sessionId db = some row
  owner : ∃ gameSession, sessionById sessionId db = some gameSession ∧
    gameSession.playerId = ownerId

/-- What the settled part of an answer says. -/
def Fact : Call → Result → Database → Prop
  | .createSession requestId playerId ownerId gameKey _, .session row, db =>
      Created env requestId playerId ownerId gameKey row db
  | .createSession _ _ _ _ _, _, _ => False
  | .evaluateFairness proofId ownerId clientSeed _, .evaluation outcome reward proof,
      db => Evaluated env proofId ownerId clientSeed outcome reward proof db
  | .evaluateFairness _ _ _ _, _, _ => False
  | .playSession sessionId ownerId intent _ _, .outcome row, db =>
      Played sessionId ownerId intent row db
  | .playSession _ _ _ _ _, _, _ => False
  | .submitFinalScore sessionId ownerId _, .score row _ _, db =>
      Scored sessionId ownerId row db
  | .submitFinalScore _ _ _, _, _ => False
  | _, _, _ => True

section Lasting

variable {env} {held : List Lock} {db db' : Database}

theorem SameRound.roundOf {old new : GameSession} (same : SameRound old new) :
    roundOf new = roundOf old := by
  rw [same]
  rfl

theorem RewardStep.entitlementOf {old new : Reward}
    (step : RewardStep held old new) : entitlementOf new = entitlementOf old := by
  rcases step with rfl | ⟨_, _, same⟩
  · rfl
  · rw [same]
    rfl

namespace Moves

theorem gameById (moves : Moves held db db') (id : Uuid) :
    gameById id db' = gameById id db := by
  simp only [RngGamePlatform.gameById, moves.games]

theorem configById (moves : Moves held db db') (id : Uuid) :
    configById id db' = configById id db := by
  simp only [RngGamePlatform.configById, moves.configs]

/-- A stored session keeps everything but its end. -/
theorem session_some (moves : Moves held db db') {id : Uuid} {row : GameSession}
    (found : sessionById id db = some row) :
    ∃ row', sessionById id db' = some row' ∧ SessionStep held row row' :=
  moves.sessions.lookup_some (fun _ _ step => step.id) found

theorem outcomeBySession_some (moves : Moves held db db') {id : Uuid}
    {outcome : Outcome} (found : outcomeBySession id db = some outcome) :
    outcomeBySession id db' = some outcome := by
  rcases moves.outcomes.lookup_some (fun _ _ same => by rw [same]) found with
    ⟨outcome', found', same⟩
  rw [outcomeBySession, found', same]

theorem outcomeById_some (moves : Moves held db db') {id : Uuid}
    {outcome : Outcome} (found : outcomeById id db = some outcome) :
    outcomeById id db' = some outcome := by
  rcases moves.outcomes.lookup_some (fun _ _ same => by rw [same]) found with
    ⟨outcome', found', same⟩
  rw [outcomeById, found', same]

theorem scoreBySession_some (moves : Moves held db db') {id : Uuid}
    {score : FinalScore} (found : scoreBySession id db = some score) :
    scoreBySession id db' = some score := by
  rcases moves.scores.lookup_some (fun _ _ same => by rw [same]) found with
    ⟨score', found', same⟩
  rw [scoreBySession, found', same]

/-- A proof that is not committed any more stays as it is. -/
theorem proofById_ended (moves : Moves held db db') {id : Uuid}
    {proof : FairnessProof} (found : proofById id db = some proof)
    (ended : proof.status ≠ .committed) : proofById id db' = some proof := by
  rcases moves.proofs.lookup_some (fun _ _ step => step.same.1) found with
    ⟨proof', found', step⟩
  rw [proofById, found']
  rcases step with same | ⟨_, _, committed, _⟩
  · rw [same]
  · exact absurd committed ended

theorem rewardBySession_some (moves : Moves held db db') {id : Uuid}
    {pair : Outcome × Reward} (found : rewardBySession id db = some pair) :
    ∃ reward', rewardBySession id db' = some (pair.1, reward') ∧
      RewardStep held pair.2 reward' := by
  simp only [rewardBySession, Option.bind_eq_bind, Option.bind_eq_some_iff,
    Option.pure_def, Option.some.injEq] at found
  rcases found with ⟨outcome, foundOutcome, reward, foundReward, rfl⟩
  rcases moves.rewards.lookup_some (fun _ _ step => step.outcomeId) foundReward with
    ⟨reward', foundReward', step⟩
  refine ⟨reward', ?_, step⟩
  have kept : rewardByOutcome outcome.id db' = some reward' := foundReward'
  simp [rewardBySession, moves.outcomeBySession_some foundOutcome, kept]

end Moves

theorem Created.lasting {requestId playerId ownerId : Uuid} {gameKey : PyStr}
    {row : GameSession} (moves : Moves held db db')
    (created : Created env requestId playerId ownerId gameKey row db) :
    Created env requestId playerId ownerId gameKey row db' := by
  rcases created with ⟨owner, kept, found, isRow, intent⟩
  have sameRequest : ∀ old new, SessionStep held old new →
      new.requestId = old.requestId := fun _ _ step => by rw [step.sameRound]
  rcases moves.sessions.lookup_some sameRequest found with ⟨kept', found', step⟩
  have same := step.sameRound
  refine ⟨owner, kept', found', same.roundOf.trans isRow, ?_⟩
  rw [same]
  exact intent

theorem Evaluated.lasting {proofId ownerId : Uuid} {clientSeed : PyStr}
    {outcome : Outcome} {reward : Reward} {proof : FairnessProof}
    (moves : Moves held db db')
    (evaluated :
      Evaluated env proofId ownerId clientSeed outcome reward proof db) :
    Evaluated env proofId ownerId clientSeed outcome reward proof db' := by
  rcases evaluated.rewarded with ⟨kept, found, isReward⟩
  rcases Option.map_eq_some_iff.mp found with ⟨pair, foundPair, isKept⟩
  rcases moves.rewardBySession_some foundPair with ⟨reward', found', step⟩
  have ended : proof.status ≠ .committed := by
    rw [evaluated.revealed]
    decide
  exact
    { evaluated with
      stored := moves.proofById_ended evaluated.stored ended
      outcomeStored := moves.outcomeById_some evaluated.outcomeStored
      rewarded := ⟨reward', by rw [found']; rfl, by
        rw [step.entitlementOf, isKept, isReward]⟩ }

theorem Played.lasting {sessionId ownerId : Uuid} {intent : PlayIntent}
    {outcome : Outcome} (moves : Moves held db db')
    (played : Played sessionId ownerId intent outcome db) :
    Played sessionId ownerId intent outcome db' := by
  rcases played with ⟨stored, gameSession, game, rules, found, owner, foundGame, rest⟩
  rcases moves.session_some found with ⟨row, found', step⟩
  refine ⟨moves.outcomeBySession_some stored, row, game, rules, found', ?_, ?_, rest⟩
  · rw [step.sameRound]
    exact owner
  · rw [step.sameRound, moves.gameById]
    exact foundGame

theorem Scored.lasting {sessionId ownerId : Uuid} {row : FinalScore}
    (moves : Moves held db db') (scored : Scored sessionId ownerId row db) :
    Scored sessionId ownerId row db' := by
  rcases scored with ⟨stored, gameSession, found, owner⟩
  rcases moves.session_some found with ⟨kept, found', step⟩
  refine ⟨moves.scoreBySession_some stored, kept, found', ?_⟩
  rw [step.sameRound]
  exact owner

/-- No commit makes the settled part of an answer untrue. -/
theorem Fact.lasting {call : Call} {result : Result} (moves : Moves held db db')
    (fact : Fact env call result db) : Fact env call result db' := by
  cases call with
  | createSession requestId playerId ownerId gameKey draw =>
      cases result with
      | session row =>
          have created : Created env requestId playerId ownerId gameKey row db := fact
          exact created.lasting moves
      | _ => exact fact
  | evaluateFairness proofId ownerId clientSeed draw =>
      cases result with
      | evaluation outcome reward proof =>
          have evaluated :
            Evaluated env proofId ownerId clientSeed outcome reward proof db := fact
          exact evaluated.lasting moves
      | _ => exact fact
  | playSession sessionId ownerId intent provider draw =>
      cases result with
      | outcome row =>
          have played : Played sessionId ownerId intent row db := fact
          exact played.lasting moves
      | _ => exact fact
  | submitFinalScore sessionId ownerId scoreId =>
      cases result with
      | score row created gameKey =>
          have scored : Scored sessionId ownerId row db := fact
          exact scored.lasting moves
      | _ => exact fact
  | _ => cases result <;> trivial

end Lasting

end RngGamePlatform
