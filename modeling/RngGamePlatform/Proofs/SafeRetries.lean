/-
Module: RngGamePlatform.Proofs.SafeRetries
Purpose: Repeated and concurrent calls with one idempotency key create their rows
  once, answer with those rows, and refuse another intent.
Trusted boundary: none
Main exports: KeyRows, rowsOf, Returns, SameIntent, SafeRetries, safe_retries
-/
import RngGamePlatform.Proofs.Fingerprints
import RngGamePlatform.Proofs.ProvableFairness

namespace RngGamePlatform

open Encoding Relational Transactions

/-- The rows of a key, without the columns that an end or a claim writes. -/
inductive KeyRows where
  | session (row : GameSession)
  | evaluation (outcome : Outcome) (reward : Reward) (proof : FairnessProof)
  | play (outcome : Outcome) (reward : Reward)
  | score (row : FinalScore)

/-- The rows that a call creates, when they exist under its key: the request id
of a creation, the proof of an evaluation, the session of a play or a score. -/
def rowsOf : Call → Database → Option KeyRows
  | .createSession requestId _ _ _ _, db =>
      (sessionByRequest requestId db).map fun row => .session (roundOf row)
  | .evaluateFairness proofId _ _ _, db => do
      let proof ← proofById proofId db
      let pair ← rewardBySession proof.sessionId db
      if proof.status = .revealed then
        some (.evaluation pair.1 (entitlementOf pair.2) proof)
      else none
  | .playSession sessionId _ _ _ _, db =>
      (rewardBySession sessionId db).map fun pair =>
        .play pair.1 (entitlementOf pair.2)
  | .submitFinalScore sessionId _ _, db => (scoreBySession sessionId db).map .score
  | _, _ => none

/-- The calls with an idempotency key. -/
def Keyed : Call → Prop
  | .createSession _ _ _ _ _ => True
  | .evaluateFairness _ _ _ _ => True
  | .playSession _ _ _ _ _ => True
  | .submitFinalScore _ _ _ => True
  | _ => False

/-- The result returns these rows. -/
def Returns : Result → KeyRows → Prop
  | .session row, .session kept => roundOf row = kept
  | .evaluation outcome reward proof, .evaluation outcome' reward' proof' =>
      outcome = outcome' ∧ entitlementOf reward = reward' ∧ proof = proof'
  | .outcome row, .play outcome _ => row = outcome
  | .score row _ _, .score kept => row = kept
  | _, _ => False

/-- The session is one of the prediction-card game. -/
def PredictionSession (db : Database) (sessionId : Uuid) : Prop :=
  ∃ gameSession game, sessionById sessionId db = some gameSession ∧
    gameById gameSession.gameId db = some game ∧
    rulesFor game.key = .ok .predictionCard

/-- Two calls with the same key have the same intent. -/
def SameIntent (db : Database) : Call → Call → Prop
  | .createSession requestId playerId ownerId gameKey _,
      .createSession requestId' playerId' ownerId' gameKey' _ =>
      requestId = requestId' →
        playerId = playerId' ∧ ownerId = ownerId' ∧ gameKey = gameKey'
  | .evaluateFairness proofId ownerId clientSeed _,
      .evaluateFairness proofId' ownerId' clientSeed' _ =>
      proofId = proofId' → ownerId = ownerId' ∧ clientSeed = clientSeed'
  | .playSession sessionId ownerId intent _ _,
      .playSession sessionId' ownerId' intent' _ _ =>
      sessionId = sessionId' → ownerId = ownerId' ∧
        (PredictionSession db sessionId → intent.choice = intent'.choice)
  | .submitFinalScore sessionId ownerId _, .submitFinalScore sessionId' ownerId' _ =>
      sessionId = sessionId' → ownerId = ownerId'
  | _, _ => True

section Rows

variable {env : Platform} {calls : List Call} {db db' : Database} {held : List Lock}

/-- Rows under a key stay as they are. -/
theorem rowsOf_lasting (moves : Moves held db db') {call : Call} {rows : KeyRows}
    (found : rowsOf call db = some rows) : rowsOf call db' = some rows := by
  cases call with
  | createSession requestId playerId ownerId gameKey draw =>
      rcases Option.map_eq_some_iff.mp found with ⟨row, isRow, rfl⟩
      have sameRequest : ∀ old new, SessionStep held old new →
          new.requestId = old.requestId := fun _ _ step => by rw [step.sameRound]
      rcases moves.sessions.lookup_some sameRequest isRow with ⟨row', found', step⟩
      exact Option.map_eq_some_iff.mpr ⟨row', found', by rw [step.sameRound.roundOf]⟩
  | evaluateFairness proofId ownerId clientSeed draw =>
      simp only [rowsOf, Option.bind_eq_bind, Option.bind_eq_some_iff] at found ⊢
      rcases found with ⟨proof, isProof, pair, isPair, rest⟩
      split at rest
      · next revealed =>
          rcases moves.rewardBySession_some isPair with ⟨reward', isPair', step⟩
          have ended : proof.status ≠ .committed := by
            rw [revealed]
            nofun
          refine ⟨proof, moves.proofById_ended isProof ended, _, isPair', ?_⟩
          rw [if_pos revealed, step.entitlementOf]
          exact rest
      · cases rest
  | playSession sessionId ownerId intent provider draw =>
      rcases Option.map_eq_some_iff.mp found with ⟨pair, isPair, rfl⟩
      rcases moves.rewardBySession_some isPair with ⟨reward', isPair', step⟩
      exact Option.map_eq_some_iff.mpr ⟨_, isPair', by rw [step.entitlementOf]⟩
  | submitFinalScore sessionId ownerId scoreId =>
      rcases Option.map_eq_some_iff.mp found with ⟨score, isScore, rfl⟩
      exact Option.map_eq_some_iff.mpr ⟨score, moves.scoreBySession_some isScore, rfl⟩
  | _ => cases found

theorem rewardBySession_outcome {sessionId : Uuid} {pair : Outcome × Reward}
    (found : rewardBySession sessionId db = some pair) :
    outcomeBySession sessionId db = some pair.1 := by
  simp only [rewardBySession, Option.bind_eq_bind, Option.bind_eq_some_iff,
    Option.pure_def, Option.some.injEq] at found
  rcases found with ⟨outcome, isOutcome, reward, _, rfl⟩
  exact isOutcome

/-- A call whose rows exist is answered. -/
theorem answered_of_rowsOf {call : Call} {rows : KeyRows}
    (found : rowsOf call db = some rows) : Answered call db := by
  cases call with
  | createSession requestId playerId ownerId gameKey draw =>
      rcases Option.map_eq_some_iff.mp found with ⟨row, isRow, _⟩
      exact ⟨row, isRow⟩
  | evaluateFairness proofId ownerId clientSeed draw =>
      simp only [rowsOf, Option.bind_eq_bind, Option.bind_eq_some_iff] at found
      rcases found with ⟨proof, isProof, pair, _, rest⟩
      split at rest
      · next revealed => exact ⟨proof, isProof, revealed⟩
      · cases rest
  | playSession sessionId ownerId intent provider draw =>
      rcases Option.map_eq_some_iff.mp found with ⟨pair, isPair, _⟩
      exact ⟨pair.1, rewardBySession_outcome isPair⟩
  | submitFinalScore sessionId ownerId scoreId =>
      rcases Option.map_eq_some_iff.mp found with ⟨score, isScore, _⟩
      exact ⟨score, isScore⟩
  | _ => cases found

/-- Every outcome has its reward. -/
theorem Consistent.rewarded (consistent : Consistent env calls db) {sessionId : Uuid}
    {outcome : Outcome} (found : outcomeBySession sessionId db = some outcome) :
    ∃ reward, rewardBySession sessionId db = some (outcome, reward) := by
  rcases consistent.rounds.rewardOf outcome (lookup_mem found) with ⟨reward, isReward, _⟩
  exact ⟨reward, by simp [rewardBySession, found, isReward]⟩

/-- What the commitment of a revealed proof and its reveal were made of. -/
theorem Consistent.revealed (consistent : Consistent env calls db) {proofId : Uuid}
    {proof : FairnessProof} {outcomeId : Uuid}
    (found : proofById proofId db = some proof)
    (bound : proof.outcomeId = some outcomeId) :
    ∃ gameSession record clientSeed draw derivation now,
      Commitment env calls db proof gameSession record ∧
      Disclosure env calls db proof gameSession record clientSeed draw derivation now ∧
        draw.outcomeId = outcomeId := by
  rcases consistent.proofs proof (lookup_mem found) with
    ⟨gameSession, record, commitment, _, evidence⟩
  rcases evidence.disclosed bound with
    ⟨clientSeed, draw, derivation, now, disclosed, isBound⟩
  exact ⟨gameSession, record, clientSeed, draw, derivation, now, commitment, disclosed,
    isBound⟩

/-- A successful answer returns the rows of its key. -/
theorem returns_of_fact (consistent : Consistent env calls db) {call : Call}
    {result : Result} (keyed : Keyed call) (fact : Fact env call (settled result) db) :
    ∃ rows, rowsOf call db = some rows ∧ Returns result rows := by
  cases call with
  | createSession requestId playerId ownerId gameKey draw =>
      cases result with
      | session row =>
          have created :
            Created env requestId playerId ownerId gameKey (roundOf row) db := fact
          rcases created.stored with ⟨kept, isKept, isRow, _⟩
          exact ⟨_, Option.map_eq_some_iff.mpr ⟨kept, isKept, rfl⟩, isRow.symm⟩
      | _ => exact absurd fact id
  | evaluateFairness proofId ownerId clientSeed draw =>
      cases result with
      | evaluation outcome reward proof =>
          have evaluated : Evaluated env proofId ownerId clientSeed outcome
            (entitlementOf reward) proof db := fact
          rcases evaluated.rewarded with ⟨kept, isKept, isReward⟩
          rcases Option.map_eq_some_iff.mp isKept with ⟨pair, isPair, rfl⟩
          rcases consistent.revealed evaluated.stored evaluated.outcomeBound with
            ⟨gameSession, record, _, draw', _, _, commitment, disclosed, isBound⟩
          have isOutcome : outcomeBySession proof.sessionId db = some outcome := by
            have there := disclosed.outcome
            rw [isBound, evaluated.outcomeStored] at there
            have ofSession : outcome.sessionId = proof.sessionId := by
              rw [Option.some.inj there]
              exact sessionById_id commitment.session
            exact consistent.keys.outcomeSessions.lookup
              (lookup_mem evaluated.outcomeStored) ofSession
          have same : outcome = pair.1 :=
            Option.some.inj (isOutcome.symm.trans (rewardBySession_outcome isPair))
          refine ⟨.evaluation pair.1 (entitlementOf pair.2) proof, ?_, same,
            isReward.symm, rfl⟩
          simp [rowsOf, evaluated.stored, isPair, evaluated.revealed]
      | _ => exact absurd fact id
  | playSession sessionId ownerId intent provider draw =>
      cases result with
      | outcome row =>
          have played : Played sessionId ownerId intent row db := fact
          rcases consistent.rewarded played.stored with ⟨reward, isReward⟩
          exact ⟨_, Option.map_eq_some_iff.mpr ⟨_, isReward, rfl⟩, rfl⟩
      | _ => exact absurd fact id
  | submitFinalScore sessionId ownerId scoreId =>
      cases result with
      | score row created gameKey =>
          have scored : Scored sessionId ownerId row db := fact
          exact ⟨_, Option.map_eq_some_iff.mpr ⟨row, scored.stored, rfl⟩, rfl⟩
      | _ => exact absurd fact id
  | _ => exact absurd keyed id

end Rows

section Intents

variable {env : Platform} {calls : List Call} {db : Database}

/-- Two successful creations with one request id. -/
theorem Created.agree (free : CollisionFree env calls)
    (consistent : Consistent env calls db)
    {requestId playerId ownerId playerId' ownerId' : Uuid} {gameKey gameKey' : PyStr}
    {draw draw' : SessionDraw} {row row' : GameSession}
    (inOne : .createSession requestId playerId ownerId gameKey draw ∈ calls)
    (inOther : .createSession requestId playerId' ownerId' gameKey' draw' ∈ calls)
    (one : Created env requestId playerId ownerId gameKey row db)
    (other : Created env requestId playerId' ownerId' gameKey' row' db) :
    playerId = playerId' ∧ ownerId = ownerId' ∧ gameKey = gameKey' := by
  rcases one.stored with ⟨kept, isKept, _, intent⟩
  rcases other.stored with ⟨kept', isKept', _, intent'⟩
  cases isKept.symm.trans isKept'
  rcases consistent.created kept (lookup_mem isKept) with
    ⟨creator, firstKey, firstDraw, rules, called, isRules, first⟩
  have sameOne := createSession_intent free called inOne isRules
    (first.symm.trans intent)
  have sameOther := createSession_intent free called inOther isRules
    (first.symm.trans intent')
  have samePlayer : playerId = playerId' := sameOne.1.symm.trans sameOther.1
  refine ⟨samePlayer, ?_, sameOne.2.symm.trans sameOther.2⟩
  rw [← one.owner, ← other.owner, samePlayer]

/-- Two successful evaluations of one proof. -/
theorem Evaluated.agree (free : CollisionFree env calls)
    (consistent : Consistent env calls db) {proofId ownerId ownerId' : Uuid}
    {clientSeed clientSeed' : PyStr} {draw draw' : EvaluateDraw}
    {outcome outcome' : Outcome} {reward reward' : Reward}
    {proof proof' : FairnessProof}
    (inOne : .evaluateFairness proofId ownerId clientSeed draw ∈ calls)
    (inOther : .evaluateFairness proofId ownerId' clientSeed' draw' ∈ calls)
    (one : Evaluated env proofId ownerId clientSeed outcome reward proof db)
    (other : Evaluated env proofId ownerId' clientSeed' outcome' reward' proof' db) :
    ownerId = ownerId' ∧ clientSeed = clientSeed' := by
  cases one.stored.symm.trans other.stored
  refine ⟨one.owner.symm.trans other.owner, ?_⟩
  rcases consistent.revealed one.stored one.outcomeBound with
    ⟨gameSession, record, first, firstDraw, derivation, now, commitment, disclosed, _⟩
  have basic : Basic first := basic_of_derived (disclosed.derives commitment)
  have accepted : proof.evaluationFingerprint =
      some (evaluationFingerprintOf env proof.id first) := by
    rw [disclosed.columns]
    rfl
  have fromFirst : ∀ {owner : Uuid} {seed : PyStr} {draw : EvaluateDraw},
      .evaluateFairness proofId owner seed draw ∈ calls →
      proof.evaluationFingerprint = some (evaluationFingerprintOf env proofId seed) →
      first = seed := by
    intro owner seed draw called intent
    exact evaluateFairness_intent free disclosed.called called basic
      (Option.some.inj (accepted.symm.trans intent))
  exact (fromFirst inOne one.intent).symm.trans (fromFirst inOther other.intent)

/-- Two successful plays of one session. -/
theorem Played.agree {sessionId ownerId ownerId' : Uuid} {intent intent' : PlayIntent}
    {outcome outcome' : Outcome} (one : Played sessionId ownerId intent outcome db)
    (other : Played sessionId ownerId' intent' outcome' db) :
    ownerId = ownerId' ∧
      (PredictionSession db sessionId → intent.choice = intent'.choice) := by
  cases one.stored.symm.trans other.stored
  rcases one.matched with ⟨row, game, rules, found, owner, isGame, isRules, matched⟩
  rcases other.matched with
    ⟨row', game', rules', found', owner', isGame', isRules', matched'⟩
  cases found.symm.trans found'
  cases isGame.symm.trans isGame'
  cases isRules.symm.trans isRules'
  refine ⟨owner.symm.trans owner', ?_⟩
  rintro ⟨row'', game'', found'', isGame'', isPrediction⟩
  cases found.symm.trans found''
  cases isGame.symm.trans isGame''
  cases isRules.symm.trans isPrediction
  have choice := matched rfl
  have choice' := matched' rfl
  simp only [retryMatches, Option.some.injEq, decide_eq_true_eq] at choice choice'
  have same := choice.2.symm.trans choice'.2
  cases left : intent.choice with
  | none =>
      cases right : intent'.choice with
      | none => rfl
      | some choice => simp [left, right, Json.ofOption] at same
  | some choice =>
      cases right : intent'.choice with
      | none => simp [left, right, Json.ofOption] at same
      | some choice' =>
          simp only [left, right, Json.ofOption, Json.str.injEq] at same
          rw [same]

theorem Scored.agree {sessionId ownerId ownerId' : Uuid} {row row' : FinalScore}
    (one : Scored sessionId ownerId row db)
    (other : Scored sessionId ownerId' row' db) : ownerId = ownerId' := by
  rcases one.owner with ⟨gameSession, found, owner⟩
  rcases other.owner with ⟨gameSession', found', owner'⟩
  cases found.symm.trans found'
  exact owner.symm.trans owner'

/-- Two successful calls with one key have one intent. -/
theorem sameIntent_of_facts (free : CollisionFree env calls)
    (consistent : Consistent env calls db) {one other : Call}
    {result result' : Result} (inOne : one ∈ calls) (inOther : other ∈ calls)
    (fact : Fact env one (settled result) db)
    (fact' : Fact env other (settled result') db) : SameIntent db one other := by
  cases one with
  | createSession requestId playerId ownerId gameKey draw =>
      cases other with
      | createSession requestId' playerId' ownerId' gameKey' draw' =>
          rintro rfl
          cases result with
          | session row =>
              cases result' with
              | session row' =>
                  have created : Created env requestId playerId ownerId gameKey
                    (roundOf row) db := fact
                  have created' : Created env requestId playerId' ownerId' gameKey'
                    (roundOf row') db := fact'
                  exact created.agree free consistent inOne inOther created'
              | _ => exact absurd fact' id
          | _ => exact absurd fact id
      | _ => trivial
  | evaluateFairness proofId ownerId clientSeed draw =>
      cases other with
      | evaluateFairness proofId' ownerId' clientSeed' draw' =>
          rintro rfl
          cases result with
          | evaluation outcome reward proof =>
              cases result' with
              | evaluation outcome' reward' proof' =>
                  have evaluated : Evaluated env proofId ownerId clientSeed outcome
                    (entitlementOf reward) proof db := fact
                  have evaluated' : Evaluated env proofId ownerId' clientSeed' outcome'
                    (entitlementOf reward') proof' db := fact'
                  exact evaluated.agree free consistent inOne inOther evaluated'
              | _ => exact absurd fact' id
          | _ => exact absurd fact id
      | _ => trivial
  | playSession sessionId ownerId intent provider draw =>
      cases other with
      | playSession sessionId' ownerId' intent' provider' draw' =>
          rintro rfl
          cases result with
          | outcome row =>
              cases result' with
              | outcome row' =>
                  have played : Played sessionId ownerId intent row db := fact
                  have played' : Played sessionId ownerId' intent' row' db := fact'
                  exact played.agree played'
              | _ => exact absurd fact' id
          | _ => exact absurd fact id
      | _ => trivial
  | submitFinalScore sessionId ownerId scoreId =>
      cases other with
      | submitFinalScore sessionId' ownerId' scoreId' =>
          rintro rfl
          cases result with
          | score row created gameKey =>
              cases result' with
              | score row' created' gameKey' =>
                  have scored : Scored sessionId ownerId row db := fact
                  have scored' : Scored sessionId ownerId' row' db := fact'
                  exact scored.agree scored'
              | _ => exact absurd fact' id
          | _ => exact absurd fact id
      | _ => trivial
  | _ => trivial

end Intents

/-- No key has two rows of one kind. -/
structure OneRowEach (db : Database) : Prop where
  sessions : ∀ one ∈ db.sessions, ∀ other ∈ db.sessions,
    one.requestId = other.requestId → one = other
  outcomes : ∀ one ∈ db.outcomes, ∀ other ∈ db.outcomes,
    one.sessionId = other.sessionId → one = other
  rewards : ∀ one ∈ db.rewards, ∀ other ∈ db.rewards,
    one.outcomeId ≠ none → one.outcomeId = other.outcomeId → one = other
  scores : ∀ one ∈ db.scores, ∀ other ∈ db.scores,
    one.sessionId = other.sessionId → one = other

theorem OneRowEach.of_keys {db : Database} (keys : Keys db) : OneRowEach db where
  sessions := fun _ inOne _ inOther same => keys.sessionRequests.eq inOne inOther same
  outcomes := fun _ inOne _ inOther same => keys.outcomeSessions.eq inOne inOther same
  rewards := keys.rewardOutcomes
  scores := fun _ inOne _ inOther same => keys.scoreSessions.eq inOne inOther same

/-- The rows under a key of `db` are the same in `db'`. -/
def RowsKept (db db' : Database) : Prop :=
  ∀ call rows, rowsOf call db = some rows → rowsOf call db' = some rows

theorem RowsKept.refl (db : Database) : RowsKept db db := fun _ _ found => found

theorem RowsKept.trans {db db' later : Database} (first : RowsKept db db')
    (second : RowsKept db' later) : RowsKept db later :=
  fun call rows found => second call rows (first call rows found)

theorem RowsKept.of_moves {held : List Lock} {db db' : Database}
    (moves : Moves held db db') : RowsKept db db' :=
  fun _ _ found => rowsOf_lasting moves found

/-- What makes the keyed calls of a system safe to retry. -/
structure SafeRetries (env : Platform) (system : ServiceSystem) : Prop where
  single : OneRowEach system.db
  /-- Once the rows of a key exist no later step makes others, so one call at most
  creates them. -/
  kept : ∀ labels later,
    system.follow Lock.conflicts (body env) labels = some later →
    RowsKept system.db later.db
  /-- Every call that succeeds returns the rows of its key. -/
  returned : ∀ (index : Nat) (thread : ServiceThread) (result : Result),
    system.threads[index]? = some thread → thread.status = .finished (.ok result) →
    Keyed thread.call →
    ∃ rows, rowsOf thread.call system.db = some rows ∧ Returns result rows
  /-- A call with the key of a success and another intent does not succeed. -/
  refused : ∀ (index other : Nat) (first second : ServiceThread) (result : Result),
    system.threads[index]? = some first → system.threads[other]? = some second →
    first.status = .finished (.ok result) →
    ¬SameIntent system.db first.call second.call →
    ∀ result', second.status ≠ .finished (.ok result')
  /-- A call whose rows exist changes no durable row. -/
  idle : ∀ (index : Nat) (time : Int) (thread : ServiceThread) (rows : KeyRows)
    (next : ServiceSystem), system.threads[index]? = some thread →
    rowsOf thread.call system.db = some rows →
    system.step Lock.conflicts (body env) (.advance index time) = some next →
    next.db = system.db

/-- Every run is safe to retry in. -/
theorem safe_retries {env : Platform} {system : ServiceSystem}
    (reachable : ServiceReachable env AnyStep system)
    (free : CollisionFree env (Discipline.calls system)) : SafeRetries env system := by
  have sound := service_sound reachable
  have consistent := sound.inv.1
  refine
    { single := .of_keys consistent.keys
      kept := fun labels later followed => ?_
      returned := fun index thread result found finished keyed =>
        returns_of_fact consistent keyed (sound.result found finished)
      refused := fun index other first second result isFirst isSecond finished differs
        result' finished' => ?_
      idle := fun index time thread rows next found isRows stepped => ?_ }
  · exact (sound.follow service_lawful (fun _ _ absurd => absurd.elim) .refl .trans
      (fun guarantee => .of_moves guarantee.moves) followed).2
  · exact differs (sameIntent_of_facts free consistent
      (Discipline.call_mem_calls isFirst) (Discipline.call_mem_calls isSecond)
      (sound.result isFirst finished) (sound.result isSecond finished'))
  · rcases sound.committed service_lawful found stepped (fun absurd => absurd.elim) with
      same | guarantee
    · exact same
    · exact guarantee.answered (answered_of_rowsOf isRows)

namespace Sample

/-- Three calls with one request id: the second one begins first, and the third
one asks for another game. -/
def retriedLabels : List (Label Int Call) :=
  [.start spin, .start (.createSession 31 1 1 (py "daily_spin") ⟨40, []⟩),
      .start (.createSession 31 1 1 (py "skill_check") ⟨41, []⟩)] ++
    statements 1 1 900 ++ statements 0 13 1000 ++ statements 1 5 2000 ++
    statements 2 5 2000

theorem retried_runs : (run retriedLabels).isSome = true := by
  decide +kernel

@[irreducible] def retried : ServiceSystem := (run retriedLabels).get retried_runs

theorem retried_reachable : ServiceReachable platform AnyStep retried := by
  unfold retried
  exact reachable (Option.some_get retried_runs).symm

end Sample

/-- A creation, its retry and a call with another intent. -/
theorem safe_retries_concurrent :
    Sample.retried.db.sessions.length = 1 ∧ Sample.retried.threads.length = 3 ∧
      SafeRetries Sample.platform Sample.retried :=
  ⟨by decide +kernel, by decide +kernel,
    safe_retries Sample.retried_reachable (by unfold CollisionFree; decide +kernel)⟩

end RngGamePlatform
