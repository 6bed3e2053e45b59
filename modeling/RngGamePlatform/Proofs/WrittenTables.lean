/-
Module: RngGamePlatform.Proofs.WrittenTables
Purpose: The statements with which the operations change the tables, all of them, and
  what no run ever changes or removes.
Trusted boundary: none
Main exports: Statement, SettlementStatement, settleLeaderboard_executes,
  operate_executes
-/
import RngGamePlatform.Proofs.PlatformContract
import RngGamePlatform.Transactions.Vocabulary

namespace RngGamePlatform

open Encoding Relational Transactions

variable {env : Platform}

/-- A statement with which some operation changes the tables. -/
inductive Statement : (Database → Except ServiceError Database) → Prop where
  | session (row : GameSession) : Statement (Database.insertSession row)
  | sessionChange (row : GameSession) : Statement (Database.updateSession row)
  | proof (row : FairnessProof) : Statement (Database.insertProof row)
  | custody (row : FairnessSeedCustody) : Statement (Database.insertCustody row)
  | event (row : FairnessProofEvent) : Statement (Database.insertEvent row)
  | termination (gameSession : GameSession) (proof : FairnessProof)
      (event : FairnessProofEvent) : Statement (flushTermination gameSession proof event)
  | reveal (proof : FairnessProof) (event : FairnessProofEvent) :
      Statement (flushReveal proof event)
  | outcome (row : Outcome) : Statement (Database.insertOutcome row)
  | reward (row : Reward) : Statement (Database.insertReward row)
  | completion (gameSession : GameSession) (outcome : Outcome) (reward : Reward)
      (playerId : Uuid) (gameKey : PyStr) :
      Statement (flushCompletion gameSession outcome reward playerId gameKey)
  | claim (reward : Reward) (gameKey : PyStr) : Statement (flushClaim reward gameKey)
  | score (row : FinalScore) : Statement (Database.insertScore row)
  | run (row : SettlementRun) : Statement (Database.insertRun row)
  | runChange (row : SettlementRun) : Statement (Database.updateRun row)
  | recipient (row : SettlementRecipient) : Statement (Database.insertRecipient row)
  | evidence (audits : List AuditRecord) (events : List AnalyticsEvent) :
      Statement (insertEvidence audits events)

/-- A statement with which the settlement of a week changes the tables. -/
inductive SettlementStatement : (Database → Except ServiceError Database) → Prop where
  | run (row : SettlementRun) : SettlementStatement (Database.insertRun row)
  | runChange (row : SettlementRun) : SettlementStatement (Database.updateRun row)
  | recipient (row : SettlementRecipient) : SettlementStatement (Database.insertRecipient row)
  | reward (row : Reward) : SettlementStatement (Database.insertReward row)
  | issue (audits : List AuditRecord) (reward : Reward) (gameKey : PyStr) :
      SettlementStatement (insertEvidence audits
        [rewardEvent reward (py "settlement_reward_issued") gameKey])
  | completion (audits : List AuditRecord) : SettlementStatement (insertEvidence audits [])

/-- A settlement uses statements that other operations use as well. -/
theorem SettlementStatement.statement {change : Database → Except ServiceError Database}
    (settles : SettlementStatement change) : Statement change := by
  cases settles with
  | run row => exact .run row
  | runChange row => exact .runChange row
  | recipient row => exact .recipient row
  | reward row => exact .reward row
  | issue audits reward gameKey => exact .evidence _ _
  | completion audits => exact .evidence _ _

/-! ### The statements of the operations -/

section Sites

/-- The end of a committed proof is one flush. -/
theorem endCommittedFairnessProof_executes (crypto : Crypto) (gameSession : GameSession)
    (proof : FairnessProof) (status : FairnessProofStatus) (now : Int) :
    (endCommittedFairnessProof crypto gameSession proof status now).Executes Statement := by
  unfold endCommittedFairnessProof
  split
  · trivial
  split
  · trivial
  apply Program.Executes.reading (.query _ _)
  intro found
  apply Program.Executes.reading (.orRaise _ _)
  intro previous
  apply Program.Executes.reading (.query _ _)
  intro _
  exact .bind (.update _ (.termination _ _ _)) fun _ => trivial

theorem saveSession_executes (gameSession : GameSession) :
    (saveSession gameSession).Executes Statement :=
  .update _ (.sessionChange _)

theorem saveIfChanged_executes (changed : Bool) (gameSession : GameSession) :
    (saveIfChanged changed gameSession).Executes Statement := by
  cases changed with
  | true => exact saveSession_executes _
  | false => trivial

/-- An expired session is changed alone, or together with its committed proof. -/
theorem finalizeExpiredSession_executes (crypto : Crypto) (gameSession : GameSession)
    (now : Int) (lockedProof : Option FairnessProof) :
    (finalizeExpiredSession crypto gameSession now lockedProof).Executes Statement := by
  unfold finalizeExpiredSession
  split
  split
  · trivial
  apply Program.Executes.reading
  · cases lockedProof with
    | none => exact .query _ _
    | some proof => trivial
  intro proof
  cases proof with
  | none => exact (saveIfChanged_executes _ _).bind fun _ => trivial
  | some proof =>
      apply (endCommittedFairnessProof_executes _ _ _ _ _).bind
      intro ended
      cases ended with
      | true => trivial
      | false => exact (saveIfChanged_executes _ _).bind fun _ => trivial

/-- The expired sessions one after another; the induction is on their list. -/
theorem finalizeExpiredSessions_executes (gameSessions : List GameSession) (now : Int) :
    (finalizeExpiredSessions env gameSessions now).Executes Statement := by
  induction gameSessions with
  | nil => trivial
  | cons gameSession rest ih =>
      exact (finalizeExpiredSession_executes _ _ _ _).bind fun _ => ih

theorem loadedPayload_reads (configVersionId : Uuid) :
    (loadedPayload env configVersionId).ReadOnly :=
  .bind (.query _ _) fun _ => .bind (.orRaise _ _) fun _ => byRules_reads _ _

/-- The cooldown is checked on rows that are only read. -/
theorem checkLatest_reads (latest : Option GameSession) (now : Int) :
    (checkLatest env latest now).ReadOnly := by
  cases latest with
  | none => trivial
  | some latest =>
      exact .bind (.require _ _) fun _ => .bind (loadedPayload_reads _) fun _ => .require _ _

/-- A new session is inserted with its evidence, after the expired ones have ended. -/
theorem createNewSession_executes (requestId : Uuid) (player : Player) (gameKey : PyStr)
    (draw : SessionDraw) (startedAt : Int) :
    (createNewSession env requestId player gameKey draw startedAt).Executes Statement := by
  apply Program.Executes.reading (.require _ _)
  intro _
  apply Program.Executes.reading (.query _ _)
  intro foundGame
  apply Program.Executes.reading (.orRaise _ _)
  intro game
  apply Program.Executes.reading (.require _ _)
  intro _
  apply Program.Executes.reading (.query _ _)
  intro foundConfig
  apply Program.Executes.reading (.orRaise _ _)
  intro config
  apply Program.Executes.clock.bind
  intro now
  apply Program.Executes.reading (.query _ _)
  intro expired
  apply (finalizeExpiredSessions_executes _ _).bind
  intro _
  apply Program.Executes.reading (.query _ _)
  intro latest
  apply Program.Executes.reading (checkLatest_reads _ _)
  intro _
  apply Program.Executes.reading (byRules_reads _ _)
  intro payload
  apply Program.Executes.reading (byRules_reads _ _)
  intro rules
  exact .bind (.update _ (.session _)) fun _ => .bind (.update _ (.evidence _ _)) fun _ => trivial

/-- A known request is answered; a new one creates the session. -/
theorem createSession_executes (requestId playerId ownerId : Uuid) (gameKey : PyStr)
    (draw : SessionDraw) :
    (createSession env requestId playerId ownerId gameKey draw).Executes Statement := by
  apply Program.Executes.reading (.require _ _)
  intro _
  apply Program.Executes.clock.bind
  intro startedAt
  apply Program.Executes.reading (.query _ _)
  intro _
  apply Program.Executes.reading (.query _ _)
  intro foundPlayer
  apply Program.Executes.reading (.orRaise _ _)
  intro player
  apply Program.Executes.reading (.query _ _)
  intro existing
  cases existing with
  | some existing => exact .reading (.require _ _) fun _ => trivial
  | none => exact createNewSession_executes _ _ _ _ _

theorem lockOwnedSession_reads (sessionId ownerId : Uuid) :
    (lockOwnedSession sessionId ownerId).ReadOnly :=
  .bind (.query _ _) fun _ => .bind (.orRaise _ _) fun _ => .bind (.require _ _) fun _ => trivial

/-- A retrieval writes the expiry of the session at most. -/
theorem retrieveSession_executes (sessionId ownerId : Uuid) :
    (retrieveSession env sessionId ownerId).Executes Statement := by
  apply Program.Executes.reading (lockOwnedSession_reads _ _)
  intro gameSession
  apply Program.Executes.clock.bind
  intro now
  apply (finalizeExpiredSession_executes _ _ _ _).bind
  intro finalized
  split <;> trivial

/-- The state of a player is assembled from rows that are only read. -/
theorem readState_reads (playerId : Uuid) (game : Game) (now : Int) :
    (readState env playerId game now).ReadOnly := by
  apply Program.ReadOnly.bind (.query _ _)
  intro latest
  cases latest with
  | none => trivial
  | some latest =>
      apply Program.ReadOnly.bind
      · exact .bind (loadedPayload_reads _) fun _ => trivial
      · exact fun _ => .bind (.query _ _) fun _ => .bind (.query _ _) fun _ =>
          .bind (.query _ _) fun _ => .bind (.query _ _) fun _ => trivial

/-- Before the state is read, the expired sessions of the player end. -/
theorem retrievePlayerGameState_executes (playerId ownerId : Uuid) (gameKey : PyStr) :
    (retrievePlayerGameState env playerId ownerId gameKey).Executes Statement := by
  apply Program.Executes.reading (.require _ _)
  intro _
  apply Program.Executes.reading (.query _ _)
  intro foundPlayer
  apply Program.Executes.reading (.orRaise _ _)
  intro player
  apply Program.Executes.reading (.query _ _)
  intro foundGame
  apply Program.Executes.reading (.orRaise _ _)
  intro game
  apply Program.Executes.reading (.query _ _)
  intro foundConfig
  apply Program.Executes.reading (.orRaise _ _)
  intro _
  apply Program.Executes.clock.bind
  intro now
  apply Program.Executes.reading (.query _ _)
  intro expired
  apply (finalizeExpiredSessions_executes _ _).bind
  intro _
  apply Program.Executes.reading (readState_reads _ _ _)
  intro state
  split <;> trivial

/-- A cancelled session ends alone or together with its proof. -/
theorem cancelSession_executes (sessionId ownerId : Uuid) :
    (cancelSession env sessionId ownerId).Executes Statement := by
  apply Program.Executes.reading (lockOwnedSession_reads _ _)
  intro gameSession
  apply Program.Executes.clock.bind
  intro now
  apply (finalizeExpiredSession_executes _ _ _ _).bind
  intro finalized
  split
  · trivial
  · apply Program.Executes.reading (.ofExcept _)
    intro cancelled
    apply Program.Executes.reading (.query _ _)
    intro proof
    refine .bind ?_ fun _ => trivial
    cases proof with
    | none => exact saveSession_executes _
    | some proof =>
        apply (endCommittedFairnessProof_executes _ _ _ _ _).bind
        intro changed
        cases changed with
        | true => trivial
        | false => exact saveSession_executes _

theorem gameAndConfig_reads (error : ServiceError) (gameId configVersionId : Uuid) :
    (gameAndConfig error gameId configVersionId).ReadOnly :=
  .bind (.query _ _) fun _ => .bind (.query _ _) fun _ => .bind (.orRaise _ _) fun _ =>
    .bind (.orRaise _ _) fun _ => .bind (.require _ _) fun _ => trivial

theorem byFairness_reads {α : Type} (result : Except FairnessError α) :
    (byFairness result).ReadOnly := by
  cases result <;> trivial

/-- A commitment inserts the proof, its seed and the first event of the chain. -/
theorem commitLocked_executes (gameSession : GameSession) (ownerId : Uuid) (draw : CommitDraw)
    (now : Int) : (commitLocked env gameSession ownerId draw now).Executes Statement := by
  apply Program.Executes.reading (.require _ _)
  intro _
  apply Program.Executes.reading (gameAndConfig_reads _ _ _)
  intro loaded
  apply Program.Executes.reading (.query _ _)
  intro existing
  cases existing with
  | some existing => trivial
  | none =>
      apply Program.Executes.reading (byRules_reads _ _)
      intro bands
      apply Program.Executes.reading (byFairness_reads _)
      intro commitment
      apply Program.Executes.reading (byFairness_reads _)
      intro digest
      exact .bind (.update _ (.proof _)) fun _ => .bind (.update _ (.custody _)) fun _ =>
        .bind (.update _ (.event _)) fun _ => trivial

/-- The session may expire first; otherwise the commitment is stored. -/
theorem commitFairness_executes (sessionId ownerId : Uuid) (draw : CommitDraw) :
    (commitFairness env sessionId ownerId draw).Executes Statement := by
  apply Program.Executes.reading (.query _ _)
  intro found
  apply Program.Executes.reading (.orRaise _ _)
  intro gameSession
  apply Program.Executes.reading (.require _ _)
  intro _
  apply Program.Executes.clock.bind
  intro now
  apply (finalizeExpiredSession_executes _ _ _ _).bind
  intro finalized
  split
  · trivial
  · exact commitLocked_executes _ _ _ _

/-- A replay only reads and commits. -/
theorem replayEvaluation_executes (proof : FairnessProof) (fingerprint : PyStr) :
    (replayEvaluation proof fingerprint).Executes Statement := by
  apply Program.Executes.reading (.require _ _)
  intro _
  apply Program.Executes.reading (.orRaise _ _)
  intro outcomeId
  apply Program.Executes.reading (.query _ _)
  intro foundOutcome
  apply Program.Executes.reading (.query _ _)
  intro foundReward
  apply Program.Executes.reading (.orRaise _ _)
  intro outcome
  exact .reading (.orRaise _ _) fun _ => trivial

/-- A reveal inserts outcome and reward, and flushes the proof, its event and the
completion. -/
theorem storeReveal_executes (gameSession : GameSession) (proof : FairnessProof) (game : Game)
    (seed : Bytes) (ownerId : Uuid) (clientSeed fingerprint : PyStr) (draw : EvaluateDraw)
    (derivation : DailySpinDerivation) (now : Int) :
    (storeReveal env gameSession proof game seed ownerId clientSeed fingerprint draw derivation
      now).Executes Statement := by
  apply Program.Executes.bind (.update _ (.outcome _))
  intro _
  apply Program.Executes.bind (.update _ (.reward _))
  intro _
  apply Program.Executes.reading (.query _ _)
  intro found
  apply Program.Executes.reading (.orRaise _ _)
  intro previous
  apply Program.Executes.bind (.update _ (.reveal _ _))
  intro _
  exact .bind (.update _ (.completion _ _ _ _ _)) fun _ => trivial

/-- An evaluation writes only what it reveals. -/
theorem evaluateCommitted_executes (gameSession : GameSession) (proof : FairnessProof)
    (ownerId : Uuid) (clientSeed fingerprint : PyStr) (draw : EvaluateDraw) (now : Int) :
    (evaluateCommitted env gameSession proof ownerId clientSeed fingerprint draw
      now).Executes Statement := by
  apply Program.Executes.reading (.require _ _)
  intro _
  apply Program.Executes.reading (.query _ _)
  intro foundGame
  apply Program.Executes.reading (.query _ _)
  intro foundConfig
  apply Program.Executes.reading (.query _ _)
  intro foundCustody
  apply Program.Executes.reading (.orRaise _ _)
  intro game
  apply Program.Executes.reading (.orRaise _ _)
  intro config
  apply Program.Executes.reading (.orRaise _ _)
  intro custody
  apply Program.Executes.reading (byRules_reads _ _)
  intro bands
  apply Program.Executes.reading (.ofExcept _)
  intro derivation
  exact storeReveal_executes _ _ _ _ _ _ _ _ _ _

/-- A repeated evaluation is replayed, and the session may expire first. -/
theorem evaluateFairness_executes (proofId ownerId : Uuid) (clientSeed : PyStr)
    (draw : EvaluateDraw) :
    (evaluateFairness env proofId ownerId clientSeed draw).Executes Statement := by
  apply Program.Executes.reading (.query _ _)
  intro visible
  apply Program.Executes.reading (.orRaise _ _)
  intro visibleProof
  apply Program.Executes.reading (.require _ _)
  intro _
  apply Program.Executes.reading (.query _ _)
  intro foundSession
  apply Program.Executes.reading (.orRaise _ _)
  intro gameSession
  apply Program.Executes.reading (.query _ _)
  intro foundProof
  apply Program.Executes.reading (.orRaise _ _)
  intro proof
  unfold evaluateLocked
  split
  · exact replayEvaluation_executes _ _
  apply Program.Executes.clock.bind
  intro now
  apply (finalizeExpiredSession_executes _ _ _ _).bind
  intro finalized
  split
  · trivial
  · exact evaluateCommitted_executes _ _ _ _ _ _ _

/-- The recognition of a retry only reads and commits. -/
theorem replayPlay_executes (gameSession : GameSession) (intent : PlayIntent) :
    (replayPlay gameSession intent).Executes Statement := by
  unfold replayPlay
  split
  · trivial
  apply Program.Executes.reading (.query _ _)
  intro foundGame
  apply Program.Executes.reading (.query _ _)
  intro foundOutcome
  split
  · apply Program.Executes.reading (byRules_reads _ _)
    intro rules
    simp only
    split <;> trivial
  · trivial

/-- A play inserts outcome and reward, and completes the session. -/
theorem playActive_executes (gameSession : GameSession) (ownerId : Uuid) (intent : PlayIntent)
    (provider : OutcomeProvider) (draw : PlayDraw) (now : Int) :
    (playActive env gameSession ownerId intent provider draw now).Executes Statement := by
  apply Program.Executes.reading (gameAndConfig_reads _ _ _)
  intro loaded
  apply Program.Executes.reading (byRules_reads _ _)
  intro rules
  apply Program.Executes.reading (.require _ _)
  intro _
  apply Program.Executes.reading (byRules_reads _ _)
  intro result
  apply Program.Executes.bind (.update _ (.outcome _))
  intro _
  apply Program.Executes.reading (byRules_reads _ _)
  intro value
  apply Program.Executes.bind (.update _ (.reward _))
  intro _
  exact .bind (.update _ (.completion _ _ _ _ _)) fun _ => trivial

/-- The session may expire first, and a repeated play is replayed. -/
theorem playSession_executes (sessionId ownerId : Uuid) (intent : PlayIntent)
    (provider : OutcomeProvider) (draw : PlayDraw) :
    (playSession env sessionId ownerId intent provider draw).Executes Statement := by
  apply Program.Executes.reading (.query _ _)
  intro found
  apply Program.Executes.reading (.orRaise _ _)
  intro gameSession
  apply Program.Executes.reading (.require _ _)
  intro _
  apply Program.Executes.clock.bind
  intro now
  apply (finalizeExpiredSession_executes _ _ _ _).bind
  intro finalized
  split
  · trivial
  split
  · exact replayPlay_executes _ _
  · exact playActive_executes _ _ _ _ _ _

/-- A new score is inserted with its evidence. -/
theorem submitNew_executes (gameSession : GameSession) (ownerId scoreId : Uuid) :
    (submitNew env gameSession ownerId scoreId).Executes Statement := by
  apply Program.Executes.reading (.query _ _)
  intro foundPlayer
  apply Program.Executes.reading (.orRaise _ _)
  intro player
  apply Program.Executes.reading (.require _ _)
  intro _
  apply Program.Executes.reading (.query _ _)
  intro foundGame
  apply Program.Executes.reading (.orRaise _ _)
  intro game
  apply Program.Executes.reading (byRules_reads _ _)
  intro rules
  apply Program.Executes.reading (.require _ _)
  intro _
  apply Program.Executes.reading (.orRaise _ _)
  intro endedAt
  apply Program.Executes.reading (.query _ _)
  intro foundOutcome
  apply Program.Executes.reading (.orRaise _ _)
  intro outcome
  apply Program.Executes.reading (.require _ _)
  intro _
  apply Program.Executes.reading (.query _ _)
  intro foundConfig
  apply Program.Executes.reading (.orRaise _ _)
  intro config
  apply Program.Executes.reading (byRules_reads _ _)
  intro value
  apply Program.Executes.clock.bind
  intro now
  apply Program.Executes.reading (.require _ _)
  intro _
  exact .bind (.update _ (.score _)) fun _ => .bind (.update _ (.evidence _ _)) fun _ => trivial

/-- A known score is answered; a new one is checked and inserted. -/
theorem submitFinalScore_executes (sessionId ownerId scoreId : Uuid) :
    (submitFinalScore env sessionId ownerId scoreId).Executes Statement := by
  apply Program.Executes.reading (.query _ _)
  intro found
  apply Program.Executes.reading (.orRaise _ _)
  intro gameSession
  apply Program.Executes.reading (.require _ _)
  intro _
  apply Program.Executes.reading (.query _ _)
  intro existing
  cases existing with
  | some existing =>
      exact .reading (.query _ _) fun _ => .reading (.orRaise _ _) fun _ => trivial
  | none => exact submitNew_executes _ _ _

/-- A claim flushes the reward with its evidence, unless it was claimed before. -/
theorem claimLocked_executes (reward : Reward) (ownerId : Uuid) :
    (claimLocked reward ownerId).Executes Statement := by
  apply Program.Executes.reading (.require _ _)
  intro _
  apply Program.Executes.clock.bind
  intro now
  apply Program.Executes.reading (.ofExcept _)
  intro changed
  cases changed with
  | none => trivial
  | some claimed =>
      apply Program.Executes.reading (.query _ _)
      intro found
      apply Program.Executes.reading (.orRaise _ _)
      intro gameKey
      exact .bind (.update _ (.claim _ _)) fun _ => trivial

theorem claimSessionReward_executes (sessionId ownerId : Uuid) :
    (claimSessionReward sessionId ownerId).Executes Statement := by
  apply Program.Executes.reading (.query _ _)
  intro found
  cases found with
  | none =>
      exact .reading (.query _ _) fun _ => .reading (.orRaise _ _) fun _ =>
        .reading (.require _ _) fun _ => trivial
  | some reward => exact claimLocked_executes _ _

/-- Every call keeps to the statements. -/
theorem body_executes (call : Call) : (body env call).Executes Statement := by
  cases call with
  | createSession requestId playerId ownerId gameKey draw =>
      exact (createSession_executes _ _ _ _ _).map
  | retrieveSession sessionId ownerId => exact (retrieveSession_executes _ _).map
  | retrievePlayerGameState playerId ownerId gameKey =>
      exact (retrievePlayerGameState_executes _ _ _).map
  | cancelSession sessionId ownerId => exact (cancelSession_executes _ _).map
  | commitFairness sessionId ownerId draw => exact (commitFairness_executes _ _ _).map
  | evaluateFairness proofId ownerId clientSeed draw =>
      exact (evaluateFairness_executes _ _ _ _).map
  | playSession sessionId ownerId intent provider draw =>
      exact (playSession_executes _ _ _ _ _).map
  | submitFinalScore sessionId ownerId scoreId =>
      exact (submitFinalScore_executes _ _ _).map
  | claimSessionReward sessionId ownerId => exact (claimSessionReward_executes _ _).map

/-- A settlement reward is inserted with its evidence, unless it is there. -/
theorem issueReward_executes (recipient : SettlementRecipient) (gameKey : PyStr)
    (rewardId : Uuid) : (issueReward recipient gameKey rewardId).Executes SettlementStatement := by
  apply Program.Executes.reading (.query _ _)
  intro found
  cases found with
  | some _ => trivial
  | none =>
      apply Program.Executes.bind
      · exact .bind (.update _ (.reward _)) fun _ => trivial
      · exact fun _ => .update _ (.issue _ _ _)

/-- The recipients and rewards of a board; the induction is on its ranks. -/
theorem settleRanks_executes (run : SettlementRun) (tiers : List Json) (gameKey : PyStr)
    (draw : SettlementDraw) (ranked : List (FinalScore × Nat))
    (recipients : List SettlementRecipient) :
    (settleRanks run tiers gameKey draw ranked recipients).Executes SettlementStatement := by
  induction ranked generalizing recipients with
  | nil => trivial
  | cons entry ranked ih =>
      obtain ⟨score, rank⟩ := entry
      unfold settleRanks
      split
      · exact ih recipients
      · apply Program.Executes.reading (.ofExcept _)
        intro awarded
        apply Program.Executes.bind
        · unfold findOrAddRecipient
          split
          · trivial
          · exact .bind (.update _ (.recipient _)) fun _ => trivial
        · exact fun _ => (issueReward_executes _ _ _).bind fun _ => ih _

/-- A run is opened or resumed, its ranks are settled, and it is completed. -/
theorem settlePeriod_executes (existing : Option SettlementRun) (game : Game)
    (periodStart now : Int) (draw : SettlementDraw) :
    (settlePeriod existing game periodStart now draw).Executes SettlementStatement := by
  apply Program.Executes.bind
  · cases existing with
    | none =>
        apply Program.Executes.reading (.query _ _)
        intro found
        apply Program.Executes.reading (.orRaise _ _)
        intro config
        apply Program.Executes.reading (.ofExcept _)
        intro tiers
        exact .bind (.update _ (.run _)) fun _ => trivial
    | some run => exact .reading (.ofExcept _) fun _ => trivial
  rintro ⟨run, tiers⟩
  apply Program.Executes.reading (.query _ _)
  intro scores
  apply Program.Executes.reading (.query _ _)
  intro recipients
  apply (settleRanks_executes _ _ _ _ _ _).bind
  intro _
  apply Program.Executes.bind (.update _ (.runChange _))
  intro _
  apply Program.Executes.reading (.query _ _)
  intro recipients
  exact .bind (.update _ (.completion _)) fun _ => trivial

/-- A settlement, from its checks on. -/
theorem settleLeaderboard_executes (gameKey : PyStr) (periodStart : Int) (authorized : Bool)
    (draw : SettlementDraw) :
    (settleLeaderboard gameKey periodStart authorized draw).Executes SettlementStatement := by
  apply Program.Executes.reading (.require _ _)
  intro _
  apply Program.Executes.reading (.require _ _)
  intro _
  apply Program.Executes.reading
  · exact .bind (eligibleLeaderboardGame_reads _) fun _ =>
      .bind (byRules_reads _ _) fun _ => trivial
  intro game
  apply Program.Executes.reading (.query _ _)
  intro _
  apply Program.Executes.reading (.query _ _)
  intro existing
  unfold settleOnce
  split
  · exact .reading (.query _ _) fun _ => trivial
  · apply Program.Executes.clock.bind
    intro now
    exact .reading (.require _ _) fun _ => settlePeriod_executes _ _ _ _ _

end Sites

/-- Every operation keeps to these statements. -/
theorem operate_executes (operation : Operation) :
    (operate env operation).Executes Statement := by
  cases operation with
  | request call => exact (body_executes call).map
  | settleLeaderboard gameKey periodStart authorized draw =>
      exact ((settleLeaderboard_executes _ _ _ _).mono fun _ settles => settles.statement).map
  | retrieveFairnessProof outcomeId ownerId =>
      exact .of_readOnly (retrieveFairnessProof_reads _ _).map
  | verifyFairnessProof fuel outcomeId ownerId =>
      exact .of_readOnly (verifyFairnessProof_reads _ _ _).map
  | retrieveOutcomeAudit outcomeId ownerId =>
      exact .of_readOnly (retrieveOutcomeAudit_reads _ _).map
  | playerRewards createdAt playerId ownerId limit offset =>
      exact .of_readOnly (playerRewards_reads _ _ _ _ _).map
  | canonicalLeaderboard ownerId gameKey periodStart limit offset after =>
      exact .of_readOnly (canonicalLeaderboard_reads _ _ _ _ _ _).map
  | leaderboardProjectionFacts ownerId gameKey periodStart playerId =>
      exact .of_readOnly (leaderboardProjectionFacts_reads _ _ _ _).map
  | canonicalPlayerRank playerId ownerId gameKey periodStart =>
      exact .of_readOnly (canonicalPlayerRank_reads _ _ _ _).map

end RngGamePlatform
