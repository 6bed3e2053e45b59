/-
Module: RngGamePlatform.Proofs.Ledger
Purpose: What the audit records and the analytics events attest, what the tables
  call for, and that every effect of a request keeps the two in step.
Trusted boundary: none
Main exports: Entry, Notice, expectedEntries, expectedNotices, Ledger,
  Effect.ledger, Effects.ledger, Ledger.nothingYet
-/
import RngGamePlatform.Proofs.Provenance
import RngGamePlatform.Services.Platform

namespace RngGamePlatform

open Encoding Relational Transactions

/-! ### What the evidence attests -/

/-- What an audit record attests: a fact about one row, with the session and the
value that it names. -/
structure Entry where
  eventType : PyStr
  entityId : Uuid
  sessionId : Option Json
  value : Option Json
deriving DecidableEq

/-- What an analytics event attests. -/
structure Notice where
  eventKey : PyStr
  eventType : PyStr
  playerId : Option Uuid
  sessionId : Option Json
  value : Option Json
deriving DecidableEq

def AuditRecord.entry (row : AuditRecord) : Entry where
  eventType := row.eventType
  entityId := row.entityId
  sessionId := row.evidence.get? (py "session_id")
  value := row.evidence.get? (py "value")

def AnalyticsEvent.notice (row : AnalyticsEvent) : Notice where
  eventKey := row.eventKey
  eventType := row.eventType
  playerId := row.playerId
  sessionId := row.payload.get? (py "session_id")
  value := row.payload.get? (py "value")

/-- The event with which a reward is issued. -/
def issueType (row : Reward) : PyStr :=
  if row.settlementRecipientId.isNone then py "reward_issued"
  else py "settlement_reward_issued"

def sessionEntry (row : GameSession) : Entry :=
  ⟨py "session_started", row.id, none, none⟩

def outcomeEntry (row : Outcome) : Entry :=
  ⟨py "outcome_accepted", row.id, some (idText row.sessionId), none⟩

def rewardEntry (eventType : PyStr) (row : Reward) : Entry :=
  ⟨eventType, row.id, none, some (.int row.value)⟩

def scoreEntry (row : FinalScore) : Entry :=
  ⟨py "final_score_submitted", row.id, some (idText row.sessionId), none⟩

def runEntry (row : SettlementRun) : Entry :=
  ⟨py "leaderboard_settled", row.id, none, none⟩

/-- The key of the event of a type about a row. -/
def noticeKey (eventType : PyStr) (id : Uuid) : PyStr := eventType ++ py ":" ++ uuidStr id

def sessionNotice (row : GameSession) : Notice :=
  ⟨noticeKey (py "session_started") row.id, py "session_started", some row.playerId,
    some (idText row.id), none⟩

def outcomeNotice (row : Outcome) : Notice :=
  ⟨noticeKey (py "game_played") row.id, py "game_played", some row.playerId,
    some (idText row.sessionId), none⟩

def rewardNotice (eventType : PyStr) (row : Reward) : Notice :=
  ⟨noticeKey eventType row.id, eventType, some row.playerId, none,
    some (.int row.value)⟩

def scoreNotice (row : FinalScore) : Notice :=
  ⟨noticeKey (py "final_score_submitted") row.id, py "final_score_submitted",
    some row.playerId, some (idText row.sessionId), none⟩

section Attested

@[simp] theorem sessionAudit_entry (row : GameSession) :
    (sessionAudit row).entry = sessionEntry row := by
  rfl

@[simp] theorem outcomeAudit_entry (row : Outcome) (playerId : Uuid) (gameKey : PyStr) :
    (outcomeAudit row playerId gameKey).entry = outcomeEntry row := by
  rfl

@[simp] theorem rewardAudit_entry (row : Reward) (eventType gameKey : PyStr) :
    (rewardAudit row eventType gameKey).entry = rewardEntry eventType row := by
  rfl

@[simp] theorem scoreAudit_entry (row : FinalScore) (gameKey : PyStr) :
    (scoreAudit row gameKey).entry = scoreEntry row := by
  rfl

@[simp] theorem settledAudit_entry (row : SettlementRun) (gameKey : PyStr)
    (periodStart periodEnd : Int) (count : Nat) :
    (settledAudit row gameKey periodStart periodEnd count).entry = runEntry row := by
  rfl

@[simp] theorem sessionStartedEvent_notice (row : GameSession) (gameKey : PyStr) :
    (sessionStartedEvent row gameKey).notice = sessionNotice row := by
  rfl

@[simp] theorem gamePlayedEvent_notice (row : Outcome) (gameKey : PyStr) :
    (gamePlayedEvent row row.playerId gameKey).notice = outcomeNotice row := by
  rfl

@[simp] theorem rewardEvent_notice (row : Reward) (eventType gameKey : PyStr) :
    (rewardEvent row eventType gameKey).notice = rewardNotice eventType row := by
  rfl

@[simp] theorem scoreEvent_notice (row : FinalScore) (gameKey : PyStr) :
    (scoreEvent row gameKey).notice = scoreNotice row := by
  rfl

end Attested

/-! ### What the tables call for -/

def Reward.isClaimed (row : Reward) : Bool := row.status = .claimed

def claimedRewards (db : Database) : List Reward := db.rewards.filter Reward.isClaimed

/-- The audit records that the tables call for. -/
def expectedEntries (db : Database) : List Entry :=
  db.sessions.map sessionEntry ++
    (db.outcomes.map outcomeEntry ++
      (db.rewards.map (fun row => rewardEntry (issueType row) row) ++
        ((claimedRewards db).map (rewardEntry (py "reward_claimed")) ++
          (db.scores.map scoreEntry ++ db.runs.map runEntry))))

/-- The analytics events that the tables call for. -/
def expectedNotices (db : Database) : List Notice :=
  db.sessions.map sessionNotice ++
    (db.outcomes.map outcomeNotice ++
      (db.rewards.map (fun row => rewardNotice (issueType row) row) ++
        ((claimedRewards db).map (rewardNotice (py "reward_claimed")) ++
          db.scores.map scoreNotice)))

/-- Where a reward comes from: one outcome, or one recipient of a settlement. -/
inductive RewardOrigin (db : Database) (row : Reward) : Prop where
  | outcome {outcome : Outcome} (member : outcome ∈ db.outcomes)
      (isOutcome : row.outcomeId = some outcome.id)
      (noRecipient : row.settlementRecipientId = none)
  | recipient {recipient : SettlementRecipient} (member : recipient ∈ db.recipients)
      (noOutcome : row.outcomeId = none)
      (isRecipient : row.settlementRecipientId = some recipient.id)
      (value : row.value = recipient.rewardValue)
      (player : row.playerId = recipient.playerId)

/-- The audit records and the analytics events are, up to their order, what the
tables call for; and the rewards and settlements that they tell of hang
together. -/
structure Ledger (db : Database) : Prop where
  audits : (db.audits.map AuditRecord.entry).Perm (expectedEntries db)
  notices : (db.analytics.map AnalyticsEvent.notice).Perm (expectedNotices db)
  claimed : ∀ row ∈ db.rewards, row.status = .claimed ↔ row.claimedAt ≠ none
  origin : ∀ row ∈ db.rewards, RewardOrigin db row
  rewardRecipients : ∀ one ∈ db.rewards, ∀ other ∈ db.rewards,
    one.settlementRecipientId ≠ none →
    one.settlementRecipientId = other.settlementRecipientId → one = other
  awarded : ∀ recipient ∈ db.recipients, ∃ reward ∈ db.rewards,
    reward.settlementRecipientId = some recipient.id
  recipientIds : Unique SettlementRecipient.id db.recipients
  recipientRuns : ∀ recipient ∈ db.recipients, ∃ run ∈ db.runs,
    run.id = recipient.runId
  runIds : Unique SettlementRun.id db.runs
  completedRuns : ∀ run ∈ db.runs, run.status = .completed
  scoreIds : Unique FinalScore.id db.scores

/-- Nothing is recorded of a catalogue without any play. -/
theorem Ledger.nothingYet {db : Database} (empty : NothingYet db) : Ledger db := by
  obtain ⟨⟨sessions, proofs, custodies, events, outcomes, rewards, scores, _⟩, runs,
    recipients, audits, analytics⟩ := empty
  constructor <;>
    simp [expectedEntries, expectedNotices, claimedRewards, Relational.Unique, *]

/-! ### The effects of the requests -/

variable {env : Platform} {call : Call} {calls : List Call} {db db' : Database}

section Frame

/-- What one change of a request leaves as it is, and what it only adds to. -/
structure RequestFrame (db db' : Database) : Prop where
  tierConfigs : db'.tierConfigs = db.tierConfigs
  runs : db'.runs = db.runs
  recipients : db'.recipients = db.recipients
  audits : db.audits <+: db'.audits
  analytics : db.analytics <+: db'.analytics
  claimed : ∀ row ∈ db.rewards, row.status = .claimed → row ∈ db'.rewards

theorem RequestFrame.refl (db : Database) : RequestFrame db db where
  tierConfigs := rfl
  runs := rfl
  recipients := rfl
  audits := List.prefix_rfl
  analytics := List.prefix_rfl
  claimed := fun _ member _ => member

theorem RequestFrame.trans {later : Database} (first : RequestFrame db db')
    (second : RequestFrame db' later) : RequestFrame db later where
  tierConfigs := second.tierConfigs.trans first.tierConfigs
  runs := second.runs.trans first.runs
  recipients := second.recipients.trans first.recipients
  audits := first.audits.trans second.audits
  analytics := first.analytics.trans second.analytics
  claimed := fun row member isClaimed =>
    second.claimed row (first.claimed row member isClaimed) isClaimed

/-- The evidence of an effect is appended. -/
theorem RequestFrame.evidenced {later : Database} (frame : RequestFrame db db')
    (tierConfigs : later.tierConfigs = db'.tierConfigs) (runs : later.runs = db'.runs)
    (recipients : later.recipients = db'.recipients) (audits : db'.audits <+: later.audits)
    (analytics : db'.analytics <+: later.analytics) (rewards : later.rewards = db'.rewards) :
    RequestFrame db later where
  tierConfigs := tierConfigs.trans frame.tierConfigs
  runs := runs.trans frame.runs
  recipients := recipients.trans frame.recipients
  audits := frame.audits.trans audits
  analytics := frame.analytics.trans analytics
  claimed := fun row member isClaimed => rewards ▸ frame.claimed row member isClaimed

/-- A reward is added. -/
theorem RequestFrame.addReward {reward : Reward} :
    RequestFrame db { db with rewards := db.rewards ++ [reward] } :=
  { RequestFrame.refl db with
    claimed := fun _ member _ => List.mem_append_left _ member }

/-- An issued reward changes. -/
theorem RequestFrame.claimReward {old new : Reward} (keys : Keys db)
    (member : old ∈ db.rewards) (issued : old.status = .issued) (sameId : new.id = old.id) :
    RequestFrame db { db with rewards := replace Reward.id new db.rewards } :=
  { RequestFrame.refl db with
    claimed := fun row inRewards isClaimed => by
      refine mem_replace_of_ne inRewards fun same => ?_
      rw [keys.rewardIds.eq inRewards member (same.trans sameId), issued] at isClaimed
      cases isClaimed }

/-- A reward claimed at `now`. -/
def claimedAs (reward : Reward) (now : Int) : Reward :=
  { reward with status := .claimed, claimedAt := some now }

/-- The tables after a claim. -/
theorem claim_result {reward : Reward} {gameKey : PyStr}
    (written : flushClaim reward gameKey db = .ok db') :
    db' = { db with
      rewards := replace Reward.id reward db.rewards
      audits := db.audits ++ [rewardAudit reward (py "reward_claimed") gameKey]
      analytics := db.analytics ++ [rewardEvent reward (py "reward_claimed") gameKey] } := by
  obtain ⟨middle, updated, evidence⟩ := bind_eq_ok.mp written
  cases updated
  obtain ⟨_, rfl⟩ := insertEvidence_ok.mp evidence
  rfl

theorem Effect.frame (keys : Keys db) (effect : Effect env call db db') :
    RequestFrame db db' := by
  cases effect with
  | endAlone kind found active noneCommitted written =>
      obtain ⟨_, rfl⟩ := Database.updateSession_ok.mp written
      exact { RequestFrame.refl db with }
  | endWithProof kind found active bound committed latest written =>
      have result := Runs.flushTermination_result written
      subst result
      exact { RequestFrame.refl db with }
  | create isCall foundPlayer foundGame isRules isRow inserted evidence =>
      obtain ⟨_, rfl⟩ := Database.insertSession_ok.mp inserted
      obtain ⟨_, rfl⟩ := insertEvidence_ok.mp evidence
      exact (RequestFrame.refl db).evidenced rfl rfl rfl ⟨_, rfl⟩ ⟨_, rfl⟩ rfl
  | commit isCall found active owner foundGame foundConfig belongs unbound mapped
      hashed isProof inserted kept chained =>
      obtain ⟨_, rfl⟩ := Database.insertProof_ok.mp inserted
      obtain ⟨_, rfl⟩ := Database.insertCustody_ok.mp kept
      obtain ⟨_, rfl⟩ := Database.insertEvent_ok.mp chained
      exact { RequestFrame.refl db with }
  | reveal isCall found active foundProof committed owner foundGame foundConfig
      foundCustody mapped derived isOutcome isReward isRevealed latest inserted
      rewarded written finished =>
      have result := reveal_result inserted rewarded written finished
      subst result isReward
      exact RequestFrame.addReward.evidenced rfl rfl rfl ⟨_, rfl⟩
        ⟨_, rfl⟩ rfl
  | play isCall found active owner foundGame isRules direct foundConfig belongs
      evaluated isOutcome isReward inserted rewarded finished =>
      have result := play_result inserted rewarded finished
      subst result isReward
      exact RequestFrame.addReward.evidenced rfl rfl rfl ⟨_, rfl⟩
        ⟨_, rfl⟩ rfl
  | score isCall found owner isCompleted ended foundGame isRules foundOutcome
      foundConfig scored isRow inserted evidence =>
      obtain ⟨_, rfl⟩ := Database.insertScore_ok.mp inserted
      obtain ⟨_, rfl⟩ := insertEvidence_ok.mp evidence
      exact (RequestFrame.refl db).evidenced rfl rfl rfl ⟨_, rfl⟩ ⟨_, rfl⟩ rfl
  | @claim sessionId outcome reward gameKey now found issued written =>
      have result := claim_result written
      subst result
      have member : reward ∈ db.rewards := rewardBySession_mem found
      have frame : RequestFrame db { db with
          rewards := replace Reward.id (claimedAs reward now) db.rewards } :=
        .claimReward keys member issued rfl
      exact frame.evidenced rfl rfl rfl ⟨_, rfl⟩ ⟨_, rfl⟩ rfl

theorem Effects.frame (consistent : Consistent env calls db) (known : call ∈ calls)
    (effects : Effects env call db db') : RequestFrame db db' := by
  cases effects with
  | unchanged same =>
      rw [same]
      exact .refl db
  | one effect => exact effect.frame consistent.keys
  | ending first rounds effect =>
      exact (first.frame consistent.keys).trans
        (effect.frame (first.consistent consistent known).keys)

end Frame

section Booking

theorem expectedEntries_count (entry : Entry) (db : Database) :
    (expectedEntries db).count entry =
      (db.sessions.map sessionEntry).count entry +
        ((db.outcomes.map outcomeEntry).count entry +
          ((db.rewards.map fun row => rewardEntry (issueType row) row).count entry +
            (((claimedRewards db).map (rewardEntry (py "reward_claimed"))).count entry +
              ((db.scores.map scoreEntry).count entry +
                (db.runs.map runEntry).count entry)))) := by
  simp only [expectedEntries, List.count_append]

theorem expectedNotices_count (notice : Notice) (db : Database) :
    (expectedNotices db).count notice =
      (db.sessions.map sessionNotice).count notice +
        ((db.outcomes.map outcomeNotice).count notice +
          ((db.rewards.map fun row => rewardNotice (issueType row) row).count notice +
            (((claimedRewards db).map (rewardNotice (py "reward_claimed"))).count notice +
              (db.scores.map scoreNotice).count notice))) := by
  simp only [expectedNotices, List.count_append]

/-- The ending of a session is not recorded. -/
theorem Ends.sessionEntries {row ended : GameSession} (ends : Ends db row ended)
    (keys : Keys db) :
    (replace GameSession.id ended db.sessions).map sessionEntry =
      db.sessions.map sessionEntry := by
  refine map_replace fun old member same => ?_
  rw [ends.only keys.sessionIds member same, ends.same]
  rfl

theorem Ends.sessionNotices {row ended : GameSession} (ends : Ends db row ended)
    (keys : Keys db) :
    (replace GameSession.id ended db.sessions).map sessionNotice =
      db.sessions.map sessionNotice := by
  refine map_replace fun old member same => ?_
  rw [ends.only keys.sessionIds member same, ends.same]
  rfl

/-- A change of tables that the ledger does not tell of. -/
theorem Ledger.frame (ledger : Ledger db)
    (entries : db'.sessions.map sessionEntry = db.sessions.map sessionEntry)
    (notices : db'.sessions.map sessionNotice = db.sessions.map sessionNotice)
    (outcomes : db'.outcomes = db.outcomes) (rewards : db'.rewards = db.rewards)
    (scores : db'.scores = db.scores) (runs : db'.runs = db.runs)
    (recipients : db'.recipients = db.recipients) (audits : db'.audits = db.audits)
    (analytics : db'.analytics = db.analytics) : Ledger db' := by
  obtain ⟨audited, noticed, claimed, origin, rewardRecipients, awarded, recipientIds,
    recipientRuns, runIds, completedRuns, scoreIds⟩ := ledger
  have origin' : ∀ row ∈ db.rewards, RewardOrigin db' row := by
    intro row member
    cases origin row member with
    | outcome inOutcomes isOutcome none => exact .outcome (outcomes ▸ inOutcomes) isOutcome none
    | recipient inRecipients none isRecipient value player =>
        exact .recipient (recipients ▸ inRecipients) none isRecipient value player
  constructor
  case audits =>
    rw [audits]
    simpa only [expectedEntries, claimedRewards, entries, outcomes, rewards, scores, runs]
      using audited
  case notices =>
    rw [analytics]
    simpa only [expectedNotices, claimedRewards, notices, outcomes, rewards, scores]
      using noticed
  case claimed => rwa [rewards]
  case origin => rwa [rewards]
  case rewardRecipients => rwa [rewards]
  case awarded => rwa [rewards, recipients]
  case recipientIds => rwa [recipients]
  case recipientRuns => rwa [recipients, runs]
  case runIds => rwa [runs]
  case completedRuns => rwa [runs]
  case scoreIds => rwa [scores]

theorem RewardOrigin.grows {row : Reward} (origin : RewardOrigin db row)
    (outcomes : db.outcomes ⊆ db'.outcomes) (recipients : db.recipients ⊆ db'.recipients) :
    RewardOrigin db' row := by
  cases origin with
  | outcome member isOutcome none => exact .outcome (outcomes member) isOutcome none
  | recipient member none isRecipient value player =>
      exact .recipient (recipients member) none isRecipient value player

/-- A new session is recorded. -/
theorem Ledger.created {row : GameSession} {gameKey : PyStr} (ledger : Ledger db) :
    Ledger { db with
      sessions := db.sessions ++ [row]
      audits := db.audits ++ [sessionAudit row]
      analytics := db.analytics ++ [sessionStartedEvent row gameKey] } :=
  { ledger with
    audits := by
      refine List.perm_iff_count.mpr fun entry => ?_
      have before := List.perm_iff_count.mp ledger.audits entry
      simp only [expectedEntries_count, claimedRewards, List.map_append, List.map_cons,
        List.map_nil, List.count_append, sessionAudit_entry] at before ⊢
      omega
    notices := by
      refine List.perm_iff_count.mpr fun notice => ?_
      have before := List.perm_iff_count.mp ledger.notices notice
      simp only [expectedNotices_count, claimedRewards, List.map_append, List.map_cons,
        List.map_nil, List.count_append, sessionStartedEvent_notice] at before ⊢
      omega
    origin := fun row member =>
      (ledger.origin row member).grows (fun _ inOutcomes => inOutcomes)
        fun _ inRecipients => inRecipients }

/-- A new score is recorded. -/
theorem Ledger.scored {row : FinalScore} {gameKey : PyStr}
    {revisions : List LeaderboardProjectionRevision} (ledger : Ledger db)
    (fresh : lookup FinalScore.id row.id db.scores = none) :
    Ledger { db with
      scores := db.scores ++ [row]
      revisions := revisions
      audits := db.audits ++ [scoreAudit row gameKey]
      analytics := db.analytics ++ [scoreEvent row gameKey] } :=
  { ledger with
    audits := by
      refine List.perm_iff_count.mpr fun entry => ?_
      have before := List.perm_iff_count.mp ledger.audits entry
      simp only [expectedEntries_count, claimedRewards, List.map_append, List.map_cons,
        List.map_nil, List.count_append, scoreAudit_entry] at before ⊢
      omega
    notices := by
      refine List.perm_iff_count.mpr fun notice => ?_
      have before := List.perm_iff_count.mp ledger.notices notice
      simp only [expectedNotices_count, claimedRewards, List.map_append, List.map_cons,
        List.map_nil, List.count_append, scoreEvent_notice] at before ⊢
      omega
    origin := fun row member =>
      (ledger.origin row member).grows (fun _ inOutcomes => inOutcomes)
        fun _ inRecipients => inRecipients
    scoreIds := ledger.scoreIds.append (lookup_none.mp fresh) }

/-- The row of a reward that has just been issued. -/
structure Reward.New (row : Reward) : Prop where
  issued : row.status = .issued
  unclaimed : row.claimedAt = none

theorem Reward.New.notClaimed {row : Reward} (new : row.New) : row.isClaimed = false := by
  simp [Reward.isClaimed, new.issued]

theorem Reward.New.claimed_iff {row : Reward} (new : row.New) :
    row.status = .claimed ↔ row.claimedAt ≠ none := by
  simp [new.issued, new.unclaimed]

/-- A new outcome and its reward are recorded. -/
theorem Ledger.played {outcome : Outcome} {reward : Reward} {gameKey : PyStr}
    (ledger : Ledger db) (new : reward.New) (isOutcome : reward.outcomeId = some outcome.id)
    (noRecipient : reward.settlementRecipientId = none) :
    Ledger { db with
      outcomes := db.outcomes ++ [outcome]
      rewards := db.rewards ++ [reward]
      audits := db.audits ++ [outcomeAudit outcome outcome.playerId gameKey,
        rewardAudit reward (py "reward_issued") gameKey]
      analytics := db.analytics ++ [gamePlayedEvent outcome outcome.playerId gameKey,
        rewardEvent reward (py "reward_issued") gameKey] } := by
  have kind : issueType reward = py "reward_issued" := by
    simp [issueType, noRecipient]
  constructor
  case audits =>
    refine List.perm_iff_count.mpr fun entry => ?_
    have before := List.perm_iff_count.mp ledger.audits entry
    simp only [expectedEntries_count, claimedRewards, List.map_append, List.map_cons,
      List.map_nil, List.count_append, List.filter_append, List.filter_cons, List.filter_nil,
      new.notClaimed, Bool.false_eq_true, if_false, List.append_nil, kind,
      outcomeAudit_entry, rewardAudit_entry, List.count_cons, List.count_nil] at before ⊢
    omega
  case notices =>
    refine List.perm_iff_count.mpr fun notice => ?_
    have before := List.perm_iff_count.mp ledger.notices notice
    simp only [expectedNotices_count, claimedRewards, List.map_append, List.map_cons,
      List.map_nil, List.count_append, List.filter_append, List.filter_cons, List.filter_nil,
      new.notClaimed, Bool.false_eq_true, if_false, List.append_nil, kind,
      gamePlayedEvent_notice, rewardEvent_notice, List.count_cons, List.count_nil]
      at before ⊢
    omega
  case claimed =>
    intro row member
    rcases List.mem_append.mp member with old | isNew
    · exact ledger.claimed row old
    · rw [List.mem_singleton.mp isNew]
      exact new.claimed_iff
  case origin =>
    intro row member
    rcases List.mem_append.mp member with old | isNew
    · exact (ledger.origin row old).grows (List.subset_append_left _ _)
        fun _ inRecipients => inRecipients
    · rw [List.mem_singleton.mp isNew]
      exact .outcome (List.mem_append_right _ (List.mem_singleton.mpr rfl)) isOutcome
        noRecipient
  case rewardRecipients =>
    intro one inOne other inOther isSome same
    rcases List.mem_append.mp inOne with oldOne | newOne
    · rcases List.mem_append.mp inOther with oldOther | newOther
      · exact ledger.rewardRecipients one oldOne other oldOther isSome same
      · rw [List.mem_singleton.mp newOther, noRecipient] at same
        exact absurd same isSome
    · rw [List.mem_singleton.mp newOne] at isSome
      exact absurd noRecipient isSome
  case awarded =>
    intro recipient member
    obtain ⟨row, inRewards, isRecipient⟩ := ledger.awarded recipient member
    exact ⟨row, List.mem_append_left _ inRewards, isRecipient⟩
  case recipientIds => exact ledger.recipientIds
  case recipientRuns => exact ledger.recipientRuns
  case runIds => exact ledger.runIds
  case completedRuns => exact ledger.completedRuns
  case scoreIds => exact ledger.scoreIds

/-- A claim is recorded. -/
theorem Ledger.claimedReward {reward : Reward} {gameKey : PyStr} {now : Int}
    (ledger : Ledger db) (keys : Keys db) (member : reward ∈ db.rewards)
    (issued : reward.status = .issued) :
    Ledger { db with
      rewards := replace Reward.id (claimedAs reward now) db.rewards
      audits := db.audits ++
        [rewardAudit (claimedAs reward now) (py "reward_claimed") gameKey]
      analytics := db.analytics ++
        [rewardEvent (claimedAs reward now) (py "reward_claimed") gameKey] } := by
  have only : ∀ old ∈ db.rewards, old.id = (claimedAs reward now).id → old = reward :=
    fun old inRewards same => keys.rewardIds.eq inRewards member same
  have entries : (replace Reward.id (claimedAs reward now) db.rewards).map
      (fun row => rewardEntry (issueType row) row) =
        db.rewards.map fun row => rewardEntry (issueType row) row :=
    map_replace fun old inRewards same => by
      rw [only old inRewards same]
      rfl
  have notices : (replace Reward.id (claimedAs reward now) db.rewards).map
      (fun row => rewardNotice (issueType row) row) =
        db.rewards.map fun row => rewardNotice (issueType row) row :=
    map_replace fun old inRewards same => by
      rw [only old inRewards same]
      rfl
  have claims : ((replace Reward.id (claimedAs reward now) db.rewards).filter
      Reward.isClaimed).Perm (db.rewards.filter Reward.isClaimed ++ [claimedAs reward now]) :=
    keys.rewardIds.filter_replace member rfl (by simp [Reward.isClaimed, issued])
      (by simp [Reward.isClaimed, claimedAs])
  constructor
  case audits =>
    refine List.perm_iff_count.mpr fun entry => ?_
    have before := List.perm_iff_count.mp ledger.audits entry
    have claims := List.perm_iff_count.mp (claims.map (rewardEntry (py "reward_claimed"))) entry
    simp only [expectedEntries_count, claimedRewards, entries, List.map_append, List.map_cons,
      List.map_nil, List.count_append, rewardAudit_entry] at before claims ⊢
    omega
  case notices =>
    refine List.perm_iff_count.mpr fun notice => ?_
    have before := List.perm_iff_count.mp ledger.notices notice
    have claims :=
      List.perm_iff_count.mp (claims.map (rewardNotice (py "reward_claimed"))) notice
    simp only [expectedNotices_count, claimedRewards, notices, List.map_append, List.map_cons,
      List.map_nil, List.count_append, rewardEvent_notice] at before claims ⊢
    omega
  case claimed =>
    intro row inRewards
    rcases mem_replace inRewards with rfl | ⟨before, _⟩
    · simp [claimedAs]
    · exact ledger.claimed row before
  case origin =>
    intro row inRewards
    rcases mem_replace inRewards with rfl | ⟨before, _⟩
    · cases ledger.origin reward member with
      | outcome inOutcomes isOutcome none => exact .outcome inOutcomes isOutcome none
      | recipient inRecipients none isRecipient value player =>
          exact .recipient inRecipients none isRecipient value player
    · exact (ledger.origin row before).grows (fun _ inOutcomes => inOutcomes)
        fun _ inRecipients => inRecipients
  case rewardRecipients =>
    intro one inOne other inOther isSome same
    rcases mem_replace inOne with rfl | ⟨oldOne, differs⟩
    · rcases mem_replace inOther with rfl | ⟨oldOther, differs'⟩
      · rfl
      · have isOther := ledger.rewardRecipients reward member other oldOther isSome same
        exact absurd (congrArg Reward.id isOther.symm) differs'
    · rcases mem_replace inOther with rfl | ⟨oldOther, _⟩
      · have isOne := ledger.rewardRecipients one oldOne reward member isSome same
        exact absurd (congrArg Reward.id isOne) differs
      · exact ledger.rewardRecipients one oldOne other oldOther isSome same
  case awarded =>
    intro recipient inRecipients
    obtain ⟨row, inRewards, isRecipient⟩ := ledger.awarded recipient inRecipients
    by_cases same : row.id = (claimedAs reward now).id
    · rw [only row inRewards same] at isRecipient
      exact ⟨claimedAs reward now, mem_replace_self member rfl, isRecipient⟩
    · exact ⟨row, mem_replace_of_ne inRewards same, isRecipient⟩
  case recipientIds => exact ledger.recipientIds
  case recipientRuns => exact ledger.recipientRuns
  case runIds => exact ledger.runIds
  case completedRuns => exact ledger.completedRuns
  case scoreIds => exact ledger.scoreIds

end Booking

/-- Every effect of a request keeps the ledger. -/
theorem Effect.ledger (consistent : Consistent env calls db) (ledger : Ledger db)
    (effect : Effect env call db db') : Ledger db' := by
  have keys := consistent.keys
  cases effect with
  | @endAlone gameSession status proofStatus now kind found active noneCommitted written =>
      obtain ⟨_, rfl⟩ := Database.updateSession_ok.mp written
      have ends : Ends db gameSession (endedAs gameSession status now) :=
        .endedAs kind found active
      exact ledger.frame (ends.sessionEntries keys) (ends.sessionNotices keys) rfl rfl rfl
        rfl rfl rfl rfl
  | @endWithProof gameSession proof previous status proofStatus now kind found active bound
      committed latest written =>
      have result := Runs.flushTermination_result written
      subst result
      have ends : Ends db gameSession (endedAs gameSession status now) :=
        .endedAs kind found active
      exact ledger.frame (ends.sessionEntries keys) (ends.sessionNotices keys) rfl rfl rfl
        rfl rfl rfl rfl
  | create isCall foundPlayer foundGame isRules isRow inserted evidence =>
      obtain ⟨_, rfl⟩ := Database.insertSession_ok.mp inserted
      obtain ⟨_, rfl⟩ := insertEvidence_ok.mp evidence
      exact ledger.created
  | commit isCall found active owner foundGame foundConfig belongs unbound mapped
      hashed isProof inserted kept chained =>
      obtain ⟨_, rfl⟩ := Database.insertProof_ok.mp inserted
      obtain ⟨_, rfl⟩ := Database.insertCustody_ok.mp kept
      obtain ⟨_, rfl⟩ := Database.insertEvent_ok.mp chained
      exact ledger.frame rfl rfl rfl rfl rfl rfl rfl rfl rfl
  | @reveal gameSession proof _ _ _ _ _ ownerId _ draw derivation outcome reward _ now _ _ _
      isCall found active foundProof committed owner foundGame foundConfig foundCustody
      mapped derived isOutcome isReward isRevealed latest inserted rewarded written
      finished =>
      have result := reveal_result inserted rewarded written finished
      have sameOwner : outcome.playerId = ownerId := by
        obtain ⟨row, _, commitment, _⟩ := consistent.proofs proof (lookup_mem foundProof)
        cases commitment.session.symm.trans found
        rw [isOutcome, ← owner]
        exact commitment.owner
      subst result isReward
      have ends : Ends db gameSession (completed gameSession now) :=
        .completed (sessionById_self found) active
      rw [← sameOwner]
      exact (ledger.played ⟨rfl, rfl⟩ rfl rfl).frame (ends.sessionEntries keys)
        (ends.sessionNotices keys) rfl rfl rfl rfl rfl rfl rfl
  | @play gameSession _ _ _ ownerId _ _ _ _ _ outcome _ now _ _ isCall found active owner foundGame
      isRules direct foundConfig belongs evaluated isOutcome isReward inserted rewarded
      finished =>
      have result := play_result inserted rewarded finished
      have sameOwner : outcome.playerId = ownerId := by
        rw [isOutcome]
        exact owner
      subst result isReward
      have ends : Ends db gameSession (completed gameSession now) := .completed found active
      rw [← sameOwner]
      exact (ledger.played ⟨rfl, rfl⟩ rfl rfl).frame (ends.sessionEntries keys)
        (ends.sessionNotices keys) rfl rfl rfl rfl rfl rfl rfl
  | score isCall found owner isCompleted ended foundGame isRules foundOutcome
      foundConfig scored isRow inserted evidence =>
      obtain ⟨⟨fresh, _⟩, rfl⟩ := Database.insertScore_ok.mp inserted
      obtain ⟨_, rfl⟩ := insertEvidence_ok.mp evidence
      exact ledger.scored fresh
  | @claim sessionId outcome reward gameKey now found issued written =>
      have result := claim_result written
      subst result
      have member : reward ∈ db.rewards := rewardBySession_mem found
      exact ledger.claimedReward keys member issued

theorem Effects.ledger (consistent : Consistent env calls db) (known : call ∈ calls)
    (ledger : Ledger db) (effects : Effects env call db db') : Ledger db' := by
  cases effects with
  | unchanged same =>
      rw [same]
      exact ledger
  | one effect => exact effect.ledger consistent ledger
  | ending first rounds effect =>
      exact effect.ledger (first.consistent consistent known)
        (first.ledger consistent ledger)

end RngGamePlatform
