/-
Module: RngGamePlatform.Proofs.EvidenceConservation
Purpose: In every reachable state the audit records and the analytics events match
  the sessions, outcomes, rewards, claims, scores and settlements, each once.
Trusted boundary: none
Main exports: auditsOf, analyticsOf, Recorded, EvidenceConserved, AppendOnly,
  evidence_conserved
-/
import RngGamePlatform.Encoding.Readable
import RngGamePlatform.Proofs.Lifecycle
import RngGamePlatform.Proofs.PlatformContract

namespace RngGamePlatform

open Encoding Relational Transactions

variable {env : Platform} {db : Database}

/-! ### Rewards, audits and analytics of each round -/

/-- The audit records of a type about a row. -/
def auditsOf (eventType : PyStr) (id : Uuid) (db : Database) : List AuditRecord :=
  db.audits.filter fun row => row.eventType = eventType ∧ row.entityId = id

/-- The analytics events of a type about a row, by their key. -/
def analyticsOf (eventType : PyStr) (id : Uuid) (db : Database) : List AnalyticsEvent :=
  db.analytics.filter fun row =>
    row.eventType = eventType ∧ row.eventKey = noticeKey eventType id

/-- The audit records of a type whose evidence names a session. -/
def auditsOfSession (eventType : PyStr) (id : Uuid) (db : Database) : List AuditRecord :=
  db.audits.filter fun row =>
    row.eventType = eventType ∧ row.evidence.get? (py "session_id") = some (idText id)

/-- The analytics events of a type whose payload names a session. -/
def analyticsOfSession (eventType : PyStr) (id : Uuid) (db : Database) :
    List AnalyticsEvent :=
  db.analytics.filter fun row =>
    row.eventType = eventType ∧ row.payload.get? (py "session_id") = some (idText id)

/-- Exactly one audit record and one event of a type are about a row. -/
def Recorded (eventType : PyStr) (id : Uuid) (db : Database) : Prop :=
  (∃ audit, auditsOf eventType id db = [audit]) ∧
    ∃ event, analyticsOf eventType id db = [event]

/-- Exactly one audit record and one event of a type are about a reward, both with
its value. -/
structure RewardRecorded (eventType : PyStr) (row : Reward) (db : Database) : Prop where
  audit : ∃ audit, auditsOf eventType row.id db = [audit] ∧
    audit.evidence.get? (py "value") = some (.int row.value)
  event : ∃ event, analyticsOf eventType row.id db = [event] ∧
    event.playerId = some row.playerId ∧
    event.payload.get? (py "value") = some (.int row.value)

/-- What a completed session leaves: exactly one outcome and its evidence, and
exactly one reward and its evidence. -/
structure PlayRecorded (row : GameSession) (outcome : Outcome) (reward : Reward)
    (db : Database) : Prop where
  onlyOutcome : db.outcomes.filter (fun other => other.sessionId = row.id) = [outcome]
  accepted : ∃ audit, auditsOfSession (py "outcome_accepted") row.id db = [audit] ∧
    auditsOf (py "outcome_accepted") outcome.id db = [audit]
  gamePlayed : ∃ event, analyticsOfSession (py "game_played") row.id db = [event] ∧
    analyticsOf (py "game_played") outcome.id db = [event]
  onlyReward : db.rewards.filter (fun other => other.outcomeId = some outcome.id) = [reward]
  samePlayer : reward.playerId = row.playerId
  issued : RewardRecorded (py "reward_issued") reward db

/-- A session without an outcome has none of the evidence of one: the rewards that
were issued, and the records of their issue, belong to other sessions. -/
structure NothingPlayed (row : GameSession) (db : Database) : Prop where
  noOutcome : db.outcomes.filter (fun other => other.sessionId = row.id) = []
  notAccepted : auditsOfSession (py "outcome_accepted") row.id db = []
  notPlayed : analyticsOfSession (py "game_played") row.id db = []
  noReward : ∀ reward ∈ db.rewards, ∀ outcome ∈ db.outcomes,
    reward.outcomeId = some outcome.id → outcome.sessionId ≠ row.id
  notIssued : ∀ audit ∈ db.audits, audit.eventType = py "reward_issued" →
    ∃ reward ∈ db.rewards, ∃ outcome ∈ db.outcomes, reward.id = audit.entityId ∧
      reward.outcomeId = some outcome.id ∧ outcome.sessionId ≠ row.id
  notAnnounced : ∀ event ∈ db.analytics, event.eventType = py "reward_issued" →
    ∃ reward ∈ db.rewards, ∃ outcome ∈ db.outcomes,
      event.eventKey = noticeKey (py "reward_issued") reward.id ∧
      reward.outcomeId = some outcome.id ∧ outcome.sessionId ≠ row.id

/-- The evidence and the tables tell the same. -/
structure EvidenceConserved (db : Database) : Prop where
  started : ∀ row ∈ db.sessions, Recorded (py "session_started") row.id db
  completed : ∀ row ∈ db.sessions,
    row.status = .completed ↔ ∃ outcome ∈ db.outcomes, outcome.sessionId = row.id
  played : ∀ row ∈ db.sessions, row.status = .completed →
    ∃ outcome reward, PlayRecorded row outcome reward db
  unplayed : ∀ row ∈ db.sessions, row.status ≠ .completed → NothingPlayed row db
  claims : ∀ row ∈ db.rewards, (row.status = .claimed ↔ row.claimedAt ≠ none) ∧
    (row.claimedAt ≠ none ↔ Recorded (py "reward_claimed") row.id db)
  scores : ∀ row ∈ db.scores, Recorded (py "final_score_submitted") row.id db
  recipients : ∀ recipient ∈ db.recipients, ∃ reward,
    db.rewards.filter (fun other => other.settlementRecipientId = some recipient.id) =
        [reward] ∧
      reward.value = recipient.rewardValue ∧ reward.playerId = recipient.playerId ∧
      RewardRecorded (py "settlement_reward_issued") reward db

/-- Evidence is only added, and a claimed reward stays as it is. -/
structure AppendOnly (db later : Database) : Prop where
  audits : db.audits <+: later.audits
  analytics : db.analytics <+: later.analytics
  claimed : ∀ row ∈ db.rewards, row.claimedAt ≠ none →
    lookup Reward.id row.id later.rewards = some row

/-! ### From the ledger to the counts -/

section Counts

variable {α β : Type}

/-- What is recorded once up to order is found once. -/
theorem filter_singleton {rows : List α} {attests : α → β} {expected : List β}
    {condition : α → Bool} {selects : β → Bool} {only : β}
    (complete : (rows.map attests).Perm expected)
    (same : ∀ row, condition row = selects (attests row))
    (single : expected.filter selects = [only]) :
    ∃ row, rows.filter condition = [row] ∧ attests row = only := by
  have selected := complete.filter selects
  have isCondition : selects ∘ attests = condition := funext fun row => (same row).symm
  rw [single, List.perm_singleton, List.filter_map, isCondition,
    List.map_eq_singleton_iff] at selected
  exact selected

/-- What is not recorded is not found. -/
theorem filter_nothing {rows : List α} {attests : α → β} {expected : List β}
    {condition : α → Bool} {selects : β → Bool}
    (complete : (rows.map attests).Perm expected)
    (same : ∀ row, condition row = selects (attests row))
    (nothing : expected.filter selects = []) : rows.filter condition = [] := by
  have selected := complete.filter selects
  have isCondition : selects ∘ attests = condition := funext fun row => (same row).symm
  rw [nothing, List.perm_nil, List.filter_map, isCondition, List.map_eq_nil_iff] at selected
  exact selected

end Counts

/-! ### The counts of each kind of evidence -/

/-- The entry has the type and is about the row. -/
def Entry.isAbout (eventType : PyStr) (id : Uuid) (entry : Entry) : Bool :=
  entry.eventType = eventType ∧ entry.entityId = id

/-- The notice has the type and the key of the row. -/
def Notice.isAbout (eventType : PyStr) (id : Uuid) (notice : Notice) : Bool :=
  notice.eventType = eventType ∧ notice.eventKey = noticeKey eventType id

/-- The entry has the type and names the session. -/
def Entry.isOf (eventType : PyStr) (sessionId : Uuid) (entry : Entry) : Bool :=
  entry.eventType = eventType ∧ entry.sessionId = some (idText sessionId)

/-- The notice has the type and names the session. -/
def Notice.isOf (eventType : PyStr) (sessionId : Uuid) (notice : Notice) : Bool :=
  notice.eventType = eventType ∧ notice.sessionId = some (idText sessionId)

section Kinds

/-- The keys of one type are told apart by their rows. -/
theorem sameKey_iff {eventType other : PyStr} {one two : Uuid} :
    (eventType = other ∧ noticeKey eventType one = noticeKey other two) ↔
      eventType = other ∧ one = two := by
  refine and_congr_right fun same => ?_
  rw [same, noticeKey, noticeKey, List.append_cancel_left_eq]
  exact ⟨uuidStr_injective, congrArg uuidStr⟩

/-- A reward is issued as one of two types. -/
theorem issueType_eq {row : Reward} {name : String} : issueType row = py name ↔
    row.settlementRecipientId = none ∧ name = "reward_issued" ∨
      row.settlementRecipientId ≠ none ∧ name = "settlement_reward_issued" := by
  unfold issueType
  cases row.settlementRecipientId <;> simp [py_inj, eq_comm]

/-- The entries of a type about a row, table by table. -/
theorem expectedEntries_about (name : String) (id : Uuid) :
    (expectedEntries db).filter (Entry.isAbout (py name) id) =
      (db.sessions.filter fun row => "session_started" = name ∧ row.id = id).map
          sessionEntry ++
        ((db.outcomes.filter fun row => "outcome_accepted" = name ∧ row.id = id).map
            outcomeEntry ++
          ((db.rewards.filter fun row => issueType row = py name ∧ row.id = id).map
              (fun row => rewardEntry (issueType row) row) ++
            (((claimedRewards db).filter fun row =>
                "reward_claimed" = name ∧ row.id = id).map
                (rewardEntry (py "reward_claimed")) ++
              ((db.scores.filter fun row =>
                  "final_score_submitted" = name ∧ row.id = id).map scoreEntry ++
                (db.runs.filter fun row => "leaderboard_settled" = name ∧ row.id = id).map
                  runEntry)))) := by
  simp only [expectedEntries, List.filter_append, List.filter_map, Function.comp_def,
    Entry.isAbout, sessionEntry, outcomeEntry, rewardEntry, scoreEntry, runEntry, py_inj]

/-- The notices of a type about a row, table by table. -/
theorem expectedNotices_about (name : String) (id : Uuid) :
    (expectedNotices db).filter (Notice.isAbout (py name) id) =
      (db.sessions.filter fun row => "session_started" = name ∧ row.id = id).map
          sessionNotice ++
        ((db.outcomes.filter fun row => "game_played" = name ∧ row.id = id).map
            outcomeNotice ++
          ((db.rewards.filter fun row => issueType row = py name ∧ row.id = id).map
              (fun row => rewardNotice (issueType row) row) ++
            (((claimedRewards db).filter fun row =>
                "reward_claimed" = name ∧ row.id = id).map
                (rewardNotice (py "reward_claimed")) ++
              (db.scores.filter fun row =>
                "final_score_submitted" = name ∧ row.id = id).map scoreNotice))) := by
  simp only [expectedNotices, List.filter_append, List.filter_map, Function.comp_def,
    Notice.isAbout, sessionNotice, outcomeNotice, rewardNotice, scoreNotice, sameKey_iff]
  simp only [py_inj]

/-- What the tables call for once is recorded once. -/
theorem Ledger.recorded {name : String} {id : Uuid} {entry : Entry} {notice : Notice}
    (ledger : Ledger db)
    (entries : (expectedEntries db).filter (Entry.isAbout (py name) id) = [entry])
    (notices : (expectedNotices db).filter (Notice.isAbout (py name) id) = [notice]) :
    Recorded (py name) id db := by
  obtain ⟨audit, isAudit, _⟩ := filter_singleton ledger.audits (fun _ => rfl) entries
  obtain ⟨event, isEvent, _⟩ := filter_singleton ledger.notices (fun _ => rfl) notices
  exact ⟨⟨audit, isAudit⟩, event, isEvent⟩

/-- A reward of one kind is recorded once, with its value. -/
theorem Ledger.rewardRecorded {name : String} {row : Reward} (ledger : Ledger db)
    (entries : (expectedEntries db).filter (Entry.isAbout (py name) row.id) =
      [rewardEntry (py name) row])
    (notices : (expectedNotices db).filter (Notice.isAbout (py name) row.id) =
      [rewardNotice (py name) row]) : RewardRecorded (py name) row db := by
  obtain ⟨audit, isAudit, same⟩ := filter_singleton ledger.audits (fun _ => rfl) entries
  obtain ⟨event, isEvent, same'⟩ := filter_singleton ledger.notices (fun _ => rfl) notices
  exact ⟨⟨audit, isAudit, congrArg Entry.value same⟩, event, isEvent,
    congrArg Notice.playerId same', congrArg Notice.value same'⟩

variable (keys : Keys db) (ledger : Ledger db)

include keys ledger

theorem sessions_recorded {row : GameSession} (member : row ∈ db.sessions) :
    Recorded (py "session_started") row.id db := by
  have alone : db.sessions.filter (fun other => other.id = row.id) = [row] :=
    keys.sessionIds.filter_only member (by simp) (by simp)
  have entries : (expectedEntries db).filter (Entry.isAbout (py "session_started") row.id) =
      [sessionEntry row] := by
    rw [expectedEntries_about]
    simp [alone, issueType_eq]
  have notices : (expectedNotices db).filter
      (Notice.isAbout (py "session_started") row.id) = [sessionNotice row] := by
    rw [expectedNotices_about]
    simp [alone, issueType_eq]
  exact ledger.recorded entries notices

omit keys in
theorem scores_recorded {row : FinalScore} (member : row ∈ db.scores) :
    Recorded (py "final_score_submitted") row.id db := by
  have alone : db.scores.filter (fun other => other.id = row.id) = [row] :=
    ledger.scoreIds.filter_only member (by simp) (by simp)
  have entries : (expectedEntries db).filter
      (Entry.isAbout (py "final_score_submitted") row.id) = [scoreEntry row] := by
    rw [expectedEntries_about]
    simp [alone, issueType_eq]
  have notices : (expectedNotices db).filter
      (Notice.isAbout (py "final_score_submitted") row.id) = [scoreNotice row] := by
    rw [expectedNotices_about]
    simp [alone, issueType_eq]
  exact ledger.recorded entries notices

/-- A reward is recorded under the type it was issued with. -/
theorem rewards_recorded {row : Reward} {name : String} (member : row ∈ db.rewards)
    (isType : issueType row = py name) : RewardRecorded (py name) row db := by
  have alone : db.rewards.filter (fun other => issueType other = py name ∧
      other.id = row.id) = [row] :=
    keys.rewardIds.filter_only member (by simp [isType]) (by simp)
  have kinds := issueType_eq.mp isType
  have entries : (expectedEntries db).filter (Entry.isAbout (py name) row.id) =
      [rewardEntry (py name) row] := by
    rw [expectedEntries_about, alone]
    rcases kinds with ⟨_, rfl⟩ | ⟨_, rfl⟩ <;> simp [isType]
  have notices : (expectedNotices db).filter (Notice.isAbout (py name) row.id) =
      [rewardNotice (py name) row] := by
    rw [expectedNotices_about, alone]
    rcases kinds with ⟨_, rfl⟩ | ⟨_, rfl⟩ <;> simp [isType]
  exact ledger.rewardRecorded entries notices

/-- Exactly the claimed rewards have the record of a claim. -/
theorem claims_recorded {row : Reward} (member : row ∈ db.rewards) :
    row.claimedAt ≠ none ↔ Recorded (py "reward_claimed") row.id db := by
  rw [← ledger.claimed row member]
  constructor
  · intro isClaimed
    have inClaimed : row ∈ claimedRewards db :=
      List.mem_filter.mpr ⟨member, by simp [Reward.isClaimed, isClaimed]⟩
    have unique : Unique Reward.id (claimedRewards db) := List.Pairwise.filter _ keys.rewardIds
    have alone : (claimedRewards db).filter (fun other => other.id = row.id) = [row] :=
      unique.filter_only inClaimed (by simp) (by simp)
    have entries : (expectedEntries db).filter
        (Entry.isAbout (py "reward_claimed") row.id) =
          [rewardEntry (py "reward_claimed") row] := by
      rw [expectedEntries_about]
      simp [alone, issueType_eq]
    have notices : (expectedNotices db).filter
        (Notice.isAbout (py "reward_claimed") row.id) =
          [rewardNotice (py "reward_claimed") row] := by
      rw [expectedNotices_about]
      simp [alone, issueType_eq]
    exact ledger.recorded entries notices
  · rintro ⟨⟨audit, found⟩, _⟩
    by_contra notClaimed
    have nobody : (claimedRewards db).filter (fun other => other.id = row.id) = [] := by
      refine List.filter_eq_nil_iff.mpr fun other inClaimed same => ?_
      obtain ⟨inRewards, isClaimed⟩ := List.mem_filter.mp inClaimed
      rw [keys.rewardIds.eq inRewards member (of_decide_eq_true same)] at isClaimed
      exact notClaimed (of_decide_eq_true isClaimed)
    have entries : (expectedEntries db).filter
        (Entry.isAbout (py "reward_claimed") row.id) = [] := by
      rw [expectedEntries_about]
      simp [nobody, issueType_eq]
    have missing : auditsOf (py "reward_claimed") row.id db = [] :=
      filter_nothing ledger.audits (fun _ => rfl) entries
    rw [missing] at found
    cases found

end Kinds

/-! ### The evidence of plays -/

section Plays

theorem idText_inj {one other : Uuid} : idText one = idText other ↔ one = other :=
  ⟨fun same => uuidStr_injective (Json.str.inj same), congrArg idText⟩

/-- The records of accepted outcomes that name a session are those of its outcomes. -/
theorem expectedEntries_ofSession (id : Uuid) :
    (expectedEntries db).filter (Entry.isOf (py "outcome_accepted") id) =
      (db.outcomes.filter fun row => row.sessionId = id).map outcomeEntry := by
  simp [expectedEntries, List.filter_map, Function.comp_def, Entry.isOf, sessionEntry,
    outcomeEntry, rewardEntry, scoreEntry, runEntry, py_inj, idText_inj]

theorem expectedNotices_ofSession (id : Uuid) :
    (expectedNotices db).filter (Notice.isOf (py "game_played") id) =
      (db.outcomes.filter fun row => row.sessionId = id).map outcomeNotice := by
  simp [expectedNotices, List.filter_map, Function.comp_def, Notice.isOf, sessionNotice,
    outcomeNotice, rewardNotice, scoreNotice, py_inj, idText_inj]

/-- A row that one selection finds alone is the one that another finds alone. -/
theorem same_singleton {α : Type} {rows : List α} {one two : α → Bool} {first second : α}
    (foundFirst : rows.filter one = [first]) (foundSecond : rows.filter two = [second])
    (selected : two first = true) : first = second := by
  have inRows : first ∈ rows := (List.mem_filter.mp (foundFirst ▸ List.mem_singleton.mpr rfl)).1
  have inSecond : first ∈ rows.filter two := List.mem_filter.mpr ⟨inRows, selected⟩
  rw [foundSecond] at inSecond
  exact List.mem_singleton.mp inSecond

/-- The entries of issued rewards are those of the rewards. -/
theorem issued_entry {entry : Entry} (called : entry ∈ expectedEntries db)
    (isIssued : entry.eventType = py "reward_issued") :
    ∃ reward ∈ db.rewards, issueType reward = py "reward_issued" ∧
      rewardEntry (py "reward_issued") reward = entry := by
  have selected : entry ∈ (expectedEntries db).filter
      fun entry => entry.eventType = py "reward_issued" :=
    List.mem_filter.mpr ⟨called, by simp [isIssued]⟩
  simp only [expectedEntries, List.filter_append, List.filter_map, Function.comp_def,
    sessionEntry, outcomeEntry, rewardEntry, scoreEntry, runEntry, py_inj,
    String.reduceEq, decide_false, List.filter_false, List.map_nil, List.nil_append,
    List.append_nil, List.mem_map, List.mem_filter, decide_eq_true_eq] at selected
  obtain ⟨reward, ⟨inRewards, isType⟩, rfl⟩ := selected
  exact ⟨reward, inRewards, isType, by rw [isType, rewardEntry]⟩

theorem issued_notice {notice : Notice} (called : notice ∈ expectedNotices db)
    (isIssued : notice.eventType = py "reward_issued") :
    ∃ reward ∈ db.rewards, issueType reward = py "reward_issued" ∧
      rewardNotice (py "reward_issued") reward = notice := by
  have selected : notice ∈ (expectedNotices db).filter
      fun notice => notice.eventType = py "reward_issued" :=
    List.mem_filter.mpr ⟨called, by simp [isIssued]⟩
  simp only [expectedNotices, List.filter_append, List.filter_map, Function.comp_def,
    sessionNotice, outcomeNotice, rewardNotice, scoreNotice, py_inj,
    String.reduceEq, decide_false, List.filter_false, List.map_nil, List.nil_append,
    List.append_nil, List.mem_map, List.mem_filter, decide_eq_true_eq] at selected
  obtain ⟨reward, ⟨inRewards, isType⟩, rfl⟩ := selected
  exact ⟨reward, inRewards, isType, by rw [isType, rewardNotice]⟩

variable {calls : List Call} {row : GameSession} (consistent : Consistent env calls db)
  (ledger : Ledger db)

include consistent

/-- The outcomes of a session make it a completed one. -/
theorem completed_of_outcome (member : row ∈ db.sessions) {outcome : Outcome}
    (inOutcomes : outcome ∈ db.outcomes) (ofSession : outcome.sessionId = row.id) :
    row.status = .completed := by
  obtain ⟨owner, foundOwner, isCompleted, _⟩ := consistent.rounds.outcomeOf outcome inOutcomes
  have isOwner : owner = row := consistent.keys.sessionIds.eq (lookup_mem foundOwner) member
    ((lookup_key foundOwner).trans ofSession)
  exact isOwner ▸ isCompleted

include ledger

/-- A completed session has left one outcome, one reward and their evidence. -/
theorem play_recorded (member : row ∈ db.sessions) (isCompleted : row.status = .completed) :
    ∃ outcome reward, PlayRecorded row outcome reward db := by
  have keys := consistent.keys
  obtain ⟨outcome, foundOutcome⟩ := consistent.rounds.completedOf row member isCompleted
  have inOutcomes := lookup_mem foundOutcome
  have ofSession : outcome.sessionId = row.id := lookup_key foundOutcome
  obtain ⟨owner, foundOwner, _, samePlayer⟩ := consistent.rounds.outcomeOf outcome inOutcomes
  have isOwner : owner = row := keys.sessionIds.eq (lookup_mem foundOwner) member
    ((lookup_key foundOwner).trans ofSession)
  obtain ⟨reward, foundReward, sameOwner⟩ := consistent.rounds.rewardOf outcome inOutcomes
  have inRewards := lookup_mem foundReward
  have ofOutcome : reward.outcomeId = some outcome.id := lookup_key foundReward
  have onlyOutcome : db.outcomes.filter (fun other => other.sessionId = row.id) =
      [outcome] :=
    keys.outcomeSessions.filter_only inOutcomes (by simp [ofSession]) (by simp [ofSession])
  have onlyId : db.outcomes.filter (fun other => other.id = outcome.id) = [outcome] :=
    keys.outcomeIds.filter_only inOutcomes (by simp) (by simp)
  have onlyReward : db.rewards.filter (fun other => other.outcomeId = some outcome.id) =
      [reward] := by
    refine keys.rewardIds.filter_only inRewards (by simp [ofOutcome]) fun other inAll isMet => ?_
    have sameOutcome := (of_decide_eq_true isMet).trans ofOutcome.symm
    rw [keys.rewardOutcomes other inAll reward inRewards
      (by simp [of_decide_eq_true isMet]) sameOutcome]
  have isIssued : issueType reward = py "reward_issued" := by
    cases ledger.origin reward inRewards with
    | outcome _ _ noRecipient => simp [issueType, noRecipient]
    | recipient _ noOutcome _ _ _ =>
        rw [ofOutcome] at noOutcome
        cases noOutcome
  refine ⟨outcome, reward, onlyOutcome, ?_, ?_, onlyReward, ?_,
    rewards_recorded keys ledger inRewards isIssued⟩
  · have ofRow : (expectedEntries db).filter (Entry.isOf (py "outcome_accepted") row.id) =
        [outcomeEntry outcome] := by
      rw [expectedEntries_ofSession, onlyOutcome]
      rfl
    have about : (expectedEntries db).filter
        (Entry.isAbout (py "outcome_accepted") outcome.id) = [outcomeEntry outcome] := by
      rw [expectedEntries_about]
      simp [onlyId, issueType_eq]
    obtain ⟨audit, isAudit, same⟩ := filter_singleton ledger.audits (fun _ => rfl) ofRow
    obtain ⟨other, isOther, _⟩ := filter_singleton ledger.audits (fun _ => rfl) about
    have selected : Entry.isAbout (py "outcome_accepted") outcome.id audit.entry = true := by
      rw [same]
      simp [Entry.isAbout, outcomeEntry]
    have isSame : audit = other := same_singleton isAudit isOther selected
    exact ⟨audit, isAudit, isSame ▸ isOther⟩
  · have ofRow : (expectedNotices db).filter (Notice.isOf (py "game_played") row.id) =
        [outcomeNotice outcome] := by
      rw [expectedNotices_ofSession, onlyOutcome]
      rfl
    have about : (expectedNotices db).filter
        (Notice.isAbout (py "game_played") outcome.id) = [outcomeNotice outcome] := by
      rw [expectedNotices_about]
      simp [onlyId, issueType_eq]
    obtain ⟨event, isEvent, same⟩ := filter_singleton ledger.notices (fun _ => rfl) ofRow
    obtain ⟨other, isOther, _⟩ := filter_singleton ledger.notices (fun _ => rfl) about
    have selected : Notice.isAbout (py "game_played") outcome.id event.notice = true := by
      rw [same]
      simp [Notice.isAbout, outcomeNotice]
    have isSame : event = other := same_singleton isEvent isOther selected
    exact ⟨event, isEvent, isSame ▸ isOther⟩
  · rw [sameOwner, ← samePlayer, isOwner]

/-- A reward that was issued for an outcome is not one of a session without any. -/
theorem issued_elsewhere (member : row ∈ db.sessions) (notCompleted : row.status ≠ .completed)
    {reward : Reward} (inRewards : reward ∈ db.rewards)
    (isIssued : issueType reward = py "reward_issued") :
    ∃ outcome ∈ db.outcomes, reward.outcomeId = some outcome.id ∧
      outcome.sessionId ≠ row.id := by
  cases ledger.origin reward inRewards with
  | @outcome outcome inOutcomes isOutcome _ =>
      exact ⟨outcome, inOutcomes, isOutcome, fun ofSession =>
        notCompleted (completed_of_outcome consistent member inOutcomes ofSession)⟩
  | recipient _ _ isRecipient _ _ =>
      rcases issueType_eq.mp isIssued with ⟨noRecipient, _⟩ | ⟨_, other⟩
      · rw [isRecipient] at noRecipient
        cases noRecipient
      · exact absurd other (by decide)

/-- A session that is not completed has none of the evidence of a play. -/
theorem nothing_played (member : row ∈ db.sessions) (notCompleted : row.status ≠ .completed) :
    NothingPlayed row db := by
  have noOutcome : db.outcomes.filter (fun other => other.sessionId = row.id) = [] := by
    refine List.filter_eq_nil_iff.mpr fun outcome inOutcomes ofSession => ?_
    exact notCompleted (completed_of_outcome consistent member inOutcomes
      (of_decide_eq_true ofSession))
  constructor
  case noOutcome => exact noOutcome
  case notAccepted =>
    have nothing : (expectedEntries db).filter (Entry.isOf (py "outcome_accepted") row.id) =
        [] := by
      rw [expectedEntries_ofSession, noOutcome]
      rfl
    exact filter_nothing ledger.audits (fun _ => rfl) nothing
  case notPlayed =>
    have nothing : (expectedNotices db).filter (Notice.isOf (py "game_played") row.id) =
        [] := by
      rw [expectedNotices_ofSession, noOutcome]
      rfl
    exact filter_nothing ledger.notices (fun _ => rfl) nothing
  case noReward =>
    intro reward _ outcome inOutcomes _ ofSession
    exact notCompleted (completed_of_outcome consistent member inOutcomes ofSession)
  case notIssued =>
    intro audit inAudits isIssued
    have called : audit.entry ∈ expectedEntries db :=
      ledger.audits.mem_iff.mp (List.mem_map_of_mem inAudits)
    obtain ⟨reward, inRewards, isType, same⟩ := issued_entry called isIssued
    obtain ⟨outcome, inOutcomes, ofOutcome, other⟩ :=
      issued_elsewhere consistent ledger member notCompleted inRewards isType
    exact ⟨reward, inRewards, outcome, inOutcomes, congrArg Entry.entityId same, ofOutcome,
      other⟩
  case notAnnounced =>
    intro event inAnalytics isIssued
    have called : event.notice ∈ expectedNotices db :=
      ledger.notices.mem_iff.mp (List.mem_map_of_mem inAnalytics)
    obtain ⟨reward, inRewards, isType, same⟩ := issued_notice called isIssued
    obtain ⟨outcome, inOutcomes, ofOutcome, other⟩ :=
      issued_elsewhere consistent ledger member notCompleted inRewards isType
    exact ⟨reward, inRewards, outcome, inOutcomes, (congrArg Notice.eventKey same).symm,
      ofOutcome, other⟩

end Plays

/-! ### Every reachable state -/

/-- A recipient of a settlement has one reward, with its value and its evidence. -/
theorem recipient_recorded {calls : List Call} (consistent : Consistent env calls db)
    (ledger : Ledger db) {recipient : SettlementRecipient}
    (member : recipient ∈ db.recipients) :
    ∃ reward, db.rewards.filter
        (fun other => other.settlementRecipientId = some recipient.id) = [reward] ∧
      reward.value = recipient.rewardValue ∧ reward.playerId = recipient.playerId ∧
      RewardRecorded (py "settlement_reward_issued") reward db := by
  obtain ⟨reward, inRewards, ofRecipient⟩ := ledger.awarded recipient member
  have alone : db.rewards.filter
      (fun other => other.settlementRecipientId = some recipient.id) = [reward] := by
    refine consistent.keys.rewardIds.filter_only inRewards (by simp [ofRecipient])
      fun other inAll isMet => ?_
    have same := (of_decide_eq_true isMet).trans ofRecipient.symm
    rw [ledger.rewardRecipients other inAll reward inRewards
      (by simp [of_decide_eq_true isMet]) same]
  have isIssued : issueType reward = py "settlement_reward_issued" :=
    issueType_eq.mpr (Or.inr ⟨by simp [ofRecipient], rfl⟩)
  have recorded := rewards_recorded consistent.keys ledger inRewards isIssued
  cases ledger.origin reward inRewards with
  | outcome _ _ noRecipient =>
      rw [ofRecipient] at noRecipient
      cases noRecipient
  | @recipient other inRecipients _ isRecipient value player =>
      have same : other.id = recipient.id :=
        Option.some.inj (isRecipient.symm.trans ofRecipient)
      have isOther : other = recipient := ledger.recipientIds.eq inRecipients member same
      exact ⟨reward, alone, isOther ▸ value, isOther ▸ player, recorded⟩

theorem Ledger.conserved {calls : List Call} (ledger : Ledger db)
    (consistent : Consistent env calls db) : EvidenceConserved db where
  started := fun _ member => sessions_recorded consistent.keys ledger member
  completed := fun row member => by
    constructor
    · intro isCompleted
      obtain ⟨outcome, found⟩ := consistent.rounds.completedOf row member isCompleted
      exact ⟨outcome, lookup_mem found, lookup_key found⟩
    · rintro ⟨outcome, inOutcomes, ofSession⟩
      exact completed_of_outcome consistent member inOutcomes ofSession
  played := fun _ member isCompleted => play_recorded consistent ledger member isCompleted
  unplayed := fun _ member notCompleted =>
    nothing_played consistent ledger member notCompleted
  claims := fun row member =>
    ⟨ledger.claimed row member, claims_recorded consistent.keys ledger member⟩
  scores := fun _ member => scores_recorded ledger member
  recipients := fun _ member => recipient_recorded consistent ledger member

/-- What the commits of a contract add up to: evidence is added, and claimed
rewards stay. -/
structure Accumulates (db later : Database) : Prop where
  audits : db.audits <+: later.audits
  analytics : db.analytics <+: later.analytics
  claimed : ∀ row ∈ db.rewards, row.status = .claimed → row ∈ later.rewards

/-- In every state that an interleaving of the calls reaches, every session,
completed play, claim, score and settlement reward has its evidence exactly once and
nothing else has; and from there on no audit record, event or claim changes. -/
theorem evidence_conserved {system : PlatformSystem}
    (reachable : PlatformReachable env system) :
    EvidenceConserved system.db ∧
      ∀ labels later, system.follow Lock.conflicts (operate env) labels = some later →
        AppendOnly system.db later.db := by
  have sound := platform_sound reachable
  obtain ⟨⟨calls, consistent⟩, ledger⟩ := sound.inv
  refine ⟨ledger.conserved consistent, fun labels later followed => ?_⟩
  have run : (bookkeeping env).Sound later ∧ Accumulates system.db later.db :=
    sound.follow Lock.conflicts_symm operate_outlined
      (fun db => ⟨List.prefix_rfl, List.prefix_rfl, fun _ member _ => member⟩)
      (fun first second => ⟨first.audits.trans second.audits,
        first.analytics.trans second.analytics, fun row member isClaimed =>
          second.claimed row (first.claimed row member isClaimed) isClaimed⟩)
      (fun _ advances => ⟨advances.audits, advances.analytics, advances.claimed⟩) followed
  obtain ⟨later_sound, accumulated⟩ := run
  obtain ⟨⟨laterCalls, laterConsistent⟩, _⟩ := later_sound.inv
  refine ⟨accumulated.audits, accumulated.analytics, fun row member isClaimed => ?_⟩
  have inLater := accumulated.claimed row member ((ledger.claimed row member).mpr isClaimed)
  exact laterConsistent.keys.rewardIds.lookup inLater rfl

namespace Sample

theorem nothing_yet : NothingYet catalogue := ⟨catalogue_only, rfl, rfl, rfl, rfl⟩

/-- Follow labels of calls from the catalogue. -/
def operated (labels : List (Label Int Operation)) : Option PlatformSystem :=
  System.follow Lock.conflicts (operate platform) ⟨catalogue, []⟩ labels

theorem operated_reachable {labels : List (Label Int Operation)} {system : PlatformSystem}
    (isRun : operated labels = some system) : PlatformReachable platform system :=
  (Reachable.start catalogue nothing_yet).follow isRun

/-- A call executes `count` statements, all at instant `now`. -/
def calling (operation : Operation) (index count : Nat) (now : Int) :
    List (Label Int Operation) :=
  .start operation :: List.replicate count (.advance index now)

/-- A daily spin is created, committed, evaluated and claimed. -/
def claimedLabels : List (Label Int Operation) :=
  calling (.request spin) 0 13 1000 ++ calling (.request commitSpin) 1 10 2000 ++
    calling (.request evaluateSpin) 2 14 3000 ++
      calling (.request (.claimSessionReward 32 1)) 3 6 4000

theorem claimed_followed :
    (operated claimedLabels).map (fun system =>
      (system.db.proofs.map FairnessProof.status,
        system.db.rewards.map fun row => (row.playerId, row.status, row.claimedAt))) =
      some ([.revealed], [(1, .claimed, some 4000)]) := by
  decide +kernel

theorem claimed_runs : (operated claimedLabels).isSome = true := by
  obtain ⟨system, isRun, -⟩ := Option.map_eq_some_iff.mp claimed_followed
  exact Option.isSome_of_eq_some isRun

@[irreducible] def claimedSpin : PlatformSystem :=
  (operated claimedLabels).get claimed_runs

/-- The proof and the reward at the end of the run. -/
theorem claimedSpin_rows :
    claimedSpin.db.proofs.map FairnessProof.status = [.revealed] ∧
      ∃ row, claimedSpin.db.rewards = [row] ∧ row.playerId = 1 ∧ row.status = .claimed ∧
        row.claimedAt = some 4000 := by
  obtain ⟨system, isRun, facts⟩ := Option.map_eq_some_iff.mp claimed_followed
  obtain ⟨statuses, rewards⟩ := Prod.mk.inj facts
  obtain ⟨row, isRow, fields⟩ := List.map_eq_singleton_iff.mp rewards
  obtain ⟨owner, fields⟩ := Prod.mk.inj fields
  obtain ⟨status, claimedAt⟩ := Prod.mk.inj fields
  unfold claimedSpin
  rw [Option.get_of_eq_some claimed_runs isRun]
  exact ⟨statuses, row, isRow, owner, status, claimedAt⟩

theorem claimedSpin_reachable : PlatformReachable platform claimedSpin := by
  unfold claimedSpin
  exact operated_reachable (Option.some_get claimed_runs).symm

end Sample

/-- A run that ends with a claimed reward. -/
theorem evidence_conserved_claimed :
    Sample.claimedSpin.db.rewards.map Reward.claimedAt = [some 4000] ∧
      EvidenceConserved Sample.claimedSpin.db := by
  obtain ⟨-, row, isRow, -, -, claimedAt⟩ := Sample.claimedSpin_rows
  constructor
  · rw [isRow, List.map_singleton, claimedAt]
  · exact (evidence_conserved Sample.claimedSpin_reachable).1

end RngGamePlatform
