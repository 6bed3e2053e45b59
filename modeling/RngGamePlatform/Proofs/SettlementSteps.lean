/-
Module: RngGamePlatform.Proofs.SettlementSteps
Purpose: The outline of a settlement among the other calls: what it has written
  so far, that nobody else writes it, and that its commit keeps the evidence.
Trusted boundary: none
Main exports: Advances, bookkeeping, Posting, Posting.Fits, Posting.Locked,
  posted, settleLeaderboard_outlined
-/
import RngGamePlatform.Proofs.Ledger
import RngGamePlatform.Transactions.Outlines

namespace RngGamePlatform

open Encoding Relational Transactions

/-- What a commit under the locks `held` may do to the tables, the settlement and
the evidence included. -/
structure Advances (held : List Lock) (db db' : Database) : Prop where
  moves : Moves held db db'
  tierConfigs : db'.tierConfigs = db.tierConfigs
  runs : Grows Eq (fun row => forUpdate (.run row.id) ∈ held ∧
    forUpdate (.game row.gameId) ∈ held) db.runs db'.runs
  recipients : Grows Eq (fun row => forUpdate (.recipient row.id) ∈ held)
    db.recipients db'.recipients
  audits : db.audits <+: db'.audits
  analytics : db.analytics <+: db'.analytics
  claimed : ∀ row ∈ db.rewards, row.status = .claimed → row ∈ db'.rewards

/-- The contract between the calls: the tables are consistent, their evidence is
complete, and every commit moves within its locks. -/
def bookkeeping (env : Platform) : Contract Database Lock where
  conflicts := Lock.conflicts
  inv := fun db => (∃ calls, Consistent env calls db) ∧ Ledger db
  commits := Advances

variable {env : Platform} {db db' : Database} {held : List Lock}

theorem Advances.ofFrame (moves : Moves held db db') (frame : RequestFrame db db') :
    Advances held db db' where
  moves := moves
  tierConfigs := frame.tierConfigs
  runs := frame.runs ▸ .refl (fun _ => rfl) _
  recipients := frame.recipients ▸ .refl (fun _ => rfl) _
  audits := frame.audits
  analytics := frame.analytics
  claimed := frame.claimed

theorem Advances.refl (held : List Lock) (db : Database) : Advances held db db :=
  .ofFrame (.refl held db) (.refl db)

theorem others_of_rely (relied : (bookkeeping env).Rely held db db') : Others held db db' := by
  obtain ⟨held', apart, _, _, advances⟩ := relied
  exact ⟨held', apart, advances.moves⟩

/-! ### What a settlement has written -/

/-- The uncommitted rows of a settlement. -/
structure Posting where
  run : SettlementRun
  recipients : List SettlementRecipient
  rewards : List Reward
  audits : List AuditRecord
  analytics : List AnalyticsEvent

namespace Posting

variable {posting : Posting}

/-- The tables with the uncommitted rows. -/
def apply (posting : Posting) (db : Database) : Database :=
  { db with
    runs := db.runs ++ [posting.run]
    recipients := db.recipients ++ posting.recipients
    rewards := db.rewards ++ posting.rewards
    audits := db.audits ++ posting.audits
    analytics := db.analytics ++ posting.analytics }

/-- The keys of the uncommitted rows are unused. -/
structure Fits (posting : Posting) (db : Database) : Prop where
  run : lookup SettlementRun.id posting.run.id db.runs = none
  period : Database.runOf posting.run.gameId posting.run.periodStart db = none
  recipients : ∀ row ∈ posting.recipients,
    lookup SettlementRecipient.id row.id db.recipients = none
  rewards : ∀ row ∈ posting.rewards, lookup Reward.id row.id db.rewards = none
  analytics : ∀ row ∈ posting.analytics,
    lookup AnalyticsEvent.eventKey row.eventKey db.analytics = none

/-- The settlement holds its uncommitted rows, and its game. -/
structure Locked (posting : Posting) (held : List Lock) : Prop where
  run : forUpdate (.run posting.run.id) ∈ held
  game : forUpdate (.game posting.run.gameId) ∈ held
  recipients : ∀ row ∈ posting.recipients, forUpdate (.recipient row.id) ∈ held
  rewards : ∀ row ∈ posting.rewards, forUpdate (.reward row.id) ∈ held
  analytics : ∀ row ∈ posting.analytics, forUpdate (.analytics row.eventKey) ∈ held

theorem Locked.mono {fewer more : List Lock} (locked : posting.Locked fewer)
    (subset : fewer ⊆ more) : posting.Locked more where
  run := subset locked.run
  game := subset locked.game
  recipients := fun row member => subset (locked.recipients row member)
  rewards := fun row member => subset (locked.rewards row member)
  analytics := fun row member => subset (locked.analytics row member)

/-- One more recipient. -/
theorem Locked.addRecipient {held locks : List Lock} {row : SettlementRecipient}
    (locked : posting.Locked held) (mine : forUpdate (.recipient row.id) ∈ locks) :
    ({ posting with recipients := posting.recipients ++ [row] } : Posting).Locked
      (locks ++ held) :=
  { locked.mono (List.subset_append_right _ _) with
    recipients := fun other member => by
      rcases List.mem_append.mp member with old | new
      · exact List.mem_append_right _ (locked.recipients other old)
      · rw [List.mem_singleton.mp new]
        exact List.mem_append_left _ mine }

/-- One more reward. -/
theorem Locked.addReward {held : List Lock} (locked : posting.Locked held)
    (locks : List Lock) (row : Reward) (mine : forUpdate (.reward row.id) ∈ locks) :
    ({ posting with rewards := posting.rewards ++ [row] } : Posting).Locked
      (locks ++ held) :=
  { locked.mono (List.subset_append_right _ _) with
    rewards := fun other member => by
      rcases List.mem_append.mp member with old | new
      · exact List.mem_append_right _ (locked.rewards other old)
      · rw [List.mem_singleton.mp new]
        exact List.mem_append_left _ mine }

/-- More evidence. -/
theorem Locked.addEvidence {held : List Lock} {events : List AnalyticsEvent}
    (locked : posting.Locked held) (locks : List Lock) (audits : List AuditRecord)
    (mine : ∀ event ∈ events, forUpdate (.analytics event.eventKey) ∈ locks) :
    ({ posting with
        audits := posting.audits ++ audits
        analytics := posting.analytics ++ events } : Posting).Locked (locks ++ held) :=
  { locked.mono (List.subset_append_right _ _) with
    analytics := fun event member => by
      rcases List.mem_append.mp member with old | new
      · exact List.mem_append_right _ (locked.analytics event old)
      · exact List.mem_append_left _ (mine event new) }

end Posting

/-- A period without a run stays without one while its game is locked. -/
theorem runOf_rely {gameId : Uuid} {periodStart : Int}
    (mine : forUpdate (.game gameId) ∈ held)
    (free : Database.runOf gameId periodStart db = none)
    (relied : (bookkeeping env).Rely held db db') :
    Database.runOf gameId periodStart db' = none := by
  obtain ⟨held', apart, _, _, advances⟩ := relied
  rw [Database.runOf, List.find?_eq_none] at free ⊢
  intro row member isRow
  rcases advances.runs.source member with ⟨old, inOld, rfl⟩ | ⟨_, gameLocked⟩
  · exact free old inOld isRow
  · simp only [decide_eq_true_eq] at isRow
    exact not_mem_of_compatible apart mine .forUpdate (isRow.1 ▸ gameLocked)

/-- Nobody else uses the keys of the uncommitted rows. -/
theorem Posting.Fits.rely {posting : Posting} (fits : posting.Fits db)
    (locked : posting.Locked held) (relied : (bookkeeping env).Rely held db db') :
    posting.Fits db' := by
  have period := runOf_rely locked.game fits.period relied
  have others := others_of_rely relied
  obtain ⟨held', apart, _, _, advances⟩ := relied
  constructor
  case run =>
    refine advances.runs.lookup_none (fun _ _ same => by rw [same]) fits.run ?_
    intro row fresh isRow
    exact not_mem_of_compatible apart locked.run .forUpdate (isRow ▸ fresh.1)
  case period => exact period
  case recipients =>
    intro row member
    refine advances.recipients.lookup_none (fun _ _ same => by rw [same])
      (fits.recipients row member) ?_
    intro other fresh isRow
    exact not_mem_of_compatible apart (locked.recipients row member) .forUpdate
      (isRow ▸ fresh)
  case rewards =>
    intro row member
    exact others.rewardById_none (locked.rewards row member) (fits.rewards row member)
  case analytics =>
    intro row member
    exact others.analytics_none (locked.analytics row member) (fits.analytics row member)

/-! ### One statement of a settlement -/

section Statements

variable {posting posting' : Posting} {changes : Database → Database} {α ρ : Type}

/-- The changes so far look like the posting, wherever it fits. -/
def Posts (env : Platform) (changes : Database → Database) (posting : Posting) : Prop :=
  ∀ db, (bookkeeping env).inv db → posting.Fits db → changes db = posting.apply db

theorem Posting.stable (locked : posting.Locked held) :
    (bookkeeping env).Stable held posting.Fits :=
  fun _ _ fits relied => fits.rely locked relied

/-- A query of a settlement. -/
theorem posting_read {answer : Database → α} {f : α → Prog ρ}
    (locked : posting.Locked held) (posts : Posts env changes posting)
    (next : ∀ db, (bookkeeping env).inv db → posting.Fits db →
      (f (answer (posting.apply db))).Outlined (bookkeeping env) posting.Fits changes
        held) :
    (read answer >>= f).Outlined (bookkeeping env) posting.Fits changes held := by
  refine outlined_read_bind (Posting.stable locked) fun db fits inv => ?_
  rw [posts db inv fits]
  exact next db inv fits

/-- The statement adds to the posting: where it succeeds once, it succeeds wherever
the longer posting fits. -/
structure Extends (env : Platform) (change : Database → Except ServiceError Database)
    (posting posting' : Posting) : Prop where
  fits : ∀ {db state}, (bookkeeping env).inv db → posting.Fits db →
    change (posting.apply db) = .ok state → posting'.Fits db
  shorter : ∀ {db}, posting'.Fits db → posting.Fits db
  again : ∀ {db db' state}, posting.Fits db → change (posting.apply db) = .ok state →
    (bookkeeping env).inv db' → posting'.Fits db' →
    change (posting.apply db') = .ok (posting'.apply db')

/-- A changing statement of a settlement. -/
theorem posting_write {locks : List Lock}
    {change : Database → Except ServiceError Database} {f : Unit → Prog ρ}
    (posts : Posts env changes posting) (extend : Extends env change posting posting')
    (locked : posting'.Locked (locks ++ held))
    (next : ∀ db state, (bookkeeping env).inv db → posting.Fits db →
      change (posting.apply db) = .ok state → ∀ changes', Posts env changes' posting' →
      (f ()).Outlined (bookkeeping env) posting'.Fits changes' (locks ++ held)) :
    (Program.update (fun _ => locks) change >>= f).Outlined (bookkeeping env)
      posting.Fits changes held := by
  intro db state fits inv changed
  rw [posts db inv fits] at changed
  refine ⟨posting'.Fits, extend.fits inv fits changed, Posting.stable locked, ?_⟩
  apply next db state inv fits changed
  intro db' inv' fits'
  have before := posts db' inv' (extend.shorter fits')
  have changed' := extend.again fits changed inv' fits'
  show applied change (changes db') = _
  rw [before]
  exact applied_ok changed'

end Statements

/-- A recipient that does not exist has no reward. -/
theorem Ledger.unrewarded {id : Uuid} (ledger : Ledger db)
    (absent : lookup SettlementRecipient.id id db.recipients = none) :
    lookup Reward.settlementRecipientId (some id) db.rewards = none := by
  refine lookup_none.mpr fun row member isRecipient => ?_
  cases ledger.origin row member with
  | outcome _ _ noRecipient =>
      rw [noRecipient] at isRecipient
      cases isRecipient
  | recipient inRecipients _ ofRecipient =>
      rw [ofRecipient] at isRecipient
      exact lookup_none.mp absent _ inRecipients (Option.some.inj isRecipient)

/-- A run that does not exist has no recipients. -/
theorem Ledger.unawarded {id : Uuid} (ledger : Ledger db)
    (absent : lookup SettlementRun.id id db.runs = none) :
    ∀ row ∈ db.recipients, row.runId ≠ id := by
  intro row member isRun
  obtain ⟨run, inRuns, same⟩ := ledger.recipientRuns row member
  exact lookup_none.mp absent run inRuns (same.trans isRun)

section Extensions

variable {posting : Posting}

/-- A recipient is inserted. -/
theorem insertRecipient_extends {row : SettlementRecipient}
    (ofRun : row.runId = posting.run.id) :
    Extends env (Database.insertRecipient row) posting
      { posting with recipients := posting.recipients ++ [row] } where
  fits := by
    intro db state inv fits changed
    obtain ⟨⟨_, fresh, _⟩, _⟩ := Database.insertRecipient_ok.mp changed
    rw [Posting.apply, lookup_append, Option.or_eq_none_iff] at fresh
    refine { fits with recipients := fun other member => ?_ }
    rcases List.mem_append.mp member with old | new
    · exact fits.recipients other old
    · rw [List.mem_singleton.mp new]
      exact fresh.1
  shorter := fun fits =>
    { fits with recipients := fun other member =>
        fits.recipients other (List.mem_append_left _ member) }
  again := by
    intro db db' state fits changed inv' fits'
    obtain ⟨⟨columns, fresh, apart⟩, _⟩ := Database.insertRecipient_ok.mp changed
    rw [Posting.apply, lookup_append, Option.or_eq_none_iff] at fresh
    refine Database.insertRecipient_ok.mpr ⟨⟨columns, ?_, ?_⟩, ?_⟩
    · rw [Posting.apply, lookup_append, Option.or_eq_none_iff]
      exact ⟨fits'.recipients row (List.mem_append_right _ (List.mem_singleton.mpr rfl)),
        fresh.2⟩
    · intro other member isRun
      rcases List.mem_append.mp member with old | new
      · exact absurd (isRun.trans ofRun) (inv'.2.unawarded fits'.run other old)
      · exact apart other (List.mem_append_right _ new) isRun
    · simp [Posting.apply]

/-- The reward of a recipient is inserted. -/
theorem insertReward_extends {recipient : SettlementRecipient} {rewardId : Uuid}
    (member : recipient ∈ posting.recipients) :
    Extends env (Database.insertReward (recipientReward rewardId recipient)) posting
      { posting with rewards := posting.rewards ++ [recipientReward rewardId recipient] } where
  fits := by
    intro db state inv fits changed
    obtain ⟨⟨_, fresh, _⟩, _⟩ := Database.insertReward_ok.mp changed
    rw [Posting.apply, lookup_append, Option.or_eq_none_iff] at fresh
    refine { fits with rewards := fun other inRewards => ?_ }
    rcases List.mem_append.mp inRewards with old | new
    · exact fits.rewards other old
    · rw [List.mem_singleton.mp new]
      exact fresh.1
  shorter := fun fits =>
    { fits with rewards := fun other inRewards =>
        fits.rewards other (List.mem_append_left _ inRewards) }
  again := by
    intro db db' state fits changed inv' fits'
    obtain ⟨⟨column, fresh, _, ofRecipient, positive⟩, _⟩ :=
      Database.insertReward_ok.mp changed
    rw [Posting.apply, lookup_append, Option.or_eq_none_iff] at fresh
    refine Database.insertReward_ok.mpr ⟨⟨column, ?_, Or.inl rfl, Or.inr ?_, positive⟩, ?_⟩
    · rw [Posting.apply, lookup_append, Option.or_eq_none_iff]
      exact ⟨fits'.rewards _ (List.mem_append_right _ (List.mem_singleton.mpr rfl)),
        fresh.2⟩
    · have unused := ofRecipient.resolve_left nofun
      rw [Posting.apply, lookup_append, Option.or_eq_none_iff] at unused ⊢
      exact ⟨inv'.2.unrewarded (fits'.recipients recipient member), unused.2⟩
    · simp [Posting.apply]

/-- Evidence is inserted. -/
theorem insertEvidence_extends {audits : List AuditRecord} {events : List AnalyticsEvent} :
    Extends env (insertEvidence audits events) posting
      { posting with
        audits := posting.audits ++ audits
        analytics := posting.analytics ++ events } where
  fits := by
    intro db state inv fits changed
    obtain ⟨⟨fresh, _⟩, _⟩ := insertEvidence_ok.mp changed
    refine { fits with analytics := fun event member => ?_ }
    rcases List.mem_append.mp member with old | new
    · exact fits.analytics event old
    · have unused := fresh event new
      rw [Posting.apply, lookup_append, Option.or_eq_none_iff] at unused
      exact unused.1
  shorter := fun fits =>
    { fits with analytics := fun event member =>
        fits.analytics event (List.mem_append_left _ member) }
  again := by
    intro db db' state fits changed inv' fits'
    obtain ⟨⟨fresh, unique⟩, _⟩ := insertEvidence_ok.mp changed
    refine insertEvidence_ok.mpr ⟨⟨fun event member => ?_, unique⟩, ?_⟩
    · have unused := fresh event member
      rw [Posting.apply, lookup_append, Option.or_eq_none_iff] at unused ⊢
      exact ⟨fits'.analytics event (List.mem_append_right _ member), unused.2⟩
    · simp [Posting.apply]

end Extensions

/-! ### The ranks of a settlement -/

/-- A recipient and the id of its reward. -/
abbrev SettledRank := SettlementRecipient × Uuid

def SettledRank.reward (award : SettledRank) : Reward := recipientReward award.2 award.1

def settlementIssue : PyStr := py "settlement_reward_issued"

/-- What a settlement has written after some of its ranks. -/
def posted (run : SettlementRun) (gameKey : PyStr) (awards : List SettledRank) : Posting where
  run := run
  recipients := awards.map Prod.fst
  rewards := awards.map SettledRank.reward
  audits := awards.map fun award => rewardAudit award.reward settlementIssue gameKey
  analytics := awards.map fun award => rewardEvent award.reward settlementIssue gameKey

/-- The ranks that a settlement has settled. -/
structure SettledRanks (run : SettlementRun) (held : List Lock)
    (awards : List SettledRank) : Prop where
  recipientIds : Unique (fun award : SettledRank => award.1.id) awards
  rewardIds : Unique Prod.snd awards
  runs : ∀ award ∈ awards, award.1.runId = run.id
  players : ∀ award ∈ awards, Shares held (.player award.1.playerId)

theorem posted_append (run : SettlementRun) (gameKey : PyStr) (awards : List SettledRank)
    (award : SettledRank) :
    posted run gameKey (awards ++ [award]) =
      { run := run
        recipients := (posted run gameKey awards).recipients ++ [award.1]
        rewards := (posted run gameKey awards).rewards ++ [award.reward]
        audits := (posted run gameKey awards).audits ++
          [rewardAudit award.reward settlementIssue gameKey]
        analytics := (posted run gameKey awards).analytics ++
          [rewardEvent award.reward settlementIssue gameKey] } := by
  simp [posted]

theorem SettledRanks.mono {run : SettlementRun} {awards : List SettledRank}
    {more : List Lock} (settled : SettledRanks run held awards) (subset : held ⊆ more) :
    SettledRanks run more awards :=
  { settled with
    players := fun award member => by
      obtain ⟨mode, inHeld⟩ := settled.players award member
      exact ⟨mode, subset inHeld⟩ }

/-- One more rank, with a new recipient and a new reward. -/
theorem SettledRanks.append {run : SettlementRun} {awards : List SettledRank}
    {award : SettledRank} {more : List Lock} (settled : SettledRanks run held awards)
    (subset : held ⊆ more) (ofRun : award.1.runId = run.id)
    (newRecipient : ∀ old ∈ awards, old.1.id ≠ award.1.id)
    (newReward : ∀ old ∈ awards, old.2 ≠ award.2)
    (player : Shares more (.player award.1.playerId)) :
    SettledRanks run more (awards ++ [award]) where
  recipientIds := settled.recipientIds.append newRecipient
  rewardIds := settled.rewardIds.append newReward
  runs := fun other member => by
    rcases List.mem_append.mp member with old | new
    · exact settled.runs other old
    · rw [List.mem_singleton.mp new]
      exact ofRun
  players := fun other member => by
    rcases List.mem_append.mp member with old | new
    · obtain ⟨mode, inHeld⟩ := settled.players other old
      exact ⟨mode, subset inHeld⟩
    · rw [List.mem_singleton.mp new]
      exact player

section Ranks

variable {run : SettlementRun} {gameKey : PyStr} {awards : List SettledRank}
  {changes : Database → Database} {ρ : Type}

/-- The reward of a recipient that has been inserted just now. -/
theorem issueReward_outlined {row : SettlementRecipient} {rewardId : Uuid}
    {k : Unit → Prog ρ} {posting : Posting}
    (isPosting : posting = { posted run gameKey awards with
      recipients := (posted run gameKey awards).recipients ++ [row] })
    (settled : SettledRanks run held awards) (ofRun : row.runId = run.id)
    (newRecipient : ∀ old ∈ awards, old.1.id ≠ row.id) (locked : posting.Locked held)
    (posts : Posts env changes posting)
    (next : ∀ changes' held', SettledRanks run held' (awards ++ [(row, rewardId)]) →
      (posted run gameKey (awards ++ [(row, rewardId)])).Locked held' →
      Posts env changes' (posted run gameKey (awards ++ [(row, rewardId)])) →
      (k ()).Outlined (bookkeeping env)
        (posted run gameKey (awards ++ [(row, rewardId)])).Fits changes' held') :
    (issueReward row gameKey rewardId >>= k).Outlined (bookkeeping env) posting.Fits
      changes held := by
  have inPosting : row ∈ posting.recipients := by
    rw [isPosting]
    exact List.mem_append_right _ (List.mem_singleton.mpr rfl)
  have rewards : posting.rewards = awards.map SettledRank.reward := by
    rw [isPosting]
    rfl
  unfold issueReward
  rw [bind_assoc]
  refine posting_read locked posts fun db inv fits => ?_
  -- the recipient is new, and so is its reward
  have unused : lookup Reward.settlementRecipientId (some row.id)
      (posting.apply db).rewards = none := by
    rw [Posting.apply, lookup_append, Option.or_eq_none_iff, rewards]
    refine ⟨inv.2.unrewarded (fits.recipients row inPosting), lookup_none.mpr ?_⟩
    intro reward member isRecipient
    obtain ⟨award, inAwards, rfl⟩ := List.mem_map.mp member
    exact newRecipient award inAwards (Option.some.inj isRecipient)
  rw [unused]
  simp only [addSettlementReward, bind_assoc]
  have lockedReward := locked.addReward
    [forUpdate (.reward rewardId), forKeyShare (.recipient row.id)]
    (recipientReward rewardId row) List.mem_cons_self
  refine posting_write posts (insertReward_extends inPosting) lockedReward ?_
  intro db state inv fits changed changes' posts'
  obtain ⟨⟨_, fresh, _⟩, _⟩ := Database.insertReward_ok.mp changed
  rw [Posting.apply, lookup_append, Option.or_eq_none_iff, rewards] at fresh
  have newReward : ∀ old ∈ awards, old.2 ≠ rewardId := fun old member =>
    lookup_none.mp fresh.2 _ (List.mem_map_of_mem member)
  simp only [Program.pure_eq, Program.ret_bind]
  have whole : ({ posting with
      rewards := posting.rewards ++ [recipientReward rewardId row]
      audits := posting.audits ++
        [rewardAudit (recipientReward rewardId row) settlementIssue gameKey]
      analytics := posting.analytics ++
        [rewardEvent (recipientReward rewardId row) settlementIssue gameKey] } : Posting) =
      posted run gameKey (awards ++ [(row, rewardId)]) := by
    rw [posted_append, isPosting]
    rfl
  have subset : ∀ first second : List Lock, held ⊆ first ++ (second ++ held) :=
    fun _ _ => List.Subset.trans (List.subset_append_right _ _) (List.subset_append_right _ _)
  have player : Shares
      (analyticsLocks (rewardEvent (recipientReward rewardId row) settlementIssue gameKey) ++
        ([forUpdate (.reward rewardId), forKeyShare (.recipient row.id)] ++ held))
      (.player row.playerId) :=
    ⟨.forKeyShare, List.mem_append_left _ (List.mem_cons_of_mem _ List.mem_cons_self)⟩
  have lockedEvidence := lockedReward.addEvidence
    (analyticsLocks (rewardEvent (recipientReward rewardId row) settlementIssue gameKey))
    [rewardAudit (recipientReward rewardId row) settlementIssue gameKey]
    fun event member => List.mem_singleton.mp member ▸ List.mem_cons_self
  refine posting_write posts' insertEvidence_extends lockedEvidence ?_
  intro db state inv fits changed changes'' posts''
  have following := next changes'' _
    (settled.append (subset _ _) ofRun newRecipient newReward player) (whole ▸ lockedEvidence)
    (whole ▸ posts'')
  rw [← whole] at following
  exact following

/-- A recipient of an earlier rank has its reward. -/
theorem issueReward_again {recipient : SettlementRecipient} {rewardId : Uuid}
    {k : Unit → Prog ρ} (member : recipient ∈ awards.map Prod.fst)
    (locked : (posted run gameKey awards).Locked held)
    (posts : Posts env changes (posted run gameKey awards))
    (next : (k ()).Outlined (bookkeeping env) (posted run gameKey awards).Fits changes
      held) :
    (issueReward recipient gameKey rewardId >>= k).Outlined (bookkeeping env)
      (posted run gameKey awards).Fits changes held := by
  unfold issueReward
  rw [bind_assoc]
  refine posting_read locked posts fun db inv fits => ?_
  obtain ⟨award, inAwards, rfl⟩ := List.mem_map.mp member
  have isReward : SettledRank.reward award ∈ ((posted run gameKey awards).apply db).rewards :=
    List.mem_append_right _ (List.mem_map_of_mem inAwards)
  cases found : lookup Reward.settlementRecipientId (some award.1.id)
      ((posted run gameKey awards).apply db).rewards with
  | none => exact absurd rfl (lookup_none.mp found _ isReward)
  | some reward => exact next

/-- The ranks of a settlement, one after the other. -/
theorem settleRanks_outlined {tiers : List Json} {draw : SettlementDraw}
    {k : Unit → Prog ρ}
    (next : ∀ awards changes held, SettledRanks run held awards →
      (posted run gameKey awards).Locked held →
      Posts env changes (posted run gameKey awards) →
      (k ()).Outlined (bookkeeping env) (posted run gameKey awards).Fits changes held)
    (scores : List (FinalScore × Nat)) (awards : List SettledRank)
    (changes : Database → Database) (held : List Lock)
    (settled : SettledRanks run held awards)
    (locked : (posted run gameKey awards).Locked held)
    (posts : Posts env changes (posted run gameKey awards)) :
    (settleRanks run tiers gameKey draw scores (awards.map Prod.fst) >>= k).Outlined
      (bookkeeping env) (posted run gameKey awards).Fits changes held := by
  induction scores generalizing awards changes held with
  | nil => exact next awards changes held settled locked posts
  | cons score scores ih =>
      obtain ⟨score, rank⟩ := score
      simp only [settleRanks]
      cases tiers.find? (coversRank rank) with
      | none => exact ih awards changes held settled locked posts
      | some tier =>
          simp only [bind_assoc]
          refine outlined_ofExcept_bind fun award _ => ?_
          obtain ⟨key, value⟩ := award
          simp only [findOrAddRecipient]
          cases found : recipientByScore
              (newRecipient run score rank key value (draw.recipientId rank)).scoreId
              (awards.map Prod.fst) with
          | some recipient =>
              have member : recipient ∈ awards.map Prod.fst :=
                List.mem_reverse.mp (List.mem_of_find?_eq_some found)
              exact issueReward_again member locked posts
                (ih awards changes held settled locked posts)
          | none =>
              simp only [bind_assoc, Program.pure_eq, Program.ret_bind]
              refine posting_write posts (insertRecipient_extends rfl)
                (locked.addRecipient List.mem_cons_self) ?_
              intro db state inv fits changed changes' posts'
              obtain ⟨⟨_, fresh, _⟩, _⟩ := Database.insertRecipient_ok.mp changed
              rw [Posting.apply, lookup_append, Option.or_eq_none_iff] at fresh
              refine issueReward_outlined rfl
                (settled.mono (List.subset_append_right _ _)) rfl ?_
                (locked.addRecipient List.mem_cons_self) posts' ?_
              · intro old member
                exact lookup_none.mp fresh.2 _ (List.mem_map_of_mem member)
              · intro changes'' held'' settled' locked' posts''
                have following := ih _ changes'' held'' settled' locked' posts''
                rw [List.map_append] at following
                exact following

end Ranks

/-! ### The commit of a settlement -/

section Closing

variable {run : SettlementRun} {gameKey : PyStr} {awards : List SettledRank}
  {record : AuditRecord}

/-- What a settlement writes in all: its ranks, and the record of its run. -/
def settledPosting (run : SettlementRun) (gameKey : PyStr) (awards : List SettledRank)
    (record : AuditRecord) : Posting :=
  { posted run gameKey awards with
    audits := (posted run gameKey awards).audits ++ [record] }

theorem SettledRank.reward_new (award : SettledRank) : award.reward.New := ⟨rfl, rfl⟩

theorem SettledRank.issueType (award : SettledRank) :
    issueType award.reward = settlementIssue := rfl

/-- The rewards of a settlement are not claimed yet. -/
theorem noneClaimed (awards : List SettledRank) :
    (awards.map SettledRank.reward).filter Reward.isClaimed = [] := by
  refine List.filter_eq_nil_iff.mpr fun reward member => ?_
  obtain ⟨award, _, rfl⟩ := List.mem_map.mp member
  simp [award.reward_new.notClaimed]

theorem SettledRanks.uniqueRewards (settled : SettledRanks run held awards) :
    Unique Reward.id (awards.map SettledRank.reward) :=
  List.pairwise_map.mpr settled.rewardIds

theorem SettledRanks.uniqueRecipients (settled : SettledRanks run held awards) :
    Unique SettlementRecipient.id (awards.map Prod.fst) :=
  List.pairwise_map.mpr settled.recipientIds

/-- A settlement's rewards are told apart by their recipients. -/
theorem SettledRanks.rewardRecipients (settled : SettledRanks run held awards)
    {one other : Reward} (inOne : one ∈ awards.map SettledRank.reward)
    (inOther : other ∈ awards.map SettledRank.reward)
    (same : one.settlementRecipientId = other.settlementRecipientId) : one = other := by
  obtain ⟨first, inFirst, rfl⟩ := List.mem_map.mp inOne
  obtain ⟨second, inSecond, rfl⟩ := List.mem_map.mp inOther
  rw [Relational.Unique.eq settled.recipientIds inFirst inSecond (Option.some.inj same)]

/-- The commit of a settlement keeps the ledger. -/
theorem Ledger.settled (ledger : Ledger db) (isCompleted : run.status = .completed)
    (isRecord : record.entry = runEntry run) (settled : SettledRanks run held awards)
    (fits : (settledPosting run gameKey awards record).Fits db) :
    Ledger ((settledPosting run gameKey awards record).apply db) := by
  have freshRecipient : ∀ award ∈ awards,
      lookup SettlementRecipient.id award.1.id db.recipients = none :=
    fun award member => fits.recipients _ (List.mem_map_of_mem member)
  constructor
  case audits =>
    refine List.perm_iff_count.mpr fun entry => ?_
    have before := List.perm_iff_count.mp ledger.audits entry
    simp only [settledPosting, posted, Posting.apply, expectedEntries_count, claimedRewards,
      List.filter_append, noneClaimed, List.append_nil, List.map_append, List.map_cons,
      List.map_nil, List.map_map, Function.comp_def, rewardAudit_entry,
      SettledRank.issueType, isRecord, List.count_append] at before ⊢
    omega
  case notices =>
    refine List.perm_iff_count.mpr fun notice => ?_
    have before := List.perm_iff_count.mp ledger.notices notice
    simp only [settledPosting, posted, Posting.apply, expectedNotices_count, claimedRewards,
      List.filter_append, noneClaimed, List.append_nil, List.map_append, List.map_map,
      Function.comp_def, rewardEvent_notice, SettledRank.issueType,
      List.count_append] at before ⊢
    omega
  case claimed =>
    intro row member
    rcases List.mem_append.mp member with old | new
    · exact ledger.claimed row old
    · obtain ⟨award, _, rfl⟩ := List.mem_map.mp new
      exact award.reward_new.claimed_iff
  case origin =>
    intro row member
    rcases List.mem_append.mp member with old | new
    · exact (ledger.origin row old).grows (fun _ inOutcomes => inOutcomes)
        (List.subset_append_left _ _)
    · obtain ⟨award, inAwards, rfl⟩ := List.mem_map.mp new
      exact .recipient (List.mem_append_right _ (List.mem_map_of_mem inAwards)) rfl rfl rfl
        rfl
  case rewardRecipients =>
    -- an old reward does not belong to a new recipient
    have apart : ∀ old ∈ db.rewards, ∀ new ∈ awards.map SettledRank.reward,
        old.settlementRecipientId ≠ new.settlementRecipientId := by
      intro old inOld new inNew
      obtain ⟨award, inAwards, rfl⟩ := List.mem_map.mp inNew
      exact lookup_none.mp (ledger.unrewarded (freshRecipient award inAwards)) old inOld
    intro one inOne other inOther isSome same
    rcases List.mem_append.mp inOne with oldOne | newOne
    · rcases List.mem_append.mp inOther with oldOther | newOther
      · exact ledger.rewardRecipients one oldOne other oldOther isSome same
      · exact absurd same (apart one oldOne other newOther)
    · rcases List.mem_append.mp inOther with oldOther | newOther
      · exact absurd same.symm (apart other oldOther one newOne)
      · exact settled.rewardRecipients newOne newOther same
  case awarded =>
    intro recipient member
    rcases List.mem_append.mp member with old | new
    · obtain ⟨row, inRewards, isRecipient⟩ := ledger.awarded recipient old
      exact ⟨row, List.mem_append_left _ inRewards, isRecipient⟩
    · obtain ⟨award, inAwards, rfl⟩ := List.mem_map.mp new
      exact ⟨SettledRank.reward award,
        List.mem_append_right _ (List.mem_map_of_mem inAwards), rfl⟩
  case recipientIds =>
    exact ledger.recipientIds.appendAll settled.uniqueRecipients fits.recipients
  case recipientRuns =>
    intro recipient member
    rcases List.mem_append.mp member with old | new
    · obtain ⟨row, inRuns, same⟩ := ledger.recipientRuns recipient old
      exact ⟨row, List.mem_append_left _ inRuns, same⟩
    · obtain ⟨award, inAwards, rfl⟩ := List.mem_map.mp new
      exact ⟨run, List.mem_append_right _ (List.mem_singleton.mpr rfl),
        (settled.runs award inAwards).symm⟩
  case runIds => exact ledger.runIds.append (lookup_none.mp fits.run)
  case completedRuns =>
    intro row member
    rcases List.mem_append.mp member with old | new
    · exact ledger.completedRuns row old
    · rw [List.mem_singleton.mp new]
      exact isCompleted
  case scoreIds => exact ledger.scoreIds

/-- The moves that the locks of a settlement allow it. -/
theorem settled_advances (locked : (settledPosting run gameKey awards record).Locked held)
    (settled : SettledRanks run held awards) (db : Database) :
    Advances held db ((settledPosting run gameKey awards record).apply db) where
  moves :=
    { Moves.refl held db with
      rewards := ⟨db.rewards, _, rfl, List.forall₂_same.mpr fun row _ => .refl held row,
        fun row member => by
          obtain ⟨award, inAwards, rfl⟩ := List.mem_map.mp member
          exact ⟨locked.rewards _ member, settled.players award inAwards, nofun⟩⟩
      analytics := ⟨db.analytics, _, rfl, List.forall₂_same.mpr fun _ _ => rfl,
        locked.analytics⟩ }
  tierConfigs := rfl
  runs := .append (fun _ => rfl) ⟨locked.run, locked.game⟩
  recipients := ⟨db.recipients, _, rfl, List.forall₂_same.mpr fun _ _ => rfl,
    locked.recipients⟩
  audits := List.prefix_append _ _
  analytics := List.prefix_append _ _
  claimed := fun _ member _ => List.mem_append_left _ member

/-- The commit of a settlement keeps the invariant of the rounds. -/
theorem Consistent.settled {calls : List Call} (consistent : Consistent env calls db)
    (locked : (settledPosting run gameKey awards record).Locked held)
    (settled : SettledRanks run held awards)
    (fits : (settledPosting run gameKey awards record).Fits db) :
    Consistent env calls ((settledPosting run gameKey awards record).apply db) where
  keys :=
    { consistent.keys with
      rewardIds := consistent.keys.rewardIds.appendAll settled.uniqueRewards fits.rewards
      rewardOutcomes := by
        have noOutcome : ∀ row ∈ awards.map SettledRank.reward, row.outcomeId = none := by
          intro row member
          obtain ⟨award, _, rfl⟩ := List.mem_map.mp member
          rfl
        intro one inOne other inOther isSome same
        rcases List.mem_append.mp inOne with oldOne | newOne
        · rcases List.mem_append.mp inOther with oldOther | newOther
          · exact consistent.keys.rewardOutcomes one oldOne other oldOther isSome same
          · exact absurd (same.trans (noOutcome other newOther)) isSome
        · exact absurd (noOutcome one newOne) isSome }
  rounds :=
    { consistent.rounds with
      rewardOf := fun outcome member => by
        obtain ⟨reward, found, owner⟩ := consistent.rounds.rewardOf outcome member
        refine ⟨reward, ?_, owner⟩
        rw [rewardByOutcome] at found ⊢
        rw [Posting.apply, lookup_append, found]
        rfl }
  created := consistent.created
  proofs := fun proof member =>
    (consistent.proofs proof member).frame (settled_advances locked settled db).moves
      (.same rfl rfl rfl)

end Closing

/-! ### The whole settlement -/

section Settlement

variable {run : SettlementRun} {gameKey : PyStr} {awards : List SettledRank}
  {changes : Database → Database} {periodStart periodEnd now : Int}

/-- A completed run in the place of the processed one. -/
theorem updateRun_extends :
    Extends env (Database.updateRun (completedRun run now)) (posted run gameKey awards)
      (posted (completedRun run now) gameKey awards) where
  fits := fun _ fits _ => ⟨fits.run, fits.period, fits.recipients, fits.rewards,
    fits.analytics⟩
  shorter := fun fits => ⟨fits.run, fits.period, fits.recipients, fits.rewards,
    fits.analytics⟩
  again := by
    intro db db' state fits changed inv' fits'
    obtain ⟨inTime, _⟩ := Database.updateRun_ok.mp changed
    refine Database.updateRun_ok.mpr ⟨inTime, ?_⟩
    have written : replace SettlementRun.id (completedRun run now) (db'.runs ++ [run]) =
        db'.runs ++ [completedRun run now] := by
      have kept : replace SettlementRun.id (completedRun run now) db'.runs = db'.runs :=
        replace_absent fits'.run
      rw [Relational.replace, List.map_append, ← Relational.replace, kept]
      simp [completedRun]
    simp only [Posting.apply, posted, written]

theorem completeRun_outlined (settled : SettledRanks run held awards)
    (locked : (posted run gameKey awards).Locked held)
    (posts : Posts env changes (posted run gameKey awards)) :
    (completeRun run gameKey periodStart periodEnd now).Outlined (bookkeeping env)
      (posted run gameKey awards).Fits changes held := by
  unfold completeRun saveSettlementRun
  have lockedRun : (posted (completedRun run now) gameKey awards).Locked
      ([forNoKeyUpdate (.run (completedRun run now).id)] ++ held) :=
    locked.mono (List.subset_append_right _ _) |> fun more =>
      ⟨more.run, more.game, more.recipients, more.rewards, more.analytics⟩
  refine posting_write posts updateRun_extends lockedRun ?_
  intro db state inv fits changed changes' posts'
  refine posting_read lockedRun posts' fun db inv fits => ?_
  generalize recipientsOf _ _ = recipients
  refine posting_write posts' insertEvidence_extends
    (lockedRun.addEvidence [] _ fun _ inNone => absurd inNone List.not_mem_nil) ?_
  intro db state inv fits changed changes'' posts'' db' fits' inv'
  have allSettled := settled.mono (List.subset_append_right
    [forNoKeyUpdate (.run (completedRun run now).id)] held)
  have lockedAll := lockedRun.addEvidence []
    [settledAudit (completedRun run now) gameKey periodStart periodEnd recipients.length]
    fun _ inNone => absurd inNone List.not_mem_nil
  simp only [List.append_nil] at posts'' fits' lockedAll
  rw [posts'' db' inv' fits']
  obtain ⟨⟨calls, consistent⟩, ledger⟩ := inv'
  have settledAll : SettledRanks (completedRun run now)
      ([] ++ ([forNoKeyUpdate (.run (completedRun run now).id)] ++ held)) awards :=
    { allSettled with runs := allSettled.runs }
  exact ⟨⟨⟨⟨calls, consistent.settled lockedAll settledAll fits'⟩,
    ledger.settled rfl (settledAudit_entry _ _ _ _ _) settledAll fits'⟩,
    settled_advances lockedAll settledAll db'⟩, trivial⟩

/-- A new run is settled. -/
theorem settleNew_outlined {game : Game} {draw : SettlementDraw}
    (mine : forUpdate (.game game.id) ∈ held) :
    (settlePeriod none game periodStart now draw).Outlined (bookkeeping env)
      (fun db => Database.runOf game.id periodStart db = none) id held := by
  have stable : (bookkeeping env).Stable held
      fun db => Database.runOf game.id periodStart db = none :=
    fun _ _ free relied => runOf_rely mine free relied
  unfold settlePeriod openRun
  simp only [bind_assoc]
  refine outlined_read_bind stable fun db free inv => ?_
  refine outlined_orRaise_bind fun config _ => ?_
  refine outlined_ofExcept_bind fun tiers _ => ?_
  simp only [addSettlementRun, Program.pure_eq, Program.ret_bind]
  generalize isRun : newRun game.id periodStart (periodStart + days 7) config draw.runId = run
  intro db state free inv changed
  obtain ⟨⟨fresh, period, inTime⟩, _⟩ := Database.insertRun_ok.mp changed
  have fits : (posted run game.key []).Fits db :=
    ⟨fresh, period, nofun, nofun, nofun⟩
  have locked : (posted run game.key []).Locked ([forUpdate (.run run.id)] ++ held) := by
    refine ⟨List.mem_cons_self, List.mem_cons_of_mem _ ?_, nofun, nofun, nofun⟩
    rw [← isRun]
    exact mine
  have posts : Posts env (fun state => applied (Database.insertRun run) (id state))
      (posted run game.key []) := by
    intro db' _ fits'
    have again : Database.insertRun run db' = .ok ((posted run game.key []).apply db') :=
      Database.insertRun_ok.mpr ⟨⟨fits'.run, fits'.period, inTime⟩, by
        simp [Posting.apply, posted]⟩
    exact applied_ok again
  refine ⟨(posted run game.key []).Fits, fits, Posting.stable locked, ?_⟩
  refine posting_read locked posts fun db inv fits => ?_
  generalize listSettlementScores _ _ _ = scores
  refine posting_read locked posts fun db inv fits => ?_
  -- a run that did not exist has no recipients
  have noRecipients : recipientsOf run.id ((posted run game.key []).apply db) = [] := by
    have none : (((posted run game.key []).apply db).recipients.filter
        fun row => row.runId = run.id) = [] := by
      refine List.filter_eq_nil_iff.mpr fun row member => ?_
      simp only [Posting.apply, posted, List.map_nil, List.append_nil] at member
      have other : row.runId ≠ run.id := inv.2.unawarded fits.run row member
      simpa using other
    rw [recipientsOf, none]
    rfl
  rw [noRecipients]
  refine settleRanks_outlined ?_ _ [] _ _ ⟨.nil, .nil, nofun, nofun⟩ locked posts
  intro awards changes held settled locked posts
  exact completeRun_outlined settled locked posts

theorem outlined_byRules_bind {C : Contract Database Lock} {here : Database → Prop}
    {α ρ : Type} {translated : ServiceError} {outcome : Except RulesError α} {f : α → Prog ρ}
    (next : ∀ value, outcome = .ok value → (f value).Outlined C here changes held) :
    (byRules translated outcome >>= f).Outlined C here changes held := by
  cases outcome with
  | error error => trivial
  | ok value => exact next value rfl

/-- A settlement that finds a run returns it: a committed run is a completed one. -/
theorem settleAgain_outlined {game : Game} {draw : SettlementDraw}
    (isCompleted : run.status = .completed) :
    (settleOnce (some run) game periodStart draw).Outlined (bookkeeping env)
      (fun _ => True) id held := by
  have found : (some run).filter SettlementRun.isCompleted = some run := by
    simp [SettlementRun.isCompleted, isCompleted]
  unfold settleOnce
  rw [found]
  refine outlined_read_bind (fun _ _ _ _ => trivial) fun db _ inv => ?_
  intro db' _ inv'
  exact ⟨⟨inv', Advances.refl held db'⟩, trivial⟩

/-- The settlement of a game whose row exists. -/
theorem settleGame_outlined {game : Game} {draw : SettlementDraw} {games : List Game}
    (member : game ∈ games) :
    (lockGameById game.id >>= fun _ => settlementRun game.id periodStart >>= fun existing =>
      settleOnce existing game periodStart draw).Outlined (bookkeeping env)
      (fun db => db.games = games) id held := by
  refine outlined_query_bind fun db isGames inv => ?_
  refine ⟨fun _ => True, trivial, fun _ _ _ _ => trivial, ?_⟩
  obtain ⟨row, foundRow⟩ : ∃ row, gameById game.id db = some row :=
    lookup_isSome.mpr ⟨game, isGames.symm ▸ member, rfl⟩
  have isRow : row.id = game.id := lookup_key foundRow
  have locks : ((gameById game.id (id db)).toList.map fun row =>
      forUpdate (.game row.id)) ++ held = forUpdate (.game game.id) :: held := by
    show ((gameById game.id db).toList.map _) ++ held = _
    rw [foundRow]
    simp [isRow]
  rw [locks]
  intro db' _ inv'
  show ∃ there : Database → Prop, there db' ∧ _ ∧ _
  cases existing : Database.runOf game.id periodStart db' with
  | none =>
      refine ⟨fun db => Database.runOf game.id periodStart db = none, existing,
        fun _ _ free relied => runOf_rely List.mem_cons_self free relied, ?_⟩
      show (settleOnce (Database.runOf game.id periodStart db') game periodStart
        draw).Outlined _ _ _ _
      rw [existing]
      refine outlined_clock_bind fun now => outlined_require_bind fun _ => ?_
      exact settleNew_outlined List.mem_cons_self
  | some run =>
      refine ⟨fun _ => True, trivial, fun _ _ _ _ => trivial, ?_⟩
      show (settleOnce (Database.runOf game.id periodStart db') game periodStart
        draw).Outlined _ _ _ _
      rw [existing]
      exact settleAgain_outlined (inv'.2.completedRuns run (List.mem_of_find?_eq_some existing))

/-- A settlement keeps its outline, whatever the other calls commit. -/
theorem settleLeaderboard_outlined (gameKey : PyStr) (periodStart : Int)
    (authorized : Bool) (draw : SettlementDraw) :
    (settleLeaderboard gameKey periodStart authorized draw).Outlined (bookkeeping env)
      (fun _ => True) id [] := by
  unfold settleLeaderboard
  refine outlined_require_bind fun _ => outlined_require_bind fun _ => ?_
  unfold eligibleSettlementGame eligibleLeaderboardGame
  simp only [bind_assoc]
  refine outlined_query_bind fun db _ inv => ?_
  -- the games do not change, so that the row of the one found can be locked
  refine ⟨fun db' => db'.games = db.games, rfl, fun _ _ same relied =>
    (others_of_rely relied).games.trans same, ?_⟩
  refine outlined_orRaise_bind fun game found => ?_
  refine outlined_require_bind fun _ => ?_
  refine outlined_byRules_bind fun _ _ => ?_
  simp only [Program.pure_eq, Program.ret_bind]
  refine outlined_byRules_bind fun _ _ => ?_
  exact settleGame_outlined (lookup_mem found)

end Settlement

end RngGamePlatform
