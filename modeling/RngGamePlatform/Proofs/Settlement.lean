/-
Module: RngGamePlatform.Proofs.Settlement
Purpose: A settlement ends with the awards of the standings, whatever part of
  them an interrupted one has left behind.
Trusted boundary: none
Main exports: SettlementTables, Settling, Issued, settleRanks_ends, Resumable,
  FreshDraw, Settled, settlement_resumes
-/
import RngGamePlatform.Encoding.Readable
import RngGamePlatform.Proofs.Standings
import RngGamePlatform.Proofs.Statements
import RngGamePlatform.Transactions.Alone

namespace RngGamePlatform

open Encoding Relational Transactions

section Loop

/-- What the constraints of the recipient and reward tables promise. -/
structure SettlementTables (db : Database) : Prop where
  recipientIds : Relational.Unique SettlementRecipient.id db.recipients
  recipientRanks : db.recipients.Pairwise fun one other =>
    one.runId = other.runId → one.rank ≠ other.rank
  rewardRecipients : db.rewards.Pairwise fun one other =>
    one.settlementRecipientId = none ∨
      one.settlementRecipientId ≠ other.settlementRecipientId
  rewardOwners : ∀ reward ∈ db.rewards, ∀ id, reward.settlementRecipientId = some id →
    ∃ row ∈ db.recipients, row.id = id

/-- The recipients and rewards of a run are part of the awards. -/
structure Settling (runId : Uuid) (tiers : List Tier) (best : List FinalScore)
    (view : Database) (known : List SettlementRecipient) : Prop where
  tables : SettlementTables view
  members : ∀ row, row ∈ known ↔ row ∈ view.recipients ∧ row.runId = runId
  awarded : ∀ row ∈ known, row.award ∈ awards tiers best
  rewarded : ∀ row ∈ known, ∀ reward ∈ view.rewards,
    reward.settlementRecipientId = some row.id →
      reward.playerId = row.playerId ∧ reward.value = row.rewardValue

/-- The changes of a settlement: rows are only added, recipients only to its run. -/
structure Issued (runId : Uuid) (before after : Database) : Prop where
  others : after = { before with
    recipients := after.recipients
    rewards := after.rewards
    audits := after.audits
    analytics := after.analytics }
  recipients : ∃ news, after.recipients = before.recipients ++ news ∧
    ∀ row ∈ news, row.runId = runId
  rewards : ∃ news, after.rewards = before.rewards ++ news ∧
    ∀ reward ∈ news, ∃ row ∈ after.recipients, row.runId = runId ∧
      reward.settlementRecipientId = some row.id
  audits : before.audits <+: after.audits
  analytics : before.analytics <+: after.analytics

theorem Issued.refl (runId : Uuid) (db : Database) : Issued runId db db where
  others := rfl
  recipients := ⟨[], (List.append_nil _).symm, nofun⟩
  rewards := ⟨[], (List.append_nil _).symm, nofun⟩
  audits := List.prefix_refl _
  analytics := List.prefix_refl _

theorem Issued.trans {runId : Uuid} {before between after : Database}
    (first : Issued runId before between) (second : Issued runId between after) :
    Issued runId before after where
  others := by
    rw [second.others, first.others]
  recipients := by
    obtain ⟨news, added, own⟩ := first.recipients
    obtain ⟨news', added', own'⟩ := second.recipients
    refine ⟨news ++ news', by rw [added', added, List.append_assoc], ?_⟩
    intro row member
    rcases List.mem_append.mp member with inFirst | inSecond
    · exact own row inFirst
    · exact own' row inSecond
  rewards := by
    obtain ⟨news, added, own⟩ := first.rewards
    obtain ⟨news', added', own'⟩ := second.rewards
    obtain ⟨more, grown, _⟩ := second.recipients
    refine ⟨news ++ news', by rw [added', added, List.append_assoc], ?_⟩
    intro reward member
    rcases List.mem_append.mp member with inFirst | inSecond
    · obtain ⟨row, inTable, isRun, owns⟩ := own reward inFirst
      exact ⟨row, grown ▸ List.mem_append_left _ inTable, isRun, owns⟩
    · exact own' reward inSecond
  audits := first.audits.trans second.audits
  analytics := first.analytics.trans second.analytics

/-- The key of the event of a settlement reward. -/
abbrev rewardKey (rewardId : Uuid) : PyStr :=
  py "settlement_reward_issued" ++ py ":" ++ uuidStr rewardId

/-- The ids that the ranks to be settled draw are unused and apart. -/
structure Drawable (draw : SettlementDraw) (pending : List (FinalScore × Nat))
    (view : Database) : Prop where
  recipients : ∀ ranked ∈ pending, ∀ row ∈ view.recipients,
    row.id ≠ draw.recipientId ranked.2
  rewards : ∀ ranked ∈ pending, ∀ row ∈ view.rewards, row.id ≠ draw.rewardId ranked.2
  keys : ∀ ranked ∈ pending, ∀ event ∈ view.analytics,
    event.eventKey ≠ rewardKey (draw.rewardId ranked.2)
  recipientsApart : pending.Pairwise fun one other =>
    draw.recipientId one.2 ≠ draw.recipientId other.2
  rewardsApart : pending.Pairwise fun one other =>
    draw.rewardId one.2 ≠ draw.rewardId other.2

/-- A rank without an award draws nothing. -/
theorem Drawable.tail {draw : SettlementDraw} {ranked : FinalScore × Nat}
    {pending : List (FinalScore × Nat)} {view : Database}
    (drawable : Drawable draw (ranked :: pending) view) : Drawable draw pending view where
  recipients := (List.forall_mem_cons.mp drawable.recipients).2
  rewards := (List.forall_mem_cons.mp drawable.rewards).2
  keys := (List.forall_mem_cons.mp drawable.keys).2
  recipientsApart := (List.pairwise_cons.mp drawable.recipientsApart).2
  rewardsApart := (List.pairwise_cons.mp drawable.rewardsApart).2

/-- After the rows of one rank the others still have their ids. -/
theorem Drawable.next {draw : SettlementDraw} {ranked : FinalScore × Nat}
    {pending : List (FinalScore × Nat)} {view view' : Database}
    (drawable : Drawable draw (ranked :: pending) view)
    (recipients : ∀ row ∈ view'.recipients,
      row ∈ view.recipients ∨ row.id = draw.recipientId ranked.2)
    (rewards : ∀ row ∈ view'.rewards,
      row ∈ view.rewards ∨ row.id = draw.rewardId ranked.2)
    (keys : ∀ event ∈ view'.analytics,
      event ∈ view.analytics ∨ event.eventKey = rewardKey (draw.rewardId ranked.2)) :
    Drawable draw pending view' where
  recipients := fun other member row inTable => by
    rcases recipients row inTable with before | isNew
    · exact drawable.tail.recipients other member row before
    · rw [isNew]
      exact (List.pairwise_cons.mp drawable.recipientsApart).1 other member
  rewards := fun other member row inTable => by
    rcases rewards row inTable with before | isNew
    · exact drawable.tail.rewards other member row before
    · rw [isNew]
      exact (List.pairwise_cons.mp drawable.rewardsApart).1 other member
  keys := fun other member event inTable => by
    rcases keys event inTable with before | isNew
    · exact drawable.tail.keys other member event before
    · rw [isNew]
      intro same
      have sameId := uuidStr_injective (List.append_cancel_left same)
      exact (List.pairwise_cons.mp drawable.rewardsApart).1 other member sameId
  recipientsApart := drawable.tail.recipientsApart
  rewardsApart := drawable.tail.rewardsApart

/-- The award has its recipient, and the recipient its reward. -/
def HasReward (view : Database) (known : List SettlementRecipient) (award : Award) :
    Prop :=
  ∃ row ∈ known, row.award = award ∧
    ∃ reward ∈ view.rewards, reward.settlementRecipientId = some row.id

variable {runId : Uuid} {tiers : List Tier} {scores best : List FinalScore}
  {view : Database} {known : List SettlementRecipient} {draw : SettlementDraw}
  {stuck : Prop} {times : List Int} {committed : Database}

/-- A recipient of the run is determined by its rank. -/
theorem Settling.eq_of_rank (settling : Settling runId tiers best view known)
    {one other : SettlementRecipient} (inOne : one ∈ known) (inOther : other ∈ known)
    (same : one.rank = other.rank) : one = other := by
  obtain ⟨inTable, isRun⟩ := (settling.members one).mp inOne
  obtain ⟨inTable', isRun'⟩ := (settling.members other).mp inOther
  have ranks := settling.tables.recipientRanks
  have apart : view.recipients.Pairwise fun a b =>
      a.runId = b.runId ∧ a.rank = b.rank → a = b :=
    ranks.imp fun differs both => absurd both.2 (differs both.1)
  have apart' : view.recipients.Pairwise fun a b =>
      b.runId = a.runId ∧ b.rank = a.rank → b = a :=
    ranks.imp fun differs both => absurd both.2.symm (differs both.1.symm)
  exact apart.forall_of_forall_of_flip (fun _ _ _ => rfl) apart' inTable inTable'
    ⟨isRun.trans isRun'.symm, same⟩

/-- A known recipient with the score of an award has that award. -/
theorem Settling.award_eq (settling : Settling runId tiers best view known)
    (standings : Standings scores best)
    (ids : Relational.Unique FinalScore.id scores) {score : FinalScore} {rank : Nat}
    {tier : Tier} (ranked : (score, rank) ∈ best.zipIdx 1)
    (found : tiers.find? (Tier.covers rank) = some tier) {row : SettlementRecipient}
    (member : row ∈ known) (same : row.scoreId = score.id) :
    row.award = awardOf score rank tier := by
  obtain ⟨score', rank', tier', ranked', found', isAward⟩ :=
    mem_awards.mp (settling.awarded row member)
  have sameId : score'.id = score.id := by
    have isScore : row.scoreId = score'.id := congrArg Award.scoreId isAward
    exact isScore.symm.trans same
  have inScores := standings.score score (List.fst_mem_of_mem_zipIdx ranked)
  have inScores' := standings.score score' (List.fst_mem_of_mem_zipIdx ranked')
  have sameScore : score' = score := ids.eq inScores' inScores sameId
  subst sameScore
  have sameRanked := standings.ranked_eq ranked' ranked rfl
  cases sameRanked
  rw [found] at found'
  cases found'
  exact isAward

theorem Tier.value_fits (tier : Tier) : Database.fitsInteger tier.rewardValue = true := by
  have nonneg := tier.nonneg
  have fits := tier.fits
  simp only [Database.fitsInteger, decide_eq_true_eq]
  omega

/-- Without a recipient for its score a rank and its player are free. -/
theorem Settling.apart (settling : Settling runId tiers best view known)
    (standings : Standings scores best) {score : FinalScore} {rank : Nat}
    (ranked : (score, rank) ∈ best.zipIdx 1)
    (absent : ∀ row ∈ known, row.scoreId ≠ score.id) :
    ∀ other ∈ view.recipients, other.runId = runId →
      other.playerId ≠ score.playerId ∧ other.rank ≠ rank := by
  intro other member own
  have inKnown : other ∈ known := (settling.members other).mpr ⟨member, own⟩
  obtain ⟨score', rank', tier', ranked', found', isAward⟩ :=
    mem_awards.mp (settling.awarded other inKnown)
  have isPlayer : other.playerId = score'.playerId := congrArg Award.playerId isAward
  have isRank : other.rank = rank' := congrArg Award.rank isAward
  have isScore : other.scoreId = score'.id := congrArg Award.scoreId isAward
  constructor
  · intro samePlayer
    have same := standings.ranked_eq ranked' ranked (isPlayer.symm.trans samePlayer)
    cases same
    exact absent other inKnown isScore
  · intro sameRank
    have same := ranked_eq ranked' ranked (isRank.symm.trans sameRank)
    cases same
    exact absent other inKnown isScore

/-- A new recipient passes the constraints of its table. -/
theorem insertRecipient_eq (small : RanksFit tiers best) {run : SettlementRun}
    {score : FinalScore} {rank : Nat}
    {tier : Tier} (ranked : (score, rank) ∈ best.zipIdx 1)
    (found : tiers.find? (Tier.covers rank) = some tier) {recipientId : Uuid}
    (fresh : ∀ row ∈ view.recipients, row.id ≠ recipientId)
    (apart : ∀ other ∈ view.recipients, other.runId = run.id →
      other.playerId ≠ score.playerId ∧ other.rank ≠ rank) :
    Database.insertRecipient
        (newRecipient run score rank tier.key tier.rewardValue recipientId) view =
      .ok { view with recipients := view.recipients ++
        [newRecipient run score rank tier.key tier.rewardValue recipientId] } := by
  have positive := (List.mem_zipIdx_iff_le_and_getElem?_sub.mp ranked).1
  have below : rank < 2 ^ 31 := small (awardOf score rank tier)
    (mem_awards.mpr ⟨score, rank, tier, ranked, found, rfl⟩)
  have rankFits : Database.fitsInteger (rank : Int) = true := by
    simp only [Database.fitsInteger, decide_eq_true_eq]
    omega
  rw [Database.insertRecipient_ok]
  exact ⟨⟨⟨⟨rankFits, tier.value_fits⟩, tier.short, positive, tier.nonneg⟩,
    lookup_none.mpr fresh, apart⟩, rfl⟩

/-- The view with one more recipient of the run. -/
theorem Settling.addRecipient (settling : Settling runId tiers best view known)
    {row : SettlementRecipient} (isRun : row.runId = runId)
    (awarded : row.award ∈ awards tiers best)
    (fresh : ∀ other ∈ view.recipients, other.id ≠ row.id)
    (ranks : ∀ other ∈ view.recipients, other.runId = row.runId → other.rank ≠ row.rank) :
    Settling runId tiers best { view with recipients := view.recipients ++ [row] }
      (known ++ [row]) where
  tables :=
    { recipientIds := settling.tables.recipientIds.append fresh
      recipientRanks := by
        refine List.pairwise_append.mpr
          ⟨settling.tables.recipientRanks, List.pairwise_singleton _ _, ?_⟩
        intro other member new isNew
        rw [List.mem_singleton.mp isNew]
        exact ranks other member
      rewardRecipients := settling.tables.rewardRecipients
      rewardOwners := fun reward member id isId => by
        obtain ⟨owner, inTable, same⟩ := settling.tables.rewardOwners reward member id isId
        exact ⟨owner, List.mem_append_left _ inTable, same⟩ }
  members := fun other => by
    rw [List.mem_append, List.mem_append, List.mem_singleton, settling.members other]
    constructor
    · rintro (⟨inTable, own⟩ | rfl)
      · exact ⟨Or.inl inTable, own⟩
      · exact ⟨Or.inr rfl, isRun⟩
    · rintro ⟨inTable | rfl, own⟩
      · exact Or.inl ⟨inTable, own⟩
      · exact Or.inr rfl
  awarded := fun other member => by
    rcases List.mem_append.mp member with before | isNew
    · exact settling.awarded other before
    · exact List.mem_singleton.mp isNew ▸ awarded
  rewarded := fun other member reward inRewards owns => by
    rcases List.mem_append.mp member with before | isNew
    · exact settling.rewarded other before reward inRewards owns
    · obtain ⟨owner, inTable, same⟩ :=
        settling.tables.rewardOwners reward inRewards other.id owns
      rw [List.mem_singleton.mp isNew] at same
      exact absurd same (fresh owner inTable)

/-- The view with the reward of a recipient and its evidence. -/
theorem Settling.addReward (settling : Settling runId tiers best view known)
    {row : SettlementRecipient} (member : row ∈ known)
    (unrewarded : ∀ reward ∈ view.rewards, reward.settlementRecipientId ≠ some row.id)
    (rewardId : Uuid) (audits : List AuditRecord) (events : List AnalyticsEvent) :
    Settling runId tiers best
      { view with
        rewards := view.rewards ++ [recipientReward rewardId row]
        audits := audits
        analytics := events } known where
  tables :=
    { settling.tables with
      rewardRecipients := by
        refine List.pairwise_append.mpr
          ⟨settling.tables.rewardRecipients, List.pairwise_singleton _ _, ?_⟩
        intro other inRewards new isNew
        rw [List.mem_singleton.mp isNew]
        exact Or.inr (unrewarded other inRewards)
      rewardOwners := fun reward inRewards id isId => by
        rcases List.mem_append.mp inRewards with before | isNew
        · exact settling.tables.rewardOwners reward before id isId
        · rw [List.mem_singleton.mp isNew] at isId
          cases isId
          exact ⟨row, ((settling.members row).mp member).1, rfl⟩ }
  members := settling.members
  awarded := settling.awarded
  rewarded := fun other inKnown reward inRewards owns => by
    rcases List.mem_append.mp inRewards with before | isNew
    · exact settling.rewarded other inKnown reward before owns
    · rw [List.mem_singleton.mp isNew] at owns ⊢
      have sameId : row.id = other.id := Option.some.inj owns
      have same := settling.tables.recipientIds.eq ((settling.members row).mp member).1
        ((settling.members other).mp inKnown).1 sameId
      subst same
      exact ⟨rfl, rfl⟩

theorem recipientByScore_some {scoreId : Uuid} {row : SettlementRecipient}
    (found : recipientByScore scoreId known = some row) :
    row ∈ known ∧ row.scoreId = scoreId :=
  ⟨List.mem_reverse.mp (List.mem_of_find?_eq_some found),
    by simpa using List.find?_some found⟩

theorem recipientByScore_none {scoreId : Uuid}
    (absent : recipientByScore scoreId known = none) :
    ∀ row ∈ known, row.scoreId ≠ scoreId := by
  intro row member
  simpa using List.find?_eq_none.mp absent row (List.mem_reverse.mpr member)

/-- The recipient of a rank is there, or it is added. -/
theorem findOrAddRecipient_ends (small : RanksFit tiers best)
    (settling : Settling runId tiers best view known)
    (standings : Standings scores best)
    (ids : Relational.Unique FinalScore.id scores)
    {run : SettlementRun} (isRun : run.id = runId) {score : FinalScore} {rank : Nat}
    {tier : Tier} (ranked : (score, rank) ∈ best.zipIdx 1)
    (found : tiers.find? (Tier.covers rank) = some tier) {recipientId : Uuid}
    (fresh : ∀ row ∈ view.recipients, row.id ≠ recipientId)
    {ok : SettlementRecipient × List SettlementRecipient → List Int → Database →
      Database → Prop} {bad : ServiceError → Database → Prop}
    (next : ∀ recipient known' view', Settling runId tiers best view' known' →
      Issued runId view view' → known ⊆ known' → recipient ∈ known' →
      recipient.award = awardOf score rank tier →
      view'.rewards = view.rewards → view'.analytics = view.analytics →
      (∀ row ∈ view'.recipients, row ∈ view.recipients ∨ row.id = recipientId) →
      ok (recipient, known') times committed view') :
    (findOrAddRecipient
      (newRecipient run score rank tier.key tier.rewardValue recipientId) known).Ends
        stuck ok bad times committed view := by
  unfold findOrAddRecipient
  cases existing : recipientByScore
      (newRecipient run score rank tier.key tier.rewardValue recipientId).scoreId
      known with
  | some recipient =>
      obtain ⟨member, same⟩ := recipientByScore_some existing
      have award := settling.award_eq standings ids ranked found member same
      apply next recipient known view settling (Issued.refl runId view)
        (List.Subset.refl known) member award rfl rfl
      intro row inTable
      exact Or.inl inTable
  | none =>
      have absent := recipientByScore_none existing
      have apart := settling.apart standings ranked absent
      have inserted := @insertRecipient_eq tiers best view small run score rank tier ranked found
        recipientId fresh fun other member own => apart other member (own.trans isRun)
      have awarded : awardOf score rank tier ∈ awards tiers best :=
        mem_awards.mpr ⟨score, rank, tier, ranked, found, rfl⟩
      simp only [addSettlementRecipient, ends_bind]
      rw [ends_update_ok inserted]
      refine next _ _ _
        (settling.addRecipient isRun awarded fresh fun other member same =>
          (apart other member (same.trans isRun)).2)
        { Issued.refl runId view with
          others := rfl
          recipients := ⟨_, rfl, fun row isNew => ?_⟩
          rewards := ⟨[], (List.append_nil _).symm, (by simp)⟩ }
        (List.subset_append_left _ _) (List.mem_append_right _ (List.mem_singleton_self _))
        rfl rfl rfl fun row inTable => ?_
      · rw [List.mem_singleton.mp isNew]
        exact isRun
      · rcases List.mem_append.mp inTable with before | isNew
        · exact Or.inl before
        · exact Or.inr (congrArg SettlementRecipient.id (List.mem_singleton.mp isNew))

/-- The value of an award fits its column. -/
theorem award_fits {award : Award} (member : award ∈ awards tiers best) :
    Database.fitsInteger award.rewardValue = true ∧ 0 ≤ award.rewardValue := by
  obtain ⟨score, rank, tier, _, _, rfl⟩ := mem_awards.mp member
  exact ⟨tier.value_fits, tier.nonneg⟩

/-- The reward of a known recipient is there, or it is added with its evidence. -/
theorem issueReward_ends (settling : Settling runId tiers best view known)
    {recipient : SettlementRecipient} (member : recipient ∈ known) (gameKey : PyStr)
    {rewardId : Uuid} (fresh : ∀ row ∈ view.rewards, row.id ≠ rewardId)
    (freshKey : ∀ event ∈ view.analytics, event.eventKey ≠ rewardKey rewardId)
    {ok : Unit → List Int → Database → Database → Prop}
    {bad : ServiceError → Database → Prop}
    (next : ∀ view', Settling runId tiers best view' known → Issued runId view view' →
      (∃ reward ∈ view'.rewards, reward.settlementRecipientId = some recipient.id) →
      view'.recipients = view.recipients →
      (∀ row ∈ view'.rewards, row ∈ view.rewards ∨ row.id = rewardId) →
      (∀ event ∈ view'.analytics,
        event ∈ view.analytics ∨ event.eventKey = rewardKey rewardId) →
      ok () times committed view') :
    (issueReward recipient gameKey rewardId).Ends stuck ok bad times committed view := by
  unfold issueReward
  simp only [settlementReward, read, ends_bind, ends_query]
  cases existing : lookup Reward.settlementRecipientId (some recipient.id)
      view.rewards with
  | some reward =>
      exact next view settling (.refl runId view)
        ⟨reward, lookup_mem existing, lookup_key existing⟩ rfl (fun row mem => Or.inl mem)
        fun event mem => Or.inl mem
  | none =>
      have fits := award_fits (settling.awarded recipient member)
      have inserted : Database.insertReward (recipientReward rewardId recipient) view =
          .ok { view with rewards := view.rewards ++ [recipientReward rewardId recipient] } :=
        Database.insertReward_ok.mpr ⟨⟨fits.1, lookup_none.mpr fresh, Or.inl rfl,
          Or.inr existing, fits.2⟩, rfl⟩
      have keys : FreshKeys
          [rewardEvent (recipientReward rewardId recipient)
            (py "settlement_reward_issued") gameKey]
          { view with rewards := view.rewards ++ [recipientReward rewardId recipient] } := by
        refine ⟨fun event isEvent => ?_, List.pairwise_singleton _ _⟩
        rw [List.mem_singleton.mp isEvent]
        exact lookup_none.mpr freshKey
      have evidence := (@insertEvidence_ok
        [rewardAudit (recipientReward rewardId recipient)
          (py "settlement_reward_issued") gameKey] _ _ _).mpr ⟨keys, rfl⟩
      simp only [addSettlementReward, ends_bind]
      rw [ends_update_ok inserted]
      simp only [Program.pure_eq, ends_ret]
      rw [ends_update_ok evidence]
      have unrewarded := lookup_none.mp existing
      obtain ⟨inTable, isRun⟩ := (settling.members recipient).mp member
      refine next _ (settling.addReward member unrewarded rewardId _ _)
        { Issued.refl runId view with
          others := rfl
          rewards := ⟨_, rfl, fun reward isNew =>
            ⟨recipient, inTable, isRun, by rw [List.mem_singleton.mp isNew]; rfl⟩⟩
          audits := List.prefix_append _ _
          analytics := List.prefix_append _ _ }
        ⟨_, List.mem_append_right _ (List.mem_singleton_self _), rfl⟩ rfl
        (fun row inTable => ?_) fun event inTable => ?_
      · rcases List.mem_append.mp inTable with before | isNew
        · exact Or.inl before
        · exact Or.inr (congrArg Reward.id (List.mem_singleton.mp isNew))
      · rcases List.mem_append.mp inTable with before | isNew
        · exact Or.inl before
        · exact Or.inr (congrArg AnalyticsEvent.eventKey (List.mem_singleton.mp isNew))

/-- Rewards stay when rows are added. -/
theorem HasReward.grow {view' : Database} {known' : List SettlementRecipient}
    {award : Award} (has : HasReward view known award) (more : known ⊆ known')
    (rewards : view.rewards ⊆ view'.rewards) : HasReward view' known' award := by
  obtain ⟨row, member, isAward, reward, inRewards, owns⟩ := has
  exact ⟨row, more member, isAward, reward, rewards inRewards, owns⟩

/-- The loop settles every rank that is left.  The induction is on these ranks. -/
theorem settleRanks_ends (small : RanksFit tiers best)
    (standings : Standings scores best)
    (ids : Relational.Unique FinalScore.id scores)
    {run : SettlementRun} (isRun : run.id = runId) {items : List Json}
    (described : List.Forall₂ Describes items tiers) (gameKey : PyStr)
    {ok : Unit → List Int → Database → Database → Prop}
    {bad : ServiceError → Database → Prop} {pending : List (FinalScore × Nat)}
    (within : ∀ ranked ∈ pending, ranked ∈ best.zipIdx 1)
    (settling : Settling runId tiers best view known)
    (drawable : Drawable draw pending view)
    (next : ∀ known' view', Settling runId tiers best view' known' →
      Issued runId view view' → known ⊆ known' →
      (∀ ranked ∈ pending, ∀ award, rankAward tiers ranked = some award →
        HasReward view' known' award) →
      ok () times committed view') :
    (settleRanks run items gameKey draw pending known).Ends stuck ok bad times committed
      view := by
  induction pending generalizing view known with
  | nil =>
      rw [settleRanks, ends_ret]
      exact next known view settling (Issued.refl runId view) (List.Subset.refl known) nofun
  | cons ranked pending ih =>
      obtain ⟨score, rank⟩ := ranked
      obtain ⟨here, rest⟩ := List.forall_mem_cons.mp within
      rw [settleRanks]
      rcases find_coversRank described rank with
        ⟨noItem, noTier⟩ | ⟨item, tier, hasItem, hasTier, describes⟩
      · simp only [noItem]
        apply ih rest settling drawable.tail
        intro known' view' settling' issued more rewarded
        apply next known' view' settling' issued more
        rw [List.forall_mem_cons]
        refine ⟨fun award isAward => ?_, rewarded⟩
        simp [rankAward, noTier] at isAward
      · simp only [hasItem, describes.tierReward, Program.ofExcept, Program.ret_bind,
          ends_bind]
        apply findOrAddRecipient_ends small settling standings ids isRun here hasTier
          (List.forall_mem_cons.mp drawable.recipients).1
        intro recipient known₁ view₁ settling₁ added more member isAward sameRewards
          sameEvents newRecipients
        rw [ends_bind]
        apply issueReward_ends settling₁ member gameKey
          (by rw [sameRewards]; exact (List.forall_mem_cons.mp drawable.rewards).1)
          (by rw [sameEvents]; exact (List.forall_mem_cons.mp drawable.keys).1)
        intro view₂ settling₂ issued rewarded sameRecipients newRewards newEvents
        have left : Drawable draw pending view₂ := by
          refine drawable.next ?_ ?_ ?_
          · rw [sameRecipients]
            exact newRecipients
          · rw [← sameRewards]
            exact newRewards
          · rw [← sameEvents]
            exact newEvents
        apply ih rest settling₂ left
        intro known₃ view₃ settling₃ later more' rewarded'
        apply next known₃ view₃ settling₃ ((added.trans issued).trans later)
          (List.Subset.trans more more')
        rw [List.forall_mem_cons]
        refine ⟨fun award isRankAward => ?_, rewarded'⟩
        have isThis : awardOf score rank tier = award := by
          simpa [rankAward, hasTier] using isRankAward
        have has : HasReward view₂ known₁ award :=
          ⟨recipient, member, isAward.trans isThis, rewarded⟩
        obtain ⟨_, grown, _⟩ := later.rewards
        exact has.grow more' (grown ▸ List.subset_append_left _ _)

end Loop

section Completion

/-- The constraints of the runs and their recipients. -/
structure RunTables (db : Database) : Prop where
  ids : Relational.Unique SettlementRun.id db.runs
  periods : ∀ run ∈ db.runs, run.periodEnd = run.periodStart + days 7
  recipients : ∀ row ∈ db.recipients, ∃ run ∈ db.runs, run.id = row.runId

/-- The period is not settled yet: it has an unfinished run with these tiers and
with a part of the awards, or no run, and then these tiers are in force. -/
structure Resumable (gameId : Uuid) (periodStart : Int) (tiers : List Tier)
    (best : List FinalScore) (db : Database) : Prop where
  unopened : Database.runOf gameId periodStart db = none →
    ∃ config, tiersInForce gameId (periodStart + days 7) db = some config ∧
      TiersOf config.payload tiers
  unfinished : ∀ run, Database.runOf gameId periodStart db = some run →
    run.status = .processing ∧ TiersOf run.tierSnapshot tiers
  awarded : ∀ run, Database.runOf gameId periodStart db = some run →
    ∀ row ∈ db.recipients, row.runId = run.id → row.award ∈ awards tiers best
  rewarded : ∀ run, Database.runOf gameId periodStart db = some run →
    ∀ row ∈ db.recipients, row.runId = run.id →
      ∀ reward ∈ db.rewards, reward.settlementRecipientId = some row.id →
        reward.playerId = row.playerId ∧ reward.value = row.rewardValue

/-- The ids that a settlement draws are unused and apart. -/
structure FreshDraw (draw : SettlementDraw) (best : List FinalScore) (db : Database) :
    Prop where
  run : ∀ row ∈ db.runs, row.id ≠ draw.runId
  ranks : Drawable draw (best.zipIdx 1) db

/-- The run is completed, with exactly the awards and one reward for each. -/
structure Settled (gameId : Uuid) (periodStart now : Int) (tiers : List Tier)
    (best : List FinalScore) (db db' : Database) (run : SettlementRun)
    (recipients : List SettlementRecipient) : Prop where
  isRun : Database.runOf gameId periodStart db' = some run
  completed : run.status = .completed ∧ run.completedAt = some now
  sameRun : ∀ old, Database.runOf gameId periodStart db = some old →
    run = completedRun old now
  isRecipients : recipients = recipientsOf run.id db'
  awarded : recipients.map SettlementRecipient.award = awards tiers best
  rewarded : ∀ row ∈ recipients, ∃ reward,
    (db'.rewards.filter fun other => other.settlementRecipientId = some row.id) =
        [reward] ∧
      reward.playerId = row.playerId ∧ reward.value = row.rewardValue
  keptRecipients : db.recipients <+: db'.recipients
  keptRewards : db.rewards <+: db'.rewards
  /-- Nobody else is given anything. -/
  onlyRewards : ∀ reward ∈ db'.rewards, reward ∈ db.rewards ∨
    ∃ row ∈ recipients, reward.settlementRecipientId = some row.id
  others : db' = { db with
    runs := db'.runs
    recipients := db'.recipients
    rewards := db'.rewards
    audits := db'.audits
    analytics := db'.analytics }

variable {gameId : Uuid} {periodStart now : Int} {tiers : List Tier}
  {scores best : List FinalScore} {db view : Database}
  {known : List SettlementRecipient} {run : SettlementRun}

theorem rank_follows : Follows SettlementRecipient.rank
    [ascending SettlementRecipient.rank] := by
  intro one other
  simp only [precedes, ascending]
  split
  · next isLess => simpa using (Nat.compare_eq_lt.mp isLess).le
  · next isGreater => simpa using Nat.compare_eq_gt.mp isGreater
  · next isSame => simp [Nat.compare_eq_eq.mp isSame]

/-- The recipients of a run are listed by their ranks. -/
theorem recipientsOf_isRanking {runId : Uuid} (tables : SettlementTables view) :
    IsRanking SettlementRecipient.rank
      (view.recipients.filter fun row => row.runId = runId) (recipientsOf runId view) := by
  apply exists_ranking rank_follows
  rw [List.Nodup, List.pairwise_map]
  have own : (view.recipients.filter fun row => row.runId = runId).Pairwise
      fun one other => one.runId = other.runId → one.rank ≠ other.rank :=
    tables.recipientRanks.filter _
  apply own.imp_of_mem
  intro one other inOne inOther differs
  have isRun := (List.mem_filter.mp inOne).2
  have isRun' := (List.mem_filter.mp inOther).2
  simp only [decide_eq_true_eq] at isRun isRun'
  exact differs (isRun.trans isRun'.symm)

theorem mem_recipientsOf {runId : Uuid} {row : SettlementRecipient} :
    row ∈ recipientsOf runId view ↔ row ∈ view.recipients ∧ row.runId = runId := by
  rw [recipientsOf, (orderBy_perm _ _).mem_iff, List.mem_filter, decide_eq_true_eq]

/-- The awards are listed by their ranks. -/
theorem awards_increase (tiers : List Tier) (best : List FinalScore) :
    (awards tiers best).Pairwise fun one other => one.rank < other.rank := by
  rw [awards, List.pairwise_filterMap]
  apply (ranks_increase best 1).imp
  intro one other before award isAward award' isAward'
  simp only [rankAward, Option.map_eq_some_iff] at isAward isAward'
  obtain ⟨_, _, rfl⟩ := isAward
  obtain ⟨_, _, rfl⟩ := isAward'
  exact before

/-- The recipients of a run whose ranks are all settled are the awards. -/
theorem Settling.awards_eq (settling : Settling run.id tiers best view known)
    (all : ∀ award ∈ awards tiers best, HasReward view known award) :
    (recipientsOf run.id view).map SettlementRecipient.award = awards tiers best := by
  have ranking := @recipientsOf_isRanking view run.id settling.tables
  have increasing : ((recipientsOf run.id view).map SettlementRecipient.award).Pairwise
      fun one other => one.rank < other.rank := List.pairwise_map.mpr ranking.increasing
  have nodup : ∀ {list : List Award},
      list.Pairwise (fun one other => one.rank < other.rank) → list.Nodup :=
    fun increases => increases.imp fun before same => absurd (congrArg _ same) before.ne
  refine List.Perm.eq_of_pairwise ?_ increasing (awards_increase tiers best) ?_
  · intro one other _ _ before after
    exact absurd after before.not_gt
  rw [List.perm_ext_iff_of_nodup (nodup increasing) (nodup (awards_increase tiers best))]
  intro award
  rw [List.mem_map]
  constructor
  · rintro ⟨row, member, rfl⟩
    exact settling.awarded row ((settling.members row).mpr (mem_recipientsOf.mp member))
  · intro member
    obtain ⟨row, inKnown, isAward, _⟩ := all award member
    exact ⟨row, mem_recipientsOf.mpr ((settling.members row).mp inKnown), isAward⟩

/-- A recipient has at most one reward. -/
theorem SettlementTables.rewards_of (tables : SettlementTables view) {id : Uuid}
    {reward : Reward} (member : reward ∈ view.rewards)
    (owns : reward.settlementRecipientId = some id) :
    (view.rewards.filter fun other => other.settlementRecipientId = some id) =
      [reward] := by
  have inOwn : reward ∈ view.rewards.filter
      fun other => other.settlementRecipientId = some id :=
    List.mem_filter.mpr ⟨member, by simp [owns]⟩
  have apart := tables.rewardRecipients.filter
    fun other : Reward => decide (other.settlementRecipientId = some id)
  have own : ∀ other ∈ view.rewards.filter
      fun other => decide (other.settlementRecipientId = some id),
      other.settlementRecipientId = some id := fun other isOwn => by
    simpa using (List.mem_filter.mp isOwn).2
  cases rows : view.rewards.filter
      fun other => decide (other.settlementRecipientId = some id) with
  | nil => rw [rows] at inOwn; cases inOwn
  | cons first rest =>
      rw [rows] at inOwn apart own
      cases rest with
      | nil => rw [List.mem_singleton.mp inOwn]
      | cons second rest =>
          have isFirst := own first (List.mem_cons_self ..)
          have isSecond := own second (List.mem_cons_of_mem _ (List.mem_cons_self ..))
          rcases (List.pairwise_cons.mp apart).1 second (List.mem_cons_self ..) with
            none | differs
          · rw [isFirst] at none
            cases none
          · exact absurd (isFirst.trans isSecond.symm) differs

/-- Every known recipient has one reward with its value. -/
theorem Settling.rewards_eq (settling : Settling run.id tiers best view known)
    (all : ∀ award ∈ awards tiers best, HasReward view known award)
    {row : SettlementRecipient} (member : row ∈ recipientsOf run.id view) :
    ∃ reward, (view.rewards.filter fun other =>
        other.settlementRecipientId = some row.id) = [reward] ∧
      reward.playerId = row.playerId ∧ reward.value = row.rewardValue := by
  have inKnown := (settling.members row).mpr (mem_recipientsOf.mp member)
  obtain ⟨row', inKnown', isAward, reward, inRewards, owns⟩ :=
    all row.award (settling.awarded row inKnown)
  have sameRank : row'.rank = row.rank := congrArg Award.rank isAward
  have same := settling.eq_of_rank inKnown' inKnown sameRank
  subst same
  exact ⟨reward, settling.tables.rewards_of inRewards owns,
    settling.rewarded row' inKnown reward inRewards owns⟩

end Completion

section Settlement

variable {gameId : Uuid} {periodStart now : Int} {tiers : List Tier}
  {scores best : List FinalScore} {db : Database} {draw : SettlementDraw} {game : Game}
  {stuck : Prop} {times : List Int}

/-- What a period is settled for. -/
def boardOf (run : SettlementRun) : Uuid × Int := (run.gameId, run.periodStart)

theorem runOf_eq_lookup (gameId : Uuid) (periodStart : Int) (db : Database) :
    Database.runOf gameId periodStart db = lookup boardOf (gameId, periodStart) db.runs := by
  simp only [Database.runOf, lookup, boardOf, Prod.mk.injEq]

/-- A run that was added is the run of its period. -/
theorem runOf_append {run : SettlementRun} (isBoard : boardOf run = (gameId, periodStart))
    (absent : Database.runOf gameId periodStart db = none) :
    Database.runOf gameId periodStart { db with runs := db.runs ++ [run] } = some run := by
  rw [runOf_eq_lookup, ← isBoard] at absent ⊢
  exact lookup_append_self absent

/-- A run that was completed is the run of its period. -/
theorem runOf_completed {run : SettlementRun}
    (found : Database.runOf gameId periodStart db = some run)
    (ids : Relational.Unique SettlementRun.id db.runs) (now : Int) :
    Database.runOf gameId periodStart
        { db with runs := replace SettlementRun.id (completedRun run now) db.runs } =
      some (completedRun run now) := by
  rw [runOf_eq_lookup] at found ⊢
  have isBoard : boardOf run = (gameId, periodStart) := lookup_key found
  change boardOf (completedRun run now) = (gameId, periodStart) at isBoard
  rw [← isBoard] at found ⊢
  refine lookup_replace found rfl ?_
  intro old member sameId
  rw [ids.eq member (lookup_mem found) sameId]
  rfl

/-- A run of the period, found or just added, with its part of the awards. -/
structure Opened (gameId : Uuid) (periodStart : Int) (tiers : List Tier)
    (best : List FinalScore) (db : Database) (run : SettlementRun) (items : List Json)
    (view : Database) : Prop where
  isRun : Database.runOf gameId periodStart view = some run
  sameRun : ∀ old, Database.runOf gameId periodStart db = some old → run = old
  period : run.periodEnd = run.periodStart + days 7
  ids : Relational.Unique SettlementRun.id view.runs
  described : List.Forall₂ Describes items tiers
  settling : Settling run.id tiers best view (recipientsOf run.id view)
  others : view = { db with runs := view.runs }

/-- The run to go on with. -/
theorem openRun_ends (tables : SettlementTables db) (runs : RunTables db)
    (resumable : Resumable gameId periodStart tiers best db)
    (fresh : ∀ row ∈ db.runs, row.id ≠ draw.runId)
    {ok : SettlementRun × List Json → List Int → Database → Database → Prop}
    {bad : ServiceError → Database → Prop}
    (next : ∀ run items view, Opened gameId periodStart tiers best db run items view →
      ok (run, items) times db view) :
    (openRun (Database.runOf gameId periodStart db) gameId periodStart
      (periodStart + days 7) draw.runId).Ends stuck ok bad times db db := by
  cases existing : Database.runOf gameId periodStart db with
  | some run =>
      obtain ⟨_, tiersOf⟩ := resumable.unfinished run existing
      obtain ⟨items, parsed, described⟩ := payloadTiers_eq_ok tiersOf
      simp only [openRun, parsed, ends_bind, ends_ofExcept_ok, Program.pure_eq, ends_ret]
      apply next run items db
      constructor
      case isRun => exact existing
      case sameRun =>
        intro old isOld
        rw [existing] at isOld
        exact Option.some.inj isOld
      case period => exact runs.periods run (List.mem_of_find?_eq_some existing)
      case ids => exact runs.ids
      case described => exact described
      case settling =>
        exact {
          tables := tables
          members := fun row => mem_recipientsOf
          awarded := fun row member => by
            obtain ⟨inTable, own⟩ := mem_recipientsOf.mp member
            exact resumable.awarded run existing row inTable own
          rewarded := fun row member => by
            obtain ⟨inTable, own⟩ := mem_recipientsOf.mp member
            exact resumable.rewarded run existing row inTable own }
      case others => rfl
  | none =>
      obtain ⟨config, inForce, tiersOf⟩ := resumable.unopened existing
      obtain ⟨items, parsed, described⟩ := payloadTiers_eq_ok tiersOf
      have inserted : Database.insertRun
          (newRun gameId periodStart (periodStart + days 7) config draw.runId) db =
          .ok { db with runs := db.runs ++
            [newRun gameId periodStart (periodStart + days 7) config draw.runId] } :=
        Database.insertRun_ok.mpr ⟨⟨lookup_none.mpr fresh, existing, rfl⟩, rfl⟩
      simp only [openRun, settlementTierConfig, read, inForce, parsed, addSettlementRun,
        orRaise, ends_bind, ends_query, ends_orRaise_some, ends_ofExcept_ok,
        ends_update_ok inserted, Program.pure_eq, ends_ret]
      apply next
      have noRecipients : ∀ row ∈ db.recipients, row.runId ≠ draw.runId := by
        intro row member same
        obtain ⟨run, inRuns, isRun⟩ := runs.recipients row member
        exact fresh run inRuns (isRun.trans same)
      constructor
      case isRun =>
        exact runOf_append rfl existing
      case sameRun =>
        intro old isOld
        rw [existing] at isOld
        cases isOld
      case period => rfl
      case ids => exact runs.ids.append fresh
      case described => exact described
      case settling =>
        have none : ∀ row ∈ recipientsOf draw.runId db, False := by
          intro row member
          obtain ⟨inTable, own⟩ := mem_recipientsOf.mp member
          exact noRecipients row inTable own
        exact {
          tables := { tables with }
          members := fun row => mem_recipientsOf
          awarded := fun row member => (none row member).elim
          rewarded := fun row member => (none row member).elim }
      case others => rfl

/-- The completed run with its recipients. -/
theorem completeRun_ends {run : SettlementRun} {view : Database} (gameKey : PyStr)
    (periodEnd : Int) (period : run.periodEnd = run.periodStart + days 7)
    {ok : SettlementRun × List SettlementRecipient → List Int → Database → Database →
      Prop} {bad : ServiceError → Database → Prop} {committed : Database}
    (next : ∀ audits view', view' = { view with
        runs := replace SettlementRun.id (completedRun run now) view.runs
        audits := audits } →
      ok (completedRun run now, recipientsOf run.id view) times view' view') :
    (completeRun run gameKey periodStart periodEnd now).Ends stuck ok bad times committed
      view := by
  have updated : Database.updateRun (completedRun run now) view =
      .ok { view with
        runs := replace SettlementRun.id (completedRun run now) view.runs } :=
    Database.updateRun_ok.mpr ⟨period, rfl⟩
  simp only [completeRun, saveSettlementRun, ends_bind, ends_update_ok updated,
    settlementRecipients, read, ends_query]
  have noKeys : ∀ view, FreshKeys [] view := fun view =>
    ⟨fun _ member => absurd member List.not_mem_nil, List.Pairwise.nil⟩
  rw [ends_update_ok (insertEvidence_ok.mpr ⟨noKeys _, rfl⟩)]
  simp only [List.append_nil]
  exact next _ _ rfl

/-- The rest of a settlement, from the lookup of the run on. -/
theorem settlePeriod_ends (scoreIds : Relational.Unique FinalScore.id db.scores)
    (scoreSessions : Relational.Unique FinalScore.sessionId db.scores)
    (tables : SettlementTables db) (runs : RunTables db)
    (standings : Standings (db.scores.filter (ofBoard game.id periodStart)) best)
    (small : RanksFit tiers best)
    (resumable : Resumable game.id periodStart tiers best db)
    (fresh : FreshDraw draw best db)
    {ok : SettlementRun × List SettlementRecipient → List Int → Database → Database →
      Prop} {bad : ServiceError → Database → Prop}
    (next : ∀ run recipients db',
      Settled game.id periodStart now tiers best db db' run recipients →
        ok (run, recipients) times db' db') :
    (settlePeriod (Database.runOf game.id periodStart db) game periodStart now draw).Ends
      stuck ok bad times db db := by
  have isBest : ∀ view : Database, view.scores = db.scores →
      listSettlementScores game.id periodStart view = best := by
    intro view sameScores
    have isList := @standings_settlementScores game.id periodStart view
      (sameScores ▸ scoreIds) (sameScores ▸ scoreSessions)
    rw [sameScores] at isList
    exact isList.unique (scoreSessions.filter _) standings
  simp only [settlePeriod, ends_bind]
  apply openRun_ends tables runs resumable fresh.run
  intro run items view opened
  have same := opened.others
  simp only [read, settlementRecipients, ends_query, ends_bind,
    isBest view (by rw [same])]
  have boardIds : Relational.Unique FinalScore.id
      (db.scores.filter (ofBoard game.id periodStart)) := scoreIds.filter _
  have drawable : Drawable draw (best.zipIdx 1) view := by
    rw [same]
    exact { fresh.ranks with }
  apply settleRanks_ends small standings boardIds rfl opened.described game.key
    (fun _ member => member) opened.settling drawable
  intro known view' settling issued more rewarded
  have all : ∀ award ∈ awards tiers best, HasReward view' known award := by
    intro award member
    obtain ⟨ranked, inRanks, isAward⟩ := List.mem_filterMap.mp member
    exact rewarded ranked inRanks award isAward
  have others := issued.others
  apply completeRun_ends game.key _ opened.period
  rintro audits _ rfl
  apply next
  obtain ⟨newRecipients, grownRecipients, _⟩ := issued.recipients
  obtain ⟨newRewards, grownRewards, ownRewards⟩ := issued.rewards
  have sameRuns : view'.runs = view.runs := by rw [others]
  constructor
  case isRun =>
    have found := opened.isRun
    have completed := runOf_completed found opened.ids now
    simpa only [Database.runOf, sameRuns] using completed
  case completed => exact ⟨rfl, rfl⟩
  case sameRun =>
    intro old isOld
    rw [opened.sameRun old isOld]
  case isRecipients => rfl
  case awarded => exact settling.awards_eq all
  case rewarded =>
    intro row member
    exact settling.rewards_eq all member
  case keptRecipients =>
    rw [show view.recipients = db.recipients by rw [same]] at grownRecipients
    exact ⟨newRecipients, grownRecipients.symm⟩
  case keptRewards =>
    rw [show view.rewards = db.rewards by rw [same]] at grownRewards
    exact ⟨newRewards, grownRewards.symm⟩
  case onlyRewards =>
    intro reward member
    rw [show view.rewards = db.rewards by rw [same]] at grownRewards
    simp only [grownRewards] at member
    rcases List.mem_append.mp member with before | isNew
    · exact Or.inl before
    · obtain ⟨row, inTable, own, owns⟩ := ownRewards reward isNew
      exact Or.inr ⟨row, mem_recipientsOf.mpr ⟨inTable, own⟩, owns⟩
  case others =>
    rw [others, same]

/-- A board whose final scores are settled. -/
structure SettlementGame (gameKey : PyStr) (game : Game) (db : Database) : Prop where
  found : lookup Game.key gameKey db.games = some game
  active : game.isActive = true
  rules : settlementRulesFor game.key = .ok .skillCheck

/-- Up to the lookup of the run a settlement only reads. -/
theorem settleLeaderboard_ends {gameKey : PyStr} (isGame : SettlementGame gameKey game db)
    (monday : weekStart periodStart = periodStart)
    {ok : SettlementRun × List SettlementRecipient → List Int → Database → Database →
      Prop} {bad : ServiceError → Database → Prop} :
    (settleLeaderboard gameKey periodStart true draw).Ends stuck ok bad times db db ↔
      (settleOnce (Database.runOf game.id periodStart db) game periodStart draw).Ends
        stuck ok bad times db db := by
  have leaderboard : leaderboardRulesFor game.key = .ok .skillCheck := by
    have rules := isGame.rules
    unfold settlementRulesFor at rules
    obtain ⟨kind, isKind, rest⟩ := bind_eq_ok.mp rules
    split at rest
    · cases rest
      exact isKind
    · cases rest
  simp only [settleLeaderboard, require, ends_bind, ends_require, not_true_eq_false,
    IsEmpty.forall_iff, and_true, forall_const, monday, eligibleSettlementGame,
    eligibleLeaderboardGame, getGame, read, ends_query, isGame.found, orRaise,
    ends_orRaise_some, isGame.active, leaderboard, isGame.rules, byRules,
    Program.pure_eq, ends_ret, lockGameById, readForUpdate, settlementRun]

/-- A settlement of a closed period ends with the run completed and with exactly
the awards of the standings, whatever part of them an interrupted one has left
behind; settling again returns the same and changes nothing. -/
theorem settlement_resumes {gameKey : PyStr} (isGame : SettlementGame gameKey game db)
    (monday : weekStart periodStart = periodStart)
    (closed : periodStart + days 7 ≤ now)
    (scoreIds : Relational.Unique FinalScore.id db.scores)
    (scoreSessions : Relational.Unique FinalScore.sessionId db.scores)
    (tables : SettlementTables db) (runs : RunTables db)
    (standings : Standings (db.scores.filter (ofBoard game.id periodStart)) best)
    (small : RanksFit tiers best)
    (resumable : Resumable game.id periodStart tiers best db)
    (fresh : FreshDraw draw best db) (times : List Int) :
    ∃ run recipients db',
      (settleLeaderboard gameKey periodStart true draw).run (now :: times) db db =
          some (.ok (run, recipients), db') ∧
        Settled game.id periodStart now tiers best db db' run recipients ∧
        ∀ draw' times',
          (settleLeaderboard gameKey periodStart true draw').run times' db' db' =
            some (.ok (run, recipients), db') := by
  have ends : (settleLeaderboard gameKey periodStart true draw).Ends False
      (fun value _ db' _ =>
        Settled game.id periodStart now tiers best db db' value.1 value.2)
      (fun _ _ => False) (now :: times) db db := by
    rw [settleLeaderboard_ends isGame monday]
    have unfinished : (Database.runOf game.id periodStart db).filter
        SettlementRun.isCompleted = none := by
      rw [Option.filter_eq_none_iff]
      intro run isRun
      simp [SettlementRun.isCompleted, (resumable.unfinished run isRun).1]
    simp only [settleOnce, unfinished, clock, require, ends_bind, ends_clock_cons,
      ends_require, closed, forall_const, not_true_eq_false, IsEmpty.forall_iff, and_true]
    apply settlePeriod_ends scoreIds scoreSessions tables runs standings small resumable fresh
    intro run recipients db' settled
    exact settled
  obtain ⟨result, db', ran, holds⟩ := @Program.Ends.total Database Lock Int ServiceError _
    (fun result db' => ∃ value, result = .ok value ∧
      Settled game.id periodStart now tiers best db db' value.1 value.2) _ _ _ _
    (ends.weaken (fun value _ _ _ settled => ⟨value, rfl, settled⟩) (by simp))
  obtain ⟨⟨run, recipients⟩, rfl, settled⟩ := holds
  simp only at settled
  refine ⟨run, recipients, db', ran, settled, fun draw' times' => ?_⟩
  have isGame' : SettlementGame gameKey game db' := by
    rw [settled.others]
    exact { isGame with }
  have again : (settleLeaderboard gameKey periodStart true draw').Ends False
      (fun value _ final _ => value = (run, recipients) ∧ final = db')
      (fun _ _ => False) times' db' db' := by
    rw [settleLeaderboard_ends isGame' monday]
    have finished : (Database.runOf game.id periodStart db').filter
        SettlementRun.isCompleted = some run := by
      have completed : run.isCompleted = true := by
        simp [SettlementRun.isCompleted, settled.completed.1]
      rw [settled.isRun, Option.filter_some, if_pos completed]
    simp only [settleOnce, finished, settlementRecipients, read, commitWork, ends_bind,
      ends_query, ends_commitWork, Program.pure_eq, ends_ret,
      ← settled.isRecipients, and_self]
  obtain ⟨result', final, ran', isSame⟩ := @Program.Ends.total Database Lock Int
    ServiceError _ (fun result final => result = .ok (run, recipients) ∧ final = db')
    _ _ _ _ (again.weaken (fun _ _ _ _ same => ⟨congrArg Except.ok same.1, same.2⟩) (by simp))
  obtain ⟨rfl, rfl⟩ := isSame
  exact ran'

end Settlement

namespace Sample

/-- The Monday of the settled week. -/
def week : Int := days 4

def champion : Tier where
  key := py "champion"
  minRank := 1
  maxRank := 1
  rewardValue := 500
  short := by decide
  nonneg := by decide
  fits := by decide

def podium : Tier where
  key := py "podium"
  minRank := 1
  maxRank := 3
  rewardValue := 200
  short := by decide
  nonneg := by decide
  fits := by decide

def tierItem (tier : Tier) : Json :=
  Json.object
    [(py "key", .str tier.key), (py "min_rank", .int tier.minRank),
      (py "max_rank", .int tier.maxRank), (py "reward_value", .int tier.rewardValue)]

def tierPayload : Json :=
  Json.object [(py "tiers", .arr [tierItem champion, tierItem podium])]

/-- A week of three scores, whose settlement stopped after the first recipient. -/
def interrupted : Database :=
  { catalogue with
    scores :=
      [⟨41, 1, 4, 51, 61, 20, week, 1000, 70⟩, ⟨42, 5, 4, 52, 62, 20, week, 900, 80⟩,
        ⟨43, 1, 4, 53, 63, 20, week, 800, 90⟩]
    tierConfigs := [⟨80, 4, 1, tierPayload, 0⟩]
    runs := [⟨70, 4, week, week + days 7, 80, tierPayload, .processing, none⟩]
    recipients := [⟨90, 70, 1, 43, 4, week, 1, py "champion", 500⟩] }

def settlementDraw : SettlementDraw where
  runId := 71
  recipientId := fun rank => BitVec.ofNat 128 (1000 + rank)
  rewardId := fun rank => BitVec.ofNat 128 (2000 + rank)

/-- The standings of the interrupted week. -/
def bestScores : List FinalScore := listSettlementScores 4 week interrupted

def skillBoard : Game := ⟨4, py "skill_check", true⟩

end Sample

/-- The settlement of an interrupted week. -/
theorem settlement_resumes_interrupted :
    ∃ run recipients db',
      (settleLeaderboard (py "skill_check") Sample.week true Sample.settlementDraw).run
          [Sample.week + days 8] Sample.interrupted Sample.interrupted =
        some (.ok (run, recipients), db') ∧
      Settled Sample.skillBoard.id Sample.week (Sample.week + days 8)
        [Sample.champion, Sample.podium] Sample.bestScores Sample.interrupted db' run
        recipients ∧
      ∀ draw' times',
        (settleLeaderboard (py "skill_check") Sample.week true draw').run times' db' db' =
          some (.ok (run, recipients), db') := by
  have ids : Relational.Unique FinalScore.id Sample.interrupted.scores :=
    Unique.iff_nodup.mpr (by decide +kernel)
  have sessions : Relational.Unique FinalScore.sessionId Sample.interrupted.scores :=
    Unique.iff_nodup.mpr (by decide +kernel)
  have described : TiersOf Sample.tierPayload [Sample.champion, Sample.podium] := by
    refine ⟨[Sample.tierItem Sample.champion, Sample.tierItem Sample.podium],
      by decide +kernel, .cons ?_ (.cons ?_ .nil)⟩ <;>
      exact ⟨by decide +kernel, by decide +kernel, by decide +kernel, by decide +kernel⟩
  have isRun : ∀ run, Database.runOf Sample.skillBoard.id Sample.week Sample.interrupted =
      some run →
        run = ⟨70, 4, Sample.week, Sample.week + days 7, 80, Sample.tierPayload,
          .processing, none⟩ := by
    intro run found
    exact (Option.some.inj found).symm
  apply settlement_resumes
  case isGame => exact ⟨by decide +kernel, rfl, by decide +kernel⟩
  case monday => decide
  case closed => decide
  case scoreIds => exact ids
  case scoreSessions => exact sessions
  case tables =>
    exact ⟨Unique.iff_nodup.mpr (by decide +kernel), List.pairwise_singleton _ _, .nil, nofun⟩
  case runs =>
    exact ⟨List.pairwise_singleton _ _, by decide +kernel, by decide +kernel⟩
  case standings => exact standings_settlementScores ids sessions
  case small =>
    intro award member
    have all : ∀ award ∈ awards [Sample.champion, Sample.podium] Sample.bestScores,
        award.rank < 2 ^ 31 := by decide +kernel
    exact all award member
  case resumable =>
    constructor
    case unopened => exact nofun
    case unfinished =>
      intro run found
      rw [isRun run found]
      exact ⟨rfl, described⟩
    case awarded =>
      intro run found
      rw [isRun run found]
      decide +kernel
    case rewarded => exact nofun
  case fresh =>
    exact ⟨by decide +kernel, by decide +kernel, nofun, nofun, by decide +kernel,
      by decide +kernel⟩

end RngGamePlatform
