/-
Module: RngGamePlatform.Proofs.RewardClaims
Purpose: Which issued rewards a session's claim reaches.
Trusted boundary: none
Main exports: Rooted, reachable_tables, Collectable, Unclaimable,
  issued_rewards_collectable, settlement_reward_unclaimed
-/
import RngGamePlatform.Proofs.EvidenceConservation
import RngGamePlatform.Proofs.ScoringTruth
import RngGamePlatform.Transactions.Alone
import RngGamePlatform.Transactions.Strengthening

namespace RngGamePlatform

open Encoding Relational Transactions

variable {env : Platform} {db db' : Database}

/-! ### The games of the sessions -/

/-- Every session is one of a game. -/
def Rooted (db : Database) : Prop :=
  ∀ row ∈ db.sessions, ∃ game ∈ db.games, game.id = row.gameId

theorem Rooted.same (rooted : Rooted db) (sessions : db'.sessions = db.sessions)
    (games : db'.games = db.games) : Rooted db' := by
  unfold Rooted
  rwa [sessions, games]

/-- Sessions that end keep their game. -/
theorem Rooted.ends (rooted : Rooted db) {row ended : GameSession}
    (isEnd : Ends db row ended)
    (sessions : db'.sessions = replace GameSession.id ended db.sessions)
    (games : db'.games = db.games) : Rooted db' := by
  intro other member
  rw [sessions] at member
  rw [games]
  rcases mem_replace member with rfl | ⟨inDb, _⟩
  · have same : other.gameId = row.gameId := by rw [isEnd.same]
    rw [same]
    exact rooted row (sessionById_mem isEnd.found)
  · exact rooted other inDb

theorem Effect.rooted {call : Call} (rooted : Rooted db) (effect : Effect env call db db') :
    Rooted db' := by
  cases effect with
  | endAlone kind found active noneCommitted written =>
      rcases Database.updateSession_ok.mp written with ⟨_, rfl⟩
      exact rooted.ends (Ends.endedAs kind found active) rfl rfl
  | endWithProof kind found active bound committed latest written =>
      have result := Runs.flushTermination_result written
      subst result
      exact rooted.ends (Ends.endedAs kind found active) rfl rfl
  | create isCall foundPlayer foundGame isRules isRow inserted evidence =>
      rcases Database.insertSession_ok.mp inserted with ⟨_, rfl⟩
      rcases insertEvidence_ok.mp evidence with ⟨_, rfl⟩
      intro other member
      rcases List.mem_append.mp member with inDb | isNew
      · exact rooted other inDb
      · rw [List.mem_singleton.mp isNew, isRow]
        exact ⟨_, lookup_mem foundGame, rfl⟩
  | commit isCall found active owner foundGame foundConfig belongs unbound mapped
      hashed isProof inserted kept chained =>
      rcases Database.insertProof_ok.mp inserted with ⟨_, rfl⟩
      rcases Database.insertCustody_ok.mp kept with ⟨_, rfl⟩
      rcases Database.insertEvent_ok.mp chained with ⟨_, rfl⟩
      exact rooted
  | reveal isCall found active foundProof committed owner foundGame foundConfig
      foundCustody mapped derived isOutcome isReward isRevealed latest inserted
      rewarded written finished =>
      have result := reveal_result inserted rewarded written finished
      subst result
      exact rooted.ends (Ends.completed (sessionById_self found) active) rfl rfl
  | play isCall found active owner foundGame isRules direct foundConfig belongs
      evaluated isOutcome isReward inserted rewarded finished =>
      have result := play_result inserted rewarded finished
      subst result
      exact rooted.ends (Ends.completed found active) rfl rfl
  | score isCall found owner isCompleted ended foundGame isRules foundOutcome
      foundConfig scored isRow inserted evidence =>
      rcases Database.insertScore_ok.mp inserted with ⟨_, rfl⟩
      rcases insertEvidence_ok.mp evidence with ⟨_, rfl⟩
      exact rooted
  | claim found issued written =>
      rcases bind_eq_ok.mp written with ⟨middle, updated, evidence⟩
      cases updated
      rcases insertEvidence_ok.mp evidence with ⟨_, rfl⟩
      exact rooted

theorem Effects.rooted {call : Call} (rooted : Rooted db)
    (effects : Effects env call db db') : Rooted db' := by
  cases effects with
  | unchanged same => exact same ▸ rooted
  | one effect => exact effect.rooted rooted
  | ending first _ second => exact second.rooted (first.rooted rooted)

/-! ### The settlements -/

/-- Every statement of the program keeps the games of the sessions. -/
def Grounded {α : Type} (program : Prog α) : Prop :=
  program.Confined Rooted (fun _ => True) fun _ => True

section Settlements

variable {α β : Type}

theorem Grounded.bind {program : Prog α} {f : α → Prog β} (first : Grounded program)
    (rest : ∀ value, Grounded (f value)) : Grounded (program >>= f) := by
  apply confined_bind.mpr
  exact first.weaken fun value _ => rest value

theorem Grounded.of_readOnly {program : Prog α} (readOnly : program.ReadOnly) :
    Grounded program := by
  induction program with
  | ret value => trivial
  | raise error => trivial
  | now next ih => exact fun time => ih time (readOnly time)
  | select locks next ih => exact fun view _ => ih view (readOnly view)
  | execute locks change next ih => exact readOnly.elim
  | commit next ih => exact readOnly.elim

/-- A statement that writes neither sessions nor games. -/
theorem Grounded.update {locks : Database → List Lock}
    {change : Database → Except ServiceError Database}
    (same : ∀ view view', change view = .ok view' →
      view'.sessions = view.sessions ∧ view'.games = view.games) :
    Grounded (Program.update locks change) :=
  ⟨fun _ _ _ _ => trivial,
    fun _ _ rooted written => rooted.same (same _ _ written).1 (same _ _ written).2, trivial⟩

theorem addSettlementRun_grounded (row : SettlementRun) : Grounded (addSettlementRun row) := by
  apply Grounded.update
  intro view view' written
  rcases Database.insertRun_ok.mp written with ⟨_, rfl⟩
  exact ⟨rfl, rfl⟩

theorem saveSettlementRun_grounded (row : SettlementRun) :
    Grounded (saveSettlementRun row) := by
  apply Grounded.update
  intro view view' written
  rcases Database.updateRun_ok.mp written with ⟨_, rfl⟩
  exact ⟨rfl, rfl⟩

theorem addSettlementRecipient_grounded (row : SettlementRecipient) :
    Grounded (addSettlementRecipient row) := by
  apply Grounded.update
  intro view view' written
  rcases Database.insertRecipient_ok.mp written with ⟨_, rfl⟩
  exact ⟨rfl, rfl⟩

theorem addSettlementReward_grounded (rewardId : Uuid) (recipient : SettlementRecipient) :
    Grounded (addSettlementReward rewardId recipient) := by
  apply Grounded.bind
  · apply Grounded.update
    intro view view' written
    rcases Database.insertReward_ok.mp written with ⟨_, rfl⟩
    exact ⟨rfl, rfl⟩
  · exact fun _ => trivial

theorem insertEvidence_grounded (locks : Database → List Lock) (audits : List AuditRecord)
    (events : List AnalyticsEvent) :
    Grounded (Program.update locks (insertEvidence audits events)) := by
  apply Grounded.update
  intro view view' written
  rcases insertEvidence_ok.mp written with ⟨_, rfl⟩
  exact ⟨rfl, rfl⟩

theorem issueReward_grounded (recipient : SettlementRecipient) (gameKey : PyStr)
    (rewardId : Uuid) : Grounded (issueReward recipient gameKey rewardId) := by
  apply Grounded.bind (.of_readOnly (.query _ _))
  intro found
  cases found with
  | some _ => trivial
  | none =>
      exact Grounded.bind (addSettlementReward_grounded _ _) fun _ =>
        insertEvidence_grounded _ _ _

theorem settleRanks_grounded (run : SettlementRun) (tiers : List Json) (gameKey : PyStr)
    (draw : SettlementDraw) (ranked : List (FinalScore × Nat))
    (recipients : List SettlementRecipient) :
    Grounded (settleRanks run tiers gameKey draw ranked recipients) := by
  induction ranked generalizing recipients with
  | nil => trivial
  | cons entry ranked ih =>
      obtain ⟨score, rank⟩ := entry
      unfold settleRanks
      split
      · exact ih recipients
      · apply Grounded.bind (.of_readOnly (.ofExcept _))
        intro awarded
        apply Grounded.bind
        · unfold findOrAddRecipient
          split
          · trivial
          · exact Grounded.bind (addSettlementRecipient_grounded _) fun _ => trivial
        · exact fun _ => Grounded.bind (issueReward_grounded _ _ _) fun _ => ih _

theorem openRun_grounded (existing : Option SettlementRun) (gameId : Uuid)
    (periodStart periodEnd : Int) (runId : Uuid) :
    Grounded (openRun existing gameId periodStart periodEnd runId) := by
  cases existing with
  | none =>
      apply Grounded.bind (.of_readOnly (.query _ _))
      intro found
      apply Grounded.bind (.of_readOnly (.orRaise _ _))
      intro config
      apply Grounded.bind (.of_readOnly (.ofExcept _))
      intro tiers
      exact Grounded.bind (addSettlementRun_grounded _) fun _ => trivial
  | some run => exact Grounded.bind (.of_readOnly (.ofExcept _)) fun _ => trivial

theorem completeRun_grounded (run : SettlementRun) (gameKey : PyStr)
    (periodStart periodEnd now : Int) :
    Grounded (completeRun run gameKey periodStart periodEnd now) := by
  apply Grounded.bind (saveSettlementRun_grounded _)
  intro _
  apply Grounded.bind (.of_readOnly (.query _ _))
  intro recipients
  exact Grounded.bind (insertEvidence_grounded _ _ _) fun _ => trivial

theorem settlePeriod_grounded (existing : Option SettlementRun) (game : Game)
    (periodStart now : Int) (draw : SettlementDraw) :
    Grounded (settlePeriod existing game periodStart now draw) := by
  apply Grounded.bind (openRun_grounded _ _ _ _ _)
  rintro ⟨run, tiers⟩
  apply Grounded.bind (.of_readOnly (.query _ _))
  intro scores
  apply Grounded.bind (.of_readOnly (.query _ _))
  intro recipients
  exact Grounded.bind (settleRanks_grounded _ _ _ _ _ _) fun _ =>
    completeRun_grounded _ _ _ _ _

theorem settleLeaderboard_grounded (gameKey : PyStr) (periodStart : Int) (authorized : Bool)
    (draw : SettlementDraw) :
    Grounded (settleLeaderboard gameKey periodStart authorized draw) := by
  apply Grounded.bind (.of_readOnly (.require _ _))
  intro _
  apply Grounded.bind (.of_readOnly (.require _ _))
  intro _
  apply Grounded.bind
  · apply Grounded.bind (.of_readOnly (eligibleLeaderboardGame_reads _))
    exact fun _ => Grounded.bind (.of_readOnly (byRules_reads _ _)) fun _ => trivial
  intro game
  apply Grounded.bind (.of_readOnly (.query _ _))
  intro _
  apply Grounded.bind (.of_readOnly (.query _ _))
  intro existing
  unfold settleOnce
  split
  · exact Grounded.bind (.of_readOnly (.query _ _)) fun _ => trivial
  · have reads : Grounded clock := fun _ => trivial
    apply reads.bind
    exact fun now => Grounded.bind (.of_readOnly (.require _ _)) fun _ =>
      settlePeriod_grounded _ _ _ _ _

end Settlements

/-- A request keeps its outline together with the games of the sessions. -/
theorem body_rooted (call : Call) :
    (body env call).Outlined ((bookkeeping env).both Rooted) (fun _ => True) id [] := by
  have judged : ∀ db, ((bookkeeping env).both Rooted).inv db →
      Meets ((bookkeeping env).both Rooted).Rely
        (fun db db' held => ((bookkeeping env).both Rooted).inv db →
          ((bookkeeping env).both Rooted).inv db' ∧ (bookkeeping env).commits held db db')
        (dutyOf env False call).fails (settled <$> body env call)
        ((dutyOf env False call).ends fun result phase => Fact env call result phase.db)
        (.running db id []) := by
    rintro db ⟨⟨⟨calls, consistent⟩, _⟩, _⟩
    have runs := @body_runs env False calls call db consistent False.elim
    refine runs.weaken (fun _ _ _ relied => others_of_rely relied.left) ?_
      (fun _ fails => fails) fun _ _ ends => ends
    rintro db db' held guarantee ⟨⟨⟨calls, consistent⟩, ledger⟩, rooted⟩
    have known : call ∈ call :: calls := List.mem_cons_self
    have consistent' : Consistent env (call :: calls) db :=
      consistent.grows (List.subset_cons_self _ _)
    exact ⟨⟨⟨⟨_, guarantee.effects.consistent consistent' known⟩,
      guarantee.effects.ledger consistent' known ledger⟩, guarantee.effects.rooted rooted⟩,
      .ofFrame guarantee.moves (guarantee.effects.frame consistent' known)⟩
  exact outlined_map.mp (outlined_of_meets judged)

/-- Every call keeps the contract together with the games of the sessions. -/
theorem operate_rooted (operation : Operation) : (operate env operation).Outlined
    ((bookkeeping env).both Rooted) (fun _ => True) id [] := by
  cases operation with
  | request call =>
      exact outlined_map.mpr (body_rooted call)
  | settleLeaderboard gameKey periodStart authorized draw =>
      apply outlined_map.mpr
      exact (settleLeaderboard_outlined gameKey periodStart authorized draw).both
        (settleLeaderboard_grounded _ _ _ _) fun _ rooted => rooted
  | retrieveFairnessProof outcomeId ownerId =>
      exact outlined_of_readOnly (retrieveFairnessProof_reads _ _).map
  | verifyFairnessProof fuel outcomeId ownerId =>
      exact outlined_of_readOnly (verifyFairnessProof_reads _ _ _).map
  | retrieveOutcomeAudit outcomeId ownerId =>
      exact outlined_of_readOnly (retrieveOutcomeAudit_reads _ _).map
  | playerRewards createdAt playerId ownerId limit offset =>
      exact outlined_of_readOnly (playerRewards_reads _ _ _ _ _).map
  | canonicalLeaderboard ownerId gameKey periodStart limit offset after =>
      exact outlined_of_readOnly (canonicalLeaderboard_reads _ _ _ _ _ _).map
  | leaderboardProjectionFacts ownerId gameKey periodStart playerId =>
      exact outlined_of_readOnly (leaderboardProjectionFacts_reads _ _ _ _).map
  | canonicalPlayerRank playerId ownerId gameKey periodStart =>
      exact outlined_of_readOnly (canonicalPlayerRank_reads _ _ _ _).map

/-- The committed tables of a reachable state: consistent, with complete evidence, and
every session one of a game. -/
theorem reachable_tables (reachable : ReachableState env db) :
    (∃ calls, Consistent env calls db) ∧ Ledger db ∧ Rooted db := by
  obtain ⟨system, reached, rfl⟩ := reachable
  have start : ∀ db, NothingYet db → ((bookkeeping env).both Rooted).inv db := by
    intro db empty
    have none : Rooted db := by
      unfold Rooted
      rw [empty.catalogue.sessions]
      exact nofun
    exact ⟨⟨⟨[], .catalogueOnly empty.catalogue⟩, .nothingYet empty⟩, none⟩
  obtain ⟨⟨consistent, ledger⟩, rooted⟩ :=
    (Contract.sound_of_reachable Lock.conflicts_symm operate_rooted start reached).inv
  exact ⟨consistent, ledger, rooted⟩

/-! ### Claims -/

/-- A reward after its claim. -/
def Reward.claimed (reward : Reward) (now : Int) : Reward :=
  { reward with status := .claimed, claimedAt := some now }

/-- A claim of the player that names some session collects the reward and changes no
other, with its evidence; and another claim finds it as it is. -/
def Collectable (db : Database) (reward : Reward) : Prop :=
  ∃ sessionId, ∀ now, ∃ final,
    (claimSessionReward sessionId reward.playerId).run [now] db db =
        some (.ok (reward.claimed now), final) ∧
      final.rewards = replace Reward.id (reward.claimed now) db.rewards ∧
      Recorded (py "reward_claimed") reward.id final ∧
      ∀ later, (claimSessionReward sessionId reward.playerId).run [later] final final =
        some (.ok (reward.claimed now), final)

/-- No claim, of whatever session and by whomever, returns the reward. -/
def Unclaimable (db : Database) (reward : Reward) : Prop :=
  ∀ sessionId owner times result final,
    (claimSessionReward sessionId owner).run times db db = some (.ok result, final) →
      result.id ≠ reward.id

section Claims

variable {sessionId : Uuid} {outcome : Outcome} {reward : Reward} {gameKey : PyStr}
  {now : Int}

/-- The reward that a session has. -/
theorem rewardBySession_iff : rewardBySession sessionId db = some (outcome, reward) ↔
    outcomeBySession sessionId db = some outcome ∧
      rewardByOutcome outcome.id db = some reward := by
  unfold rewardBySession
  simp only [Option.bind_eq_bind, Option.bind_eq_some_iff, Option.pure_def,
    Option.some.injEq, Prod.mk.injEq]
  constructor
  · rintro ⟨_, isOutcome, _, isReward, rfl, rfl⟩
    exact ⟨isOutcome, isReward⟩
  · rintro ⟨isOutcome, isReward⟩
    exact ⟨outcome, isOutcome, reward, isReward, rfl, rfl⟩

theorem claimSessionReward_issued (found : rewardBySession sessionId db = some (outcome, reward))
    (issued : reward.status = .issued)
    (isGame : gameKeyOfReward reward.id db = some gameKey)
    (written : flushClaim (reward.claimed now) gameKey db = .ok db') :
    (claimSessionReward sessionId reward.playerId).run [now] db db =
      some (.ok (reward.claimed now), db') := by
  apply Program.Ends.returns
  have isClaim : claimReward reward now = .ok (some (reward.claimed now)) := by
    unfold claimReward
    rw [issued]
    rfl
  have sameId : (reward.claimed now).id = reward.id := rfl
  simp only [claimSessionReward, lockRewardBySession, found, claimLocked, require, clock, isClaim,
    gameKeyForReward, read, orRaise, commitWork, ends_bind, ends_query, Option.map_some,
    ends_require, ends_clock_cons, ends_ofExcept_ok, sameId, isGame, ends_orRaise_some,
    saveClaim, ends_update_ok written, ends_commitWork, not_true_eq_false]
  exact ⟨fun _ => ⟨rfl, rfl⟩, False.elim⟩

theorem claimSessionReward_claimed
    (found : rewardBySession sessionId db = some (outcome, reward))
    (claimed : reward.status = .claimed) :
    (claimSessionReward sessionId reward.playerId).run [now] db db =
      some (.ok reward, db) := by
  apply Program.Ends.returns
  have isClaim : claimReward reward now = .ok none := if_pos claimed
  simp [claimSessionReward, lockRewardBySession, found, claimLocked, require, clock, isClaim,
    commitWork]

/-- The row that a session claims was issued for its outcome. -/
theorem outcomeId_of_rewardBySession
    (found : rewardBySession sessionId db = some (outcome, reward)) :
    reward.outcomeId = some outcome.id ∧ reward ∈ db.rewards := by
  have isReward := (rewardBySession_iff.mp found).2
  exact ⟨lookup_key isReward, lookup_mem isReward⟩

theorem claimReward_row {claimed : Reward}
    (isClaim : claimReward reward now = .ok (some claimed)) : claimed.id = reward.id := by
  unfold claimReward at isClaim
  split at isClaim
  · cases isClaim
  · split at isClaim
    · cases isClaim
    · cases isClaim
      rfl

/-- A claim returns the reward that the session has. -/
theorem claimSessionReward_found {owner : Uuid} {times : List Int} {result : Reward}
    (ran : (claimSessionReward sessionId owner).run times db db = some (.ok result, db')) :
    ∃ outcome reward, rewardBySession sessionId db = some (outcome, reward) ∧
      result.id = reward.id := by
  have ends : (claimSessionReward sessionId owner).Ends True
      (fun value _ _ _ => ∃ outcome reward,
        rewardBySession sessionId db = some (outcome, reward) ∧ value.id = reward.id)
      (fun _ _ => True) times db db := by
    cases isFound : rewardBySession sessionId db with
    | none =>
        simp only [claimSessionReward, lockRewardBySession, ends_bind, ends_query, isFound,
          Option.map_none, missingReward, getSession, read]
        cases sessionById sessionId db with
        | none => trivial
        | some gameSession => simp [orRaise, require, raise]
    | some pair =>
        obtain ⟨outcome, reward⟩ := pair
        simp only [claimSessionReward, lockRewardBySession, ends_bind, ends_query, isFound,
          Option.map_some, claimLocked, require, ends_require]
        refine ⟨fun _ => ?_, fun _ => trivial⟩
        cases times with
        | nil => trivial
        | cons now times =>
            simp only [clock, ends_clock_cons]
            cases isClaim : claimReward reward now with
            | error error => trivial
            | ok changed =>
                cases changed with
                | none => exact ⟨outcome, reward, rfl, rfl⟩
                | some claimed =>
                    have sameRow := claimReward_row isClaim
                    simp only [ends_bind, ends_ofExcept_ok, gameKeyForReward, read, ends_query]
                    cases gameKeyOfReward claimed.id db with
                    | none => trivial
                    | some gameKey =>
                        simp only [orRaise, ends_orRaise_some, saveClaim, ends_update, ends_bind]
                        exact ⟨fun _ _ => ⟨outcome, reward, rfl, sameRow⟩, fun _ _ => trivial⟩
  exact ends.returned ran

end Claims

/-! ### The events of other rows -/

/-- A key tells the type and the row of its event. -/
theorem noticeKey_cancel {one two : PyStr} {first second : Uuid}
    (plainOne : codePoint ':' ∉ one) (plainTwo : codePoint ':' ∉ two)
    (same : noticeKey one first = noticeKey two second) : one = two ∧ first = second := by
  unfold noticeKey at same
  rw [List.append_assoc, List.append_assoc] at same
  obtain ⟨sameType, sameRow⟩ := colon_cancel plainOne plainTwo same
  exact ⟨sameType, uuidStr_injective sameRow⟩

/-- An unclaimed reward has no event of a claim. -/
theorem claim_unannounced {row : Reward} (keys : Keys db) (ledger : Ledger db)
    (member : row ∈ db.rewards) (notClaimed : row.status ≠ .claimed) :
    lookup AnalyticsEvent.eventKey (noticeKey (py "reward_claimed") row.id) db.analytics =
      none := by
  have plainClaim : codePoint ':' ∉ py "reward_claimed" := by decide
  have other : ∀ name id, codePoint ':' ∉ py name → name ≠ "reward_claimed" →
      noticeKey (py name) id ≠ noticeKey (py "reward_claimed") row.id := by
    intro name id plain different same
    exact different (py_inj.mp (noticeKey_cancel plain plainClaim same).1)
  apply lookup_none.mpr
  intro event inEvents sameKey
  have called : event.notice ∈ expectedNotices db :=
    ledger.notices.mem_iff.mp (List.mem_map_of_mem inEvents)
  have sameNotice : event.notice.eventKey = noticeKey (py "reward_claimed") row.id := sameKey
  simp only [expectedNotices, List.mem_append, List.mem_map] at called
  rcases called with ⟨_, _, isNotice⟩ | ⟨_, _, isNotice⟩ | ⟨issued, _, isNotice⟩ |
    ⟨claimed, inClaimed, isNotice⟩ | ⟨_, _, isNotice⟩
  · rw [← isNotice] at sameNotice
    exact other "session_started" _ (by decide) (by decide) sameNotice
  · rw [← isNotice] at sameNotice
    exact other "game_played" _ (by decide) (by decide) sameNotice
  · rw [← isNotice] at sameNotice
    cases isRecipient : issued.settlementRecipientId.isNone with
    | true =>
        have isType : issueType issued = py "reward_issued" := if_pos isRecipient
        rw [isType] at sameNotice
        exact other "reward_issued" _ (by decide) (by decide) sameNotice
    | false =>
        have isType : issueType issued = py "settlement_reward_issued" := by
          unfold issueType
          rw [isRecipient]
          rfl
        rw [isType] at sameNotice
        exact other "settlement_reward_issued" _ (by decide) (by decide) sameNotice
  · rw [← isNotice] at sameNotice
    obtain ⟨inRewards, isClaimed⟩ := List.mem_filter.mp inClaimed
    have sameRow : claimed.id = row.id := (noticeKey_cancel plainClaim plainClaim sameNotice).2
    rw [keys.rewardIds.eq inRewards member sameRow] at isClaimed
    exact notClaimed (of_decide_eq_true isClaimed)
  · rw [← isNotice] at sameNotice
    exact other "final_score_submitted" _ (by decide) (by decide) sameNotice

/-! ### Which rewards can be collected -/

section Collecting

variable {reward : Reward} {calls : List Call}

/-- The reward of an outcome is found by the session of the outcome, and its game. -/
theorem session_of_outcome (consistent : Consistent env calls db) (ledger : Ledger db)
    (rooted : Rooted db) (member : reward ∈ db.rewards) (hasOutcome : reward.outcomeId ≠ none) :
    ∃ outcome gameKey, rewardBySession outcome.sessionId db = some (outcome, reward) ∧
      gameKeyOfReward reward.id db = some gameKey := by
  have keys := consistent.keys
  cases ledger.origin reward member with
  | recipient _ noOutcome _ _ _ => exact absurd noOutcome hasOutcome
  | @outcome outcome inOutcomes isOutcome _ =>
      have bySession : outcomeBySession outcome.sessionId db = some outcome :=
        keys.outcomeSessions.lookup inOutcomes rfl
      have byId : outcomeById outcome.id db = some outcome :=
        keys.outcomeIds.lookup inOutcomes rfl
      have byOutcome : rewardByOutcome outcome.id db = some reward := by
        obtain ⟨other, found⟩ := lookup_isSome.mpr ⟨reward, member, isOutcome⟩
        have sameOutcome : reward.outcomeId = other.outcomeId :=
          isOutcome.trans (lookup_key found).symm
        have isReward := keys.rewardOutcomes reward member other (lookup_mem found)
          hasOutcome sameOutcome
        rw [isReward]
        exact found
      obtain ⟨gameSession, isSession, _, _⟩ := consistent.rounds.outcomeOf outcome inOutcomes
      obtain ⟨game, inGames, isGame⟩ := rooted gameSession (lookup_mem isSession)
      obtain ⟨found, isFound⟩ : ∃ found, gameById gameSession.gameId db = some found :=
        lookup_isSome.mpr ⟨game, inGames, isGame⟩
      have byReward : lookup Reward.id reward.id db.rewards = some reward :=
        keys.rewardIds.lookup member rfl
      refine ⟨outcome, found.key, rewardBySession_iff.mpr ⟨bySession, byOutcome⟩, ?_⟩
      simp only [gameKeyOfReward, byReward, isOutcome, byId, isSession, isFound,
        Option.bind_eq_bind, Option.bind_some, Option.pure_def]

/-- The tables after the claim of an issued reward. -/
theorem flushClaim_succeeds {gameKey : PyStr} {now : Int}
    (unannounced : lookup AnalyticsEvent.eventKey
      (noticeKey (py "reward_claimed") reward.id) db.analytics = none) :
    ∃ final, flushClaim (reward.claimed now) gameKey db = .ok final := by
  refine ⟨_, bind_eq_ok.mpr ⟨_, rfl, insertEvidence_ok.mpr ⟨⟨?_, ?_⟩, rfl⟩⟩⟩
  · intro event member
    rw [List.mem_singleton.mp member]
    exact unannounced
  · exact List.pairwise_singleton _ _

/-- The session finds its reward again after the claim. -/
theorem rewardBySession_claimed {outcome : Outcome} {sessionId : Uuid} {gameKey : PyStr}
    {now : Int} {final : Database} (keys : Keys db)
    (found : rewardBySession sessionId db = some (outcome, reward))
    (written : flushClaim (reward.claimed now) gameKey db = .ok final) :
    rewardBySession sessionId final = some (outcome, reward.claimed now) := by
  obtain ⟨isOutcome, isReward⟩ := rewardBySession_iff.mp found
  obtain ⟨ofOutcome, member⟩ := outcomeId_of_rewardBySession found
  have shared : ∀ old ∈ db.rewards, old.id = (reward.claimed now).id →
      old.outcomeId = (reward.claimed now).outcomeId := by
    intro old inRewards same
    rw [keys.rewardIds.eq inRewards member same]
    rfl
  have sameOutcome : (reward.claimed now).outcomeId = some outcome.id := ofOutcome
  have isFound : lookup Reward.outcomeId (reward.claimed now).outcomeId db.rewards =
      some reward := by
    rw [sameOutcome]
    exact isReward
  have replaced := lookup_replace isFound rfl shared
  rw [sameOutcome] at replaced
  rw [claim_result written]
  exact rewardBySession_iff.mpr ⟨isOutcome, replaced⟩

theorem collectable_of_outcome (consistent : Consistent env calls db) (ledger : Ledger db)
    (rooted : Rooted db) (member : reward ∈ db.rewards) (issued : reward.status = .issued)
    (hasOutcome : reward.outcomeId ≠ none) : Collectable db reward := by
  have keys := consistent.keys
  obtain ⟨outcome, gameKey, found, isGame⟩ :=
    session_of_outcome consistent ledger rooted member hasOutcome
  have notClaimed : reward.status ≠ .claimed := by
    rw [issued]
    nofun
  refine ⟨outcome.sessionId, fun now => ?_⟩
  obtain ⟨final, written⟩ := @flushClaim_succeeds db reward gameKey now
    (claim_unannounced keys ledger member notClaimed)
  have rewards : final.rewards = replace Reward.id (reward.claimed now) db.rewards := by
    rw [claim_result written]
  have recorded : Recorded (py "reward_claimed") reward.id final := by
    let call : Call := .claimSessionReward outcome.sessionId reward.playerId
    have known : call ∈ call :: calls := List.mem_cons_self
    have consistent' := consistent.grows (List.subset_cons_self call calls)
    have effect : Effect env call db final := .claim found issued written
    have inFinal : reward.claimed now ∈ final.rewards := by
      rw [rewards]
      exact mem_replace_self member rfl
    exact (claims_recorded (effect.consistent consistent' known).keys
      (effect.ledger consistent' ledger) inFinal).mp nofun
  exact ⟨final, claimSessionReward_issued found issued isGame written, rewards, recorded,
    fun later => claimSessionReward_claimed (rewardBySession_claimed keys found written) rfl⟩

/-- A reward without an outcome is the reward of no session. -/
theorem unclaimable_of_settlement (keys : Keys db) (member : reward ∈ db.rewards)
    (noOutcome : reward.outcomeId = none) : Unclaimable db reward := by
  intro sessionId owner times result final ran sameRow
  obtain ⟨outcome, found, isFound, ofFound⟩ := claimSessionReward_found ran
  obtain ⟨ofOutcome, inRewards⟩ := outcomeId_of_rewardBySession isFound
  have isReward : found = reward :=
    keys.rewardIds.eq inRewards member (ofFound.symm.trans sameRow)
  rw [isReward, noOutcome] at ofOutcome
  cases ofOutcome

/-- A reward that is collected was issued for an outcome. -/
theorem outcome_of_collectable (keys : Keys db) (member : reward ∈ db.rewards)
    (collectable : Collectable db reward) : reward.outcomeId ≠ none := by
  intro noOutcome
  obtain ⟨sessionId, collects⟩ := collectable
  obtain ⟨final, ran, _⟩ := collects 0
  exact unclaimable_of_settlement keys member noOutcome _ _ _ _ _ ran rfl

end Collecting

/-- In every reachable state an issued reward can be collected, once, by the claim of some
session exactly if it was issued for an outcome, and no claim reaches any other reward. -/
theorem issued_rewards_collectable (reachable : ReachableState env db) (reward : Reward)
    (member : reward ∈ db.rewards) (issued : reward.status = .issued) :
    (Collectable db reward ↔ reward.outcomeId ≠ none) ∧
      (reward.outcomeId = none → Unclaimable db reward) := by
  obtain ⟨⟨calls, consistent⟩, ledger, rooted⟩ := reachable_tables reachable
  refine ⟨⟨outcome_of_collectable consistent.keys member, ?_⟩, ?_⟩
  · exact collectable_of_outcome consistent ledger rooted member issued
  · exact unclaimable_of_settlement consistent.keys member

namespace Sample

/-- The champion of a week of skill checks is awarded 500. -/
def championPayload : Json :=
  Json.object
    [(py "tiers",
      .arr
        [Json.object
          [(py "key", .str (py "champion")), (py "min_rank", .int 1), (py "max_rank", .int 1),
            (py "reward_value", .int 500)]])]

def tieredCatalogue : Database :=
  { catalogue with tierConfigs := [⟨41, 4, 1, championPayload, 0⟩] }

theorem tiered_nothing_yet : NothingYet tieredCatalogue :=
  ⟨⟨rfl, rfl, rfl, rfl, rfl, rfl, rfl, rfl⟩, rfl, rfl, rfl, rfl⟩

/-- The settlement of the week of the epoch. -/
def settleWeek : Operation :=
  .settleLeaderboard (py "skill_check") (weekStart 1000) true ⟨42, fun _ => 43, fun _ => 44⟩

/-- A skill check is played and submitted, and its week is settled. -/
def settledLabels : List (Label Int Operation) :=
  calling (.request skill) 0 13 1000 ++ calling (.request playSkill) 1 9 2000 ++
    calling (.request submitSkill) 2 11 3000 ++ calling settleWeek 3 17 (days 8)

theorem settled_followed : (System.follow Lock.conflicts (operate platform)
    ⟨tieredCatalogue, []⟩ settledLabels).map (fun system =>
      system.db.rewards.map fun row => (row.status, row.outcomeId.isSome)) =
    some [(.issued, true), (.issued, false)] := by
  decide +kernel

theorem settled_runs : (System.follow Lock.conflicts (operate platform) ⟨tieredCatalogue, []⟩
    settledLabels).isSome = true := by
  obtain ⟨system, isRun, -⟩ := Option.map_eq_some_iff.mp settled_followed
  exact Option.isSome_of_eq_some isRun

@[irreducible] def settledWeek : PlatformSystem :=
  (System.follow Lock.conflicts (operate platform) ⟨tieredCatalogue, []⟩ settledLabels).get
    settled_runs

/-- The rewards of the round and of the week. -/
theorem settledWeek_rewards :
    (settledWeek.db.rewards.map fun row => (row.status, row.outcomeId.isSome)) =
      [(.issued, true), (.issued, false)] := by
  obtain ⟨system, isRun, rewards⟩ := Option.map_eq_some_iff.mp settled_followed
  unfold settledWeek
  rw [Option.get_of_eq_some settled_runs isRun]
  exact rewards

theorem settledWeek_reachable : ReachableState platform settledWeek.db := by
  refine ⟨settledWeek, ?_, rfl⟩
  unfold settledWeek
  exact (Reachable.start tieredCatalogue tiered_nothing_yet).follow
    (Option.some_get settled_runs).symm

end Sample

/-- The reward of the skill check can be collected, and that of the champion cannot. -/
theorem issued_rewards_collectable_settled :
    (∃ reward ∈ Sample.settledWeek.db.rewards, reward.status = .issued ∧
      Collectable Sample.settledWeek.db reward) ∧
    ∃ reward ∈ Sample.settledWeek.db.rewards, reward.status = .issued ∧
      Unclaimable Sample.settledWeek.db reward := by
  have listed : ∀ hasOutcome, ∃ reward ∈ Sample.settledWeek.db.rewards,
      reward.status = .issued ∧ reward.outcomeId.isSome = hasOutcome := by
    intro hasOutcome
    have inRows : (RewardStatus.issued, hasOutcome) ∈ Sample.settledWeek.db.rewards.map
        fun row => (row.status, row.outcomeId.isSome) := by
      rw [Sample.settledWeek_rewards]
      cases hasOutcome <;> simp
    obtain ⟨reward, member, fields⟩ := List.mem_map.mp inRows
    exact ⟨reward, member, Prod.mk.inj fields⟩
  obtain ⟨spun, inRewards, issued, hasOutcome⟩ := listed true
  obtain ⟨award, inAwards, isIssued, noOutcome⟩ := listed false
  refine ⟨⟨spun, inRewards, issued, ?_⟩, award, inAwards, isIssued, ?_⟩
  · exact (issued_rewards_collectable Sample.settledWeek_reachable spun inRewards issued).1.mpr
      (Option.isSome_iff_ne_none.mp hasOutcome)
  · exact (issued_rewards_collectable Sample.settledWeek_reachable award inAwards isIssued).2
      (Option.isNone_iff_eq_none.mp (Option.isSome_eq_false_iff.mp noOutcome))

/-- The reward of the champion is issued, and no claim of any session returns it. -/
theorem settlement_reward_unclaimed :
    ReachableState Sample.platform Sample.settledWeek.db ∧
      ∃ reward ∈ Sample.settledWeek.db.rewards, reward.status = .issued ∧
        ∀ sessionId owner times result final,
          (claimSessionReward sessionId owner).run times Sample.settledWeek.db
            Sample.settledWeek.db = some (.ok result, final) → result.id ≠ reward.id := by
  refine ⟨Sample.settledWeek_reachable, ?_⟩
  have listed : (RewardStatus.issued, false) ∈ Sample.settledWeek.db.rewards.map
      fun row => (row.status, row.outcomeId.isSome) := by
    rw [Sample.settledWeek_rewards]
    exact List.mem_cons_of_mem _ List.mem_cons_self
  obtain ⟨reward, member, fields⟩ := List.mem_map.mp listed
  obtain ⟨issued, noSome⟩ := Prod.mk.inj fields
  obtain ⟨⟨_, consistent⟩, _⟩ := reachable_tables Sample.settledWeek_reachable
  exact ⟨reward, member, issued, unclaimable_of_settlement consistent.keys member
    (Option.isNone_iff_eq_none.mp (Option.isSome_eq_false_iff.mp noSome))⟩

end RngGamePlatform
