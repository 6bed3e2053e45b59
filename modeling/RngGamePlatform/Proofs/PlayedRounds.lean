/-
Module: RngGamePlatform.Proofs.PlayedRounds
Purpose: The analytics events of plays and of issued rewards tell the rounds that were played.
Trusted boundary: none
Main exports: Told, EventsTold, PlayedRound, playedRounds, plays_matched, issues_matched
-/
import RngGamePlatform.Proofs.TableInvariants
import RngGamePlatform.Services.Analytics

namespace RngGamePlatform

open Encoding Relational Transactions

variable {env : Platform} {db db' : Database}

/-! ### What the events tell of -/

/-- A reward as it was issued, whatever became of it. -/
def Reward.asIssued (reward : Reward) : Reward :=
  { reward with status := .issued, claimedAt := none }

/-- What an event tells of when it is one of a play or of its reward: a stored row, under
the key of the game of the outcome. -/
inductive Told (db : Database) (event : AnalyticsEvent) : Prop where
  | played {outcome : Outcome} {game : Game} (member : outcome ∈ db.outcomes)
      (isGame : gameById outcome.gameId db = some game)
      (isEvent : event = gamePlayedEvent outcome outcome.playerId game.key)
  | issued {reward : Reward} {outcome : Outcome} {game : Game} (member : reward ∈ db.rewards)
      (ofOutcome : reward.outcomeId = some outcome.id) (played : outcome ∈ db.outcomes)
      (isGame : gameById outcome.gameId db = some game)
      (fits : Database.fitsInteger reward.value = true)
      (isEvent : event = rewardEvent reward.asIssued (py "reward_issued") game.key)
  | other (notPlayed : event.eventType ≠ py "game_played")
      (notIssued : event.eventType ≠ py "reward_issued")

def EventsTold (db : Database) : Prop := ∀ event ∈ db.analytics, Told db event

/-- The games stay, and of the rounds at most the claims of the rewards change. -/
structure RoundsKept (db db' : Database) : Prop where
  games : db'.games = db.games
  outcomes : db.outcomes ⊆ db'.outcomes
  rewards : ∀ reward ∈ db.rewards, ∃ later ∈ db'.rewards, later.asIssued = reward.asIssued

section Keeping

theorem RoundsKept.same (games : db'.games = db.games) (outcomes : db'.outcomes = db.outcomes)
    (rewards : db'.rewards = db.rewards) : RoundsKept db db' where
  games := games
  outcomes := outcomes ▸ List.Subset.refl _
  rewards := fun reward member => ⟨reward, rewards ▸ member, rfl⟩

/-- Outcomes and rewards are added. -/
theorem RoundsKept.added (games : db'.games = db.games)
    (outcomes : db.outcomes <+: db'.outcomes) (rewards : db.rewards <+: db'.rewards) :
    RoundsKept db db' where
  games := games
  outcomes := outcomes.subset
  rewards := fun reward member => ⟨reward, rewards.subset member, rfl⟩

theorem Told.kept {event : AnalyticsEvent} (kept : RoundsKept db db') (told : Told db event) :
    Told db' event := by
  have sameGame : ∀ id, gameById id db' = gameById id db := by
    intro id
    unfold gameById
    rw [kept.games]
  cases told with
  | played member isGame isEvent =>
      exact .played (kept.outcomes member) ((sameGame _).trans isGame) isEvent
  | @issued reward outcome game member ofOutcome played isGame fits isEvent =>
      obtain ⟨later, inLater, same⟩ := kept.rewards reward member
      have sameOutcome : later.asIssued.outcomeId = reward.asIssued.outcomeId :=
        congrArg Reward.outcomeId same
      have sameValue : later.asIssued.value = reward.asIssued.value :=
        congrArg Reward.value same
      exact .issued inLater (sameOutcome.trans ofOutcome) (kept.outcomes played)
        ((sameGame _).trans isGame) ((congrArg Database.fitsInteger sameValue).trans fits)
        (same ▸ isEvent)
  | other notPlayed notIssued => exact .other notPlayed notIssued

/-- Events are added that tell of what is there afterwards. -/
theorem EventsTold.grows {events : List AnalyticsEvent} (told : EventsTold db)
    (kept : RoundsKept db db') (analytics : db'.analytics = db.analytics ++ events)
    (new : ∀ event ∈ events, Told db' event) : EventsTold db' := by
  intro event member
  rw [analytics] at member
  rcases List.mem_append.mp member with before | added
  · exact (told event before).kept kept
  · exact new event added

theorem EventsTold.same (told : EventsTold db) (kept : RoundsKept db db')
    (analytics : db'.analytics = db.analytics) : EventsTold db' := by
  intro event member
  rw [analytics] at member
  exact (told event member).kept kept

/-- An event of another type is added. -/
theorem EventsTold.elsewhere {new : AnalyticsEvent} (told : EventsTold db)
    (eventType : PyStr) (isType : new.eventType = eventType) (kept : RoundsKept db db')
    (analytics : db'.analytics = db.analytics ++ [new])
    (notPlayed : eventType ≠ py "game_played") (notIssued : eventType ≠ py "reward_issued") :
    EventsTold db' := by
  apply told.grows kept analytics
  intro event member
  rw [List.mem_singleton.mp member]
  exact .other (isType ▸ notPlayed) (isType ▸ notIssued)

/-- A round is completed: its outcome, its reward and their two events are added. -/
theorem EventsTold.completed {outcome : Outcome} {reward : Reward} {game : Game}
    (told : EventsTold db) (isGame : gameById outcome.gameId db = some game)
    (ofOutcome : reward.outcomeId = some outcome.id)
    (fits : Database.fitsInteger reward.value = true) (asIssued : reward.asIssued = reward)
    (games : db'.games = db.games)
    (outcomes : db'.outcomes = db.outcomes ++ [outcome])
    (rewards : db'.rewards = db.rewards ++ [reward])
    (analytics : db'.analytics = db.analytics ++
      [gamePlayedEvent outcome outcome.playerId game.key,
        rewardEvent reward (py "reward_issued") game.key]) : EventsTold db' := by
  have kept : RoundsKept db db' := .added games ⟨_, outcomes.symm⟩ ⟨_, rewards.symm⟩
  have inOutcomes : outcome ∈ db'.outcomes := by
    rw [outcomes]
    exact List.mem_append_right _ (List.mem_singleton_self _)
  have inRewards : reward ∈ db'.rewards := by
    rw [rewards]
    exact List.mem_append_right _ (List.mem_singleton_self _)
  have sameGame : gameById outcome.gameId db' = some game := by
    unfold gameById at isGame ⊢
    rw [games]
    exact isGame
  apply told.grows kept analytics
  intro event member
  rcases List.mem_cons.mp member with isPlayed | inRest
  · exact .played inOutcomes sameGame isPlayed
  · have isIssued := List.mem_singleton.mp inRest
    rw [← asIssued] at isIssued
    exact .issued inRewards ofOutcome inOutcomes sameGame fits isIssued

end Keeping

/-- Each effect of a request keeps what the events tell. -/
theorem Effect.told {call : Call} {calls : List Call} (consistent : Consistent env calls db)
    (effect : Effect env call db db') (told : EventsTold db) : EventsTold db' := by
  cases effect with
  | endAlone kind found active noneCommitted written =>
      obtain ⟨_, rfl⟩ := Database.updateSession_ok.mp written
      exact told.same (.same rfl rfl rfl) rfl
  | endWithProof kind found active bound committed latest written =>
      have result := Runs.flushTermination_result written
      subst result
      exact told.same (.same rfl rfl rfl) rfl
  | create isCall foundPlayer foundGame isRules isRow inserted evidence =>
      obtain ⟨_, rfl⟩ := Database.insertSession_ok.mp inserted
      obtain ⟨_, rfl⟩ := insertEvidence_ok.mp evidence
      exact told.elsewhere (py "session_started") rfl (.same rfl rfl rfl) rfl (by decide)
        (by decide)
  | commit isCall found active owner foundGame foundConfig belongs unbound mapped
      hashed isProof inserted kept chained =>
      obtain ⟨_, rfl⟩ := Database.insertProof_ok.mp inserted
      obtain ⟨_, rfl⟩ := Database.insertCustody_ok.mp kept
      obtain ⟨_, rfl⟩ := Database.insertEvent_ok.mp chained
      exact told.same (.same rfl rfl rfl) rfl
  | @reveal gameSession proof _ game _ _ _ ownerId _ draw derivation outcome reward _ now _ _ _
      isCall found active foundProof committed owner foundGame foundConfig foundCustody
      mapped derived isOutcome isReward isRevealed latest inserted rewarded written
      finished =>
      have result := reveal_result inserted rewarded written finished
      obtain ⟨⟨fits, _⟩, _⟩ := Database.insertReward_ok.mp rewarded
      obtain ⟨row, record, commitment, _⟩ := consistent.proofs proof (lookup_mem foundProof)
      cases commitment.session.symm.trans found
      have sameOwner : outcome.playerId = ownerId := by
        rw [isOutcome, ← owner]
        exact commitment.owner
      have isGame : gameById outcome.gameId db = some game := by
        have ofProof : proof.gameId = record.game.id :=
          congrArg FairnessProof.gameId commitment.columns
        have ofSession : record.game.id = gameSession.gameId := lookup_key commitment.game
        rw [isOutcome, ← foundGame, ofProof, ofSession]
        rfl
      subst result
      rw [← sameOwner]
      exact told.completed isGame (by rw [isReward]; rfl) fits (by rw [isReward]; rfl) rfl rfl
        rfl rfl
  | @play gameSession _ _ _ ownerId _ _ _ _ _ outcome _ now _ _ isCall found active owner foundGame
      isRules direct foundConfig belongs evaluated isOutcome isReward inserted rewarded
      finished =>
      have result := play_result inserted rewarded finished
      obtain ⟨⟨fits, _⟩, _⟩ := Database.insertReward_ok.mp rewarded
      have sameOwner : outcome.playerId = ownerId := by
        rw [isOutcome]
        exact owner
      subst result
      rw [← sameOwner]
      exact told.completed (by rw [isOutcome]; exact foundGame) (by rw [isReward]; rfl) fits
        (by rw [isReward]; rfl) rfl rfl rfl rfl
  | score isCall found owner isCompleted ended foundGame isRules foundOutcome
      foundConfig scored isRow inserted evidence =>
      obtain ⟨_, rfl⟩ := Database.insertScore_ok.mp inserted
      obtain ⟨_, rfl⟩ := insertEvidence_ok.mp evidence
      exact told.elsewhere (py "final_score_submitted") rfl (.same rfl rfl rfl) rfl (by decide)
        (by decide)
  | @claim sessionId outcome reward gameKey now found issued written =>
      have result := claim_result written
      subst result
      have kept : RoundsKept db { db with
          rewards := replace Reward.id (claimedAs reward now) db.rewards
          audits := db.audits ++ [rewardAudit (claimedAs reward now) (py "reward_claimed") gameKey]
          analytics := db.analytics ++
            [rewardEvent (claimedAs reward now) (py "reward_claimed") gameKey] } := by
        refine ⟨rfl, List.Subset.refl _, ?_⟩
        intro other member
        by_cases same : other.id = (claimedAs reward now).id
        · have isReward : other = reward :=
            consistent.keys.rewardIds.eq member (rewardBySession_mem found) same
          exact ⟨claimedAs reward now, mem_replace_self (rewardBySession_mem found) rfl,
            isReward ▸ rfl⟩
        · exact ⟨other, mem_replace_of_ne member same, rfl⟩
      exact told.elsewhere (py "reward_claimed") rfl kept rfl (by decide) (by decide)

/-- The statements of a settlement keep it too: their events are of another type. -/
theorem SettlementStatement.told (change : Database → Except ServiceError Database)
    (settles : SettlementStatement change) (view view' : Database) (told : EventsTold view)
    (written : change view = .ok view') : EventsTold view' := by
  cases settles with
  | run row =>
      obtain ⟨_, rfl⟩ := Database.insertRun_ok.mp written
      exact told.same (.same rfl rfl rfl) rfl
  | runChange row =>
      obtain ⟨_, rfl⟩ := Database.updateRun_ok.mp written
      exact told.same (.same rfl rfl rfl) rfl
  | recipient row =>
      obtain ⟨_, rfl⟩ := Database.insertRecipient_ok.mp written
      exact told.same (.same rfl rfl rfl) rfl
  | reward row =>
      obtain ⟨_, rfl⟩ := Database.insertReward_ok.mp written
      exact told.same (.added rfl List.prefix_rfl ⟨_, rfl⟩) rfl
  | issue audits reward gameKey =>
      obtain ⟨_, rfl⟩ := insertEvidence_ok.mp written
      exact told.elsewhere (py "settlement_reward_issued") rfl (.same rfl rfl rfl) rfl (by decide)
        (by decide)
  | completion audits =>
      obtain ⟨_, rfl⟩ := insertEvidence_ok.mp written
      exact told.grows (.same rfl rfl rfl) rfl fun event member => absurd member List.not_mem_nil

theorem eventsTold_invariant (env : Platform) : TableInvariant env EventsTold where
  nothingYet := by
    intro db empty event member
    rw [empty.analytics] at member
    cases member
  effect := fun consistent effect told => effect.told consistent told
  settlement := SettlementStatement.told

/-! ### The rounds -/

/-- A round that was played: its outcome, the reward that was issued for it, and its game. -/
structure PlayedRound where
  outcome : Outcome
  reward : Reward
  game : Game

/-- The round of an outcome. -/
def playedRound (db : Database) (outcome : Outcome) : Option PlayedRound := do
  let reward ← rewardByOutcome outcome.id db
  let game ← gameById outcome.gameId db
  return ⟨outcome, reward, game⟩

def playedRounds (db : Database) : List PlayedRound := db.outcomes.filterMap (playedRound db)

/-- A reward that was issued for an outcome. -/
def Reward.ofRound (reward : Reward) : Bool := reward.settlementRecipientId.isNone

theorem playedRound_iff {outcome : Outcome} {round : PlayedRound} :
    playedRound db outcome = some round ↔ round.outcome = outcome ∧
      rewardByOutcome outcome.id db = some round.reward ∧
      gameById outcome.gameId db = some round.game := by
  obtain ⟨ofOutcome, reward, game⟩ := round
  unfold playedRound
  cases rewardByOutcome outcome.id db with
  | none => simp
  | some found =>
      cases gameById outcome.gameId db with
      | none => simp
      | some foundGame => simp [eq_comm]

section Rounds

variable {calls : List Call} (consistent : Consistent env calls db) (ledger : Ledger db)
  (told : EventsTold db)

theorem playedNotices (db : Database) :
    (expectedNotices db).filter (fun notice => notice.eventType = py "game_played") =
      db.outcomes.map outcomeNotice := by
  simp [expectedNotices, List.filter_map, Function.comp_def, sessionNotice, outcomeNotice,
    rewardNotice, scoreNotice, py_inj, issueType_eq]

theorem issuedNotices (db : Database) :
    (expectedNotices db).filter (fun notice => notice.eventType = py "reward_issued") =
      (db.rewards.filter Reward.ofRound).map (rewardNotice (py "reward_issued")) := by
  have isIssued : ∀ row, decide (issueType row = py "reward_issued") = row.ofRound := by
    intro row
    unfold Reward.ofRound
    cases isRecipient : row.settlementRecipientId <;> simp [issueType_eq, isRecipient]
  have ofRewards : (db.rewards.filter fun row => issueType row = py "reward_issued").map
      (fun row => rewardNotice (issueType row) row) =
        (db.rewards.filter Reward.ofRound).map (rewardNotice (py "reward_issued")) := by
    simp only [isIssued]
    apply List.map_congr_left
    intro row member
    have isType : issueType row = py "reward_issued" :=
      of_decide_eq_true ((isIssued row).trans (List.mem_filter.mp member).2)
    rw [isType]
  rw [← ofRewards]
  simp [expectedNotices, List.filter_map, Function.comp_def, sessionNotice, outcomeNotice,
    rewardNotice, scoreNotice, py_inj]

/-- The event of a play is the one of its outcome, with the key of the outcome's game. -/
theorem Told.play {event : AnalyticsEvent} {outcome : Outcome} (told : Told db event)
    (keys : Keys db) (member : outcome ∈ db.outcomes)
    (same : event.notice = outcomeNotice outcome) :
    ∃ game, gameById outcome.gameId db = some game ∧
      event = gamePlayedEvent outcome outcome.playerId game.key := by
  have isType : event.eventType = py "game_played" := congrArg Notice.eventType same
  cases told with
  | @played other game inOutcomes isGame isEvent =>
      rw [isEvent] at same
      have sameKey : noticeKey (py "game_played") other.id =
          noticeKey (py "game_played") outcome.id := congrArg Notice.eventKey same
      have sameRow : other = outcome :=
        keys.outcomeIds.eq inOutcomes member (sameKey_iff.mp ⟨rfl, sameKey⟩).2
      exact ⟨game, sameRow ▸ isGame, sameRow ▸ isEvent⟩
  | issued _ _ _ _ _ isEvent =>
      rw [isEvent] at isType
      exact absurd (py_inj.mp isType) (by decide)
  | other notPlayed _ => exact absurd isType notPlayed

/-- The event of an issue is the one of its reward, with the key of the game of the reward's
outcome. -/
theorem Told.issue {event : AnalyticsEvent} {reward : Reward} (told : Told db event)
    (keys : Keys db) (member : reward ∈ db.rewards)
    (same : event.notice = rewardNotice (py "reward_issued") reward) :
    ∃ outcome ∈ db.outcomes, ∃ game, reward.outcomeId = some outcome.id ∧
      gameById outcome.gameId db = some game ∧ Database.fitsInteger reward.value = true ∧
        event = rewardEvent reward.asIssued (py "reward_issued") game.key := by
  have isType : event.eventType = py "reward_issued" := congrArg Notice.eventType same
  cases told with
  | played _ _ isEvent =>
      rw [isEvent] at isType
      exact absurd (py_inj.mp isType) (by decide)
  | @issued other outcome game inRewards ofOutcome played isGame fits isEvent =>
      rw [isEvent] at same
      have sameKey : noticeKey (py "reward_issued") other.id =
          noticeKey (py "reward_issued") reward.id := congrArg Notice.eventKey same
      have sameRow : other = reward :=
        keys.rewardIds.eq inRewards member (sameKey_iff.mp ⟨rfl, sameKey⟩).2
      subst sameRow
      exact ⟨outcome, played, game, ofOutcome, isGame, fits, isEvent⟩
  | other _ notIssued => exact absurd isType notIssued

include consistent ledger told

/-- Every outcome has its round. -/
theorem round_of_outcome {outcome : Outcome} (member : outcome ∈ db.outcomes) :
    ∃ round, playedRound db outcome = some round ∧ round.outcome = outcome := by
  obtain ⟨reward, isReward, -⟩ := consistent.rounds.rewardOf outcome member
  have called : outcomeNotice outcome ∈ expectedNotices db := by
    have selected := List.mem_map_of_mem (f := outcomeNotice) member
    rw [← playedNotices] at selected
    exact (List.mem_filter.mp selected).1
  obtain ⟨event, inEvents, isNotice⟩ := List.mem_map.mp (ledger.notices.mem_iff.mpr called)
  obtain ⟨game, isGame, -⟩ := (told event inEvents).play consistent.keys member isNotice
  exact ⟨⟨outcome, reward, game⟩, playedRound_iff.mpr ⟨rfl, isReward, isGame⟩, rfl⟩

/-- The rounds are those of all outcomes. -/
theorem playedRounds_outcomes : (playedRounds db).map PlayedRound.outcome = db.outcomes := by
  unfold playedRounds
  rw [List.map_filterMap]
  refine (List.filterMap_congr ?_).trans List.filterMap_some
  intro outcome member
  obtain ⟨round, isRound, isOutcome⟩ := round_of_outcome consistent ledger told member
  rw [isRound, Option.map_some, isOutcome]

omit told in
/-- What a round consists of. -/
theorem playedRounds_mem {round : PlayedRound} (member : round ∈ playedRounds db) :
    round.outcome ∈ db.outcomes ∧ round.reward ∈ db.rewards ∧
      round.reward.outcomeId = some round.outcome.id ∧ round.reward.ofRound = true ∧
        round.reward.playerId = round.outcome.playerId ∧
          gameById round.outcome.gameId db = some round.game := by
  obtain ⟨outcome, inOutcomes, isRound⟩ := List.mem_filterMap.mp member
  obtain ⟨rfl, isReward, isGame⟩ := playedRound_iff.mp isRound
  obtain ⟨reward, found, samePlayer⟩ := consistent.rounds.rewardOf _ inOutcomes
  have sameReward : reward = round.reward := Option.some.inj (found.symm.trans isReward)
  have inRewards : round.reward ∈ db.rewards := lookup_mem isReward
  have ofOutcome : round.reward.outcomeId = some round.outcome.id := lookup_key isReward
  have ofRound : round.reward.ofRound = true := by
    cases ledger.origin round.reward inRewards with
    | outcome _ _ noRecipient => exact Option.isNone_iff_eq_none.mpr noRecipient
    | recipient _ noOutcome _ _ _ =>
        rw [noOutcome] at ofOutcome
        cases ofOutcome
  exact ⟨inOutcomes, inRewards, ofOutcome, ofRound, sameReward ▸ samePlayer, isGame⟩

/-- The rewards of the rounds are those that were issued for an outcome. -/
theorem playedRounds_rewards :
    ((playedRounds db).map PlayedRound.reward).Perm (db.rewards.filter Reward.ofRound) := by
  have distinct : ((playedRounds db).map PlayedRound.reward).Nodup := by
    have ids : ((playedRounds db).map fun round => round.outcome.id).Nodup := by
      have ofOutcomes : ((playedRounds db).map PlayedRound.outcome).map Outcome.id =
          (playedRounds db).map fun round => round.outcome.id := List.map_map
      rw [← ofOutcomes, playedRounds_outcomes consistent ledger told]
      exact Unique.iff_nodup.mp consistent.keys.outcomeIds
    refine List.pairwise_map.mpr ((List.pairwise_map.mp ids).imp_of_mem ?_)
    intro one other inOne inOther different same
    obtain ⟨_, _, ofOne, _⟩ := playedRounds_mem consistent ledger inOne
    obtain ⟨_, _, ofOther, _⟩ := playedRounds_mem consistent ledger inOther
    rw [same] at ofOne
    exact different (Option.some.inj (ofOne.symm.trans ofOther))
  have stored : (db.rewards.filter Reward.ofRound).Nodup :=
    (Unique.iff_nodup.mp consistent.keys.rewardIds).of_map _ |>.filter _
  refine (List.perm_ext_iff_of_nodup distinct stored).mpr fun reward => ?_
  rw [List.mem_map, List.mem_filter]
  constructor
  · rintro ⟨round, member, rfl⟩
    obtain ⟨_, inRewards, _, ofRound, _⟩ := playedRounds_mem consistent ledger member
    exact ⟨inRewards, ofRound⟩
  · rintro ⟨inRewards, ofRound⟩
    cases ledger.origin reward inRewards with
    | @outcome outcome inOutcomes ofOutcome _ =>
        obtain ⟨round, isRound, isOutcome⟩ := round_of_outcome consistent ledger told inOutcomes
        have member : round ∈ playedRounds db :=
          List.mem_filterMap.mpr ⟨outcome, inOutcomes, isRound⟩
        obtain ⟨_, stored, ofRoundOutcome, _⟩ := playedRounds_mem consistent ledger member
        rw [isOutcome, ← ofOutcome] at ofRoundOutcome
        refine ⟨round, member, ?_⟩
        apply consistent.keys.rewardOutcomes _ stored _ inRewards _ ofRoundOutcome
        rw [ofRoundOutcome, ofOutcome]
        exact Option.some_ne_none _
    | recipient _ _ isRecipient _ _ =>
        rw [Reward.ofRound, isRecipient] at ofRound
        cases ofRound

end Rounds

/-! ### The events of the rounds -/

def PlayTold (event : AnalyticsEvent) (round : PlayedRound) : Prop :=
  event = gamePlayedEvent round.outcome round.outcome.playerId round.game.key

structure IssueTold (event : AnalyticsEvent) (round : PlayedRound) : Prop where
  fits : Database.fitsInteger round.reward.value = true
  player : round.reward.playerId = round.outcome.playerId
  isEvent : event = rewardEvent round.reward.asIssued (py "reward_issued") round.game.key

section Matching

variable {calls : List Call} (consistent : Consistent env calls db) (ledger : Ledger db)
  (told : EventsTold db)
include consistent ledger told

/-- The events of plays are, up to their order, those of the rounds. -/
theorem plays_matched :
    ∃ matched, matched.Perm (db.analytics.filter (AnalyticsEvent.hasType (py "game_played"))) ∧
      List.Forall₂ PlayTold matched (playedRounds db) := by
  have complete : ((db.analytics.filter (AnalyticsEvent.hasType (py "game_played"))).map
      AnalyticsEvent.notice).Perm
        ((playedRounds db).map fun round => outcomeNotice round.outcome) := by
    have selected := ledger.notices.filter fun notice => notice.eventType = py "game_played"
    rw [playedNotices, List.filter_map, ← playedRounds_outcomes consistent ledger told,
      List.map_map] at selected
    exact selected
  apply exists_matching complete
  intro event inEvents round inRounds same
  obtain ⟨inOutcomes, _, _, _, _, isGame⟩ := playedRounds_mem consistent ledger inRounds
  obtain ⟨game, found, isEvent⟩ :=
    (told event (List.mem_filter.mp inEvents).1).play consistent.keys inOutcomes same
  cases found.symm.trans isGame
  exact isEvent

/-- The events of issued rewards are, up to their order, those of the rounds. -/
theorem issues_matched :
    ∃ matched,
      matched.Perm (db.analytics.filter (AnalyticsEvent.hasType (py "reward_issued"))) ∧
        List.Forall₂ IssueTold matched (playedRounds db) := by
  have complete : ((db.analytics.filter (AnalyticsEvent.hasType (py "reward_issued"))).map
      AnalyticsEvent.notice).Perm ((playedRounds db).map fun round =>
        rewardNotice (py "reward_issued") round.reward) := by
    have selected := ledger.notices.filter fun notice => notice.eventType = py "reward_issued"
    have ofRounds := (playedRounds_rewards consistent ledger told).map
      (rewardNotice (py "reward_issued"))
    rw [issuedNotices, List.filter_map] at selected
    rw [List.map_map] at ofRounds
    exact selected.trans ofRounds.symm
  apply exists_matching complete
  intro event inEvents round inRounds same
  obtain ⟨inOutcomes, inRewards, ofOutcome, _, player, isGame⟩ :=
    playedRounds_mem consistent ledger inRounds
  obtain ⟨outcome, stored, game, ofStored, found, fits, isEvent⟩ :=
    (told event (List.mem_filter.mp inEvents).1).issue consistent.keys inRewards same
  have sameId : outcome.id = round.outcome.id :=
    Option.some.inj (ofStored.symm.trans ofOutcome)
  cases consistent.keys.outcomeIds.eq stored inOutcomes sameId
  cases found.symm.trans isGame
  exact ⟨fits, player, isEvent⟩

end Matching

end RngGamePlatform
