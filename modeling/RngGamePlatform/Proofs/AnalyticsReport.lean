/-
Module: RngGamePlatform.Proofs.AnalyticsReport
Purpose: The summary of a player's analytics events reports the rounds of the player.
Trusted boundary: none
Main exports: Dialect.Lawful, SummaryScope, Reports, gameSummary_reports,
  rounds_reported
-/
import RngGamePlatform.Encoding.Parsing
import RngGamePlatform.Proofs.PlayedRounds
import Mathlib.Data.List.Lex
import Mathlib.Data.List.ReduceOption
import Mathlib.Data.Rat.Defs

namespace RngGamePlatform

open Encoding Relational Transactions Weekly

variable {env : Platform} {db : Database} {α : Type} {dialect : Dialect α}

/-! ### What is reported of the rounds -/

/-- What the report relies on: JSONB prints integers in decimal, the cast reads them again
while they fit, and the collation is an order. -/
structure Dialect.Lawful (dialect : Dialect α) : Prop where
  jsonText_int : ∀ value : Int, dialect.jsonText (.int value) = decimal value
  toInteger_decimal : ∀ value, Database.fitsInteger value = true →
    dialect.toInteger (decimal value) = some value
  trans : ∀ one two three, dialect.collates one two = true →
    dialect.collates two three = true → dialect.collates one three = true
  total : ∀ one two, (dialect.collates one two || dialect.collates two one) = true

/-- The key of the event of the play. -/
def PlayedRound.playKey (round : PlayedRound) : PyStr :=
  noticeKey (py "game_played") round.outcome.id

/-- The key of the event of the reward's issue. -/
def PlayedRound.issueKey (round : PlayedRound) : PyStr :=
  noticeKey (py "reward_issued") round.reward.id

/-- What a summary covers; `createdAt` tells when the event of a key was recorded. -/
structure SummaryScope where
  createdAt : PyStr → Int
  playerId : Uuid
  startAt : Option Int
  endAt : Option Int
  gameKey : Option PyStr

variable {scope : SummaryScope}

/-- The round is one of the player, of the asked game, and what the key names of it was
recorded in the interval. -/
def SummaryScope.covers (scope : SummaryScope) (eventKey : PlayedRound → PyStr)
    (round : PlayedRound) : Bool :=
  round.outcome.playerId = scope.playerId &&
    inRange scope.startAt scope.endAt (scope.createdAt (eventKey round)) &&
    scope.gameKey.all fun key => round.game.key = key

/-- The game of each play that is to be reported. -/
def reportedPlays (scope : SummaryScope) (db : Database) : List PyStr :=
  ((playedRounds db).filter (scope.covers PlayedRound.playKey)).map fun round => round.game.key

/-- The game and the value of each reward whose issue is to be reported. -/
def reportedIssues (scope : SummaryScope) (db : Database) : List (PyStr × Int) :=
  ((playedRounds db).filter (scope.covers PlayedRound.issueKey)).map fun round =>
    (round.game.key, round.reward.value)

/-- The row of a game: how many plays and issues it has among those given, and the average
of the values. -/
def reportOf (dialect : Dialect α) (plays : List PyStr) (issues : List (PyStr × Int))
    (key : PyStr) : GameSummaryRow α where
  gameKey := some key
  plays := plays.count key
  rewardsIssued := (issues.map Prod.fst).count key
  averageRewardValue :=
    averageOf dialect ((issues.filter fun issue => issue.1 = key).map Prod.snd)

/-- The rows report plays and issues: one row for each game among them, in the order of the
keys. -/
structure Reports (dialect : Dialect α) (plays : List PyStr) (issues : List (PyStr × Int))
    (rows : List (GameSummaryRow α)) : Prop where
  ordered : rows.Pairwise fun one other => ∃ key later, one.gameKey = some key ∧
    other.gameKey = some later ∧ key ≠ later ∧ dialect.collates key later = true
  complete : ∀ key, (∃ row ∈ rows, row.gameKey = some key) ↔
    key ∈ plays ∨ key ∈ issues.map Prod.fst
  counted : ∀ row ∈ rows, ∃ key, row = reportOf dialect plays issues key

/-! ### The aggregates -/

section Aggregates

/-- The value that the cast of an event gives. -/
def issuedValue (dialect : Dialect α) (event : AnalyticsEvent) : Int :=
  match castInteger dialect (event.asString dialect (py "value")) with
  | .ok (some value) => value
  | _ => 0

/-- An event of an issue is cast to an integer. -/
def Castable (dialect : Dialect α) (event : AnalyticsEvent) : Prop :=
  event.eventType = py "reward_issued" →
    castInteger dialect (event.asString dialect (py "value")) =
      .ok (some (issuedValue dialect event))

/-- The row of a group in which every cast succeeds. -/
def rowOf (dialect : Dialect α) (group : Option PyStr × List AnalyticsEvent) :
    GameSummaryRow α :=
  let issued := group.2.filter (AnalyticsEvent.hasType (py "reward_issued"))
  { gameKey := group.1
    plays := (group.2.filter (AnalyticsEvent.hasType (py "game_played"))).length
    rewardsIssued := issued.length
    averageRewardValue := averageOf dialect (issued.map (issuedValue dialect)) }

theorem mapM_of_ok {ε β γ : Type} {f : β → Except ε γ} {g : β → γ} {rows : List β}
    (ok : ∀ row ∈ rows, f row = .ok (g row)) : rows.mapM f = .ok (rows.map g) := by
  induction rows with
  | nil => rfl
  | cons row rows ih =>
      rw [List.mapM_cons, ok row List.mem_cons_self,
        ih fun other member => ok other (List.mem_cons_of_mem _ member)]
      rfl

theorem reduceOption_some {β γ : Type} (f : β → γ) (rows : List β) :
    (rows.map fun row => some (f row)).reduceOption = rows.map f := by
  induction rows with
  | nil => rfl
  | cons row rows ih => rw [List.map_cons, List.reduceOption_cons_of_some, ih, List.map_cons]

theorem summaryRow_of_castable {group : Option PyStr × List AnalyticsEvent}
    (castable : ∀ event ∈ group.2, Castable dialect event) :
    summaryRow dialect group = .ok (rowOf dialect group) := by
  have values : (group.2.filter (AnalyticsEvent.hasType (py "reward_issued"))).mapM (fun event =>
      castInteger dialect (event.asString dialect (py "value"))) = .ok ((group.2.filter
        (AnalyticsEvent.hasType (py "reward_issued"))).map fun event =>
          some (issuedValue dialect event)) := by
    apply mapM_of_ok
    intro event member
    obtain ⟨inGroup, isIssue⟩ := List.mem_filter.mp member
    exact castable event inGroup (of_decide_eq_true isIssue)
  unfold summaryRow rowOf
  simp only [values, bind, Except.bind, pure, Except.pure, reduceOption_some]

/-- The events that a summary counts. -/
def summarized (dialect : Dialect α) (scope : SummaryScope) (db : Database) :
    List AnalyticsEvent :=
  db.analytics.filter (isSummarized dialect scope.createdAt scope.playerId scope.startAt
    scope.endAt scope.gameKey)

/-- Those of one game. -/
def summarizedOf (dialect : Dialect α) (scope : SummaryScope) (key : PyStr) (db : Database) :
    List AnalyticsEvent :=
  (summarized dialect scope db).filter fun event =>
    event.asString dialect (py "game_key") = some key

/-- The groups of a summary. -/
def summaryGroups (dialect : Dialect α) (scope : SummaryScope) (db : Database) :
    List (Option PyStr × List AnalyticsEvent) :=
  groupBy (AnalyticsEvent.asString dialect (py "game_key")) (nullsLast dialect.collates)
    (summarized dialect scope db)

theorem gameSummary_of_castable (castable : ∀ event ∈ db.analytics, Castable dialect event) :
    gameSummary dialect scope.createdAt scope.playerId scope.startAt scope.endAt scope.gameKey
      db = .ok ((summaryGroups dialect scope db).map (rowOf dialect)) := by
  apply mapM_of_ok
  intro group member
  apply summaryRow_of_castable
  intro event inGroup
  rw [(mem_groupBy.mp member).2] at inGroup
  exact castable event (List.mem_filter.mp (List.mem_filter.mp inGroup).1).1

theorem nullsLast_trans {before : PyStr → PyStr → Bool}
    (trans : ∀ one two three, before one two = true → before two three = true →
      before one three = true) (one two three : Option PyStr)
    (first : nullsLast before one two = true) (second : nullsLast before two three = true) :
    nullsLast before one three = true := by
  cases one <;> cases two <;> cases three <;>
    first
      | rfl
      | exact absurd first Bool.false_ne_true
      | exact absurd second Bool.false_ne_true
      | exact trans _ _ _ first second

theorem nullsLast_total {before : PyStr → PyStr → Bool}
    (total : ∀ one two, (before one two || before two one) = true) (one two : Option PyStr) :
    (nullsLast before one two || nullsLast before two one) = true := by
  cases one with
  | none => cases two <;> rfl
  | some one =>
      cases two with
      | none => rfl
      | some two => exact total one two

/-- The average does not depend on the order of the values. -/
theorem averageOf_perm {values others : List Int} (isPerm : values.Perm others) :
    averageOf dialect values = averageOf dialect others := by
  have same : values = [] ↔ others = [] := by
    rw [← List.length_eq_zero_iff, isPerm.length_eq, List.length_eq_zero_iff]
  unfold averageOf
  rw [isPerm.sum_eq, isPerm.length_eq]
  simp only [same]

end Aggregates

/-! ### What the summary takes from an event of a round -/

section Events

variable {event : AnalyticsEvent} {round : PlayedRound}

theorem PlayTold.gameKey (isPlay : PlayTold event round) :
    event.asString dialect (py "game_key") = some round.game.key := by
  rw [isPlay]
  simp [AnalyticsEvent.asString, gamePlayedEvent, Json.get?_object, text, py_inj]

theorem IssueTold.gameKey (isIssue : IssueTold event round) :
    event.asString dialect (py "game_key") = some round.game.key := by
  rw [isIssue.isEvent]
  simp [AnalyticsEvent.asString, rewardEvent, rewardEvidence, Json.get?_object, text]

/-- The value of the reward is stored as an integer, whose text is cast back. -/
theorem IssueTold.value (isIssue : IssueTold event round) (lawful : dialect.Lawful) :
    castInteger dialect (event.asString dialect (py "value")) =
      .ok (some round.reward.value) := by
  have isText : event.asString dialect (py "value") = some (decimal round.reward.value) := by
    rw [isIssue.isEvent]
    simp [AnalyticsEvent.asString, rewardEvent, rewardEvidence, Json.get?_object,
      Reward.asIssued, py_inj, lawful.jsonText_int]
  rw [isText, castInteger, lawful.toInteger_decimal _ isIssue.fits]

/-- The event of a play is summarized when the scope covers the play. -/
theorem PlayTold.summarized_iff (isPlay : PlayTold event round) :
    isSummarized dialect scope.createdAt scope.playerId scope.startAt scope.endAt scope.gameKey
      event = scope.covers PlayedRound.playKey round := by
  have isPrefix : py "game_played:" = py "game_played" ++ py ":" := rfl
  unfold isSummarized SummaryScope.covers
  simp only [isPlay.gameKey]
  rw [isPlay]
  simp [AnalyticsEvent.hasType, gamePlayedEvent, PlayedRound.playKey, noticeKey, isPrefix]

/-- The event of an issue is summarized when the scope covers the issue. -/
theorem IssueTold.summarized_iff (isIssue : IssueTold event round) :
    isSummarized dialect scope.createdAt scope.playerId scope.startAt scope.endAt scope.gameKey
      event = scope.covers PlayedRound.issueKey round := by
  have player : round.reward.asIssued.playerId = round.outcome.playerId := isIssue.player
  have sameId : round.reward.asIssued.id = round.reward.id := rfl
  unfold isSummarized SummaryScope.covers
  simp only [isIssue.gameKey]
  rw [isIssue.isEvent]
  simp [AnalyticsEvent.hasType, rewardEvent, PlayedRound.issueKey, noticeKey, player, sameId]

end Events

/-! ### The report -/

section Report

variable {calls : List Call} (consistent : Consistent env calls db) (ledger : Ledger db)
  (told : EventsTold db)
include consistent ledger told

theorem round_of_play {event : AnalyticsEvent} (member : event ∈ db.analytics)
    (isPlay : event.hasType (py "game_played") = true) :
    ∃ round ∈ playedRounds db, PlayTold event round := by
  obtain ⟨matched, isPerm, related⟩ := plays_matched consistent ledger told
  exact related_of_mem related (isPerm.mem_iff.mpr (List.mem_filter.mpr ⟨member, isPlay⟩))

theorem round_of_issue {event : AnalyticsEvent} (member : event ∈ db.analytics)
    (isIssue : event.hasType (py "reward_issued") = true) :
    ∃ round ∈ playedRounds db, IssueTold event round := by
  obtain ⟨matched, isPerm, related⟩ := issues_matched consistent ledger told
  exact related_of_mem related (isPerm.mem_iff.mpr (List.mem_filter.mpr ⟨member, isIssue⟩))

/-- No cast of the summary fails. -/
theorem castable_of_told (lawful : dialect.Lawful) :
    ∀ event ∈ db.analytics, Castable dialect event := by
  intro event member isType
  obtain ⟨round, -, isIssue⟩ :=
    round_of_issue consistent ledger told member (decide_eq_true isType)
  have cast := isIssue.value lawful
  rw [issuedValue, cast]

variable (dialect scope) in
/-- The plays that are summarized of a game are those that are to be reported. -/
theorem plays_counted (key : PyStr) :
    ((summarizedOf dialect scope key db).filter
      (AnalyticsEvent.hasType (py "game_played"))).length =
        (reportedPlays scope db).count key := by
  obtain ⟨matched, isPerm, related⟩ := plays_matched consistent ledger told
  have agree : ∀ event round, PlayTold event round →
      (isSummarized dialect scope.createdAt scope.playerId scope.startAt scope.endAt
        scope.gameKey event && event.asString dialect (py "game_key") = some key) =
          (scope.covers PlayedRound.playKey round && round.game.key = key) := by
    intro event round isPlay
    rw [isPlay.summarized_iff, isPlay.gameKey]
    simp only [Option.some.injEq]
  rw [summarizedOf, summarized, filter_group, length_filter_matching isPerm related agree,
    reportedPlays, count_map, List.filter_filter]
  simp only [Bool.and_comm]

variable (dialect scope) in
/-- The issues that are summarized of a game have the values that are to be reported. -/
theorem issues_counted (lawful : dialect.Lawful) (key : PyStr) :
    (((summarizedOf dialect scope key db).filter
      (AnalyticsEvent.hasType (py "reward_issued"))).map (issuedValue dialect)).Perm
        (((reportedIssues scope db).filter fun issue => issue.1 = key).map Prod.snd) := by
  obtain ⟨matched, isPerm, related⟩ := issues_matched consistent ledger told
  have agree : ∀ event round, IssueTold event round →
      (isSummarized dialect scope.createdAt scope.playerId scope.startAt scope.endAt
        scope.gameKey event && event.asString dialect (py "game_key") = some key) =
          (scope.covers PlayedRound.issueKey round && round.game.key = key) := by
    intro event round isIssue
    rw [isIssue.summarized_iff, isIssue.gameKey]
    simp only [Option.some.injEq]
  have value : ∀ event round, IssueTold event round →
      issuedValue dialect event = round.reward.value := by
    intro event round isIssue
    rw [issuedValue, isIssue.value lawful]
  have reported : ((reportedIssues scope db).filter fun issue => issue.1 = key).map Prod.snd =
      ((playedRounds db).filter fun round => scope.covers PlayedRound.issueKey round &&
        round.game.key = key).map fun round => round.reward.value := by
    rw [reportedIssues, List.filter_map, List.map_map, List.filter_filter]
    simp only [Function.comp_def, Bool.and_comm]
  rw [summarizedOf, summarized, filter_group, reported]
  exact perm_filter_matching isPerm related agree value

/-- A group of the summary gives the row of its game. -/
theorem rowOf_group (lawful : dialect.Lawful) (key : PyStr) :
    rowOf dialect (some key, summarizedOf dialect scope key db) =
      reportOf dialect (reportedPlays scope db) (reportedIssues scope db) key := by
  have plays := plays_counted dialect scope consistent ledger told key
  have issues := issues_counted dialect scope consistent ledger told lawful key
  have numbers := issues.length_eq
  rw [List.length_map, List.length_map] at numbers
  simp only [rowOf, reportOf, plays, numbers, averageOf_perm issues, count_map]

/-- A summarized event is one of a round that is to be reported. -/
theorem reported_of_summarized {event : AnalyticsEvent}
    (member : event ∈ summarized dialect scope db) :
    ∃ key, event.asString dialect (py "game_key") = some key ∧
      (key ∈ reportedPlays scope db ∨ key ∈ (reportedIssues scope db).map Prod.fst) := by
  obtain ⟨stored, counts⟩ := List.mem_filter.mp member
  have isType : (event.hasType (py "game_played") || event.hasType (py "reward_issued")) =
      true := by
    unfold isSummarized at counts
    simp only [Bool.and_eq_true] at counts
    exact counts.1.1.2
  rcases Bool.or_eq_true_iff.mp isType with isPlayed | isIssued
  · obtain ⟨round, inRounds, isPlay⟩ := round_of_play consistent ledger told stored isPlayed
    rw [isPlay.summarized_iff] at counts
    exact ⟨round.game.key, isPlay.gameKey,
      Or.inl (List.mem_map.mpr ⟨round, List.mem_filter.mpr ⟨inRounds, counts⟩, rfl⟩)⟩
  · obtain ⟨round, inRounds, isIssue⟩ := round_of_issue consistent ledger told stored isIssued
    rw [isIssue.summarized_iff] at counts
    refine ⟨round.game.key, isIssue.gameKey, Or.inr ?_⟩
    rw [reportedIssues, List.map_map]
    exact List.mem_map.mpr ⟨round, List.mem_filter.mpr ⟨inRounds, counts⟩, rfl⟩

/-- Of a play or an issue that is to be reported, an event is summarized. -/
theorem summarized_of_reported (lawful : dialect.Lawful) {key : PyStr}
    (reported : key ∈ reportedPlays scope db ∨ key ∈ (reportedIssues scope db).map Prod.fst) :
    ∃ event ∈ summarized dialect scope db,
      event.asString dialect (py "game_key") = some key := by
  have ofGroup : ∀ {event}, event ∈ summarizedOf dialect scope key db →
      ∃ event ∈ summarized dialect scope db,
        event.asString dialect (py "game_key") = some key := by
    intro event member
    obtain ⟨counts, isKey⟩ := List.mem_filter.mp member
    exact ⟨event, counts, of_decide_eq_true isKey⟩
  rcases reported with ofPlay | ofIssue
  · have occurs := List.count_pos_iff.mpr ofPlay
    rw [← plays_counted dialect scope consistent ledger told key] at occurs
    obtain ⟨event, member⟩ := List.exists_mem_of_length_pos occurs
    exact ofGroup (List.mem_filter.mp member).1
  · obtain ⟨⟨_, value⟩, inIssues, rfl⟩ := List.mem_map.mp ofIssue
    have selected := (issues_counted dialect scope consistent ledger told lawful _).mem_iff.mpr
      (List.mem_map_of_mem (List.mem_filter.mpr ⟨inIssues, decide_eq_true rfl⟩))
    obtain ⟨event, member, -⟩ := List.mem_map.mp selected
    exact ofGroup (List.mem_filter.mp member).1

/-- Every group of the summary is one of a game, whose row it gives. -/
theorem group_reported (lawful : dialect.Lawful) {group : Option PyStr × List AnalyticsEvent}
    (member : group ∈ summaryGroups dialect scope db) :
    ∃ key, group.1 = some key ∧ rowOf dialect group =
      reportOf dialect (reportedPlays scope db) (reportedIssues scope db) key := by
  obtain ⟨groupKey, members⟩ := group
  obtain ⟨⟨event, inRows, isKey⟩, isGroup⟩ := mem_groupBy.mp member
  obtain ⟨key, isText, -⟩ := reported_of_summarized consistent ledger told inRows
  have same : groupKey = some key := isKey.symm.trans isText
  subst same
  have isMembers : members = summarizedOf dialect scope key db := isGroup
  rw [isMembers]
  exact ⟨key, rfl, rowOf_group consistent ledger told lawful key⟩

variable (scope) in
/-- The summary reports the rounds. -/
theorem gameSummary_reports (lawful : dialect.Lawful) :
    ∃ rows, gameSummary dialect scope.createdAt scope.playerId scope.startAt scope.endAt
        scope.gameKey db = .ok rows ∧
      Reports dialect (reportedPlays scope db) (reportedIssues scope db) rows := by
  refine ⟨_, gameSummary_of_castable (castable_of_told consistent ledger told lawful),
    ?ordered, ?complete, ?counted⟩
  case ordered =>
    have sorted : (summaryGroups dialect scope db).Pairwise fun one other =>
        one.1 ≠ other.1 ∧ nullsLast dialect.collates one.1 other.1 = true :=
      groupBy_pairwise (nullsLast_trans lawful.trans) (nullsLast_total lawful.total)
    refine List.pairwise_map.mpr (sorted.imp_of_mem ?_)
    rintro one other inOne inOther ⟨different, before⟩
    obtain ⟨key, isKey, -⟩ := group_reported consistent ledger told lawful inOne
    obtain ⟨later, isLater, -⟩ := group_reported consistent ledger told lawful inOther
    rw [isKey, isLater] at different before
    exact ⟨key, later, isKey, isLater, fun same => different (congrArg some same), before⟩
  case complete =>
    intro key
    constructor
    · rintro ⟨row, member, isKey⟩
      obtain ⟨group, inGroups, rfl⟩ := List.mem_map.mp member
      obtain ⟨⟨event, inRows, ofGroup⟩, -⟩ := mem_groupBy.mp inGroups
      obtain ⟨later, isText, reported⟩ := reported_of_summarized consistent ledger told inRows
      have same : group.1 = some key := isKey
      cases isText.symm.trans (ofGroup.trans same)
      exact reported
    · intro reported
      obtain ⟨event, inRows, isText⟩ :=
        summarized_of_reported consistent ledger told lawful reported
      have isGroup : (some key, summarizedOf dialect scope key db) ∈
          summaryGroups dialect scope db := mem_groupBy.mpr ⟨⟨event, inRows, isText⟩, rfl⟩
      exact ⟨_, List.mem_map_of_mem isGroup, rfl⟩
  case counted =>
    intro row member
    obtain ⟨group, inGroups, rfl⟩ := List.mem_map.mp member
    obtain ⟨key, -, isRow⟩ := group_reported consistent ledger told lawful inGroups
    exact ⟨key, isRow⟩

end Report

/-! ### The answer of the service -/

/-- What the service answers: an invalid interval and an unknown player are refused, and
otherwise the rows report the rounds of the player. -/
inductive RoundsReported (dialect : Dialect α) (createdAt : PyStr → Int) (ownerId : Uuid)
    (startAt endAt : Option PyDateTime) (gameKey : Option PyStr) (db : Database) :
    Except AnalyticsError (List (GameSummaryRow α)) → Prop where
  | invalid (refused : validateAnalyticsRange startAt endAt = .error .invalidAnalyticsRange) :
      RoundsReported dialect createdAt ownerId startAt endAt gameKey db
        (.error .invalidAnalyticsRange)
  | unknown (valid : validateAnalyticsRange startAt endAt = .ok ())
      (noPlayer : playerById ownerId db = none) :
      RoundsReported dialect createdAt ownerId startAt endAt gameKey db (.error .notFound)
  | reported {player : Player} {scope : SummaryScope} {rows : List (GameSummaryRow α)}
      (valid : validateAnalyticsRange startAt endAt = .ok ())
      (isPlayer : playerById ownerId db = some player)
      (isScope : scope = ⟨createdAt, ownerId, startAt.bind PyDateTime.instant?,
        endAt.bind PyDateTime.instant?, gameKey⟩)
      (reports : Reports dialect (reportedPlays scope db) (reportedIssues scope db) rows) :
      RoundsReported dialect createdAt ownerId startAt endAt gameKey db (.ok rows)

theorem validateAnalyticsRange_error {startAt endAt : Option PyDateTime}
    {error : AnalyticsError} (refused : validateAnalyticsRange startAt endAt = .error error) :
    error = .invalidAnalyticsRange := by
  unfold validateAnalyticsRange at refused
  split at refused
  · exact (Except.error.inj refused).symm
  · split at refused
    · split at refused
      · exact (Except.error.inj refused).symm
      · cases refused
    · cases refused

/-- In every reachable state, the rounds are those of all outcomes and of all rewards that
were issued for one, and a summary of a player's events reports the player's rounds. -/
theorem rounds_reported (reachable : ReachableState env db) (lawful : dialect.Lawful)
    (createdAt : PyStr → Int) (ownerId : Uuid) (startAt endAt : Option PyDateTime)
    (gameKey : Option PyStr) :
    (playedRounds db).map PlayedRound.outcome = db.outcomes ∧
      ((playedRounds db).map PlayedRound.reward).Perm (db.rewards.filter Reward.ofRound) ∧
        ∃ answer, (analyticsGameSummary dialect createdAt ownerId startAt endAt gameKey).run []
            db db = some (answer, db) ∧
          RoundsReported dialect createdAt ownerId startAt endAt gameKey db answer := by
  obtain ⟨⟨calls, consistent⟩, ledger, told⟩ := (eventsTold_invariant env).reachable reachable
  refine ⟨playedRounds_outcomes consistent ledger told,
    playedRounds_rewards consistent ledger told, ?_⟩
  unfold analyticsGameSummary
  cases valid : validateAnalyticsRange startAt endAt with
  | error error =>
      have isError := validateAnalyticsRange_error valid
      subst isError
      exact ⟨_, rfl, .invalid valid⟩
  | ok checked =>
      cases isPlayer : playerById ownerId db with
      | none =>
          refine ⟨.error .notFound, ?_, .unknown valid isPlayer⟩
          simp only [Program.ofExcept, Program.query, Program.ret_bind, Program.select_bind,
            Program.run, isPlayer, Program.orRaise, Program.raise_bind]
      | some player =>
          obtain ⟨rows, isAnswer, reports⟩ :=
            gameSummary_reports ⟨createdAt, ownerId, startAt.bind PyDateTime.instant?,
              endAt.bind PyDateTime.instant?, gameKey⟩ consistent ledger told lawful
          refine ⟨.ok rows, ?_, .reported valid isPlayer rfl reports⟩
          simp only [Program.ofExcept, Program.query, Program.ret_bind, Program.select_bind,
            Program.run, isPlayer, Program.orRaise, isAnswer]

namespace Sample

/-- Texts are compared by their code points. -/
def postgres : Dialect Rat where
  jsonText := Json.dumps
  toInteger := pyInt id 10
  collates one other := decide (one ≤ other)
  average sum count := (sum : Rat) / count

theorem postgres_lawful : postgres.Lawful where
  jsonText_int _ := rfl
  toInteger_decimal value _ := pyInt_decimal id value
  trans one two three first second := by
    simp only [postgres, decide_eq_true_eq] at *
    exact first.trans second
  total one two := by
    simpa [postgres] using le_total one two

theorem claimed_summary :
    (operated claimedLabels).map (fun system =>
      ((analyticsGameSummary postgres (fun _ => 3000) 1 none none none).run [] system.db
        system.db).map Prod.fst) =
      some (some (.ok [⟨some (py "daily_spin"), 1, 1, some 10⟩])) := by
  decide +kernel

/-- The summary at the end of the run. -/
theorem claimedSpin_summary :
    ((analyticsGameSummary postgres (fun _ => 3000) 1 none none none).run [] claimedSpin.db
      claimedSpin.db).map Prod.fst =
        some (.ok [⟨some (py "daily_spin"), 1, 1, some 10⟩]) := by
  obtain ⟨system, isRun, summary⟩ := Option.map_eq_some_iff.mp claimed_summary
  unfold claimedSpin
  rw [Option.get_of_eq_some claimed_runs isRun]
  exact summary

end Sample

/-- The one round of a run: a daily spin whose reward is worth ten. -/
theorem rounds_reported_claimed :
    (playedRounds Sample.claimedSpin.db).map PlayedRound.outcome =
        Sample.claimedSpin.db.outcomes ∧
      RoundsReported Sample.postgres (fun _ => 3000) 1 none none none Sample.claimedSpin.db
        (.ok [⟨some (py "daily_spin"), 1, 1, some 10⟩]) := by
  obtain ⟨outcomes, -, answer, isAnswer, reported⟩ :=
    rounds_reported ⟨_, Sample.claimedSpin_reachable, rfl⟩ Sample.postgres_lawful
      (fun _ => 3000) 1 none none none
  have summary := Sample.claimedSpin_summary
  rw [isAnswer] at summary
  cases summary
  exact ⟨outcomes, reported⟩

end RngGamePlatform
