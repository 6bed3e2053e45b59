/-
Module: RngGamePlatform.Proofs.RestoredAnswers
Purpose: When the Memory Rush component restores only digits that were submitted in the
  round it shows.
Trusted boundary: none
Main exports: latestRound, OwnDigits, Orderly, DigitsFiled, restored_digits_own,
  earlier_digits_restored
-/
import RngGamePlatform.Proofs.EvidenceConservation
import RngGamePlatform.Web.SkillCheck

namespace RngGamePlatform

open Encoding Relational Transactions

/-- The id of the player's latest Memory Rush round. -/
def latestRound (db : Database) (player : Uuid) : Option Uuid := do
  let game ← lookup Game.key skillKey db.games
  let row ← latestSessionRow player game.id db
  return row.id

/-! ### What the functions do to the held digits -/

/-- The change leaves the held digits of an entry, or no digits. -/
def Mild (values : JournalEntry → JournalEntry) : Prop :=
  ∀ entry : JournalEntry, (values entry).heldDigits = none ∨
    (values entry).heldDigits = entry.heldDigits

/-- The platform is the same up to its requests, and no more digits are held. -/
structure Gentle (before after : Browser) : Prop where
  db : after.server.db = before.server.db
  digits : ∀ player digits, after.pendingDigits player = some digits →
    before.pendingDigits player = some digits

namespace Gentle

variable {env : Platform} {before middle after : Browser}

theorem refl (browser : Browser) : Gentle browser browser := ⟨rfl, fun _ _ held => held⟩

theorem send (gentle : Gentle before after) (operation : Operation) :
    Gentle before (after.send env operation) :=
  ⟨gentle.db, gentle.digits⟩

theorem saveJournal {values : JournalEntry → JournalEntry} (mild : Mild values)
    (browser : Browser) : Gentle browser (browser.saveJournal skillKey values) := by
  constructor
  case db => rfl
  case digits =>
    intro player digits held
    simp only [Browser.pendingDigits, Browser.saveJournal, Journal.get_merge] at held ⊢
    split_ifs at held with isPlayer
    · cases found : browser.journal.get player skillKey with
      | none =>
          rw [found] at held
          rcases mild {} with nothing | same
          · exact absurd (nothing.symm.trans held) nofun
          · exact absurd (same.symm.trans held) nofun
      | some entry =>
          rw [found] at held
          rcases mild entry with nothing | same
          · exact absurd (nothing.symm.trans held) nofun
          · exact same.symm.trans held
    · exact held

theorem discard (browser : Browser) (player : Uuid) :
    Gentle browser { browser with journal := browser.journal.discard player skillKey } := by
  constructor
  case db => rfl
  case digits =>
    intro other digits held
    simp only [Browser.pendingDigits, Journal.get_discard] at held ⊢
    split_ifs at held with isPlayer
    · cases held
    · exact held

end Gentle

/-- A change of other fields leaves the held digits. -/
theorem Browser.pendingDigits_same {values : JournalEntry → JournalEntry}
    (same : ∀ entry, (values entry).heldDigits = entry.heldDigits) (browser : Browser)
    (player : Uuid) : (browser.saveJournal skillKey values).pendingDigits player =
      browser.pendingDigits player := by
  simp only [Browser.pendingDigits, Browser.saveJournal, Journal.get_merge]
  split_ifs
  · cases found : browser.journal.get player skillKey with
    | none => exact same {}
    | some entry => exact same entry
  · rfl

/-- A change of the pending action to another one than `play` leaves no digits. -/
theorem mild_pending {pending : JournalEntry → Option PendingAction}
    (other : ∀ entry, pending entry ≠ some .play) :
    Mild fun entry => { entry with pendingAction := pending entry } :=
  fun entry => .inl (if_neg (other entry))

theorem submitOrRecover_gentle {env : Platform} (browser : Browser) (round : Round)
    (recovered : Option FinalScore) (draws : ServerDraws) :
    Gentle browser (submitOrRecover env skillKey browser round recovered draws).1 := by
  unfold submitOrRecover
  split
  · exact .refl browser
  · have mild : Mild fun entry => { entry with pendingAction := some .submitScore } :=
      fun _ => .inl rfl
    exact (Gentle.saveJournal mild browser).send _
  · exact .refl browser

theorem Round.scored_gentle (browser : Browser) (round : Round) (score : FinalScore) :
    Gentle browser (round.scored skillKey browser score).1 := by
  apply Gentle.saveJournal
  apply mild_pending
  intro entry
  rw [Round.canClaim_false]
  nofun

theorem Scoring.resume_gentle {env : Platform} (browser : Browser) (round : Round)
    (player : Uuid) (scoring : Scoring) (reply : Except ApiError Answer) :
    Gentle browser (scoring.resume env skillKey browser round player reply).1 := by
  unfold Scoring.resume
  split
  · exact Round.scored_gentle browser round _
  · split
    · exact .refl browser
    · exact (Gentle.refl browser).send _
  · split
    · exact .refl browser
    · exact Round.scored_gentle browser round _
  · exact .refl browser
  · exact .refl browser

namespace SkillPage

variable (env : Platform)

/-- Digits to which the component is locked in an active round were submitted in that
round. -/
def OwnDigits (page : SkillPage) : Prop :=
  page.component.lockedSubmission = true → page.component.actions ≠ [] →
    ∀ session, page.component.session = some session → session.status = .active →
      (session.id, page.component.actions) ∈ page.submitted

/-! ### Orderly steps -/

/-- The active round that `recover` takes up is the player's latest one, and a component
that is still locked restores digits or shows this round already. -/
def TakesUp (page : SkillPage) (session : GameSession) : Prop :=
  (∀ player, page.player = some player →
    latestRound page.server.db player = some session.id) ∧
  (page.component.lockedSubmission = true →
    (∃ player, page.player = some player ∧ (page.pendingDigits player).isSome) ∨
      ∃ shown, page.component.session = some shown ∧ shown.status = .active ∧
        shown.id = session.id)

/-- The entry of the player carries no digits. -/
def NoDigits (page : SkillPage) : Prop :=
  ∀ player, page.player = some player →
    ∀ entry, page.journal.get player skillKey = some entry → entry.actions = none

/-- No other round of a player comes up while the entry of the player holds digits to be
sent again; `start` takes up the round that it has created only next to an entry without
digits; `recover` and `submit` are about the player's latest round. -/
def Orderly (page : SkillPage) : SkillStep → Prop
  | .server label => ∀ next, page.server.step Lock.conflicts (operate env) label = some next →
      ∀ player digits, page.pendingDigits player = some digits →
        latestRound next.db player = latestRound page.server.db player
  | .submit _ => ∀ player session, page.player = some player →
      page.component.session = some session →
        latestRound page.server.db player = some session.id
  | .resume index delivery _ => ∀ task reply, page.tasks[index]? = some task →
      page.replyOf task delivery = some reply →
        (∀ request session, task = .starting request →
          reply = .ok (.result (.session session)) → page.NoDigits) ∧
        (∀ caller request state session, task = .recovering caller request →
          reply = .ok (.result (.state state)) → state.gameSession = some session →
            session.status = .active → page.TakesUp session)
  | _ => True

/-! ### The invariant -/

/-- Digits that an entry holds to be sent again were submitted in the player's latest
round. -/
def DigitsFiled (page : SkillPage) : Prop :=
  ∀ player digits, page.pendingDigits player = some digits →
    ∃ round, latestRound page.server.db player = some round ∧
      (round, digits) ∈ page.submitted

structure Kept (page : SkillPage) : Prop where
  filed : page.DigitsFiled
  own : page.OwnDigits

namespace Kept

variable {env} {page : SkillPage}

/-- A change of other fields of the component. -/
theorem update (kept : page.Kept) {change : SkillCheck → SkillCheck}
    (locked : (change page.component).lockedSubmission = page.component.lockedSubmission)
    (actions : (change page.component).actions = page.component.actions)
    (session : (change page.component).session = page.component.session) :
    (page.update change).Kept := by
  constructor
  case filed => exact kept.filed
  case own =>
    intro isLocked nonempty shown isShown active
    simp only [SkillPage.update, locked, actions, session] at isLocked nonempty isShown ⊢
    exact kept.own isLocked nonempty shown isShown active

theorem browsed (kept : page.Kept) {browser : Browser} (gentle : Gentle page.toBrowser browser) :
    { page with toBrowser := browser }.Kept := by
  constructor
  case filed =>
    intro player digits held
    obtain ⟨round, isLatest, filed⟩ := kept.filed player digits (gentle.digits player digits held)
    refine ⟨round, ?_, filed⟩
    simp only [gentle.db]
    exact isLatest
  case own => exact kept.own

theorem saveJournal (kept : page.Kept) {values : JournalEntry → JournalEntry}
    (mild : Mild values) : (page.saveJournal values).Kept :=
  kept.browsed (Gentle.saveJournal mild page.toBrowser)

theorem ask (kept : page.Kept) (operation : Operation) (task : Nat → SkillTask) :
    (page.ask env operation task).Kept :=
  ⟨kept.filed, kept.own⟩

theorem idle (kept : page.Kept) : page.idle.Kept := kept.update rfl rfl rfl

theorem returned (kept : page.Kept) (caller : SkillCaller) : (page.returned caller).Kept := by
  cases caller with
  | timer => exact kept
  | load => exact kept.idle
  | startFailed => exact kept.idle
  | submitFailed => exact kept.idle
  | submit => exact kept.idle

theorem beginPreview (kept : page.Kept) : page.beginPreview.Kept := kept.update rfl rfl rfl

theorem recover (kept : page.Kept) (caller : SkillCaller) : (page.recover env caller).Kept := by
  have calm : (page.update fun component => { component with previewing := false }).Kept :=
    kept.update rfl rfl rfl
  simp only [SkillPage.recover]
  split
  · exact (calm.update rfl rfl rfl).returned caller
  · exact (calm.update rfl rfl rfl).ask _ _

theorem submitFailed (kept : page.Kept) (error : ApiError) :
    (page.submitFailed env error).Kept := by
  have calm : (page.update fun component => { component with
      status := if error.code = some .sessionExpired then .expired else .recovering }).Kept :=
    kept.update rfl rfl rfl
  simp only [SkillPage.submitFailed]
  by_cases isUncertain : error.uncertain = true
  · rw [if_pos isUncertain]
    exact calm.recover .submitFailed
  · rw [if_neg isUncertain]
    exact calm.idle

theorem threw (kept : page.Kept) (error : ApiError) (caller : SkillCaller) :
    (page.threw env error caller).Kept := by
  cases caller with
  | timer => exact kept
  | load => exact (kept.update rfl rfl rfl).idle
  | submit => exact kept.submitFailed error
  | startFailed => exact kept.idle
  | submitFailed => exact kept.idle

theorem scored (kept : page.Kept) (caller : SkillCaller)
    (progress : Progress (Uuid × Scoring)) : (page.scored env caller progress).Kept := by
  cases progress with
  | waiting task => exact ⟨kept.filed, kept.own⟩
  | returned => exact kept.returned caller
  | threw error => exact kept.threw error caller

theorem submitFinalScore (kept : page.Kept) (caller : SkillCaller) (draws : ServerDraws) :
    (page.submitFinalScore env caller draws).Kept := by
  simp only [SkillPage.submitFinalScore]
  apply scored
  apply (kept.browsed (submitOrRecover_gentle page.toBrowser _ none draws)).update
  · rfl
  · rfl
  · exact (submitOrRecover_shown env skillKey page.toBrowser _ none draws).1

theorem resumeScoring (kept : page.Kept) (caller : SkillCaller) (player : Uuid)
    (scoring : Scoring) (reply : Except ApiError Answer) :
    (page.resumeScoring env caller player scoring reply).Kept := by
  simp only [SkillPage.resumeScoring]
  apply scored
  apply (kept.browsed (scoring.resume_gentle page.toBrowser _ player reply)).update
  · rfl
  · rfl
  · exact (scoring.resume_shown env skillKey page.toBrowser _ player reply).1

/-! The functions, in the order of the component. -/

theorem discardEntry (kept : page.Kept) : page.discardEntry.Kept := by
  unfold SkillPage.discardEntry
  split
  · exact kept
  · exact kept.browsed (Gentle.discard page.toBrowser _)

/-- `recover` after a round that is not active. -/
theorem recoverAnswered_inactive (kept : page.Kept) (caller : SkillCaller)
    {state : PlayerGameState} (draws : ServerDraws)
    (inactive : ∀ session, state.gameSession = some session → session.status ≠ .active) :
    (page.recoverAnswered env caller state draws).Kept := by
  have taken : (page.takeOver state).Kept := by
    constructor
    case filed => exact kept.filed
    case own =>
      intro _ _ session isShown active
      exact absurd active (inactive session isShown)
  simp only [SkillPage.recoverAnswered]
  split
  · exact (taken.update rfl rfl rfl).returned caller
  · next session isSession =>
      have mild : Mild fun entry => { entry with
          requestId := some session.requestId
          sessionId := some session.id
          outcome := state.outcome } := fun _ => .inr rfl
      have saved := taken.saveJournal mild
      split
      · next isActive => exact absurd isActive (inactive session isSession)
      · exact (saved.update rfl rfl rfl).returned caller
      · split
        · exact (saved.update rfl rfl rfl).returned caller
        · exact (saved.update rfl rfl rfl).submitFinalScore caller draws
      · exact saved.returned caller

/-- `recover` restores digits of the round that it shows, or leaves the component as it
was. -/
theorem recoverActive {session : GameSession} (caller : SkillCaller)
    (filed : page.DigitsFiled) (isShown : page.component.session = some session)
    (latest : ∀ player, page.player = some player →
      latestRound page.server.db player = some session.id)
    (own : (∀ player, page.player = some player → page.pendingDigits player = none) →
      page.OwnDigits) : (page.recoverActive env caller).Kept := by
  simp only [SkillPage.recoverActive]
  split
  · next nobody =>
      have kept : page.Kept := by
        refine ⟨filed, own ?_⟩
        intro player isPlayer
        exact absurd (nobody.symm.trans isPlayer) nofun
      exact Kept.threw (kept.update rfl rfl rfl) typeError caller
  · next player isPlayer =>
      have isPlayer' : page.player = some player := isPlayer
      split
      · next digits held =>
          obtain ⟨round, isLatest, submitted⟩ := filed player digits held
          have isRound : round = session.id :=
            Option.some.inj (isLatest.symm.trans (latest player isPlayer'))
          have restored : (page.update fun component => { component with
              status := .ready
              actions := digits
              lockedSubmission := true
              phase := .input }).Kept := by
            constructor
            case filed => exact filed
            case own =>
              intro _ _ shown shows _
              have same : session = shown := Option.some.inj (isShown.symm.trans shows)
              exact same ▸ isRound ▸ submitted
          exact restored.returned caller
      · next nothing =>
          have kept : page.Kept := by
            refine ⟨filed, own ?_⟩
            intro other isOther
            have same : player = other := Option.some.inj (isPlayer'.symm.trans isOther)
            exact same ▸ nothing
          exact (Kept.beginPreview (kept.update rfl rfl rfl)).returned caller

/-- `recover` takes up an active round. -/
theorem recoverAnswered_active (kept : page.Kept) (caller : SkillCaller)
    {state : PlayerGameState} {session : GameSession} (draws : ServerDraws)
    (isSession : state.gameSession = some session) (active : session.status = .active)
    (takes : page.TakesUp session) : (page.recoverAnswered env caller state draws).Kept := by
  obtain ⟨latest, stillLocked⟩ := takes
  let values : JournalEntry → JournalEntry := fun entry => { entry with
    requestId := some session.requestId
    sessionId := some session.id
    outcome := state.outcome }
  have sameDigits : ∀ player, (page.toBrowser.saveJournal skillKey values).pendingDigits player =
      page.pendingDigits player :=
    @Browser.pendingDigits_same values (fun _ => rfl) page.toBrowser
  have filed : ((page.takeOver state).saveJournal values).DigitsFiled := by
    intro player digits held
    exact kept.filed player digits ((sameDigits player).symm.trans held)
  have own : (∀ player, page.player = some player →
      ((page.takeOver state).saveJournal values).pendingDigits player = none) →
      ((page.takeOver state).saveJournal values).OwnDigits := by
    intro nothing isLocked nonempty shown isShown _
    have same : session = shown := Option.some.inj (isSession.symm.trans isShown)
    rcases stillLocked isLocked with
      ⟨player, isPlayer, isHeld⟩ | ⟨before, isBefore, wasActive, isId⟩
    · rw [← sameDigits player] at isHeld
      have nothingHeld := nothing player isPlayer
      exact absurd (nothingHeld ▸ isHeld) nofun
    · rw [← same, ← isId]
      exact kept.own isLocked nonempty before isBefore wasActive
  simp only [SkillPage.recoverAnswered, isSession, active]
  exact recoverActive caller filed isSession latest own

/-- `start` goes on next to an entry without digits. -/
theorem started (kept : page.Kept) (session : GameSession) (noDigits : page.NoDigits) :
    (page.started session).Kept := by
  have filed : (page.saveJournal fun entry => { entry with
      sessionId := some session.id
      pendingAction := some .play }).DigitsFiled := by
    intro player digits held
    simp only [Browser.pendingDigits, SkillPage.saveJournal, Browser.saveJournal,
      Journal.get_merge] at held
    split_ifs at held with isPlayer
    · cases found : page.journal.get player skillKey with
      | none =>
          rw [found] at held
          cases held
      | some entry =>
          have nothingHeld := noDigits player isPlayer entry found
          rw [found] at held
          exact absurd (nothingHeld.symm.trans held) nofun
    · exact kept.filed player digits held
  constructor
  case filed => exact filed
  case own =>
    intro _ nonempty
    exact absurd rfl nonempty

theorem startFailed (kept : page.Kept) (error : ApiError) :
    (page.startFailed env error).Kept := by
  have calm : (page.update fun component => { component with
      status := if error.code = some .sessionExpired then .expired else .recovering }).Kept :=
    kept.update rfl rfl rfl
  simp only [SkillPage.startFailed]
  by_cases recovers : error.uncertain = true ∨ error.code = some .activeSession
  · rw [if_pos recovers]
    exact calm.recover .startFailed
  · rw [if_neg recovers]
    exact calm.idle

/-- A component that is not locked is locked to nothing. -/
theorem unlocked (kept : page.Kept) {change : SkillCheck → SkillCheck}
    (isUnlocked : (change page.component).lockedSubmission = false) :
    (page.update change).Kept := by
  constructor
  case filed => exact kept.filed
  case own =>
    intro isLocked
    exact absurd (isUnlocked.symm.trans isLocked) nofun

theorem start (kept : page.Kept) (requestId : Uuid) (draws : ServerDraws) :
    (page.start env requestId draws).Kept := by
  have mild : Mild fun entry => { entry with
      requestId := some requestId
      pendingAction := some .createSession } := fun _ => .inl rfl
  simp only [SkillPage.start]
  split
  · exact kept
  · split
    · constructor
      case filed => exact kept.filed
      case own =>
        intro _ nonempty
        exact absurd rfl nonempty
    · have calm : (page.update fun component =>
          { component with busy := true, status := .submitting }).Kept :=
        kept.update rfl rfl rfl
      exact ((calm.unlocked rfl).saveJournal mild).ask _ _

theorem addDigit (kept : page.Kept) (digit : Int) : (page.addDigit digit).Kept := by
  simp only [SkillPage.addDigit]
  split
  · next guards => exact kept.unlocked (Bool.eq_false_iff.mpr guards.2.2.1)
  · exact kept

theorem undo (kept : page.Kept) : page.undo.Kept := by
  simp only [SkillPage.undo]
  split
  · next guards => exact kept.unlocked (Bool.eq_false_iff.mpr guards.2.2)
  · exact kept

/-- `submit` files the digits of the player's latest round. -/
theorem submit (kept : page.Kept) (draws : ServerDraws)
    (latest : ∀ player session, page.player = some player →
      page.component.session = some session →
        latestRound page.server.db player = some session.id) :
    (page.submit env draws).Kept := by
  unfold SkillPage.submit
  split
  · next player session isPlayer isSession =>
      split
      · constructor
        case filed =>
          intro other digits held
          have entry : ((page.journal.merge skillKey page.player fun entry => { entry with
              actions := some page.component.actions
              pendingAction := some .play }).get other skillKey).bind
                JournalEntry.heldDigits = some digits := held
          rw [Journal.get_merge] at entry
          split_ifs at entry with isOther
          · cases entry
            exact ⟨session.id, latest other session isOther isSession, List.mem_cons_self⟩
          · obtain ⟨round, isLatest, filed⟩ := kept.filed other digits entry
            exact ⟨round, isLatest, List.mem_cons_of_mem _ filed⟩
        case own =>
          intro isLocked nonempty shown isShown active
          exact List.mem_cons_of_mem _ (kept.own isLocked nonempty shown isShown active)
      · exact kept
  · exact kept

theorem played (kept : page.Kept) (outcome : Outcome) : (page.played env outcome).Kept := by
  have mild : Mild fun entry => { entry with
      outcome := some outcome
      pendingAction := some .submitScore } := fun _ => .inl rfl
  have calm : ((page.update fun component => { component with
      outcome := some outcome
      phase := .result
      status := .result }).saveJournal fun entry => { entry with
        outcome := some outcome
        pendingAction := some .submitScore }).Kept :=
    Kept.saveJournal (kept.update rfl rfl rfl) mild
  simp only [SkillPage.played]
  split
  · exact calm.submitFailed typeError
  · exact calm.ask _ _

theorem rewarded (kept : page.Kept) (state : PlayerGameState) (draws : ServerDraws) :
    (page.rewarded env state draws).Kept :=
  Kept.submitFinalScore (kept.update rfl rfl rfl) .submit draws

theorem claim (kept : page.Kept) : (page.claim env).Kept := by
  unfold SkillPage.claim
  split
  · split
    · exact (kept.update rfl rfl rfl).ask _ _
    · exact kept
  · exact kept

theorem claimed (kept : page.Kept) (reply : Except ApiError Answer) :
    (page.claimed reply).Kept := by
  unfold SkillPage.claimed
  split
  · exact ((kept.update rfl rfl rfl).discardEntry).idle
  · exact kept.idle

theorem dropTask (kept : page.Kept) (index : Nat) : (page.dropTask index).Kept :=
  ⟨kept.filed, kept.own⟩

theorem proceed (kept : page.Kept) (task : SkillTask) (reply : Except ApiError Answer)
    (draws : ServerDraws)
    (starts : ∀ request session, task = .starting request →
      reply = .ok (.result (.session session)) → page.NoDigits)
    (takes : ∀ caller request state session, task = .recovering caller request →
      reply = .ok (.result (.state state)) → state.gameSession = some session →
        session.status = .active → page.TakesUp session) :
    (page.proceed env task reply draws).Kept := by
  unfold SkillPage.proceed
  split
  · next caller request state =>
      by_cases active : ∃ session, state.gameSession = some session ∧ session.status = .active
      · obtain ⟨session, isSession, isActive⟩ := active
        exact kept.recoverAnswered_active caller draws isSession isActive
          (takes caller request state session rfl rfl isSession isActive)
      · apply kept.recoverAnswered_inactive caller draws
        intro session isSession isActive
        exact active ⟨session, isSession, isActive⟩
  · exact kept.threw _ _
  · exact kept.threw _ _
  · next request session => exact kept.started session (starts request session rfl rfl)
  · exact kept.startFailed _
  · exact kept.startFailed _
  · exact kept.played _
  · exact kept.submitFailed _
  · exact kept.submitFailed _
  · exact kept.rewarded _ draws
  · exact kept.submitFailed _
  · exact kept.submitFailed _
  · exact kept.resumeScoring _ _ _ _
  · exact kept.claimed _
  · exact kept

/-- A page opened with a journal whose digits are filed. -/
theorem opened {player : Option Uuid} {journal : Journal} {server : PlatformSystem}
    {submitted : List (Uuid × List Int)}
    (filed : ∀ player digits,
      Browser.pendingDigits ⟨none, journal, server⟩ player = some digits →
        ∃ round, latestRound server.db player = some round ∧ (round, digits) ∈ submitted) :
    (SkillPage.opened player journal server submitted).Kept := by
  constructor
  case filed => exact filed
  case own =>
    intro isLocked
    cases isLocked

/-- An orderly step keeps the digits with their rounds. -/
theorem step {next : SkillPage} {taken : SkillStep} (kept : page.Kept)
    (orderly : page.Orderly env taken) (stepped : page.step env taken = some next) :
    next.Kept := by
  cases taken with
  | server label =>
    obtain ⟨server, advanced, rfl⟩ := Option.map_eq_some_iff.mp stepped
    constructor
    case filed =>
      intro player digits held
      obtain ⟨round, isLatest, filed⟩ := kept.filed player digits held
      exact ⟨round, (orderly server advanced player digits held).trans isLatest, filed⟩
    case own => exact kept.own
  | choosePlayer player =>
    cases stepped
    exact ⟨kept.filed, kept.own⟩
  | reload =>
    cases stepped
    exact opened kept.filed
  | forgetPlayers =>
    cases stepped
    constructor
    case filed =>
      intro player digits held
      cases held
    case own => exact kept.own
  | discardJournal =>
    cases stepped
    exact kept.discardEntry
  | recover =>
    cases stepped
    exact kept.recover .timer
  | previewEnds =>
    simp only [SkillPage.step] at stepped
    split at stepped
    · cases stepped
      exact kept.update rfl rfl rfl
    · cases stepped
  | start requestId draws =>
    cases stepped
    exact kept.start requestId draws
  | addDigit digit =>
    cases stepped
    exact kept.addDigit digit
  | undo =>
    cases stepped
    exact kept.undo
  | submit draws =>
    cases stepped
    exact kept.submit draws orderly
  | claim =>
    cases stepped
    exact kept.claim
  | configured index delivery =>
    obtain ⟨task, -, stepped⟩ := Option.bind_eq_some_iff.mp stepped
    split at stepped
    · cases stepped
      exact (kept.dropTask index).recover .load
    · cases stepped
      exact (kept.dropTask index).threw _ .load
    · cases stepped
  | resume index delivery draws =>
    obtain ⟨task, isTask, stepped⟩ := Option.bind_eq_some_iff.mp stepped
    obtain ⟨reply, isReply, stepped⟩ := Option.bind_eq_some_iff.mp stepped
    cases stepped
    obtain ⟨starts, takes⟩ := orderly task reply isTask isReply
    exact (kept.dropTask index).proceed task reply draws starts takes

end Kept

/-- In every run of orderly steps, the digits to which the component is locked in an
active round are digits that were submitted in that round. -/
theorem restored_digits_own {env : Platform} {page : SkillPage}
    (reached : Reached env (Orderly env) page) : page.OwnDigits := by
  have kept : page.Kept := by
    apply reached.invariant
    · rintro opened ⟨player, server, -, rfl⟩
      apply Kept.opened
      intro player digits held
      cases held
    · intro before next taken kept orderly stepped
      exact kept.step orderly stepped
  exact kept.own

/-! ### Checking a run -/

/-- The session rows stay, up to one new row of a player without held digits. -/
def keepsRounds (page : SkillPage) (db : Database) : Bool :=
  db.games = page.server.db.games &&
    (db.sessions = page.server.db.sessions ||
      match db.sessions.getLast? with
      | some row => db.sessions = page.server.db.sessions ++ [row] &&
          (page.pendingDigits row.playerId).isNone
      | none => false)

/-- A test that only orderly steps pass. -/
def passes (page : SkillPage) : SkillStep → Bool
  | .server label =>
      match page.server.step Lock.conflicts (operate env) label with
      | some next => page.keepsRounds next.db
      | none => true
  | .submit _ =>
      match page.player, page.component.session with
      | some player, some session => latestRound page.server.db player = some session.id
      | _, _ => true
  | .resume index delivery _ =>
      match page.tasks[index]? with
      | some task =>
          match task, page.replyOf task delivery with
          | .starting _, some (.ok (.result (.session _))) =>
              match page.player with
              | some player =>
                  (page.journal.get player skillKey).all fun entry => entry.actions = none
              | none => true
          | .recovering _ _, some (.ok (.result (.state state))) =>
              match state.gameSession, page.player with
              | some session, some player => session.status ≠ .active ||
                  (latestRound page.server.db player = some session.id &&
                    !page.component.lockedSubmission)
              | some _, none => false
              | none, _ => true
          | _, _ => true
      | none => true
  | _ => true

theorem latestRound_of_keepsRounds {page : SkillPage} {db : Database}
    (keeps : page.keepsRounds db = true) {player : Uuid} {digits : List Int}
    (held : page.pendingDigits player = some digits) :
    latestRound db player = latestRound page.server.db player := by
  obtain ⟨games, sessions⟩ := (Bool.and_eq_true _ _).mp keeps
  have games' : db.games = page.server.db.games := of_decide_eq_true games
  have rows : ∀ gameId, db.sessions.filter (ofPlayerAndGame player gameId) =
      page.server.db.sessions.filter (ofPlayerAndGame player gameId) := by
    intro gameId
    rcases (Bool.or_eq_true _ _).mp sessions with same | added
    · rw [of_decide_eq_true same]
    · cases isLast : db.sessions.getLast? with
      | none => simp [isLast] at added
      | some row =>
        simp only [isLast] at added
        obtain ⟨appended, nothing⟩ := (Bool.and_eq_true _ _).mp added
        have other : ofPlayerAndGame player gameId row = false := by
          apply Bool.eq_false_iff.mpr
          intro isOwn
          have owner : row.playerId = player := (of_decide_eq_true isOwn).1
          rw [owner, held] at nothing
          cases nothing
        rw [of_decide_eq_true appended, List.filter_append, List.filter_cons_of_neg (by simp [other]),
          List.filter_nil, List.append_nil]
  simp only [latestRound, latestSessionRow, games', rows]

theorem orderly_of_passes (page : SkillPage) (taken : SkillStep)
    (checked : page.passes env taken = true) : page.Orderly env taken := by
  cases taken with
  | server label =>
    intro next stepped player digits held
    simp only [passes, stepped] at checked
    exact latestRound_of_keepsRounds checked held
  | submit draws =>
    intro player session isPlayer isSession
    simp only [passes, isPlayer, isSession, decide_eq_true_eq] at checked
    exact checked
  | resume index delivery draws =>
    intro task reply isTask isReply
    constructor
    · rintro request session rfl rfl player isPlayer entry isEntry
      simp only [passes, isTask, isReply, isPlayer, isEntry, Option.all_some,
        decide_eq_true_eq] at checked
      exact checked
    · rintro caller request state session rfl rfl isSession active
      cases isPlayer : page.player with
      | none => simp [passes, isTask, isReply, isSession, isPlayer] at checked
      | some player =>
        simp only [passes, isTask, isReply, isSession, isPlayer, active, ne_eq, not_true_eq_false,
          decide_false, Bool.false_or, Bool.and_eq_true, decide_eq_true_eq,
          Bool.not_eq_true'] at checked
        obtain ⟨latest, unlocked⟩ := checked
        constructor
        · intro other isOther
          have same : player = other := Option.some.inj (isPlayer.symm.trans isOther)
          exact same ▸ latest
        · intro isLocked
          exact absurd (unlocked.symm.trans isLocked) nofun
  | _ => trivial

end SkillPage

namespace Sample

/-- The values that the server draws, from a number on. -/
def serverDraws (base : Uuid) : ServerDraws where
  session := ⟨base, [1, 2, 3, 4, 5]⟩
  commit := ⟨base + 1, seed⟩
  evaluate := ⟨base + 2, base + 3, 8⟩
  play := ⟨base + 4, base + 5⟩
  provider := ⟨fun _ _ _ _ _ => ⟨0, []⟩⟩
  scoreId := base + 6
  fuel := 8

/-- A request executes `count` statements. -/
def serving (index count : Nat) (now : Int) : List SkillStep :=
  List.replicate count (.server (.advance index now))

/-- The page of player 1, on a platform where nothing was played. -/
def memoryPage : SkillPage := .opened (some 1) Journal.empty ⟨catalogue, []⟩ []

theorem memoryPage_opened : SkillPage.Opened platform memoryPage :=
  ⟨some 1, _, .start catalogue nothing_yet, rfl⟩

/-- The page recovers nothing, a round is started, and its only digit submitted. -/
def firstRound : List SkillStep :=
  [.configured 0 .answered] ++ serving 0 7 1000 ++ [.resume 0 .answered (serverDraws 100),
    .start 50 (serverDraws 100)] ++ serving 1 13 1000 ++
    [.resume 0 .answered (serverDraws 100), .previewEnds, .addDigit 7,
      .submit (serverDraws 200)]

/-- The submission reaches the platform, but the page is closed before the answer.  The
finished round is recovered, its score added to the board, and a second round is
started; then the page is opened again. -/
def secondRound : List SkillStep :=
  firstRound ++ serving 2 9 2000 ++ [.reload, .configured 0 .answered] ++ serving 3 12 3000 ++
    [.resume 0 .answered (serverDraws 300)] ++ serving 4 11 3000 ++
    [.resume 0 .answered (serverDraws 300), .start 51 (serverDraws 400)] ++
    serving 5 14 4000 ++ [.resume 0 .answered (serverDraws 400), .reload,
      .configured 0 .answered] ++ serving 6 12 5000 ++
    [.resume 0 .answered (serverDraws 500)]

/-- The page is opened again before the submission reaches the platform. -/
def restoredRound : List SkillStep :=
  firstRound ++ [.reload, .configured 0 .answered] ++ serving 3 12 3000 ++
    [.resume 0 .answered (serverDraws 300)]

end Sample

/-- The second round is locked to the digit of the first one. -/
theorem earlier_digits_restored :
    ∃ page, SkillPage.Reached Sample.platform Machines.Always page ∧ ¬page.OwnDigits := by
  have result : (Machines.follow (SkillPage.step Sample.platform) Sample.memoryPage
      Sample.secondRound).map (fun page =>
        ((page.component.lockedSubmission, page.component.actions),
          page.component.session.map fun session => (session.id, session.status),
          page.submitted)) =
      some ((true, [7]), some (400, .active), [(100, [7])]) := by decide +kernel
  obtain ⟨page, followed, facts⟩ := Option.map_eq_some_iff.mp result
  obtain ⟨fields, facts⟩ := Prod.mk.inj facts
  obtain ⟨locked, actions⟩ := Prod.mk.inj fields
  obtain ⟨isSession, submitted⟩ := Prod.mk.inj facts
  obtain ⟨session, shown, isRound⟩ := Option.map_eq_some_iff.mp isSession
  obtain ⟨isId, active⟩ := Prod.mk.inj isRound
  refine ⟨page, (Machines.Reaches.start Sample.memoryPage_opened).follow followed, ?_⟩
  intro own
  have filed := own locked (by rw [actions]; nofun) session shown active
  rw [submitted, actions, isId] at filed
  exact absurd filed (by decide)

/-- Digits that are restored in the round they were submitted in. -/
theorem restored_digits_own_same_round :
    ∃ page, SkillPage.Reached Sample.platform (SkillPage.Orderly Sample.platform) page ∧
      page.component.lockedSubmission = true ∧ page.component.actions = [7] ∧
      page.OwnDigits := by
  have result : (Machines.followWhile (SkillPage.step Sample.platform)
      (SkillPage.passes Sample.platform) Sample.memoryPage Sample.restoredRound).map
        (fun page => (page.component.lockedSubmission, page.component.actions)) =
      some (true, [7]) := by decide +kernel
  obtain ⟨page, followed, facts⟩ := Option.map_eq_some_iff.mp result
  obtain ⟨locked, actions⟩ := Prod.mk.inj facts
  have reached : SkillPage.Reached Sample.platform (SkillPage.Orderly Sample.platform) page :=
    (Machines.Reaches.start Sample.memoryPage_opened).followWhile
      (SkillPage.orderly_of_passes Sample.platform) followed
  exact ⟨page, reached, locked, actions, SkillPage.restored_digits_own reached⟩

end RngGamePlatform
