/-
Module: RngGamePlatform.Web.SkillCheck
Purpose: The Memory Rush component of the browser, with its asynchronous functions
  interleaved with each other and with the platform.
Trusted boundary: human-reviewed semantics
Main exports: PageStatus, SkillPhase, SkillCheck, SkillCaller, SkillTask, SkillPage,
  Browser.pendingDigits, SkillStep, SkillPage.step, SkillPage.Reached
-/
import RngGamePlatform.Machines.Runs
import RngGamePlatform.Web.FinalScores

namespace RngGamePlatform

open Encoding Transactions

/-- The status of a game component. -/
inductive PageStatus where
  | loading
  | ready
  | submitting
  | animating
  | result
  | recovering
  | cooldown
  | expired
  | terminalError
deriving DecidableEq

inductive SkillPhase where
  | intro
  | preview
  | input
  | result
deriving DecidableEq

/-- The fields of the component; the texts that it only shows are left out. -/
structure SkillCheck extends Round where
  busy : Bool := false
  status : PageStatus := .loading
  phase : SkillPhase := .intro
  lockedSubmission : Bool := false
  sequence : List Int := []
  actions : List Int := []
  /-- The preview timer is running. -/
  previewing : Bool := false

/-- Who waits for a `recover` or a submission of the score: nobody, `load`, the handlers
of `start` and `submit`, or `submit` itself. -/
inductive SkillCaller where
  | timer
  | load
  | startFailed
  | submitFailed
  | submit

/-- An asynchronous function that waits, with the number of its request. -/
inductive SkillTask where
  | loading
  | recovering (caller : SkillCaller) (request : Nat)
  | starting (request : Nat)
  | playing (request : Nat)
  | rewarding (request : Nat)
  | scoring (caller : SkillCaller) (player : Uuid) (scoring : Scoring)
  | claiming (request : Nat)

/-- The page with the component, what it waits for, and, as an observation, the digits
of every submission with their session. -/
structure SkillPage extends Browser where
  component : SkillCheck
  tasks : List SkillTask
  submitted : List (Uuid × List Int)

/-- The digits of a challenge; `|| []` where there are none. -/
def sequenceOf (challenge : Json) : List Int :=
  match challenge.get? (py "sequence") with
  | some (.arr items) => items.filterMap fun
      | .int digit => some digit
      | _ => none
  | _ => []

def skillKey : PyStr := py "skill_check"

/-- The digits that an entry holds to be sent again. -/
def JournalEntry.heldDigits (entry : JournalEntry) : Option (List Int) :=
  if entry.pendingAction = some .play then entry.actions else none

def Browser.pendingDigits (browser : Browser) (player : Uuid) : Option (List Int) :=
  (browser.journal.get player skillKey).bind JournalEntry.heldDigits

namespace SkillPage

variable (env : Platform)

/-- Change the fields of the component. -/
def update (page : SkillPage) (change : SkillCheck → SkillCheck) : SkillPage :=
  { page with component := change page.component }

def saveJournal (page : SkillPage) (values : JournalEntry → JournalEntry) : SkillPage :=
  { page with toBrowser := page.toBrowser.saveJournal skillKey values }

/-- Send a request and wait for it. -/
def ask (page : SkillPage) (operation : Operation) (task : Nat → SkillTask) : SkillPage :=
  { page with
    toBrowser := page.toBrowser.send env operation
    tasks := page.tasks ++ [task page.toBrowser.nextRequest] }

/-- The `finally` of the functions that the player starts. -/
def idle (page : SkillPage) : SkillPage :=
  page.update fun component => { component with busy := false }

/-- A caller goes on to its end. -/
def returned (page : SkillPage) : SkillCaller → SkillPage
  | .timer => page
  | _ => page.idle

def beginPreview (page : SkillPage) : SkillPage :=
  page.update fun component => { component with phase := .preview, previewing := true }

/-- The beginning of `recover`. -/
def recover (page : SkillPage) (caller : SkillCaller) : SkillPage :=
  let page := page.update fun component => { component with previewing := false }
  match page.player with
  | none =>
      (page.update fun component =>
        { component with status := .ready, phase := .intro }).returned caller
  | some player =>
      (page.update fun component => { component with status := .recovering }).ask env
        (.request (.retrievePlayerGameState player player skillKey)) (.recovering caller)

/-- The handler of `submit`. -/
def submitFailed (page : SkillPage) (error : ApiError) : SkillPage :=
  let page := page.update fun component => { component with
    status := if error.code = some .sessionExpired then .expired else .recovering }
  if error.uncertain then page.recover env .submitFailed
  else page.idle

/-- An exception that a caller gets. -/
def threw (page : SkillPage) (error : ApiError) : SkillCaller → SkillPage
  | .timer => page
  | .load =>
      (page.update fun component => { component with status := .terminalError }).idle
  | .submit => page.submitFailed env error
  | .startFailed | .submitFailed => page.idle

/-- Go on after a part of `submitOrRecover`. -/
def scored (page : SkillPage) (caller : SkillCaller) :
    Progress (Uuid × Scoring) → SkillPage
  | .waiting (player, scoring) =>
      { page with tasks := page.tasks ++ [.scoring caller player scoring] }
  | .returned => page.returned caller
  | .threw error => page.threw env error caller

def submitFinalScore (page : SkillPage) (caller : SkillCaller) (draws : ServerDraws) :
    SkillPage :=
  let begun := submitOrRecover env skillKey page.toBrowser page.component.toRound none draws
  ({ page with toBrowser := begun.1 }.update fun component =>
    { component with toRound := begun.2.1 }).scored env caller begun.2.2

/-- `recover` finds an active round. -/
def recoverActive (page : SkillPage) (caller : SkillCaller) : SkillPage :=
  let page := page.update fun component => { component with status := .ready }
  match page.player with
  | none => page.threw env typeError caller
  | some player =>
      match page.pendingDigits player with
      | some digits =>
          (page.update fun component => { component with
            actions := digits
            lockedSubmission := true
            phase := .input }).returned caller
      | none => page.beginPreview.returned caller

/-- The fields that `recover` takes over from the state. -/
def takeOver (page : SkillPage) (state : PlayerGameState) : SkillPage :=
  page.update fun component => { component with
    session := state.gameSession
    outcome := state.gameSession.bind fun _ => state.outcome
    reward := state.gameSession.bind fun _ => state.reward
    finalScore := state.gameSession.bind fun _ => state.finalScore
    sequence := (state.gameSession.map fun row => sequenceOf row.challenge).getD [] }

/-- The rest of `recover`. -/
def recoverAnswered (page : SkillPage) (caller : SkillCaller) (state : PlayerGameState)
    (draws : ServerDraws) : SkillPage :=
  let page := page.takeOver state
  let waiting : Bool := state.nextPlayAt.isSome
  match state.gameSession with
  | none =>
      (page.update fun component => { component with
        status := if waiting then .cooldown else .ready
        phase := .intro }).returned caller
  | some session =>
      let page := page.saveJournal fun entry => { entry with
        requestId := some session.requestId
        sessionId := some session.id
        outcome := state.outcome }
      match session.status, state.outcome with
      | .active, _ => page.recoverActive env caller
      | .expired, _ =>
          (page.update fun component =>
            { component with status := .expired, phase := .intro }).returned caller
      | _, some _ =>
          let page := page.update fun component => { component with
            phase := .result
            status := if waiting then .cooldown else .result }
          if state.finalScore.isSome then page.returned caller
          else page.submitFinalScore env caller draws
      | _, none => page.returned caller

/-- The beginning of `load`; only the configuration is awaited. -/
def load (page : SkillPage) : SkillPage :=
  { page.update fun component => { component with busy := true } with
    tasks := page.tasks ++ [.loading] }

/-- The session of the component is active. -/
def isActive (page : SkillPage) : Bool :=
  match page.component.session with
  | some session => session.status = .active
  | none => false

/-- The beginning of `start`; without a player a dialog opens. -/
def start (page : SkillPage) (requestId : Uuid) (draws : ServerDraws) : SkillPage :=
  match page.player with
  | none => page
  | some player =>
      let page := page.update fun component =>
        { component with busy := true, status := .submitting }
      if page.isActive then
        (page.update fun component =>
          { component with actions := [], status := .ready }).beginPreview.idle
      else
        let page := page.update fun component => { component with
          outcome := none
          reward := none
          finalScore := none
          phase := .intro
          lockedSubmission := false }
        (page.saveJournal fun entry => { entry with
          requestId := some requestId
          pendingAction := some .createSession }).ask env
          (.request (.createSession requestId player player skillKey draws.session)) .starting

/-- `start` goes on with the session that it has created. -/
def started (page : SkillPage) (session : GameSession) : SkillPage :=
  let page := page.update fun component => { component with
    session := some session
    sequence := sequenceOf session.challenge }
  let page := page.saveJournal fun entry => { entry with
    sessionId := some session.id
    pendingAction := some .play }
  (page.update fun component =>
    { component with actions := [], status := .ready }).beginPreview.idle

/-- The handler of `start`. -/
def startFailed (page : SkillPage) (error : ApiError) : SkillPage :=
  let page := page.update fun component => { component with
    status := if error.code = some .sessionExpired then .expired else .recovering }
  if error.uncertain ∨ error.code = some .activeSession then page.recover env .startFailed
  else page.idle

def addDigit (page : SkillPage) (digit : Int) : SkillPage :=
  let component := page.component
  if component.phase = .input ∧ ¬component.busy ∧ ¬component.lockedSubmission ∧
      digit ∉ component.actions ∧ component.actions.length < component.sequence.length then
    page.update fun component => { component with actions := component.actions ++ [digit] }
  else page

def undo (page : SkillPage) : SkillPage :=
  let component := page.component
  if component.phase = .input ∧ ¬component.busy ∧ ¬component.lockedSubmission then
    page.update fun component => { component with actions := component.actions.dropLast }
  else page

def canSubmit (page : SkillPage) : Bool :=
  page.component.phase = .input ∧ page.component.actions ≠ [] ∧ ¬page.component.busy

/-- The beginning of `submit`. -/
def submit (page : SkillPage) (draws : ServerDraws) : SkillPage :=
  match page.player, page.component.session with
  | some player, some session =>
      if page.canSubmit then
        let actions := page.component.actions
        let page := page.update fun component =>
          { component with busy := true, status := .submitting }
        let page := page.saveJournal fun entry =>
          { entry with actions := some actions, pendingAction := some .play }
        { page with submitted := (session.id, actions) :: page.submitted }.ask env
          (.request (.playSession session.id player ⟨none, some actions⟩ draws.provider
            draws.play)) .playing
      else page
  | _, _ => page

/-- `submit` goes on with the outcome, and asks for the reward. -/
def played (page : SkillPage) (outcome : Outcome) : SkillPage :=
  let page := page.update fun component =>
    { component with outcome := some outcome, phase := .result, status := .result }
  let page := page.saveJournal fun entry =>
    { entry with outcome := some outcome, pendingAction := some .submitScore }
  match page.player with
  | none => page.submitFailed env typeError
  | some player =>
      page.ask env (.request (.retrievePlayerGameState player player skillKey)) .rewarding

/-- `submit` goes on with the reward. -/
def rewarded (page : SkillPage) (state : PlayerGameState) (draws : ServerDraws) : SkillPage :=
  (page.update fun component =>
    { component with reward := state.gameSession.bind fun _ => state.reward }).submitFinalScore
    env .submit draws

/-- The beginning of `claim`. -/
def claim (page : SkillPage) : SkillPage :=
  match page.player, page.component.session with
  | some player, some session =>
      if page.component.canClaim then
        (page.update fun component => { component with busy := true }).ask env
          (.request (.claimSessionReward session.id player)) .claiming
      else page
  | _, _ => page

/-- Discard the entry of the current player. -/
def discardEntry (page : SkillPage) : SkillPage :=
  match page.player with
  | none => page
  | some player => { page with journal := page.journal.discard player skillKey }

/-- The rest of `claim`. -/
def claimed (page : SkillPage) : Except ApiError Answer → SkillPage
  | .ok (.result (.reward row)) =>
      (page.update fun component =>
        { component with reward := some row }).discardEntry.idle
  | _ => page.idle

/-- Whether a function waits for a request that changes something. -/
def mutates : SkillTask → Bool
  | .loading | .recovering _ _ | .rewarding _ => false
  | .starting _ | .playing _ | .claiming _ => true
  | .scoring _ _ scoring => scoring.mutates

/-- The request that a function waits for; the configuration has none. -/
def requestOf : SkillTask → Option Nat
  | .loading => none
  | .recovering _ request | .starting request | .playing request | .rewarding request
  | .claiming request => some request
  | .scoring _ _ scoring => some scoring.request

/-- Go on with a part of `submitOrRecover`. -/
def resumeScoring (page : SkillPage) (caller : SkillCaller) (player : Uuid)
    (scoring : Scoring) (reply : Except ApiError Answer) : SkillPage :=
  let resumed := scoring.resume env skillKey page.toBrowser page.component.toRound player reply
  ({ page with toBrowser := resumed.1 }.update fun component =>
    { component with toRound := resumed.2.1 }).scored env caller <|
      match resumed.2.2 with
      | .waiting next => .waiting (player, next)
      | .returned => .returned
      | .threw error => .threw error

/-- A function goes on with the answer to its request. -/
def proceed (page : SkillPage) (task : SkillTask) (reply : Except ApiError Answer)
    (draws : ServerDraws) : SkillPage :=
  match task, reply with
  | .recovering caller _, .ok (.result (.state state)) =>
      page.recoverAnswered env caller state draws
  | .recovering caller _, .error error => page.threw env error caller
  | .recovering caller _, .ok _ => page.threw env typeError caller
  | .starting _, .ok (.result (.session session)) => page.started session
  | .starting _, .error error => page.startFailed env error
  | .starting _, .ok _ => page.startFailed env typeError
  | .playing _, .ok (.result (.outcome outcome)) => page.played env outcome
  | .playing _, .error error => page.submitFailed env error
  | .playing _, .ok _ => page.submitFailed env typeError
  | .rewarding _, .ok (.result (.state state)) => page.rewarded env state draws
  | .rewarding _, .error error => page.submitFailed env error
  | .rewarding _, .ok _ => page.submitFailed env typeError
  | .scoring caller player scoring, reply => page.resumeScoring env caller player scoring reply
  | .claiming _, reply => page.claimed reply
  | .loading, _ => page

end SkillPage

/-- What happens on the page, or on the platform. -/
inductive SkillStep where
  /-- Any step of the platform, also of requests from elsewhere. -/
  | server (label : Label Int Operation)
  /-- The player store names a player; it tells the component, which loads. -/
  | choosePlayer (player : Option Uuid)
  /-- The page is opened anew: the component and what it waits for are gone. -/
  | reload
  /-- All players and entries are forgotten. -/
  | forgetPlayers
  /-- The entry is discarded by a button, or by a cancellation next to the game. -/
  | discardJournal
  /-- A countdown has ended. -/
  | recover
  | previewEnds
  | start (requestId : Uuid) (draws : ServerDraws)
  | addDigit (digit : Int)
  | undo
  | submit (draws : ServerDraws)
  | claim
  /-- The configuration arrives, or not. -/
  | configured (index : Nat) (delivery : Delivery)
  /-- The function at `index` goes on. -/
  | resume (index : Nat) (delivery : Delivery) (draws : ServerDraws)

namespace SkillPage

variable (env : Platform)

/-- The page is opened, on a platform. -/
def opened (player : Option Uuid) (journal : Journal) (server : PlatformSystem)
    (submitted : List (Uuid × List Int)) : SkillPage :=
  load ⟨⟨player, journal, server⟩, {}, [], submitted⟩

/-- A function does not wait any more. -/
def dropTask (page : SkillPage) (index : Nat) : SkillPage :=
  { page with tasks := page.tasks.eraseIdx index }

/-- What a function would go on with. -/
def replyOf (page : SkillPage) (task : SkillTask) (delivery : Delivery) :
    Option (Except ApiError Answer) :=
  (requestOf task).bind fun request =>
    PlatformSystem.reply page.server request (mutates task) delivery

/-- One step, if it can happen. -/
def step (page : SkillPage) : SkillStep → Option SkillPage
  | .server label =>
      (page.server.step Lock.conflicts (operate env) label).map fun next =>
        { page with server := next }
  | .choosePlayer player => some { page with player := player }.load
  | .reload => some (opened page.player page.journal page.server page.submitted)
  | .forgetPlayers => some { page with player := none, journal := Journal.empty }.load
  | .discardJournal => some page.discardEntry
  | .recover => some (page.recover env .timer)
  | .previewEnds =>
      if page.component.previewing then
        some (page.update fun component =>
          { component with phase := .input, previewing := false })
      else none
  | .start requestId draws => some (page.start env requestId draws)
  | .addDigit digit => some (page.addDigit digit)
  | .undo => some page.undo
  | .submit draws => some (page.submit env draws)
  | .claim => some (page.claim env)
  | .configured index delivery => do
      let task ← page.tasks[index]?
      match task, delivery with
      | .loading, .answered => some ((page.dropTask index).recover env .load)
      | .loading, .lost => some ((page.dropTask index).threw env ⟨none, false⟩ .load)
      | _, _ => none
  | .resume index delivery draws => do
      let task ← page.tasks[index]?
      let reply ← page.replyOf task delivery
      some ((page.dropTask index).proceed env task reply draws)

/-- A page that has just been opened in a browser without an entry, on a platform in
any reachable state. -/
def Opened (page : SkillPage) : Prop :=
  ∃ player server, PlatformReachable env server ∧ page = opened player Journal.empty server []

/-- The pages that some run reaches, when every step is one that `allowed` admits. -/
abbrev Reached (allowed : SkillPage → SkillStep → Prop) : SkillPage → Prop :=
  Machines.Reaches (step env) (Opened env) allowed

end SkillPage

end RngGamePlatform
