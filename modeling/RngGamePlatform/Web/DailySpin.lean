/-
Module: RngGamePlatform.Web.DailySpin
Purpose: The daily-spin component of the browser, with its asynchronous functions
  interleaved with each other and with the platform.
Trusted boundary: human-reviewed semantics
Main exports: DailySpin, SpinCaller, SpinFlow, SpinTask, SeedDraw, Evaluation, SpinPage,
  SpinStep, SpinPage.step, SpinPage.Reached
-/
import RngGamePlatform.Web.SkillCheck

namespace RngGamePlatform

open Encoding Transactions

/-- The fields of the component.  The wheel's rotation and the texts that the component
only shows are left out; the page has its wheel. -/
structure DailySpin extends Round where
  /-- `session.fairness?.proof_id`; only a recovered session has one. -/
  fairness : Option Uuid := none
  busy : Bool := false
  status : PageStatus := .loading
  pendingOutcome : Option Outcome := none
  pendingReward : Option Reward := none
  proof : Option RevealedFairnessProof := none
  verification : Option Bool := none
  /-- The keys of the wheel's segments. -/
  segments : List PyStr := []
  presentationGeneration : Nat := 0
  resultVisible : Bool := false

/-- Who waits for a `recover`: nobody, the `load` of a generation, or the handler of the
`action` of a player. -/
inductive SpinCaller where
  | timer
  | load (generation : Nat)
  | actionFailed (player : Uuid)

/-- Which function waits for a submission or a proof: a `recover`, that knows whether the
next play has to wait and the score of its state, or the `action` of a player. -/
inductive SpinFlow where
  | recovery (caller : SpinCaller) (waits : Bool) (recovered : Option FinalScore)
  | action (player : Uuid)

/-- The score of the recovered state that the function knows. -/
def SpinFlow.recovered : SpinFlow → Option FinalScore
  | .recovery _ _ recovered => recovered
  | .action _ => none

/-- An asynchronous function that waits, with the number of its request. -/
inductive SpinTask where
  | loading (generation : Nat) (player : Option Uuid)
  | recovering (caller : SpinCaller) (generation : Nat) (expected : Option Uuid)
      (request : Nat)
  | creating (player : Uuid) (request : Nat)
  /-- The commitment of a session, and the evaluation of a proof; the session that the
  component had then is an observation. -/
  | committing (player sessionId : Uuid) (request : Nat)
  | evaluating (player : Uuid) (sessionId : Option Uuid) (request : Nat)
  /-- The wheel turns, or lands at once in a recovery. -/
  | animating (flow : SpinFlow) (generation : Nat)
  /-- The result is shown and gets the focus. -/
  | focusing (flow : SpinFlow)
  | scoring (flow : SpinFlow) (player : Uuid) (scoring : Scoring)
  | proving (flow : SpinFlow) (request : Nat)
  | verifying (flow : SpinFlow) (request : Nat)
  | claiming (request : Nat)

/-- A client seed, and the proofs that were committed when it was drawn. -/
structure SeedDraw where
  seed : PyStr
  committed : List Uuid

/-- An evaluation request of `action`: the session of the component, and what it sends. -/
structure Evaluation where
  session : Option Uuid
  proof : Uuid
  seed : PyStr
deriving DecidableEq

/-- The page with the component, what it waits for, and, as observations, the player for
whom the component took up its session, the seeds that were drawn, the evaluations that
were requested, and each submitted session with the session of the outcome that was
shown. -/
structure SpinPage extends Browser where
  component : DailySpin
  tasks : List SpinTask
  owner : Option Uuid
  drawn : List SeedDraw
  evaluations : List Evaluation
  scored : List (Uuid × Uuid)

def spinKey : PyStr := py "daily_spin"

namespace SpinPage

variable (env : Platform)

/-- Change the fields of the component. -/
def update (page : SpinPage) (change : DailySpin → DailySpin) : SpinPage :=
  { page with component := change page.component }

def saveJournal (page : SpinPage) (values : JournalEntry → JournalEntry) : SpinPage :=
  { page with toBrowser := page.toBrowser.saveJournal spinKey values }

/-- Wait. -/
def await (page : SpinPage) (task : SpinTask) : SpinPage :=
  { page with tasks := page.tasks ++ [task] }

/-- Send a request and wait for it. -/
def ask (page : SpinPage) (operation : Operation) (task : Nat → SpinTask) : SpinPage :=
  { page with toBrowser := page.toBrowser.send env operation }.await
    (task page.toBrowser.nextRequest)

/-- The entry of a player. -/
def entryOf (page : SpinPage) (player : Uuid) : JournalEntry :=
  (page.journal.get player spinKey).getD {}

def idle (page : SpinPage) : SpinPage :=
  page.update fun component => { component with busy := false }

/-- The `finally` of `action`: only its own player becomes idle. -/
def actionEnded (page : SpinPage) (player : Uuid) : SpinPage :=
  if page.player = some player then page.idle else page

/-- The `finally` of `load`: only the newest one becomes idle. -/
def loadEnded (page : SpinPage) (generation : Nat) : SpinPage :=
  if generation = page.component.presentationGeneration then page.idle else page

def returned (page : SpinPage) : SpinCaller → SpinPage
  | .timer => page
  | .load generation => page.loadEnded generation
  | .actionFailed player => page.actionEnded player

/-- An exception that the caller of a `recover` gets. -/
def recoveryThrew (page : SpinPage) : SpinCaller → SpinPage
  | .timer => page
  | .load generation =>
      if generation = page.component.presentationGeneration then
        (page.update fun component => { component with status := .terminalError }).idle
      else page
  | .actionFailed player => page.actionEnded player

def cancelPresentation (page : SpinPage) : SpinPage :=
  page.update fun component => { component with
    presentationGeneration := component.presentationGeneration + 1 }

/-- The beginning of `recover`. -/
def recover (page : SpinPage) (caller : SpinCaller) (generation : Nat)
    (expected : Option Uuid) : SpinPage :=
  match page.player with
  | none =>
      (page.update fun component => { component with status := .ready }).returned caller
  | some player =>
      (page.update fun component => { component with status := .recovering }).ask env
        (.request (.retrievePlayerGameState player player spinKey))
        (.recovering caller generation expected)

/-- `recover()` for the current generation and player. -/
def recoverNow (page : SpinPage) (caller : SpinCaller) : SpinPage :=
  page.recover env caller page.component.presentationGeneration page.player

/-- The handler of `action`. -/
def actionFailed (page : SpinPage) (player : Uuid) (error : ApiError) : SpinPage :=
  let page := page.cancelPresentation.update fun component => { component with
    status := if error.code = some .sessionExpired then .expired else .recovering }
  if error.uncertain ∨ error.code = some .activeSession then
    page.recoverNow env (.actionFailed player)
  else page.actionEnded player

/-- An exception in a function that submits a score or loads a proof. -/
def threw (page : SpinPage) (error : ApiError) : SpinFlow → SpinPage
  | .recovery caller _ _ => page.recoveryThrew caller
  | .action player => page.actionFailed env player error

/-- The end of `recover` after a result, and of `action`. -/
def finished (page : SpinPage) : SpinFlow → SpinPage
  | .recovery caller waits _ =>
      (page.update fun component => { component with
        status := if waits then .cooldown else .result }).returned caller
  | .action player =>
      (page.update fun component => { component with status := .result }).actionEnded player

/-- The beginning of `loadProof`. -/
def loadProof (page : SpinPage) (flow : SpinFlow) : SpinPage :=
  match page.player, page.component.outcome with
  | some player, some outcome =>
      page.ask env (.retrieveFairnessProof outcome.id player) (.proving flow)
  | _, _ => page.finished flow

/-- `loadProof` goes on with the proof, and asks for its verification. -/
def proved (page : SpinPage) (flow : SpinFlow) (proof : RevealedFairnessProof)
    (fuel : Nat) : SpinPage :=
  let page := page.update fun component => { component with proof := some proof }
  match page.player, page.component.outcome with
  | some player, some outcome =>
      page.ask env (.verifyFairnessProof fuel outcome.id player) (.verifying flow)
  | _, _ => page.threw env typeError flow

/-- `loadProof` goes on with the verdict. -/
def verified (page : SpinPage) (flow : SpinFlow) (valid : Bool) : SpinPage :=
  let page := page.update fun component => { component with verification := some valid }
  (page.saveJournal fun entry => { entry with
    pendingAction := if page.component.canClaim then some .claim else none }).finished flow

/-- Go on after a part of `submitOrRecover`. -/
def scoredOn (page : SpinPage) (flow : SpinFlow) : Progress (Uuid × Scoring) → SpinPage
  | .waiting (player, scoring) => page.await (.scoring flow player scoring)
  | .returned => page.loadProof env flow
  | .threw error => page.threw env error flow

/-- Submit the score, and note the session with the session of the shown outcome. -/
def submitFinalScore (page : SpinPage) (flow : SpinFlow) (draws : ServerDraws) : SpinPage :=
  let begun := submitOrRecover env spinKey page.toBrowser page.component.toRound flow.recovered
    draws
  let noted := match begun.2.2, page.component.session, page.component.outcome with
    | .waiting _, some session, some outcome => (session.id, outcome.sessionId) :: page.scored
    | _, _, _ => page.scored
  ({ page with toBrowser := begun.1, scored := noted }.update fun component =>
    { component with toRound := begun.2.1 }).scoredOn env flow begun.2.2

/-- Go on with a part of `submitOrRecover`. -/
def resumeScoring (page : SpinPage) (flow : SpinFlow) (player : Uuid) (scoring : Scoring)
    (reply : Except ApiError Answer) : SpinPage :=
  let resumed := scoring.resume env spinKey page.toBrowser page.component.toRound player reply
  ({ page with toBrowser := resumed.1 }.update fun component =>
    { component with toRound := resumed.2.1 }).scoredOn env flow <|
      match resumed.2.2 with
      | .waiting next => .waiting (player, next)
      | .returned => .returned
      | .threw error => .threw error

/-- The segment of the pending outcome is on the wheel. -/
def onWheel (page : SpinPage) : Bool :=
  match page.component.pendingOutcome.bind fun outcome =>
      outcome.result.get? (py "reward_key") with
  | some (.str key) => key ∈ page.component.segments
  | _ => false

/-- `revealPendingResult`, and the focus after it. -/
def reveal (page : SpinPage) (flow : SpinFlow) : SpinPage :=
  (page.update fun component => { component with
    outcome := component.pendingOutcome
    reward := component.pendingReward
    resultVisible := true }).await (.focusing flow)

/-- `animateResult` and `landRecoveredWheel` up to the end of the animation. -/
def animate (page : SpinPage) (flow : SpinFlow) (generation : Nat) : SpinPage :=
  if page.onWheel then page.await (.animating flow generation)
  else page.threw env typeError flow

/-- Nothing is revealed any more. -/
def notRevealed (page : SpinPage) : SpinFlow → SpinPage
  | .recovery caller _ _ => page.returned caller
  | .action player => page.actionEnded player

/-- The animation has ended. -/
def animated (page : SpinPage) (flow : SpinFlow) (generation : Nat) : SpinPage :=
  if generation = page.component.presentationGeneration then page.reveal flow
  else page.notRevealed flow

/-- The result has the focus.  `action` goes on for its own player only; `recover`
submits a score that the platform does not have yet. -/
def focused (page : SpinPage) (draws : ServerDraws) : SpinFlow → SpinPage
  | .recovery caller waits recovered =>
      if page.component.finalScore.isSome then
        page.loadProof env (.recovery caller waits recovered)
      else page.submitFinalScore env (.recovery caller waits recovered) draws
  | .action player =>
      if page.player = some player then page.submitFinalScore env (.action player) draws
      else page.actionEnded player

/-- The fields that `recover` takes over from the state. -/
def takeOver (page : SpinPage) (state : PlayerGameState) : SpinPage :=
  { page with owner := page.player }.update fun component => { component with
    session := state.gameSession
    fairness := state.gameSession.bind fun _ => state.fairnessProof.map FairnessProof.id
    pendingOutcome := state.gameSession.bind fun _ => state.outcome
    pendingReward := state.gameSession.bind fun _ => state.reward
    finalScore := state.gameSession.bind fun _ => state.finalScore }

/-- The rest of `recover`, if generation and player are still the same. -/
def recoverAnswered (page : SpinPage) (caller : SpinCaller) (generation : Nat)
    (expected : Option Uuid) (state : PlayerGameState) : SpinPage :=
  if generation ≠ page.component.presentationGeneration ∨ page.player ≠ expected then
    page.returned caller
  else
    let page := page.takeOver state
    let waits : Bool := state.nextPlayAt.isSome
    match state.gameSession with
    | none =>
        (page.update fun component => { component with
          status := if waits then .cooldown else .ready }).returned caller
    | some session =>
        let page := page.saveJournal fun entry => { entry with
          requestId := some session.requestId
          sessionId := some session.id
          commitmentId := state.fairnessProof.map FairnessProof.id
          outcome := state.outcome }
        match session.status, state.outcome with
        | .active, _ =>
            (page.update fun component => { component with status := .ready }).returned caller
        | .expired, _ =>
            (page.update fun component => { component with status := .expired }).returned caller
        | _, some _ => page.animate env (.recovery caller waits state.finalScore) generation
        | _, none =>
            (page.update fun component => { component with
              status := if waits then .cooldown else .ready }).returned caller

/-- The beginning of `load`. -/
def load (page : SpinPage) : SpinPage :=
  let page := page.cancelPresentation
  (page.update fun component => { component with
    busy := true
    resultVisible := false
    outcome := none
    reward := none
    pendingOutcome := none
    pendingReward := none
    proof := none
    verification := none }).await (.loading page.component.presentationGeneration page.player)

/-- The session of the component is active. -/
def isActive (page : SpinPage) : Bool :=
  match page.component.session with
  | some session => session.status = .active
  | none => false

/-- `action` evaluates a proof, with the seed of the entry or a new one. -/
def evaluate (page : SpinPage) (player : Uuid) (proofId : Uuid) (fresh : PyStr)
    (draws : ServerDraws) : SpinPage :=
  let stored := (page.entryOf player).clientSeed.filter fun seed => seed ≠ []
  let seed := stored.getD fresh
  let drawn := match stored with
    | some _ => page.drawn
    | none => ⟨fresh, page.server.db.proofs.map FairnessProof.id⟩ :: page.drawn
  let session := page.component.session.map GameSession.id
  let page := page.saveJournal fun entry => { entry with
    clientSeed := some seed
    pendingAction := some .evaluate }
  { page with
    drawn := drawn
    evaluations := ⟨session, proofId, seed⟩ :: page.evaluations }.ask env
    (.request (.evaluateFairness proofId player seed draws.evaluate))
    (.evaluating player session)

/-- `action` goes on with a session: it takes the proof of the component's session, or
that of the entry, or commits a new one. -/
def spin (page : SpinPage) (player : Uuid) (session : GameSession) (fresh : PyStr)
    (draws : ServerDraws) : SpinPage :=
  match page.component.fairness.orElse fun _ => (page.entryOf player).commitmentId with
  | some proofId => page.evaluate env player proofId fresh draws
  | none =>
      page.ask env (.request (.commitFairness session.id player draws.commit))
        (.committing player session.id)

/-- The beginning of `action`; without a player a dialog opens. -/
def action (page : SpinPage) (requestId : Uuid) (fresh : PyStr) (draws : ServerDraws) :
    SpinPage :=
  match page.component.busy, page.player with
  | false, some player =>
      let page := page.update fun component =>
        { component with busy := true, status := .submitting }
      match page.isActive, page.component.session with
      | true, some session => page.spin env player session fresh draws
      | _, _ =>
          let page := (page.update fun component => { component with
            outcome := none
            reward := none
            pendingOutcome := none
            pendingReward := none
            finalScore := none
            proof := none
            verification := none
            resultVisible := false }).cancelPresentation
          (page.saveJournal fun entry => { entry with
            requestId := some requestId
            pendingAction := some .createSession }).ask env
            (.request (.createSession requestId player player spinKey draws.session))
            (.creating player)
  | _, _ => page

/-- `action` goes on with the session that it has created. -/
def created (page : SpinPage) (player : Uuid) (session : GameSession) (fresh : PyStr)
    (draws : ServerDraws) : SpinPage :=
  let page := { page with owner := some player }.update fun component =>
    { component with session := some session, fairness := none }
  if page.player = some player then
    (page.saveJournal fun entry => { entry with
      sessionId := some session.id
      pendingAction := some .commit }).spin env player session fresh draws
  else page

/-- `action` goes on with the proof that it has committed. -/
def committed (page : SpinPage) (player : Uuid) (proofId : Uuid) (fresh : PyStr)
    (draws : ServerDraws) : SpinPage :=
  if page.player = some player then
    (page.saveJournal fun entry => { entry with
      commitmentId := some proofId
      pendingAction := some .evaluate }).evaluate env player proofId fresh draws
  else page

/-- `action` goes on with the outcome and the reward. -/
def evaluated (page : SpinPage) (player : Uuid) (outcome : Outcome) (reward : Reward) :
    SpinPage :=
  if page.player = some player then
    let page := (page.update fun component => { component with
      pendingOutcome := some outcome
      pendingReward := some reward }).saveJournal fun entry => { entry with
        outcome := some outcome
        pendingAction := some .submitScore }
    (page.update fun component => { component with
      status := .animating
      resultVisible := false }).animate env (.action player)
      page.component.presentationGeneration
  else page

/-- The beginning of `claim`. -/
def claim (page : SpinPage) : SpinPage :=
  match page.player, page.component.session with
  | some player, some session =>
      if page.component.canClaim then
        ((page.update fun component => { component with busy := true }).saveJournal fun entry =>
          { entry with pendingAction := some .claim }).ask env
          (.request (.claimSessionReward session.id player)) .claiming
      else page
  | _, _ => page

/-- Discard the entry of the current player. -/
def discardEntry (page : SpinPage) : SpinPage :=
  match page.player with
  | none => page
  | some player => { page with journal := page.journal.discard player spinKey }

/-- The rest of `claim`. -/
def claimed (page : SpinPage) : Except ApiError Answer → SpinPage
  | .ok (.result (.reward row)) =>
      (page.update fun component =>
        { component with reward := some row }).discardEntry.idle
  | _ => page.idle

/-- `load` goes on with the configuration, if no newer one has begun. -/
def configured (page : SpinPage) (generation : Nat) (player : Option Uuid)
    (segments : List PyStr) : SpinPage :=
  if generation = page.component.presentationGeneration then
    (page.update fun component => { component with segments := segments }).recover env
      (.load generation) generation player
  else page

/-- Whether a function waits for a request that changes something. -/
def mutates : SpinTask → Bool
  | .creating _ _ | .committing _ _ _ | .evaluating _ _ _ | .claiming _ => true
  | .scoring _ _ scoring => scoring.mutates
  | _ => false

/-- The request that a function waits for, if it waits for one of the platform. -/
def requestOf : SpinTask → Option Nat
  | .recovering _ _ _ request | .creating _ request | .committing _ _ request
  | .evaluating _ _ request | .proving _ request | .verifying _ request
  | .claiming request => some request
  | .scoring _ _ scoring => some scoring.request
  | .loading _ _ | .animating _ _ | .focusing _ => none

/-- A function goes on with the answer to its request. -/
def proceed (page : SpinPage) (task : SpinTask) (reply : Except ApiError Answer)
    (fresh : PyStr) (draws : ServerDraws) : SpinPage :=
  match task, reply with
  | .recovering caller generation expected _, .ok (.result (.state state)) =>
      page.recoverAnswered env caller generation expected state
  | .recovering caller _ _ _, _ => page.recoveryThrew caller
  | .creating player _, .ok (.result (.session session)) =>
      page.created env player session fresh draws
  | .committing player _ _, .ok (.result (.proof proof)) =>
      page.committed env player proof.id fresh draws
  | .evaluating player _ _, .ok (.result (.evaluation outcome reward _)) =>
      page.evaluated env player outcome reward
  | .creating player _, .error error | .committing player _ _, .error error
  | .evaluating player _ _, .error error => page.actionFailed env player error
  | .creating player _, .ok _ | .committing player _ _, .ok _
  | .evaluating player _ _, .ok _ => page.actionFailed env player typeError
  | .scoring flow player scoring, reply => page.resumeScoring env flow player scoring reply
  | .proving flow _, .ok (.revealed proof _) => page.proved env flow proof draws.fuel
  | .verifying flow _, .ok (.verified _ _ _ valid) => page.verified flow valid
  | .proving flow _, .error error | .verifying flow _, .error error =>
      page.threw env error flow
  | .proving flow _, .ok _ | .verifying flow _, .ok _ => page.threw env typeError flow
  | .claiming _, reply => page.claimed reply
  | .loading _ _, _ | .animating _ _, _ | .focusing _, _ => page

end SpinPage

/-- What happens on the page, or on the platform. -/
inductive SpinStep where
  /-- Any step of the platform, also of requests from elsewhere. -/
  | server (label : Label Int Operation)
  /-- The player store names a player; it tells the component, which loads. -/
  | choosePlayer (player : Option Uuid)
  /-- The page is opened anew: the component and what it waits for are gone. -/
  | reload
  /-- All players and entries are forgotten. -/
  | forgetPlayers
  /-- The entry is discarded by a button, or by a cancellation next to the game. -/
  | discardJournal
  /-- A countdown has ended. -/
  | recover
  /-- The player spins; `fresh` is the seed that would be drawn. -/
  | action (requestId : Uuid) (fresh : PyStr) (draws : ServerDraws)
  | claim
  /-- The configuration arrives, with the keys of its rewards, or not. -/
  | configured (index : Nat) (segments : Option (List PyStr))
  /-- An animation or a change of the focus ends. -/
  | shown (index : Nat) (draws : ServerDraws)
  /-- The function at `index` goes on. -/
  | resume (index : Nat) (delivery : Delivery) (fresh : PyStr) (draws : ServerDraws)

namespace SpinPage

variable (env : Platform)

/-- The page is opened. -/
def opened (page : SpinPage) : SpinPage :=
  load { page with component := {}, tasks := [] }

/-- A function does not wait any more. -/
def dropTask (page : SpinPage) (index : Nat) : SpinPage :=
  { page with tasks := page.tasks.eraseIdx index }

/-- What a function would go on with. -/
def replyOf (page : SpinPage) (task : SpinTask) (delivery : Delivery) :
    Option (Except ApiError Answer) :=
  (requestOf task).bind fun request =>
    PlatformSystem.reply page.server request (mutates task) delivery

/-- A seed that has not been drawn yet. -/
def isFresh (page : SpinPage) (seed : PyStr) : Bool :=
  seed ≠ [] ∧ seed ∉ page.drawn.map SeedDraw.seed

/-- One step, if it can happen. -/
def step (page : SpinPage) : SpinStep → Option SpinPage
  | .server label =>
      (page.server.step Lock.conflicts (operate env) label).map fun next =>
        { page with server := next }
  | .choosePlayer player => some { page with player := player }.cancelPresentation.load
  | .reload => some page.opened
  | .forgetPlayers =>
      some { page with player := none, journal := Journal.empty }.cancelPresentation.load
  | .discardJournal => some page.discardEntry
  | .recover => some (page.recoverNow env .timer)
  | .action requestId fresh draws =>
      if page.isFresh fresh then some (page.action env requestId fresh draws) else none
  | .claim => some (page.claim env)
  | .configured index segments => do
      let task ← page.tasks[index]?
      match task, segments with
      | .loading generation player, some segments =>
          some ((page.dropTask index).configured env generation player segments)
      | .loading generation _, none =>
          some ((page.dropTask index).recoveryThrew (.load generation))
      | _, _ => none
  | .shown index draws => do
      let task ← page.tasks[index]?
      match task with
      | .animating flow generation => some ((page.dropTask index).animated flow generation)
      | .focusing flow => some ((page.dropTask index).focused env draws flow)
      | _ => none
  | .resume index delivery fresh draws => do
      let task ← page.tasks[index]?
      let reply ← page.replyOf task delivery
      if page.isFresh fresh then
        some ((page.dropTask index).proceed env task reply fresh draws)
      else none

/-- A page that has just been opened in a browser without an entry, on a platform in
any reachable state. -/
def Opened (page : SpinPage) : Prop :=
  ∃ player server, PlatformReachable env server ∧
    page = opened ⟨⟨player, Journal.empty, server⟩, {}, [], none, [], [], []⟩

/-- The pages that some run reaches, when every step is one that `allowed` admits. -/
abbrev Reached (allowed : SpinPage → SpinStep → Prop) : SpinPage → Prop :=
  Machines.Reaches (step env) (Opened env) allowed

end SpinPage

end RngGamePlatform
