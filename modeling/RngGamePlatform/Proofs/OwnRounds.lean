/-
Module: RngGamePlatform.Proofs.OwnRounds
Purpose: When the daily-spin component evaluates the proofs of its own sessions, each
  with a seed of its own.
Trusted boundary: none
Main exports: SpinsItsOwn, Accepts, Orderly, Onward, Kept, own_round_spun,
  earlier_round_evaluated
-/
import RngGamePlatform.Proofs.RestoredAnswers
import RngGamePlatform.Proofs.SpinAnswers
import RngGamePlatform.Web.DailySpin

namespace RngGamePlatform

open Encoding Relational Transactions

/-- No step of the platform takes a proof away or gives it to another session. -/
theorem ProofOf.step {env : Platform} {system next : PlatformSystem}
    {label : Label Int Operation} {proofId sessionId : Uuid}
    (reachable : PlatformReachable env system)
    (stepped : system.step Lock.conflicts (operate env) label = some next)
    (stored : ProofOf system.db proofId sessionId) : ProofOf next.db proofId sessionId := by
  have sound := platform_sound reachable
  obtain ⟨-, committed⟩ := sound.step Lock.conflicts_symm operate_outlined stepped
  rcases committed with same | ⟨-, held, advances⟩
  · rwa [same]
  · exact stored.lasting advances.moves

/-! ### What happens next to the component -/

/-- The change leaves the commitment and the seed of an entry, or none. -/
def Plain (values : JournalEntry → JournalEntry) : Prop :=
  ∀ entry : JournalEntry, (values entry).commitmentId = entry.commitmentId ∧
    (values entry).clientSeed = entry.clientSeed

/-- The daily-spin entry of a player. -/
def Browser.spinEntry (browser : Browser) (player : Uuid) : JournalEntry :=
  (browser.journal.get player spinKey).getD {}

/-- The platform has gone on, and the entries hold no other commitments and seeds. -/
structure GoesOn (env : Platform) (before after : Browser) : Prop where
  reachable : PlatformReachable env before.server → PlatformReachable env after.server
  proofs : ∀ proofId sessionId, PlatformReachable env before.server →
    ProofOf before.server.db proofId sessionId → ProofOf after.server.db proofId sessionId
  calls : ∀ request call, before.server.callAt request = some call →
    after.server.callAt request = some call
  commitments : ∀ player proofId, (after.spinEntry player).commitmentId = some proofId →
    (before.spinEntry player).commitmentId = some proofId
  seeds : ∀ player seed, (after.spinEntry player).clientSeed = some seed →
    (before.spinEntry player).clientSeed = some seed

/-- The number of a new request is that of its call. -/
theorem callAt_send {env : Platform} (browser : Browser) (operation : Operation) :
    (browser.send env operation).server.callAt browser.nextRequest = some operation := by
  simp [Browser.send, Browser.nextRequest, PlatformSystem.begin, System.callAt, Thread.fresh]

namespace GoesOn

variable {env : Platform} {before middle after : Browser}

theorem refl (browser : Browser) : GoesOn env browser browser :=
  ⟨id, fun _ _ _ => id, fun _ _ => id, fun _ _ => id, fun _ _ => id⟩

theorem trans (first : GoesOn env before middle) (second : GoesOn env middle after) :
    GoesOn env before after := by
  constructor
  case reachable => exact fun reached => second.reachable (first.reachable reached)
  case proofs =>
    intro proofId sessionId reached stored
    exact second.proofs _ _ (first.reachable reached) (first.proofs _ _ reached stored)
  case calls => exact fun request call asked => second.calls _ _ (first.calls _ _ asked)
  case commitments => exact fun player _ held => first.commitments _ _ (second.commitments _ _ held)
  case seeds => exact fun player _ held => first.seeds _ _ (second.seeds _ _ held)

/-- Any step of the platform. -/
theorem step {server : PlatformSystem} {label : Label Int Operation}
    (stepped : before.server.step Lock.conflicts (operate env) label = some server) :
    GoesOn env before { before with server := server } := by
  constructor
  case reachable => exact fun reached => reached.step trivial stepped
  case proofs => exact fun _ _ reached stored => stored.step reached stepped
  case calls => exact fun _ _ asked => System.callAt_step asked stepped
  case commitments => exact fun _ _ held => held
  case seeds => exact fun _ _ held => held

theorem send (browser : Browser) (operation : Operation) :
    GoesOn env browser (browser.send env operation) :=
  @step env browser _ (.start operation) rfl

/-- The entries of some players are gone. -/
theorem forget {player : Option Uuid} {journal : Journal} (browser : Browser)
    (less : ∀ other, journal.get other spinKey = none ∨
      journal.get other spinKey = browser.journal.get other spinKey) :
    GoesOn env browser { browser with player := player, journal := journal } := by
  have entries : ∀ other, Browser.spinEntry ⟨player, journal, browser.server⟩ other = {} ∨
      Browser.spinEntry ⟨player, journal, browser.server⟩ other = browser.spinEntry other := by
    intro other
    unfold Browser.spinEntry
    rcases less other with gone | same
    · exact .inl (by rw [gone, Option.getD_none])
    · exact .inr (by rw [same])
  constructor
  case reachable => exact id
  case proofs => exact fun _ _ _ => id
  case calls => exact fun _ _ => id
  case commitments =>
    intro other proofId held
    rcases entries other with gone | same
    · rw [gone] at held
      cases held
    · rwa [same] at held
  case seeds =>
    intro other seed held
    rcases entries other with gone | same
    · rw [gone] at held
      cases held
    · rwa [same] at held

theorem discard (browser : Browser) (player : Uuid) :
    GoesOn env browser { browser with journal := browser.journal.discard player spinKey } := by
  apply forget
  intro other
  rw [Journal.get_discard]
  split_ifs
  · exact .inl rfl
  · exact .inr rfl

end GoesOn

/-- The entries after a change of that of the current player. -/
theorem Browser.spinEntry_saveJournal (browser : Browser)
    (values : JournalEntry → JournalEntry) (player : Uuid) :
    (browser.saveJournal spinKey values).spinEntry player =
      if browser.player = some player then values (browser.spinEntry player)
      else browser.spinEntry player := by
  simp only [Browser.spinEntry, Browser.saveJournal, Journal.get_merge]
  split_ifs
  · rfl
  · rfl

section Entries

variable {browser : Browser} {values : JournalEntry → JournalEntry}

/-- The commitments after a change of other fields. -/
theorem Browser.commitmentId_saveJournal
    (same : ∀ entry, (values entry).commitmentId = entry.commitmentId) (player : Uuid) :
    ((browser.saveJournal spinKey values).spinEntry player).commitmentId =
      (browser.spinEntry player).commitmentId := by
  rw [spinEntry_saveJournal]
  split_ifs
  · exact same _
  · rfl

/-- The seeds after a change of other fields. -/
theorem Browser.clientSeed_saveJournal
    (same : ∀ entry, (values entry).clientSeed = entry.clientSeed) (player : Uuid) :
    ((browser.saveJournal spinKey values).spinEntry player).clientSeed =
      (browser.spinEntry player).clientSeed := by
  rw [spinEntry_saveJournal]
  split_ifs
  · exact same _
  · rfl

/-- The entry of the current player is changed. -/
theorem Browser.spinEntry_current {player : Uuid} (isPlayer : browser.player = some player) :
    (browser.saveJournal spinKey values).spinEntry player =
      values (browser.spinEntry player) := by
  rw [spinEntry_saveJournal, if_pos isPlayer]

end Entries

namespace GoesOn

variable {env : Platform}

theorem saveJournal {values : JournalEntry → JournalEntry} (plain : Plain values)
    (browser : Browser) : GoesOn env browser (browser.saveJournal spinKey values) := by
  constructor
  case reachable => exact id
  case proofs => exact fun _ _ _ => id
  case calls => exact fun _ _ => id
  case commitments =>
    intro player proofId held
    exact (Browser.commitmentId_saveJournal (fun entry => (plain entry).1) player).symm.trans held
  case seeds =>
    intro player seed held
    exact (Browser.clientSeed_saveJournal (fun entry => (plain entry).2) player).symm.trans held

theorem submitOrRecover (browser : Browser) (round : Round) (recovered : Option FinalScore)
    (draws : ServerDraws) :
    GoesOn env browser (submitOrRecover env spinKey browser round recovered draws).1 := by
  unfold RngGamePlatform.submitOrRecover
  split
  · exact refl browser
  · have plain : Plain fun entry => { entry with pendingAction := some .submitScore } :=
      fun _ => ⟨rfl, rfl⟩
    exact (saveJournal plain browser).trans (send _ _)
  · exact refl browser

theorem scored (browser : Browser) (round : Round) (score : FinalScore) :
    GoesOn env browser (round.scored spinKey browser score).1 := by
  apply saveJournal
  intro entry
  exact ⟨rfl, rfl⟩

theorem resume (browser : Browser) (round : Round) (player : Uuid) (scoring : Scoring)
    (reply : Except ApiError Answer) :
    GoesOn env browser (scoring.resume env spinKey browser round player reply).1 := by
  unfold Scoring.resume
  split
  · exact scored browser round _
  · split
    · exact refl browser
    · exact send browser _
  · split
    · exact refl browser
    · exact scored browser round _
  · exact refl browser
  · exact refl browser

end GoesOn

/-- What an answer says is still true when it reaches the browser. -/
theorem tells_of_reply {env : Platform} {server : PlatformSystem} {request : Nat}
    {mutating : Bool} {delivery : Delivery} {operation : Operation} {answer : Answer}
    (reached : PlatformReachable env server) (asked : server.callAt request = some operation)
    (replied : PlatformSystem.reply server request mutating delivery = some (.ok answer)) :
    Tells operation answer server.db := by
  obtain ⟨thread, found, isCall⟩ := Option.map_eq_some_iff.mp asked
  cases delivery with
  | lost => cases replied
  | answered =>
    simp only [PlatformSystem.reply, found, Option.map_some] at replied
    split at replied
    · next isFinished =>
        cases replied
        exact isCall ▸ answer_tells reached found (Option.some.inj isFinished)
    · cases replied
    · cases replied
    · cases replied

namespace SpinPage

/-! ### Evaluations, outcomes and scores of one session -/

/-- The id of the session that the component shows. -/
def sessionId (page : SpinPage) : Option Uuid := page.component.session.map GameSession.id

/-- Every evaluation names the proof of the session that the component had, with a seed
that was drawn after the proof was committed and that is sent for no other proof; the
outcome that is shown and every submitted score belong to the session. -/
structure SpinsItsOwn (page : SpinPage) : Prop where
  ofSession : ∀ evaluation ∈ page.evaluations, ∃ session, evaluation.session = some session ∧
    ProofOf page.server.db evaluation.proof session
  drawnLater : ∀ evaluation ∈ page.evaluations, ∃ draw ∈ page.drawn,
    draw.seed = evaluation.seed ∧ evaluation.proof ∈ draw.committed
  ownSeed : ∀ one ∈ page.evaluations, ∀ two ∈ page.evaluations, one.seed = two.seed →
    one.proof = two.proof
  shown : ∀ outcome session, page.component.outcome = some outcome →
    page.component.session = some session → outcome.sessionId = session.id
  scored : ∀ pair ∈ page.scored, pair.1 = pair.2

/-! ### Orderly steps -/

/-- The state that `recover` takes over is of the session of the outcome that is shown
still, and of the session for which the seed of the entry was sent. -/
def TakesUp (page : SpinPage) (state : PlayerGameState) : Prop :=
  (∀ outcome session, page.component.outcome = some outcome →
    state.gameSession = some session → outcome.sessionId = session.id) ∧
  ∀ player session seed, page.player = some player → state.gameSession = some session →
    (page.entryOf player).clientSeed = some seed →
      ∀ evaluation ∈ page.evaluations, evaluation.seed = seed →
        evaluation.session = some session.id

/-- The answer to a request of the component finds the component and the entry where the
request has left them: a commitment and an evaluation the session that they were requested
for.  A new session finds no outcome and, what its request does not bring about, an entry
without a commitment and a seed: the component merges the session into the entry that it
has, so the entry of an earlier round must be gone by then. -/
def Accepts (page : SpinPage) : SpinTask → Except ApiError Answer → Prop
  | .creating player _, .ok (.result (.session _)) =>
      page.component.outcome = none ∧ page.component.pendingOutcome = none ∧
        (page.entryOf player).commitmentId = none ∧ (page.entryOf player).clientSeed = none
  | .committing player sessionId _, .ok (.result (.proof _)) =>
      page.player = some player → page.owner = some player ∧ page.sessionId = some sessionId
  | .evaluating player sessionId _, .ok (.result (.evaluation _ _ _)) =>
      page.player = some player → page.sessionId = sessionId
  | .recovering _ generation expected _, .ok (.result (.state state)) =>
      generation = page.component.presentationGeneration → page.player = expected →
        page.TakesUp state
  | _, _ => True

/-- The player resumes an own session only, and the component goes on with answers that
it accepts. -/
def Orderly (page : SpinPage) : SpinStep → Prop
  | .action _ _ _ => ∀ player, page.component.busy = false → page.player = some player →
      page.isActive = true → page.owner = some player
  | .resume index delivery _ _ => ∀ task reply, page.tasks[index]? = some task →
      page.replyOf task delivery = some reply → page.Accepts task reply
  | _ => True

/-! ### Steps within a round -/

/-- The requests behind a task are the ones that it has sent. -/
def Asks (server : PlatformSystem) : SpinTask → Prop
  | .committing player sessionId request =>
      ∃ draw, server.callAt request = some (.request (.commitFairness sessionId player draw))
  | .evaluating player session request => ∃ proofId seed draw asked,
      server.callAt request =
        some (.request (.evaluateFairness proofId player seed draw)) ∧
      session = some asked ∧ ProofOf server.db proofId asked
  | .recovering _ _ _ request => ∃ player owner gameKey, server.callAt request =
      some (.request (.retrievePlayerGameState player owner gameKey))
  | _ => True

theorem Asks.goesOn {env : Platform} {before after : Browser} {task : SpinTask}
    (reached : PlatformReachable env before.server) (goesOn : GoesOn env before after)
    (asks : Asks before.server task) : Asks after.server task := by
  cases task with
  | committing player sessionId request =>
    obtain ⟨draw, asked⟩ := asks
    exact ⟨draw, goesOn.calls _ _ asked⟩
  | evaluating player session request =>
    obtain ⟨proofId, seed, draw, asked, called, isSession, stored⟩ := asks
    exact ⟨proofId, seed, draw, asked, goesOn.calls _ _ called, isSession,
      goesOn.proofs _ _ reached stored⟩
  | recovering caller generation expected request =>
    obtain ⟨player, owner, gameKey, asked⟩ := asks
    exact ⟨player, owner, gameKey, goesOn.calls _ _ asked⟩
  | _ => trivial

/-- An outcome that is shown or is about to be. -/
def Shows (page : SpinPage) (outcome : Outcome) : Prop :=
  page.component.outcome = some outcome ∨ page.component.pendingOutcome = some outcome

/-- The component goes on with its session and its outcomes, and requests no
evaluation. -/
structure Onward (env : Platform) (before after : SpinPage) : Prop where
  goesOn : GoesOn env before.toBrowser after.toBrowser
  owner : after.owner = before.owner
  session : after.component.session = before.component.session
  fairness : after.component.fairness = before.component.fairness
  outcome : ∀ outcome, after.component.outcome = some outcome → before.Shows outcome
  pending : ∀ outcome, after.component.pendingOutcome = some outcome → before.Shows outcome
  drawn : after.drawn = before.drawn
  evaluations : after.evaluations = before.evaluations
  scored : ∀ pair ∈ after.scored, pair ∈ before.scored ∨ ∃ session outcome,
    before.component.session = some session ∧ before.Shows outcome ∧
      pair = (session.id, outcome.sessionId)
  tasks : PlatformReachable env before.server → ∀ task ∈ after.tasks,
    task ∈ before.tasks ∨ Asks after.server task

namespace Onward

variable {env : Platform} {before middle after page : SpinPage}

theorem shows (first : Onward env before after) {outcome : Outcome}
    (isShown : after.Shows outcome) : before.Shows outcome := by
  rcases isShown with isShown | isPending
  · exact first.outcome outcome isShown
  · exact first.pending outcome isPending

theorem refl (page : SpinPage) : Onward env page page := by
  constructor
  case goesOn => exact .refl _
  case owner => rfl
  case session => rfl
  case fairness => rfl
  case outcome => exact fun _ => .inl
  case pending => exact fun _ => .inr
  case drawn => rfl
  case evaluations => rfl
  case scored => exact fun _ => .inl
  case tasks => exact fun _ _ => .inl

theorem trans (first : Onward env before middle) (second : Onward env middle after) :
    Onward env before after := by
  constructor
  case goesOn => exact first.goesOn.trans second.goesOn
  case owner => exact second.owner.trans first.owner
  case session => exact second.session.trans first.session
  case fairness => exact second.fairness.trans first.fairness
  case outcome => exact fun outcome isShown => first.shows (second.outcome outcome isShown)
  case pending => exact fun outcome isPending => first.shows (second.pending outcome isPending)
  case drawn => exact second.drawn.trans first.drawn
  case evaluations => exact second.evaluations.trans first.evaluations
  case scored =>
    intro pair member
    rcases second.scored pair member with member | submitted
    · exact first.scored pair member
    · obtain ⟨session, outcome, isSession, isShown, isPair⟩ := submitted
      exact .inr ⟨session, outcome, first.session.symm.trans isSession,
        first.shows isShown, isPair⟩
  case tasks =>
    intro reached task member
    rcases second.tasks (first.goesOn.reachable reached) task member with member | asks
    · rcases first.tasks reached task member with member | asks
      · exact .inl member
      · exact .inr (asks.goesOn (first.goesOn.reachable reached) second.goesOn)
    · exact .inr asks

/-- A change of the browser. -/
theorem browsed {browser : Browser} (goesOn : GoesOn env page.toBrowser browser) :
    Onward env page { page with toBrowser := browser } :=
  have here : Onward env page page := refl page
  { here with goesOn := goesOn, tasks := fun _ _ => .inl }

theorem saveJournal {values : JournalEntry → JournalEntry} (plain : Plain values)
    (page : SpinPage) : Onward env page (page.saveJournal values) :=
  browsed (GoesOn.saveJournal plain page.toBrowser)

/-- A change of the component. -/
theorem update {change : DailySpin → DailySpin} (page : SpinPage)
    (session : (change page.component).session = page.component.session)
    (fairness : (change page.component).fairness = page.component.fairness)
    (outcome : ∀ outcome, (change page.component).outcome = some outcome → page.Shows outcome)
    (pending : ∀ outcome, (change page.component).pendingOutcome = some outcome →
      page.Shows outcome) : Onward env page (page.update change) :=
  { refl page with
    session := session
    fairness := fairness
    outcome := outcome
    pending := pending }

/-- A change of other fields of the component. -/
theorem keep {change : DailySpin → DailySpin} (page : SpinPage)
    (session : (change page.component).session = page.component.session)
    (fairness : (change page.component).fairness = page.component.fairness)
    (outcome : (change page.component).outcome = page.component.outcome)
    (pending : (change page.component).pendingOutcome = page.component.pendingOutcome) :
    Onward env page (page.update change) :=
  update page session fairness (fun _ isShown => .inl (outcome.symm.trans isShown))
    fun _ isPending => .inr (pending.symm.trans isPending)

theorem await {task : SpinTask} (page : SpinPage) (asks : Asks page.server task) :
    Onward env page (page.await task) := by
  refine { refl page with tasks := ?_ }
  intro _ other member
  rcases List.mem_append.mp member with member | isTask
  · exact .inl member
  · exact .inr (List.mem_singleton.mp isTask ▸ asks)

theorem ask {operation : Operation} {task : Nat → SpinTask} (page : SpinPage)
    (asks : Asks (page.toBrowser.send env operation).server (task page.nextRequest)) :
    Onward env page (page.ask env operation task) :=
  (browsed (GoesOn.send page.toBrowser operation)).trans (await _ asks)

theorem dropTask (page : SpinPage) (index : Nat) : Onward env page (page.dropTask index) :=
  { refl page with tasks := fun _ _ member => .inl (List.mem_of_mem_eraseIdx member) }

/-! The functions, in the order of the component. -/

theorem idle (page : SpinPage) : Onward env page page.idle := keep page rfl rfl rfl rfl

theorem actionEnded (page : SpinPage) (player : Uuid) :
    Onward env page (page.actionEnded player) := by
  unfold SpinPage.actionEnded
  split
  · exact idle page
  · exact refl page

theorem loadEnded (page : SpinPage) (generation : Nat) :
    Onward env page (page.loadEnded generation) := by
  unfold SpinPage.loadEnded
  split
  · exact idle page
  · exact refl page

theorem returned (page : SpinPage) (caller : SpinCaller) :
    Onward env page (page.returned caller) := by
  cases caller with
  | timer => exact refl page
  | load generation => exact loadEnded page generation
  | actionFailed player => exact actionEnded page player

theorem recoveryThrew (page : SpinPage) (caller : SpinCaller) :
    Onward env page (page.recoveryThrew caller) := by
  cases caller with
  | timer => exact refl page
  | load generation =>
      simp only [SpinPage.recoveryThrew]
      split
      · exact (keep page rfl rfl rfl rfl).trans (idle _)
      · exact refl page
  | actionFailed player => exact actionEnded page player

theorem cancelPresentation (page : SpinPage) : Onward env page page.cancelPresentation :=
  keep page rfl rfl rfl rfl

theorem recover (page : SpinPage) (caller : SpinCaller) (generation : Nat)
    (expected : Option Uuid) : Onward env page (page.recover env caller generation expected) := by
  unfold SpinPage.recover
  split
  · exact (keep page rfl rfl rfl rfl).trans (returned _ caller)
  · exact (keep page rfl rfl rfl rfl).trans (ask _ ⟨_, _, _, callAt_send _ _⟩)

theorem recoverNow (page : SpinPage) (caller : SpinCaller) :
    Onward env page (page.recoverNow env caller) :=
  recover page caller _ _

theorem actionFailed (page : SpinPage) (player : Uuid) (error : ApiError) :
    Onward env page (page.actionFailed env player error) := by
  have cancelled : Onward env page (page.cancelPresentation.update fun component =>
      { component with
        status := if error.code = some .sessionExpired then .expired else .recovering }) :=
    (cancelPresentation page).trans (keep _ rfl rfl rfl rfl)
  simp only [SpinPage.actionFailed]
  split
  · exact cancelled.trans (recoverNow _ _)
  · exact cancelled.trans (actionEnded _ player)

theorem threw (page : SpinPage) (error : ApiError) (flow : SpinFlow) :
    Onward env page (page.threw env error flow) := by
  cases flow with
  | recovery caller waits recovered => exact recoveryThrew page caller
  | action player => exact actionFailed page player error

theorem finished (page : SpinPage) (flow : SpinFlow) : Onward env page (page.finished flow) := by
  cases flow with
  | recovery caller waits recovered => exact (keep page rfl rfl rfl rfl).trans (returned _ caller)
  | action player => exact (keep page rfl rfl rfl rfl).trans (actionEnded _ player)

theorem loadProof (page : SpinPage) (flow : SpinFlow) :
    Onward env page (page.loadProof env flow) := by
  unfold SpinPage.loadProof
  split
  · exact ask page trivial
  · exact finished page flow

theorem proved (page : SpinPage) (flow : SpinFlow) (proof : RevealedFairnessProof) (fuel : Nat) :
    Onward env page (page.proved env flow proof fuel) := by
  simp only [SpinPage.proved]
  split
  · exact (keep page rfl rfl rfl rfl).trans (ask _ trivial)
  · exact (keep page rfl rfl rfl rfl).trans (threw _ typeError flow)

theorem verified (page : SpinPage) (flow : SpinFlow) (valid : Bool) :
    Onward env page (page.verified flow valid) := by
  have settled : Onward env page (page.update fun component =>
      { component with verification := some valid }) := keep page rfl rfl rfl rfl
  apply settled.trans
  refine trans (saveJournal ?_ _) (finished _ flow)
  exact fun _ => ⟨rfl, rfl⟩

theorem scoredOn (page : SpinPage) (flow : SpinFlow) (progress : Progress (Uuid × Scoring)) :
    Onward env page (page.scoredOn env flow progress) := by
  cases progress with
  | waiting pair => exact await page trivial
  | returned => exact loadProof page flow
  | threw error => exact threw page error flow

theorem submitFinalScore (page : SpinPage) (flow : SpinFlow) (draws : ServerDraws) :
    Onward env page (page.submitFinalScore env flow draws) := by
  obtain ⟨session, outcome⟩ := submitOrRecover_shown env spinKey page.toBrowser
    page.component.toRound flow.recovered draws
  have goesOn := @GoesOn.submitOrRecover env page.toBrowser page.component.toRound
    flow.recovered draws
  simp only [SpinPage.submitFinalScore]
  refine trans (trans ?_ (keep _ session rfl outcome rfl)) (scoredOn _ flow _)
  refine { browsed goesOn with scored := ?_ }
  intro pair member
  split at member
  · next session outcome _ isSession isShown =>
      rcases List.mem_cons.mp member with isPair | member
      · exact .inr ⟨session, outcome, isSession, .inl isShown, isPair⟩
      · exact .inl member
  · exact .inl member

theorem resumeScoring (page : SpinPage) (flow : SpinFlow) (player : Uuid) (scoring : Scoring)
    (reply : Except ApiError Answer) :
    Onward env page (page.resumeScoring env flow player scoring reply) := by
  obtain ⟨session, outcome⟩ :=
    scoring.resume_shown env spinKey page.toBrowser page.component.toRound player reply
  simp only [SpinPage.resumeScoring]
  refine trans ?_ (scoredOn _ flow _)
  exact (browsed (GoesOn.resume page.toBrowser _ player scoring reply)).trans
    (keep _ session rfl outcome rfl)

theorem reveal (page : SpinPage) (flow : SpinFlow) : Onward env page (page.reveal flow) := by
  refine trans (update page rfl rfl ?_ ?_) (await _ trivial)
  · exact fun _ => .inr
  · exact fun _ => .inr

theorem animate (page : SpinPage) (flow : SpinFlow) (generation : Nat) :
    Onward env page (page.animate env flow generation) := by
  unfold SpinPage.animate
  split
  · exact await page trivial
  · exact threw page typeError flow

theorem notRevealed (page : SpinPage) (flow : SpinFlow) :
    Onward env page (page.notRevealed flow) := by
  cases flow with
  | recovery caller waits recovered => exact returned page caller
  | action player => exact actionEnded page player

theorem animated (page : SpinPage) (flow : SpinFlow) (generation : Nat) :
    Onward env page (page.animated flow generation) := by
  unfold SpinPage.animated
  split
  · exact reveal page flow
  · exact notRevealed page flow

theorem focused (page : SpinPage) (draws : ServerDraws) (flow : SpinFlow) :
    Onward env page (page.focused env draws flow) := by
  cases flow with
  | recovery caller waits recovered =>
      simp only [SpinPage.focused]
      split
      · exact loadProof page _
      · exact submitFinalScore page _ draws
  | action player =>
      simp only [SpinPage.focused]
      split
      · exact submitFinalScore page _ draws
      · exact actionEnded page player

theorem load (page : SpinPage) : Onward env page page.load := by
  refine (cancelPresentation page).trans (trans (update _ rfl rfl ?_ ?_) (await _ trivial))
  · intro outcome isShown
    cases isShown
  · intro outcome isPending
    cases isPending

theorem claim (page : SpinPage) : Onward env page (page.claim env) := by
  unfold SpinPage.claim
  split
  · split
    · refine (keep page rfl rfl rfl rfl).trans (trans (saveJournal ?_ _) (ask _ trivial))
      exact fun _ => ⟨rfl, rfl⟩
    · exact refl page
  · exact refl page

theorem discardEntry (page : SpinPage) : Onward env page page.discardEntry := by
  unfold SpinPage.discardEntry
  split
  · exact refl page
  · exact browsed (GoesOn.discard page.toBrowser _)

theorem claimed (page : SpinPage) (reply : Except ApiError Answer) :
    Onward env page (page.claimed reply) := by
  unfold SpinPage.claimed
  split
  · exact (keep page rfl rfl rfl rfl).trans ((discardEntry _).trans (idle _))
  · exact idle page

theorem configured (page : SpinPage) (generation : Nat) (player : Option Uuid)
    (segments : List PyStr) :
    Onward env page (page.configured env generation player segments) := by
  unfold SpinPage.configured
  split
  · exact (keep page rfl rfl rfl rfl).trans (recover _ _ _ _)
  · exact refl page

/-- The beginning of `action` without an active session. -/
theorem createSession (page : SpinPage) (requestId player : Uuid) (draws : ServerDraws) :
    Onward env page (((((page.update fun component => { component with
        outcome := none
        reward := none
        pendingOutcome := none
        pendingReward := none
        finalScore := none
        proof := none
        verification := none
        resultVisible := false }).cancelPresentation).saveJournal fun entry =>
          { entry with requestId := some requestId, pendingAction := some .createSession }).ask env
      (.request (.createSession requestId player player spinKey draws.session))
      (.creating player))) := by
  refine trans (update page rfl rfl ?_ ?_) ((cancelPresentation _).trans
    (trans (saveJournal ?_ _) (ask _ trivial)))
  · intro outcome isShown
    cases isShown
  · intro outcome isPending
    cases isPending
  · exact fun _ => ⟨rfl, rfl⟩

end Onward

/-! ### The invariant -/

/-- What the component and the entry of its session's player hold belongs to the session,
and every seed of an entry was sent. -/
structure Kept (env : Platform) (page : SpinPage) : Prop where
  own : page.SpinsItsOwn
  reachable : PlatformReachable env page.server
  pending : ∀ outcome session, page.component.pendingOutcome = some outcome →
    page.component.session = some session → outcome.sessionId = session.id
  fairness : ∀ proofId session, page.component.fairness = some proofId →
    page.component.session = some session → ProofOf page.server.db proofId session.id
  commitment : ∀ player session proofId, page.owner = some player →
    page.component.session = some session →
      (page.spinEntry player).commitmentId = some proofId →
        ProofOf page.server.db proofId session.id
  seed : ∀ player session seed, page.owner = some player →
    page.component.session = some session → (page.spinEntry player).clientSeed = some seed →
      ∀ evaluation ∈ page.evaluations, evaluation.seed = seed →
        evaluation.session = some session.id
  sent : ∀ player seed, (page.spinEntry player).clientSeed = some seed →
    ∃ evaluation ∈ page.evaluations, evaluation.seed = seed
  tasks : ∀ task ∈ page.tasks, Asks page.server task

namespace Kept

variable {env : Platform} {before after page : SpinPage}

theorem shows (kept : page.Kept env) {outcome : Outcome} {session : GameSession}
    (isShown : page.Shows outcome) (isSession : page.component.session = some session) :
    outcome.sessionId = session.id := by
  rcases isShown with isShown | isPending
  · exact kept.own.shown outcome session isShown isSession
  · exact kept.pending outcome session isPending isSession

/-- Within a round everything stays in place. -/
theorem onward (kept : before.Kept env) (onward : Onward env before after) :
    after.Kept env := by
  have stored : ∀ {proofId sessionId}, ProofOf before.server.db proofId sessionId →
      ProofOf after.server.db proofId sessionId :=
    onward.goesOn.proofs _ _ kept.reachable
  have ofSession : ∀ {session}, after.component.session = some session →
      before.component.session = some session := onward.session.symm.trans
  constructor
  case own =>
    constructor
    case ofSession =>
      intro evaluation member
      rw [onward.evaluations] at member
      obtain ⟨session, isSession, proof⟩ := kept.own.ofSession evaluation member
      exact ⟨session, isSession, stored proof⟩
    case drawnLater =>
      rw [onward.evaluations, onward.drawn]
      exact kept.own.drawnLater
    case ownSeed =>
      rw [onward.evaluations]
      exact kept.own.ownSeed
    case shown =>
      intro outcome session isShown isSession
      exact kept.shows (onward.outcome outcome isShown) (ofSession isSession)
    case scored =>
      intro pair member
      rcases onward.scored pair member with member | ⟨session, outcome, isSession, isShown, rfl⟩
      · exact kept.own.scored pair member
      · exact (kept.shows isShown isSession).symm
  case reachable => exact onward.goesOn.reachable kept.reachable
  case pending =>
    intro outcome session isPending isSession
    exact kept.shows (onward.pending outcome isPending) (ofSession isSession)
  case fairness =>
    intro proofId session isProof isSession
    exact stored (kept.fairness proofId session (onward.fairness.symm.trans isProof)
      (ofSession isSession))
  case commitment =>
    intro player session proofId isOwner isSession held
    exact stored (kept.commitment player session proofId (onward.owner.symm.trans isOwner)
      (ofSession isSession) (onward.goesOn.commitments player proofId held))
  case seed =>
    intro player session seed isOwner isSession held
    rw [onward.evaluations]
    exact kept.seed player session seed (onward.owner.symm.trans isOwner)
      (ofSession isSession) (onward.goesOn.seeds player seed held)
  case sent =>
    intro player seed held
    rw [onward.evaluations]
    exact kept.sent player seed (onward.goesOn.seeds player seed held)
  case tasks =>
    intro task member
    rcases onward.tasks kept.reachable task member with member | asks
    · exact (kept.tasks task member).goesOn kept.reachable onward.goesOn
    · exact asks

theorem sane (kept : page.Kept env) : Sane page.server.db := by
  obtain ⟨⟨calls, consistent⟩, -⟩ := (platform_sound kept.reachable).inv
  exact consistent.sane

/-! ### The requests of `action` -/

/-- An evaluation of the proof of the component's session, with a seed that was sent for
this session only and drawn after the commitment. -/
theorem request {player : Uuid} {session : GameSession} {proofId : Uuid} {seed : PyStr}
    {drawn : List SeedDraw} (kept : page.Kept env) (draw : EvaluateDraw)
    (isSession : page.component.session = some session)
    (proof : ProofOf page.server.db proofId session.id)
    (own : ∀ evaluation ∈ page.evaluations, evaluation.seed = seed →
      evaluation.session = some session.id)
    (later : ∃ draw ∈ drawn, draw.seed = seed ∧ proofId ∈ draw.committed)
    (more : ∀ draw ∈ page.drawn, draw ∈ drawn) :
    ({ page.saveJournal fun entry => { entry with
          clientSeed := some seed
          pendingAction := some .evaluate } with
        drawn := drawn
        evaluations := ⟨some session.id, proofId, seed⟩ :: page.evaluations }.ask env
      (.request (.evaluateFairness proofId player seed draw))
      (.evaluating player (some session.id))).Kept env := by
  have sameProof : ∀ evaluation ∈ page.evaluations, evaluation.seed = seed →
      evaluation.proof = proofId := by
    intro evaluation member isSeed
    obtain ⟨asked, isAsked, stored⟩ := kept.own.ofSession evaluation member
    cases (own evaluation member isSeed).symm.trans isAsked
    exact stored.proof_eq kept.sane proof
  have commitments : ∀ other, ((page.toBrowser.saveJournal spinKey fun entry =>
      { entry with clientSeed := some seed, pendingAction := some .evaluate }).spinEntry
        other).commitmentId = (page.spinEntry other).commitmentId :=
    Browser.commitmentId_saveJournal fun _ => rfl
  have seeds : ∀ other held, ((page.toBrowser.saveJournal spinKey fun entry =>
      { entry with clientSeed := some seed, pendingAction := some .evaluate }).spinEntry
        other).clientSeed = some held → page.player = some other ∧ held = seed ∨
          (page.spinEntry other).clientSeed = some held := by
    intro other held isHeld
    rw [Browser.spinEntry_saveJournal] at isHeld
    split_ifs at isHeld with current
    · exact .inl ⟨current, (Option.some.inj isHeld).symm⟩
    · exact .inr isHeld
  suffices noted : ({ page.saveJournal fun entry => { entry with
      clientSeed := some seed
      pendingAction := some .evaluate } with
        drawn := drawn
        evaluations := ⟨some session.id, proofId, seed⟩ :: page.evaluations } : SpinPage).Kept
          env by
    exact noted.onward (.ask _ ⟨proofId, seed, draw, session.id, callAt_send _ _, rfl, proof⟩)
  constructor
  case own =>
    constructor
    case ofSession =>
      intro evaluation member
      rcases List.mem_cons.mp member with rfl | member
      · exact ⟨session.id, rfl, proof⟩
      · exact kept.own.ofSession evaluation member
    case drawnLater =>
      intro evaluation member
      rcases List.mem_cons.mp member with rfl | member
      · exact later
      · obtain ⟨draw, isDrawn, facts⟩ := kept.own.drawnLater evaluation member
        exact ⟨draw, more draw isDrawn, facts⟩
    case ownSeed =>
      intro one isOne two isTwo same
      rcases List.mem_cons.mp isOne with rfl | isOne
      · rcases List.mem_cons.mp isTwo with rfl | isTwo
        · rfl
        · exact (sameProof two isTwo same.symm).symm
      · rcases List.mem_cons.mp isTwo with rfl | isTwo
        · exact sameProof one isOne same
        · exact kept.own.ownSeed one isOne two isTwo same
    case shown => exact kept.own.shown
    case scored => exact kept.own.scored
  case reachable => exact kept.reachable
  case pending => exact kept.pending
  case fairness => exact kept.fairness
  case commitment =>
    intro other shown stored isOwner isShown held
    exact kept.commitment other shown stored isOwner isShown
      ((commitments other).symm.trans held)
  case seed =>
    intro other shown held isOwner isShown isHeld evaluation member isSeed
    cases isSession.symm.trans isShown
    rcases List.mem_cons.mp member with rfl | earlier
    · rfl
    · rcases seeds other held isHeld with ⟨-, rfl⟩ | isHeld
      · exact own evaluation earlier isSeed
      · exact kept.seed other session held isOwner isSession isHeld evaluation earlier isSeed
  case sent =>
    intro other held isHeld
    rcases seeds other held isHeld with ⟨-, rfl⟩ | isHeld
    · exact ⟨_, List.mem_cons_self, rfl⟩
    · obtain ⟨evaluation, member, isSeed⟩ := kept.sent other held isHeld
      exact ⟨evaluation, List.mem_cons_of_mem _ member, isSeed⟩
  case tasks => exact kept.tasks

section Rounds

variable {player proofId : Uuid} {session : GameSession} {fresh : PyStr}

/-- `action` evaluates the proof of the component's session. -/
theorem evaluate (kept : page.Kept env) (draws : ServerDraws)
    (owner : page.owner = some player)
    (isSession : page.component.session = some session)
    (proof : ProofOf page.server.db proofId session.id)
    (isNew : fresh ∉ page.drawn.map SeedDraw.seed) :
    (page.evaluate env player proofId fresh draws).Kept env := by
  simp only [SpinPage.evaluate, isSession, Option.map_some]
  cases isStored : (page.entryOf player).clientSeed.filter fun seed => seed ≠ [] with
  | some seed =>
    have held : (page.spinEntry player).clientSeed = some seed :=
      (Option.filter_eq_some_iff.mp isStored).1
    have own := kept.seed player session seed owner isSession held
    apply kept.request draws.evaluate isSession proof own
    · -- the seed was sent for this session, hence for its proof
      obtain ⟨evaluation, member, isSeed⟩ := kept.sent player seed held
      obtain ⟨asked, isAsked, stored⟩ := kept.own.ofSession evaluation member
      cases (own evaluation member isSeed).symm.trans isAsked
      obtain ⟨draw, isDrawn, ofSeed, committed⟩ := kept.own.drawnLater evaluation member
      rw [stored.proof_eq kept.sane proof] at committed
      exact ⟨draw, isDrawn, ofSeed.trans isSeed, committed⟩
    · exact fun _ => id
  | none =>
    apply kept.request draws.evaluate isSession proof
    · intro evaluation member isSeed
      obtain ⟨draw, isDrawn, ofSeed, -⟩ := kept.own.drawnLater evaluation member
      have wasDrawn : fresh ∈ page.drawn.map SeedDraw.seed :=
        List.mem_map.mpr ⟨draw, isDrawn, ofSeed.trans isSeed⟩
      exact absurd wasDrawn isNew
    · obtain ⟨row, member, isId, -⟩ := ProofOf.iff.mp proof
      exact ⟨_, List.mem_cons_self, rfl, List.mem_map.mpr ⟨row, member, isId⟩⟩
    · exact fun _ => List.mem_cons_of_mem _

/-- `action` goes on with the component's session. -/
theorem spin (kept : page.Kept env) (draws : ServerDraws)
    (owner : page.owner = some player)
    (isSession : page.component.session = some session)
    (isNew : fresh ∉ page.drawn.map SeedDraw.seed) :
    (page.spin env player session fresh draws).Kept env := by
  unfold SpinPage.spin
  split
  · next proofId isProof =>
      apply kept.evaluate draws owner isSession ?_ isNew
      cases fairness : page.component.fairness with
      | some other =>
          rw [fairness] at isProof
          cases isProof
          exact kept.fairness proofId session fairness isSession
      | none =>
          rw [fairness] at isProof
          exact kept.commitment player session proofId owner isSession isProof
  · exact kept.onward (.ask page ⟨draws.commit, callAt_send _ _⟩)

theorem action {requestId : Uuid} (kept : page.Kept env) (draws : ServerDraws)
    (own : ∀ player, page.component.busy = false → page.player = some player →
      page.isActive = true → page.owner = some player)
    (isNew : fresh ∉ page.drawn.map SeedDraw.seed) :
    (page.action env requestId fresh draws).Kept env := by
  unfold SpinPage.action
  split
  · next player isIdle isPlayer =>
      have busy : Onward env page (page.update fun component =>
          { component with busy := true, status := .submitting }) := .keep page rfl rfl rfl rfl
      simp only
      split
      · next session isActive isSession =>
          exact (kept.onward busy).spin draws (own player isIdle isPlayer isActive) isSession isNew
      · exact kept.onward (busy.trans (.createSession _ requestId player draws))
  · exact kept

/-- `action` goes on with the session that it has created. -/
theorem created (kept : page.Kept env) (draws : ServerDraws)
    (noOutcome : page.component.outcome = none)
    (nonePending : page.component.pendingOutcome = none)
    (noCommitment : (page.entryOf player).commitmentId = none)
    (noSeed : (page.entryOf player).clientSeed = none)
    (isNew : fresh ∉ page.drawn.map SeedDraw.seed) :
    (page.created env player session fresh draws).Kept env := by
  have taken : ({ page with owner := some player }.update fun component =>
      { component with session := some session, fairness := none }).Kept env := by
    constructor
    case own =>
      refine { kept.own with shown := ?_ }
      intro outcome other isShown
      cases noOutcome.symm.trans isShown
    case reachable => exact kept.reachable
    case pending =>
      intro outcome other isPending
      cases nonePending.symm.trans isPending
    case fairness =>
      intro other shown isProof
      cases isProof
    case commitment =>
      intro other shown stored isOwner _ held
      cases isOwner
      cases noCommitment.symm.trans held
    case seed =>
      intro other shown seed isOwner _ held
      cases isOwner
      cases noSeed.symm.trans held
    case sent => exact kept.sent
    case tasks => exact kept.tasks
  simp only [SpinPage.created]
  split
  · have plain : Plain fun entry => { entry with
        sessionId := some session.id
        pendingAction := some .commit } := fun _ => ⟨rfl, rfl⟩
    exact (taken.onward (.saveJournal plain _)).spin draws rfl rfl isNew
  · exact taken

/-- `action` goes on with the proof that it has committed for its session. -/
theorem committed (kept : page.Kept env) (draws : ServerDraws) {sessionId : Uuid}
    (accepts : page.player = some player →
      page.owner = some player ∧ page.sessionId = some sessionId)
    (told : ProofOf page.server.db proofId sessionId)
    (isNew : fresh ∉ page.drawn.map SeedDraw.seed) :
    (page.committed env player proofId fresh draws).Kept env := by
  unfold SpinPage.committed
  split
  · next isPlayer =>
      obtain ⟨owner, isId⟩ := accepts isPlayer
      obtain ⟨session, isSession, rfl⟩ := Option.map_eq_some_iff.mp isId
      have saved : (page.saveJournal fun entry => { entry with
          commitmentId := some proofId
          pendingAction := some .evaluate }).Kept env := by
        have seeds : ∀ other, ((page.toBrowser.saveJournal spinKey fun entry =>
            { entry with commitmentId := some proofId, pendingAction := some .evaluate }).spinEntry
              other).clientSeed = (page.spinEntry other).clientSeed :=
          Browser.clientSeed_saveJournal fun _ => rfl
        refine { kept with own := { kept.own with }, commitment := ?_, seed := ?_, sent := ?_ }
        · intro other shown stored isOwner isShown held
          cases owner.symm.trans isOwner
          cases isSession.symm.trans isShown
          have isProof : some proofId = some stored :=
            (congrArg JournalEntry.commitmentId
              (Browser.spinEntry_current isPlayer)).symm.trans held
          exact Option.some.inj isProof ▸ told
        · intro other shown seed isOwner isShown held
          exact kept.seed other shown seed isOwner isShown
            ((seeds other).symm.trans held)
        · intro other seed held
          exact kept.sent other seed
            ((seeds other).symm.trans held)
      exact saved.evaluate draws owner isSession told isNew
  · exact kept

/-- `action` goes on with the outcome of its session. -/
theorem evaluated {outcome : Outcome} (kept : page.Kept env) (reward : Reward)
    (own : page.player = some player → ∀ session, page.component.session = some session →
      outcome.sessionId = session.id) :
    (page.evaluated env player outcome reward).Kept env := by
  unfold SpinPage.evaluated
  split
  · next isPlayer =>
      have taken : (page.update fun component => { component with
          pendingOutcome := some outcome
          pendingReward := some reward }).Kept env := by
        refine { kept with own := { kept.own with }, pending := ?_ }
        intro shown session isPending isSession
        cases isPending
        exact own isPlayer session isSession
      have plain : Plain fun entry => { entry with
          outcome := some outcome
          pendingAction := some .submitScore } := fun _ => ⟨rfl, rfl⟩
      refine taken.onward ((Onward.saveJournal plain _).trans (.trans ?_ (.animate _ _ _)))
      exact .keep _ rfl rfl rfl rfl
  · exact kept

end Rounds

/-! ### The recovery -/

/-- `recover` takes over a state of the session of its outcome and its seed, next to
entries that hold the proof of its session and the seeds as before. -/
theorem takeOver {state : PlayerGameState} {journal : Journal} (kept : page.Kept env)
    (told : OwnRows state fun pair => Stored pair page.server.db) (takes : page.TakesUp state)
    (seeds : ∀ other, (Browser.spinEntry ⟨page.player, journal, page.server⟩ other).clientSeed =
      (page.spinEntry other).clientSeed)
    (commitment : ∀ player session proofId, page.player = some player →
      state.gameSession = some session →
        (Browser.spinEntry ⟨page.player, journal, page.server⟩ player).commitmentId =
          some proofId → ProofOf page.server.db proofId session.id) :
    ({ page.takeOver state with journal := journal } : SpinPage).Kept env := by
  obtain ⟨shown, ownSeeds⟩ := takes
  constructor
  case own => exact { kept.own with shown := fun outcome session => shown outcome session }
  case reachable => exact kept.reachable
  case pending =>
    intro outcome session isPending isSession
    obtain ⟨_, -, isOutcome⟩ := Option.bind_eq_some_iff.mp isPending
    exact (told session isSession).1 outcome isOutcome
  case fairness =>
    intro proofId session isProof isSession
    obtain ⟨_, -, isProof⟩ := Option.bind_eq_some_iff.mp isProof
    obtain ⟨proof, isRow, rfl⟩ := Option.map_eq_some_iff.mp isProof
    exact (told session isSession).2 proof isRow
  case commitment => exact commitment
  case seed =>
    intro player session seed isOwner isSession held
    exact ownSeeds player session seed isOwner isSession ((seeds player).symm.trans held)
  case sent =>
    intro player seed held
    exact kept.sent player seed ((seeds player).symm.trans held)
  case tasks => exact kept.tasks

/-- The entry of the player names the proof of the session that is taken over. -/
theorem recovered {state : PlayerGameState} {session : GameSession} (kept : page.Kept env)
    (told : OwnRows state fun pair => Stored pair page.server.db) (takes : page.TakesUp state)
    (isSession : state.gameSession = some session) :
    ((page.takeOver state).saveJournal fun entry => { entry with
      requestId := some session.requestId
      sessionId := some session.id
      commitmentId := state.fairnessProof.map FairnessProof.id
      outcome := state.outcome }).Kept env := by
  apply kept.takeOver told takes
  · exact Browser.clientSeed_saveJournal fun _ => rfl
  · intro player other proofId isPlayer isOther held
    cases isSession.symm.trans isOther
    have isProof := (congrArg JournalEntry.commitmentId
      (Browser.spinEntry_current isPlayer)).symm.trans held
    obtain ⟨proof, isRow, rfl⟩ := Option.map_eq_some_iff.mp isProof
    exact (told session isSession).2 proof isRow

/-- The rest of `recover`. -/
theorem recoverAnswered {generation : Nat} {expected : Option Uuid} {state : PlayerGameState}
    (kept : page.Kept env) (caller : SpinCaller)
    (told : OwnRows state fun pair => Stored pair page.server.db)
    (takes : generation = page.component.presentationGeneration → page.player = expected →
      page.TakesUp state) :
    (page.recoverAnswered env caller generation expected state).Kept env := by
  unfold SpinPage.recoverAnswered
  split
  · exact kept.onward (.returned page caller)
  · next isCurrent =>
      rw [not_or, not_not, not_not] at isCurrent
      have takes := takes isCurrent.1 isCurrent.2
      simp only
      split
      · next noSession =>
          have taken : (page.takeOver state).Kept env := by
            apply kept.takeOver told takes (fun _ => rfl)
            intro player session proofId _ isSession
            cases noSession.symm.trans isSession
          exact taken.onward (.trans (.keep _ rfl rfl rfl rfl) (.returned _ caller))
      · next session isSession =>
          have saved := kept.recovered told takes isSession
          split
          · exact saved.onward (.trans (.keep _ rfl rfl rfl rfl) (.returned _ caller))
          · exact saved.onward (.trans (.keep _ rfl rfl rfl rfl) (.returned _ caller))
          · exact saved.onward (.animate _ _ _)
          · exact saved.onward (.trans (.keep _ rfl rfl rfl rfl) (.returned _ caller))

/-! ### The answers and the steps -/

theorem proceed {task : SpinTask} {reply : Except ApiError Answer} {delivery : Delivery}
    {fresh : PyStr} (kept : page.Kept env) (draws : ServerDraws)
    (asks : Asks page.server task) (replied : page.replyOf task delivery = some reply)
    (accepts : page.Accepts task reply) (isNew : fresh ∉ page.drawn.map SeedDraw.seed) :
    (page.proceed env task reply fresh draws).Kept env := by
  have told : ∀ {request operation answer}, requestOf task = some request →
      reply = .ok answer → page.server.callAt request = some operation →
        Tells operation answer page.server.db := by
    intro request operation answer isRequest isAnswer asked
    subst isAnswer
    simp only [SpinPage.replyOf, isRequest, Option.bind_some] at replied
    exact tells_of_reply kept.reachable asked replied
  unfold SpinPage.proceed
  split
  · next caller generation expected request state =>
      obtain ⟨player, owner, gameKey, asked⟩ := asks
      exact kept.recoverAnswered caller (told rfl rfl asked) accepts
  · exact kept.onward (.recoveryThrew page _)
  · obtain ⟨noOutcome, nonePending, noCommitment, noSeed⟩ := accepts
    exact kept.created draws noOutcome nonePending noCommitment noSeed isNew
  · obtain ⟨draw, asked⟩ := asks
    exact kept.committed draws accepts (told rfl rfl asked) isNew
  · next player sessionId request outcome reward changed =>
      obtain ⟨proofId, seed, draw, asked, called, rfl, stored⟩ := asks
      apply kept.evaluated reward
      intro isPlayer session isSession
      have isId : some session.id = some asked :=
        (congrArg (Option.map GameSession.id) isSession).symm.trans (accepts isPlayer)
      rw [Option.some.inj isId]
      have revealed : ProofOf page.server.db proofId outcome.sessionId := told rfl rfl called
      exact revealed.session_eq kept.sane stored
  · exact kept.onward (.actionFailed page _ _)
  · exact kept.onward (.actionFailed page _ _)
  · exact kept.onward (.actionFailed page _ _)
  · exact kept.onward (.actionFailed page _ _)
  · exact kept.onward (.actionFailed page _ _)
  · exact kept.onward (.actionFailed page _ _)
  · exact kept.onward (.resumeScoring page _ _ _ _)
  · exact kept.onward (.proved page _ _ _)
  · exact kept.onward (.verified page _ _)
  · exact kept.onward (.threw page _ _)
  · exact kept.onward (.threw page _ _)
  · exact kept.onward (.threw page _ _)
  · exact kept.onward (.threw page _ _)
  · exact kept.onward (.claimed page _)
  · exact kept
  · exact kept
  · exact kept

/-- A page that is opened, with the entries and observations of the earlier ones. -/
theorem opened (kept : page.Kept env) : page.opened.Kept env := by
  have emptied : ({ page with component := {}, tasks := [] } : SpinPage).Kept env := by
    constructor
    case own =>
      refine { kept.own with shown := ?_ }
      intro outcome session isShown
      cases isShown
    case reachable => exact kept.reachable
    case pending =>
      intro outcome session isPending
      cases isPending
    case fairness =>
      intro proofId session isProof
      cases isProof
    case commitment =>
      intro player session proofId _ isSession
      cases isSession
    case seed =>
      intro player session seed _ isSession
      cases isSession
    case sent => exact kept.sent
    case tasks =>
      intro task member
      cases member
  exact emptied.onward (.load _)

/-- A seed that was not drawn yet. -/
theorem isNew_of_isFresh {fresh : PyStr} (isFresh : page.isFresh fresh = true) :
    fresh ∉ page.drawn.map SeedDraw.seed :=
  (of_decide_eq_true isFresh).2

/-- An orderly step keeps the rounds apart. -/
theorem step {next : SpinPage} {taken : SpinStep} (kept : page.Kept env)
    (orderly : page.Orderly taken) (stepped : page.step env taken = some next) :
    next.Kept env := by
  cases taken with
  | server label =>
    obtain ⟨server, advanced, rfl⟩ := Option.map_eq_some_iff.mp stepped
    exact kept.onward (.browsed (.step advanced))
  | choosePlayer player =>
    cases stepped
    have chosen : GoesOn env page.toBrowser ⟨player, page.journal, page.server⟩ :=
      .forget page.toBrowser fun _ => .inr rfl
    exact kept.onward (.trans (.browsed chosen) (.trans (.cancelPresentation _) (.load _)))
  | reload =>
    cases stepped
    exact kept.opened
  | forgetPlayers =>
    cases stepped
    have forgot : GoesOn env page.toBrowser ⟨none, Journal.empty, page.server⟩ :=
      .forget page.toBrowser fun _ => .inl rfl
    exact kept.onward (.trans (.browsed forgot) (.trans (.cancelPresentation _) (.load _)))
  | discardJournal =>
    cases stepped
    exact kept.onward (.discardEntry page)
  | recover =>
    cases stepped
    exact kept.onward (.recoverNow page .timer)
  | action requestId fresh draws =>
    simp only [SpinPage.step] at stepped
    split at stepped
    · next isFresh =>
        cases stepped
        exact kept.action draws orderly (isNew_of_isFresh isFresh)
    · cases stepped
  | claim =>
    cases stepped
    exact kept.onward (.claim page)
  | configured index segments =>
    obtain ⟨task, -, stepped⟩ := Option.bind_eq_some_iff.mp stepped
    split at stepped
    · cases stepped
      exact kept.onward (.trans (.dropTask page index) (.configured _ _ _ _))
    · cases stepped
      exact kept.onward (.trans (.dropTask page index) (.recoveryThrew _ _))
    · cases stepped
  | shown index draws =>
    obtain ⟨task, -, stepped⟩ := Option.bind_eq_some_iff.mp stepped
    split at stepped
    · cases stepped
      exact kept.onward (.trans (.dropTask page index) (.animated _ _ _))
    · cases stepped
      exact kept.onward (.trans (.dropTask page index) (.focused _ _ _))
    · cases stepped
  | resume index delivery fresh draws =>
    obtain ⟨task, isTask, stepped⟩ := Option.bind_eq_some_iff.mp stepped
    obtain ⟨reply, isReply, stepped⟩ := Option.bind_eq_some_iff.mp stepped
    split at stepped
    · next isFresh =>
        cases stepped
        have dropped := kept.onward (.dropTask page index)
        exact dropped.proceed draws (kept.tasks task (List.mem_of_getElem? isTask)) isReply
          (orderly task reply isTask isReply) (isNew_of_isFresh isFresh)
    · cases stepped

end Kept

/-- In every run of orderly steps the component evaluates the proofs of its own sessions
only, each with a seed of its own, and shows and submits what belongs to the session.  The
orderly runs are those in which each new session finds an entry without the commitment and
the seed of an earlier round. -/
theorem own_round_spun {env : Platform} {page : SpinPage}
    (reached : Reached env Orderly page) : page.SpinsItsOwn := by
  have kept : page.Kept env := by
    apply reached.invariant
    · rintro first ⟨player, server, reachable, rfl⟩
      have empty : (⟨⟨player, Journal.empty, server⟩, {}, [], none, [], [], []⟩ :
          SpinPage).Kept env := by
        constructor
        case own =>
          constructor
          case ofSession => exact fun _ member => absurd member List.not_mem_nil
          case drawnLater => exact fun _ member => absurd member List.not_mem_nil
          case ownSeed => exact fun _ member => absurd member List.not_mem_nil
          case shown =>
            intro outcome session isShown
            cases isShown
          case scored => exact fun _ member => absurd member List.not_mem_nil
        case reachable => exact reachable
        case pending =>
          intro outcome session isPending
          cases isPending
        case fairness =>
          intro proofId session isProof
          cases isProof
        case commitment =>
          intro player session proofId isOwner
          cases isOwner
        case seed =>
          intro player session seed isOwner
          cases isOwner
        case sent =>
          intro player seed held
          cases held
        case tasks => exact fun _ member => absurd member List.not_mem_nil
      exact empty.opened
    · intro before next taken kept orderly stepped
      exact kept.step orderly stepped
  exact kept.own

/-! ### Checking a run -/

/-- A test of an answer that only accepted ones pass; a recovered state passes it without
a session and a shown outcome. -/
def acceptable (page : SpinPage) : SpinTask → Except ApiError Answer → Bool
  | .creating player _, .ok (.result (.session _)) =>
      page.component.outcome.isNone && page.component.pendingOutcome.isNone &&
        (page.entryOf player).commitmentId.isNone && (page.entryOf player).clientSeed.isNone
  | .committing player sessionId _, .ok (.result (.proof _)) =>
      page.owner = some player && page.sessionId = some sessionId
  | .evaluating _ sessionId _, .ok (.result (.evaluation _ _ _)) => page.sessionId = sessionId
  | .recovering _ _ _ _, .ok (.result (.state state)) =>
      page.component.outcome.isNone && state.gameSession.isNone
  | _, _ => true

/-- A test that only orderly steps pass. -/
def passes (page : SpinPage) : SpinStep → Bool
  | .action _ _ _ => page.component.busy || !page.isActive || page.owner = page.player
  | .resume index delivery _ _ =>
      match page.tasks[index]? with
      | some task =>
          match page.replyOf task delivery with
          | some reply => page.acceptable task reply
          | none => true
      | none => true
  | _ => true

theorem accepts_of_acceptable {page : SpinPage} {task : SpinTask}
    {reply : Except ApiError Answer} (checked : page.acceptable task reply = true) :
    page.Accepts task reply := by
  unfold acceptable at checked
  unfold Accepts
  split at checked
  · simp only [Bool.and_eq_true, Option.isNone_iff_eq_none] at checked
    obtain ⟨⟨⟨noOutcome, nonePending⟩, noCommitment⟩, noSeed⟩ := checked
    exact ⟨noOutcome, nonePending, noCommitment, noSeed⟩
  · simp only [Bool.and_eq_true, decide_eq_true_eq] at checked
    exact fun _ => checked
  · exact fun _ => of_decide_eq_true checked
  · simp only [Bool.and_eq_true, Option.isNone_iff_eq_none] at checked
    obtain ⟨noOutcome, noSession⟩ := checked
    intro _ _
    constructor
    · simp [noOutcome]
    · intro player session seed _ isSession
      cases noSession.symm.trans isSession
  · trivial

theorem orderly_of_passes (page : SpinPage) (taken : SpinStep)
    (checked : page.passes taken = true) : page.Orderly taken := by
  cases taken with
  | action requestId fresh draws =>
    intro player isIdle isPlayer isActive
    simp only [passes, isIdle, isActive, Bool.not_true, Bool.or_self, Bool.false_or,
      decide_eq_true_eq] at checked
    exact checked.trans isPlayer
  | resume index delivery fresh draws =>
    intro task reply isTask replied
    simp only [passes, isTask, replied] at checked
    exact accepts_of_acceptable checked
  | _ => trivial

end SpinPage

namespace Sample

/-- A request executes `count` statements. -/
def spinServing (index count : Nat) (now : Int) : List SpinStep :=
  List.replicate count (.server (.advance index now))

/-- The first waiting function goes on with an answer. -/
def goesOn (fresh : PyStr) (base : Uuid) : SpinStep :=
  .resume 0 .answered fresh (serverDraws base)

/-- The page of player 1, on a platform where nothing was played. -/
def spinPage : SpinPage :=
  .opened ⟨⟨some 1, Journal.empty, ⟨catalogue, []⟩⟩, {}, [], none, [], [], []⟩

theorem spinPage_opened : SpinPage.Opened platform spinPage :=
  ⟨some 1, _, .start catalogue nothing_yet, rfl⟩

/-- The page loads, and nothing is recovered. -/
def wheelLoads (index count : Nat) (now : Int) : List SpinStep :=
  [.configured 0 (some [py "small", py "large"])] ++ spinServing index count now

/-- The player spins, and the score of the shown outcome is submitted. -/
def firstSpin : List SpinStep :=
  wheelLoads 0 7 1000 ++ [goesOn (py "a") 100, .action 50 (py "a") (serverDraws 100)] ++
    spinServing 1 13 1000 ++ [goesOn (py "a") 100] ++ spinServing 2 10 1000 ++
    [goesOn (py "a") 100] ++ spinServing 3 14 1000 ++
    [goesOn (py "b") 100, .shown 0 (serverDraws 100), .shown 0 (serverDraws 100)]

/-- The page is opened again, and shows the recovered round until its score has arrived
and the request for its proof is lost; then the player spins again. -/
def secondSpin : List SpinStep :=
  [.reload] ++ wheelLoads 5 12 100000000 ++ [goesOn (py "b") 200, .shown 0 (serverDraws 200),
    .shown 0 (serverDraws 200)] ++ spinServing 6 11 100000000 ++ [goesOn (py "b") 200] ++
    [.resume 0 .lost (py "b") (serverDraws 200), .action 51 (py "b") (serverDraws 300)] ++
    spinServing 8 14 100000000 ++ [goesOn (py "b") 300]

/-- The evaluations, the submitted scores, and the proofs with their sessions. -/
structure SpinObserved where
  evaluations : List Evaluation
  scored : List (Uuid × Uuid)
  bindings : List (Uuid × Uuid)
deriving DecidableEq

def spinObserved (page : SpinPage) : SpinObserved :=
  ⟨page.evaluations, page.scored, bindingsOf page.server.db⟩

/-- The first spin is orderly; the second one evaluates the proof of the first. -/
theorem spins_followed :
    ((Machines.followWhile (SpinPage.step platform) SpinPage.passes spinPage firstSpin).bind
      fun page => (Machines.follow (SpinPage.step platform) page secondSpin).map fun last =>
        (spinObserved page, spinObserved last)) =
      some (⟨[⟨some 100, 101, py "a"⟩], [(100, 100)], [(101, 100)]⟩,
        ⟨[⟨some 300, 101, py "a"⟩, ⟨some 100, 101, py "a"⟩], [(100, 100), (100, 100)],
          [(101, 100)]⟩) := by
  decide +kernel

end Sample

/-- A spin that evaluates the proof of its session and submits the score of its outcome. -/
theorem own_round_spun_once : ∃ page,
    SpinPage.Reached Sample.platform SpinPage.Orderly page ∧
      page.evaluations = [⟨some 100, 101, py "a"⟩] ∧ page.SpinsItsOwn := by
  obtain ⟨page, followed, rest⟩ := Option.bind_eq_some_iff.mp Sample.spins_followed
  obtain ⟨last, -, observed⟩ := Option.map_eq_some_iff.mp rest
  have evaluations := congrArg Sample.SpinObserved.evaluations (Prod.mk.inj observed).1
  have reached : SpinPage.Reached Sample.platform SpinPage.Orderly page :=
    (Machines.Reaches.start Sample.spinPage_opened).followWhile SpinPage.orderly_of_passes
      followed
  exact ⟨page, reached, evaluations, SpinPage.own_round_spun reached⟩

/-- Without the condition on the steps: a recovered round leaves its commitment and its
seed in the entry, and the next spin evaluates the proof of that round. -/
theorem earlier_round_evaluated :
    ∃ page, SpinPage.Reached Sample.platform Machines.Always page ∧ ¬page.SpinsItsOwn := by
  obtain ⟨page, followed, rest⟩ := Option.bind_eq_some_iff.mp Sample.spins_followed
  obtain ⟨last, followed', observed⟩ := Option.map_eq_some_iff.mp rest
  have evaluations := congrArg Sample.SpinObserved.evaluations (Prod.mk.inj observed).2
  have bindings := congrArg Sample.SpinObserved.bindings (Prod.mk.inj observed).2
  have reached : SpinPage.Reached Sample.platform Machines.Always page :=
    (Machines.Reaches.start Sample.spinPage_opened).followWhile (fun _ _ _ => trivial) followed
  refine ⟨last, reached.follow followed', ?_⟩
  intro own
  have second : ⟨some 300, 101, py "a"⟩ ∈ last.evaluations := by
    rw [show last.evaluations = _ from evaluations]
    exact List.mem_cons_self
  obtain ⟨session, isSession, stored⟩ := own.ofSession _ second
  cases isSession
  rw [ProofOf, show bindingsOf last.server.db = _ from bindings] at stored
  exact absurd stored (by decide)

end RngGamePlatform
