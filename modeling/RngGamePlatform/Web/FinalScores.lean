/-
Module: RngGamePlatform.Web.FinalScores
Purpose: What the game components of the browser share: their player, journal and
  requests, and the submission of the final score.
Trusted boundary: human-reviewed semantics
Main exports: Browser, Browser.saveJournal, Browser.send, Round, Progress, Scoring,
  submitOrRecover, Scoring.resume
-/
import RngGamePlatform.Web.ApiClient
import RngGamePlatform.Web.OperationJournal

namespace RngGamePlatform

open Encoding Transactions

/-- The current player of the player store, the stored journal, and the platform. -/
structure Browser where
  player : Option Uuid
  journal : Journal
  server : PlatformSystem

namespace Browser

def saveJournal (browser : Browser) (gameKey : PyStr) (values : JournalEntry → JournalEntry) :
    Browser :=
  { browser with journal := browser.journal.merge gameKey browser.player values }

/-- Send a request; its number is that of its thread. -/
def send (env : Platform) (browser : Browser) (operation : Operation) : Browser :=
  { browser with server := PlatformSystem.begin env browser.server operation }

/-- The number of the next request. -/
def nextRequest (browser : Browser) : Nat := browser.server.threads.length

end Browser

/-- The fields of a component about the round that it shows.  A session is the row that
the answer renders. -/
structure Round where
  session : Option GameSession := none
  outcome : Option Outcome := none
  reward : Option Reward := none
  finalScore : Option FinalScore := none

/-- Whether the reward waits for its claim. -/
def Round.canClaim (round : Round) : Bool :=
  match round.reward with
  | some reward => reward.status.value = py "pending"
  | none => false

/-- No reward of the platform has the status that the components ask for. -/
theorem Round.canClaim_false (round : Round) : round.canClaim = false := by
  unfold canClaim
  cases round.reward with
  | none => rfl
  | some reward =>
      cases isStatus : reward.status <;>
        simp only [isStatus, RewardStatus.value, py_inj, decide_eq_false_iff_not] <;> decide

/-- How an asynchronous function goes on after an answer. -/
inductive Progress (τ : Type) where
  | waiting (task : τ)
  | returned
  | threw (error : ApiError)

/-- `submitOrRecover` waits for the score, or for the state after a failure. -/
inductive Scoring where
  | submitting (request : Nat)
  | checking (error : ApiError) (request : Nat)

def Scoring.request : Scoring → Nat
  | .submitting request => request
  | .checking _ request => request

/-- Whether the request is a submission. -/
def Scoring.mutates : Scoring → Bool
  | .submitting _ => true
  | .checking _ _ => false

variable (env : Platform) (gameKey : PyStr)

/-- The beginning of `submitOrRecover`.  A score that the recovered state has is kept
without a submission. -/
def submitOrRecover (browser : Browser) (round : Round) (recovered : Option FinalScore)
    (draws : ServerDraws) : Browser × Round × Progress (Uuid × Scoring) :=
  match browser.player, round.session, round.outcome, recovered with
  | some _, some _, some _, some score =>
      (browser, { round with finalScore := some score }, .returned)
  | some player, some session, some _, none =>
      let browser := browser.saveJournal gameKey fun entry =>
        { entry with pendingAction := some .submitScore }
      (browser.send env (.request (.submitFinalScore session.id player draws.scoreId)), round,
        .waiting (player, .submitting browser.nextRequest))
  | _, _, _, _ => (browser, round, .returned)

/-- Keep the final score. -/
def Round.scored (browser : Browser) (round : Round) (score : FinalScore) :
    Browser × Round × Progress Scoring :=
  let round := { round with finalScore := some score }
  (browser.saveJournal gameKey fun entry =>
    { entry with pendingAction := if round.canClaim then some .claim else none },
    round, .returned)

/-- The rest of `submitOrRecover`, for the player it began with. -/
def Scoring.resume (browser : Browser) (round : Round) (player : Uuid) :
    Scoring → Except ApiError Answer → Browser × Round × Progress Scoring
  | .submitting _, .ok (.result (.score row _ _)) => round.scored gameKey browser row
  | .submitting _, .error error =>
      if ¬error.uncertain ∧ error.code ≠ some .invalidTransition then
        (browser, round, .threw error)
      else
        (browser.send env (.request (.retrievePlayerGameState player player gameKey)),
          round, .waiting (.checking error browser.nextRequest))
  | .checking error _, .ok (.result (.state state)) =>
      match state.gameSession.bind fun _ => state.finalScore with
      | none => (browser, round, .threw error)
      | some score => round.scored gameKey browser score
  | .checking _ _, .error error => (browser, round, .threw error)
  | _, .ok _ => (browser, round, .threw typeError)

/-- The beginning of a submission leaves the session and the outcome that are shown. -/
theorem submitOrRecover_shown (browser : Browser) (round : Round)
    (recovered : Option FinalScore) (draws : ServerDraws) :
    (submitOrRecover env gameKey browser round recovered draws).2.1.session = round.session ∧
      (submitOrRecover env gameKey browser round recovered draws).2.1.outcome =
        round.outcome := by
  unfold submitOrRecover
  split
  · exact ⟨rfl, rfl⟩
  · exact ⟨rfl, rfl⟩
  · exact ⟨rfl, rfl⟩

/-- A score leaves the session and the outcome that are shown. -/
theorem Scoring.resume_shown (browser : Browser) (round : Round) (player : Uuid)
    (scoring : Scoring) (reply : Except ApiError Answer) :
    (scoring.resume env gameKey browser round player reply).2.1.session = round.session ∧
      (scoring.resume env gameKey browser round player reply).2.1.outcome = round.outcome := by
  unfold Scoring.resume
  split
  · exact ⟨rfl, rfl⟩
  · split
    · exact ⟨rfl, rfl⟩
    · exact ⟨rfl, rfl⟩
  · split
    · exact ⟨rfl, rfl⟩
    · exact ⟨rfl, rfl⟩
  · exact ⟨rfl, rfl⟩
  · exact ⟨rfl, rfl⟩

end RngGamePlatform
