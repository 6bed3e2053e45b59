/-
Module: RngGamePlatform.Services.Common
Purpose: Request fingerprints, session transitions, and the termination steps
  shared by the session-ending use cases.
Trusted boundary: human-reviewed semantics
Main exports: Platform, requestFingerprint, expireIfDue, cancelActive,
  endCommittedFairnessProof, finalizeExpiredSession
-/
import RngGamePlatform.FairnessEvents
import RngGamePlatform.GameRules
import RngGamePlatform.Repositories

namespace RngGamePlatform

open Encoding Relational Transactions

/-- What the services get from outside: hash functions and the payload schema. -/
structure Platform where
  crypto : Crypto
  schema : Schema

def raise {ρ : Type} (error : ServiceError) : Prog ρ := .raise error

def orRaise {α : Type} (error : ServiceError) : Option α → Prog α :=
  Program.orRaise error

def require (error : ServiceError) (condition : Prop) [Decidable condition] :
    Prog Unit :=
  Program.require error condition

def clock : Prog Int := Program.clock

def commitWork : Prog Unit := Program.commitWork

/-- The failure of the rules as the services report it: refused input becomes
`translated`, everything else passes through. -/
def RulesError.report (translated : ServiceError) : RulesError → ServiceError
  | .invalidRulesInput => translated
  | .validation => .validation
  | .zeroDivision => .zeroDivision
  | .indexError => .indexError

/-- Go on with the value of the rules or raise their failure. -/
def byRules {α : Type} (translated : ServiceError) : Except RulesError α → Prog α
  | .ok value => .ret value
  | .error error => .raise (error.report translated)

/-- Go on with a fairness value or raise its untranslated failure. -/
def byFairness {α : Type} : Except FairnessError α → Prog α
  | .ok value => .ret value
  | .error error => .raise (.fairness error)

/-- The canonical text of a request's material intent. -/
def requestIntent (operation : PyStr) (materialInput : List (PyStr × Json)) :
    PyStr :=
  Json.dumps (Json.object
    [(py "operation", .str operation), (py "input", Json.object materialInput)])

/-- Hash canonical material intent for durable idempotency-key binding. -/
def requestFingerprint (crypto : Crypto) (operation : PyStr)
    (materialInput : List (PyStr × Json)) : PyStr :=
  (crypto.sha256 (encodeAscii (requestIntent operation materialInput))).hex

section Transitions

/-- Move an active, elapsed session to its irreversible expired state. -/
def expireIfDue (gameSession : GameSession) (now : Int) : Bool × GameSession :=
  if gameSession.status ≠ .active ∨ now < gameSession.expiresAt then
    (false, gameSession)
  else (true, { gameSession with status := .expired, endedAt := some now })

/-- The owner-driven terminal transition. -/
def cancelActive (gameSession : GameSession) (now : Int) :
    Except ServiceError GameSession :=
  if gameSession.status ≠ .active then .error .invalidTransition
  else .ok { gameSession with status := .cancelled, endedAt := some now }

end Transitions

/-- The terminal event of a proof after `previous`. -/
def terminalEvent (crypto : Crypto) (proof : FairnessProof)
    (previous : FairnessProofEvent) (now : Int) : FairnessProofEvent :=
  let sequence := previous.sequence + 1
  let eventType := proof.status.value
  let payload := terminalEventPayload proof now
  { proofId := proof.id
    sequence := sequence
    eventType := eventType
    evidenceVersion := 2
    payload := payload
    status := proof.status
    previousEvidenceHash := some previous.evidenceHash
    evidenceHash := fairnessEventHash crypto proof.id sequence eventType
      proof.status now (some previous.evidenceHash) payload
    createdAt := now }

/-- One flush: the changed session and proof are updated, the custody row is
deleted and the event is inserted. -/
def flushTermination (gameSession : GameSession) (proof : FairnessProof)
    (event : FairnessProofEvent) (db : Database) : Except ServiceError Database := do
  let db ← Database.updateSession gameSession db
  let db ← Database.updateProof proof db
  Database.insertEvent event (Database.deleteCustody proof.id db)

def terminationLocks (gameSession : GameSession) (proof : FairnessProof) :
    List Lock :=
  [forNoKeyUpdate (.session gameSession.id), forNoKeyUpdate (.proof proof.id),
    forKeyShare (.proof proof.id)]

/-- Terminally retire an unrevealed proof and its seed custody evidence.
`gameSession` is the changed session object, which the same flush writes. -/
def endCommittedFairnessProof (crypto : Crypto) (gameSession : GameSession)
    (proof : FairnessProof) (status : FairnessProofStatus) (now : Int) :
    Prog Bool :=
  if proof.status ≠ .committed then .ret false
  else if status ≠ .expired ∧ status ≠ .cancelled then raise .invalidTransition
  else do
    let found ← lockLatestFairnessProofEvent proof.id
    let previousEvent ← orRaise .invalidTransition found
    let ended := proof.withStatus status
    let _custody ← getFairnessSeedCustody proof.id
    Program.update (fun _ => terminationLocks gameSession ended)
      (flushTermination gameSession ended
        (terminalEvent crypto ended previousEvent now))
    return true

/-- The proof that a caller has locked already, or the proof of the session. -/
def lockedProofOr (lockedProof : Option FairnessProof) (sessionId : Uuid) :
    Prog (Option FairnessProof) :=
  match lockedProof with
  | some proof => .ret (some proof)
  | none => lockFairnessProofBySession sessionId

/-- Write a changed session that no earlier flush has written. -/
def saveSession (gameSession : GameSession) : Prog Unit :=
  Program.update (fun _ => [forNoKeyUpdate (.session gameSession.id)])
    (Database.updateSession gameSession)

/-- Write a session object if it was changed. -/
def saveIfChanged (changed : Bool) (gameSession : GameSession) : Prog Unit :=
  if changed then saveSession gameSession else .ret ()

/-- Finalize an elapsed session and any committed fairness proof.  Besides the
verdict the result is the session object after the change. -/
def finalizeExpiredSession (crypto : Crypto) (gameSession : GameSession) (now : Int)
    (lockedProof : Option FairnessProof) : Prog (Bool × GameSession) :=
  let (sessionChanged, changed) := expireIfDue gameSession now
  if ¬sessionChanged ∧ gameSession.status ≠ .expired then .ret (false, gameSession)
  else do
    let proof ← lockedProofOr lockedProof changed.id
    match proof with
    | none => do
        saveIfChanged sessionChanged changed
        return (sessionChanged, changed)
    | some proof => do
        let proofChanged ←
          endCommittedFairnessProof crypto changed proof .expired now
        if proofChanged then return (true, changed)
        else do
          saveIfChanged sessionChanged changed
          return (sessionChanged, changed)

end RngGamePlatform
