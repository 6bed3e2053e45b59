/-
Module: RngGamePlatform.Proofs.FairnessSpecs
Purpose: The judgement of the commitment of a fairness proof.
Trusted boundary: none
Main exports: CommitsTo, storeCommitment_runs, commitFairness_runs
-/
import RngGamePlatform.Proofs.SessionSpecs
import RngGamePlatform.Proofs.Stability

namespace RngGamePlatform

open Encoding Relational Transactions

section Commit

/-- The answer of a commitment is a stored proof of the session. -/
def CommitsTo (sessionId : Uuid) (proof : FairnessProof) (phase : Phase Database Lock) :
    Prop :=
  proof ∈ phase.db.proofs ∧ proof.sessionId = sessionId

variable {env : Platform} {duty : Duty} {db : Database} {held : List Lock}

/-- Storing a commitment under the session lock. -/
theorem storeCommitment_runs {proof : FairnessProof} {seed : Bytes} {now : Int}
    (tolerant : duty.Tolerant)
    (mine : forUpdate (.session proof.sessionId) ∈ held)
    (allows : ∀ {middle last db' held'}, held ⊆ held' →
      Database.insertProof proof db = .ok middle →
      Database.insertCustody ⟨proof.id, seed⟩ middle = .ok last →
      Database.insertEvent (commitEvent env proof now) last = .ok db' →
      forUpdate (.proof proof.id) ∈ held' → duty.guarantee db db' held') :
    Runs duty (CommitsTo proof.sessionId) (storeCommitment env proof seed now) db id held := by
  refine Runs.write (fun db => { db with proofs := db.proofs ++ [proof] })
    (.start db held) (fun _ fails => insertProof_tolerated tolerant fails)
    (fun _ inserted _ others => insertProof_stable others
      (List.mem_append_right _ mine) (by simp) inserted)
    fun inserted _ shaped => ?_
  refine Runs.write (fun db => { db with
      proofs := db.proofs ++ [proof]
      custodies := db.custodies ++ [⟨proof.id, seed⟩] })
    shaped (fun _ fails => insertCustody_tolerated tolerant fails)
    (fun _ kept _ others => insertCustody_stable others (by simp) (by rfl) (by rfl)
      kept)
    fun kept _ shaped => ?_
  refine Runs.write (fun db => { db with
      proofs := db.proofs ++ [proof]
      custodies := db.custodies ++ [⟨proof.id, seed⟩]
      events := db.events ++ [commitEvent env proof now] })
    shaped (fun _ fails => insertEvent_tolerated tolerant fails)
    (fun _ chained _ others => insertEvent_stable others (by simp [commitEvent])
      (by rfl) (by rfl) chained)
    fun chained _ shaped => ?_
  refine Runs.commitRet ?_ ⟨?_, rfl⟩
  · rw [shaped.here]
    refine allows (fun lock member => ?_) inserted kept chained (by simp)
    exact List.mem_append_right _
      (List.mem_append_right _ (List.mem_append_right _ member))
  · rw [shaped.here]
    exact List.mem_append_right _ List.mem_cons_self

theorem commitFairness_runs {sessionId ownerId : Uuid} {draw : CommitDraw}
    (permits : Permits env (.commitFairness sessionId ownerId draw) db duty)
    (sane : Sane db) :
    Runs duty (CommitsTo sessionId) (commitFairness env sessionId ownerId draw) db id
      [] := by
  unfold commitFairness
  refine Runs.lockedSession fun row found isId => ?_
  refine Runs.require (by simp) fun owner => ?_
  refine Runs.clock fun now => ?_
  have here : sessionById row.id db = some row := isId ▸ found
  refine Runs.finalize permits.toTolerant sane here List.mem_cons_self
    (fun _ isSome => by cases isSome) ?_ ?_
  · intro held' subset _
    refine Runs.require (by simp) fun active => ?_
    refine Runs.gameAndConfig (by simp) fun game config foundGame foundConfig belongs => ?_
    refine Runs.lockProof (subset List.mem_cons_self)
      fun proof more subset' bound _ => ?_
    cases proof with
    | some existing =>
        exact Runs.commitRet (permits.allows (.unchanged env _ db more))
          ⟨lookup_mem bound, (lookup_key bound).trans isId⟩
    | none =>
        refine Runs.byRules (by simp) fun bands mapped => ?_
        refine Runs.byFairness fun commitment committed => ?_
        refine Runs.byFairness fun digest hashed => ?_
        have isCommitment : (env.crypto.sha256 draw.seed.val).hex = commitment := by
          have whole : validateServerSeed draw.seed.val = .ok () :=
            if_pos draw.seed.property
          simp only [serverSeedCommitment, whole] at committed
          exact Except.ok.inj committed
        subst isCommitment
        rw [← isId]
        refine storeCommitment_runs permits.toTolerant
          (subset' (subset List.mem_cons_self)) ?_
        intro middle last db' final subset'' inserted kept chained proofMine
        refine permits.allows ⟨?_, ?_, fun answered => answered.elim⟩
        · have mine : forUpdate (.session row.id) ∈ final :=
            subset'' (subset' (subset List.mem_cons_self))
          exact ((Moves.insertProof inserted
              ⟨mine, proofMine, fun _ isSome => by cases isSome⟩).trans
            (Moves.insertCustody kept proofMine)).trans
              (Moves.insertEvent chained proofMine)
        · exact .one (.commit (isId ▸ rfl) here active owner foundGame
            foundConfig belongs bound mapped hashed rfl inserted kept chained)
  · intro _ _ changes held' _ terminated
    exact Runs.commitRaise (by simp) (permits.allows (terminated.guarantee id))

end Commit

end RngGamePlatform
