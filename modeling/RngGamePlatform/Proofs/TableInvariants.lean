/-
Module: RngGamePlatform.Proofs.TableInvariants
Purpose: An invariant of the tables that each effect of a request and each statement of a
  settlement keep holds in every reachable state.
Trusted boundary: none
Main exports: TableInvariant, TableInvariant.reachable
-/
import RngGamePlatform.Proofs.EvidenceConservation
import RngGamePlatform.Proofs.WrittenTables
import RngGamePlatform.Transactions.Strengthening

namespace RngGamePlatform

open Transactions

variable {env : Platform} {more : Database → Prop} {db db' : Database}

/-- An invariant that is added to the consistency of the tables: the effects of the
requests and the statements of the settlements keep it. -/
structure TableInvariant (env : Platform) (more : Database → Prop) : Prop where
  nothingYet : ∀ db, NothingYet db → more db
  effect : ∀ {call calls db db'}, Consistent env calls db → Effect env call db db' →
    more db → more db'
  settlement : ∀ change, SettlementStatement change → ∀ view view', more view →
    change view = .ok view' → more view'

namespace TableInvariant

variable (invariant : TableInvariant env more)
include invariant

/-- What a request has done at a commit, an expiry before the rest included. -/
theorem effects {call : Call} {calls : List Call} (consistent : Consistent env calls db)
    (known : call ∈ calls) (effects : Effects env call db db') (holds : more db) :
    more db' := by
  cases effects with
  | unchanged same => exact same ▸ holds
  | one effect => exact invariant.effect consistent effect holds
  | ending first rounds second =>
      exact invariant.effect (first.consistent consistent known) second
        (invariant.effect consistent first holds)

/-- A request keeps its outline together with the invariant. -/
theorem body_outlined (call : Call) :
    (body env call).Outlined ((bookkeeping env).both more) (fun _ => True) id [] := by
  have judged : ∀ db, ((bookkeeping env).both more).inv db →
      Meets ((bookkeeping env).both more).Rely
        (fun db db' held => ((bookkeeping env).both more).inv db →
          ((bookkeeping env).both more).inv db' ∧ (bookkeeping env).commits held db db')
        (dutyOf env False call).fails (settled <$> body env call)
        ((dutyOf env False call).ends fun result phase => Fact env call result phase.db)
        (.running db id []) := by
    rintro db ⟨⟨⟨calls, consistent⟩, _⟩, _⟩
    have runs := @body_runs env False calls call db consistent False.elim
    refine runs.weaken (fun _ _ _ relied => others_of_rely relied.left) ?_
      (fun _ fails => fails) fun _ _ ends => ends
    rintro db db' held guarantee ⟨⟨⟨calls, consistent⟩, ledger⟩, holds⟩
    have known : call ∈ call :: calls := List.mem_cons_self
    have consistent' : Consistent env (call :: calls) db :=
      consistent.grows (List.subset_cons_self _ _)
    exact ⟨⟨⟨⟨_, guarantee.effects.consistent consistent' known⟩,
      guarantee.effects.ledger consistent' known ledger⟩,
        invariant.effects consistent' known guarantee.effects holds⟩,
      .ofFrame guarantee.moves (guarantee.effects.frame consistent' known)⟩
  exact outlined_map.mp (outlined_of_meets judged)

/-- Every operation keeps the contract together with the invariant. -/
theorem operate_outlined (operation : Operation) : (operate env operation).Outlined
    ((bookkeeping env).both more) (fun _ => True) id [] := by
  cases operation with
  | request call =>
      exact outlined_map.mpr (invariant.body_outlined call)
  | settleLeaderboard gameKey periodStart authorized draw =>
      apply outlined_map.mpr
      exact (settleLeaderboard_outlined gameKey periodStart authorized draw).both
        ((settleLeaderboard_executes _ _ _ _).confined invariant.settlement) fun _ holds => holds
  | retrieveFairnessProof outcomeId ownerId =>
      exact outlined_of_readOnly (retrieveFairnessProof_reads _ _).map
  | verifyFairnessProof fuel outcomeId ownerId =>
      exact outlined_of_readOnly (verifyFairnessProof_reads _ _ _).map
  | retrieveOutcomeAudit outcomeId ownerId =>
      exact outlined_of_readOnly (retrieveOutcomeAudit_reads _ _).map
  | playerRewards createdAt playerId ownerId limit offset =>
      exact outlined_of_readOnly (playerRewards_reads _ _ _ _ _).map
  | canonicalLeaderboard ownerId gameKey periodStart limit offset after =>
      exact outlined_of_readOnly (canonicalLeaderboard_reads _ _ _ _ _ _).map
  | leaderboardProjectionFacts ownerId gameKey periodStart playerId =>
      exact outlined_of_readOnly (leaderboardProjectionFacts_reads _ _ _ _).map
  | canonicalPlayerRank playerId ownerId gameKey periodStart =>
      exact outlined_of_readOnly (canonicalPlayerRank_reads _ _ _ _).map

/-- In a reachable state the tables are consistent, their evidence is complete, and the
invariant holds. -/
theorem reachable (reached : ReachableState env db) :
    (∃ calls, Consistent env calls db) ∧ Ledger db ∧ more db := by
  obtain ⟨system, isRun, rfl⟩ := reached
  have start : ∀ db, NothingYet db → ((bookkeeping env).both more).inv db := by
    intro db empty
    exact ⟨⟨⟨[], .catalogueOnly empty.catalogue⟩, .nothingYet empty⟩,
      invariant.nothingYet db empty⟩
  obtain ⟨⟨consistent, ledger⟩, holds⟩ :=
    (Contract.sound_of_reachable Lock.conflicts_symm invariant.operate_outlined start isRun).inv
  exact ⟨consistent, ledger, holds⟩

end TableInvariant

end RngGamePlatform
