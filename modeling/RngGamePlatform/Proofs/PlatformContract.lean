/-
Module: RngGamePlatform.Proofs.PlatformContract
Purpose: Every call of the platform keeps one contract with the others, so that
  every reachable state is consistent and its evidence complete.
Trusted boundary: none
Main exports: judged_of_runs, body_outlined, operate_outlined, platform_sound
-/
import RngGamePlatform.Proofs.ServiceDiscipline
import RngGamePlatform.Proofs.SettlementSteps

namespace RngGamePlatform

open Encoding Relational Transactions

variable {env : Platform} {db : Database}

/-! ### The calls keep their contract -/

/-- A judgement for the duty of a call is one for the contract. -/
theorem judged_of_runs {ρ : Type} {call : Call} {program : Prog ρ}
    {good : ρ → Phase Database Lock → Prop}
    (runs : ∀ calls db, Consistent env calls db →
      Runs (dutyOf env False call) good program db id []) :
    ∀ db, (bookkeeping env).inv db → Meets (bookkeeping env).Rely
      (fun db db' held => (bookkeeping env).inv db →
        (bookkeeping env).inv db' ∧ (bookkeeping env).commits held db db')
      (dutyOf env False call).fails program ((dutyOf env False call).ends good)
      (.running db id []) := by
  rintro db ⟨⟨calls, consistent⟩, _⟩
  refine (runs calls db consistent).weaken (fun _ _ _ => others_of_rely) ?_
    (fun _ fails => fails) fun _ _ ends => ends
  rintro db db' held guarantee ⟨⟨calls, consistent⟩, ledger⟩
  have known : call ∈ call :: calls := List.mem_cons_self
  have consistent' : Consistent env (call :: calls) db :=
    consistent.grows (List.subset_cons_self _ _)
  exact ⟨⟨⟨_, guarantee.effects.consistent consistent' known⟩,
    guarantee.effects.ledger consistent' known ledger⟩,
    .ofFrame guarantee.moves (guarantee.effects.frame consistent' known)⟩

/-- A request keeps its outline among all the calls. -/
theorem body_outlined (call : Call) :
    (body env call).Outlined (bookkeeping env) (fun _ => True) id [] :=
  outlined_map.mp (outlined_of_meets
    (judged_of_runs fun _ _ consistent => body_runs call consistent nofun))

section Reads

/-- Reading the owner's outcome changes nothing. -/
theorem ownedOutcome_reads (outcomeId ownerId : Uuid) :
    (ownedOutcome outcomeId ownerId).ReadOnly :=
  .bind (.query _ _) fun _ => .bind (.orRaise _ _) fun _ => .bind (.query _ _) fun _ =>
    .bind (.orRaise _ _) fun _ => .bind (.require _ _) fun _ => trivial

theorem byRules_reads {α : Type} (translated : ServiceError)
    (outcome : Except RulesError α) : (byRules translated outcome).ReadOnly := by
  cases outcome <;> trivial

theorem retrieveFairnessProof_reads (outcomeId ownerId : Uuid) :
    (retrieveFairnessProof env outcomeId ownerId).ReadOnly :=
  .bind (ownedOutcome_reads _ _) fun _ => .bind (.query _ _) fun _ =>
    .bind (.orRaise _ _) fun _ => .bind (.ofExcept _) fun _ => .bind (.query _ _) fun _ =>
      .bind (.orRaise _ _) fun _ => .bind (byRules_reads _ _) fun _ => trivial

theorem verifyFairnessProof_reads (fuel : Nat) (outcomeId ownerId : Uuid) :
    (verifyFairnessProof env fuel outcomeId ownerId).ReadOnly := by
  refine .bind (.query _ _) fun _ => .bind (retrieveFairnessProof_reads _ _) fun _ =>
    .bind (.orRaise _ _) fun _ => .bind (.ofExcept _) fun result => ?_
  split
  · trivial
  · exact .bind (.query _ _) fun _ => .bind (.ofExcept _) fun _ => trivial

theorem retrieveOutcomeAudit_reads (outcomeId ownerId : Uuid) :
    (retrieveOutcomeAudit outcomeId ownerId).ReadOnly :=
  .bind (ownedOutcome_reads _ _) fun _ => .bind (.query _ _) fun _ =>
    .bind (.orRaise _ _) fun _ => trivial

theorem playerRewards_reads (createdAt : Uuid → Int) (playerId ownerId : Uuid)
    (limit offset : Nat) : (playerRewards createdAt playerId ownerId limit offset).ReadOnly :=
  .bind (.require _ _) fun _ => .bind (.query _ _) fun _ => .bind (.orRaise _ _) fun _ =>
    .query _ _

theorem activePlayer_reads (playerId : Uuid) : (activePlayer playerId).ReadOnly :=
  .bind (.query _ _) fun _ => .bind (.orRaise _ _) fun _ => .require _ _

theorem eligibleLeaderboardGame_reads (gameKey : PyStr) :
    (eligibleLeaderboardGame gameKey).ReadOnly :=
  .bind (.query _ _) fun _ => .bind (.orRaise _ _) fun _ => .bind (.require _ _) fun _ =>
    .bind (byRules_reads _ _) fun _ => trivial

theorem canonicalLeaderboard_reads (ownerId : Uuid) (gameKey : PyStr) (periodStart : Int)
    (limit offset : Nat) (after : Option ScoreKey) :
    (canonicalLeaderboard ownerId gameKey periodStart limit offset after).ReadOnly :=
  .bind (activePlayer_reads _) fun _ => .bind (eligibleLeaderboardGame_reads _) fun _ =>
    .bind (.query _ _) fun _ => trivial

theorem leaderboardProjectionFacts_reads (ownerId : Uuid) (gameKey : PyStr)
    (periodStart : Int) (playerId : Option Uuid) :
    (leaderboardProjectionFacts ownerId gameKey periodStart playerId).ReadOnly :=
  .bind (.require _ _) fun _ => .bind (activePlayer_reads _) fun _ =>
    .bind (eligibleLeaderboardGame_reads _) fun _ => .bind (.query _ _) fun _ =>
      .bind (.query _ _) fun _ => trivial

theorem canonicalPlayerRank_reads (playerId ownerId : Uuid) (gameKey : PyStr)
    (periodStart : Int) : (canonicalPlayerRank playerId ownerId gameKey periodStart).ReadOnly :=
  .bind (.require _ _) fun _ => .bind (activePlayer_reads _) fun _ =>
    .bind (eligibleLeaderboardGame_reads _) fun _ => .bind (.query _ _) fun _ =>
      .orRaise _ _

end Reads

/-- Every call keeps its outline. -/
theorem operate_outlined (operation : Operation) :
    (operate env operation).Outlined (bookkeeping env) (fun _ => True) id [] := by
  cases operation with
  | request call => exact outlined_map.mpr (body_outlined call)
  | settleLeaderboard gameKey periodStart authorized draw =>
      exact outlined_map.mpr (settleLeaderboard_outlined gameKey periodStart authorized draw)
  | retrieveFairnessProof outcomeId ownerId =>
      exact outlined_of_readOnly (retrieveFairnessProof_reads _ _).map
  | verifyFairnessProof fuel outcomeId ownerId =>
      exact outlined_of_readOnly (verifyFairnessProof_reads _ _ _).map
  | retrieveOutcomeAudit outcomeId ownerId =>
      exact outlined_of_readOnly (retrieveOutcomeAudit_reads _ _).map
  | playerRewards createdAt playerId ownerId limit offset =>
      exact outlined_of_readOnly (playerRewards_reads _ _ _ _ _).map
  | canonicalLeaderboard ownerId gameKey periodStart limit offset after =>
      exact outlined_of_readOnly (canonicalLeaderboard_reads _ _ _ _ _ _).map
  | leaderboardProjectionFacts ownerId gameKey periodStart playerId =>
      exact outlined_of_readOnly (leaderboardProjectionFacts_reads _ _ _ _).map
  | canonicalPlayerRank playerId ownerId gameKey periodStart =>
      exact outlined_of_readOnly (canonicalPlayerRank_reads _ _ _ _).map

/-- Every reachable system keeps the contract. -/
theorem platform_sound {system : PlatformSystem} (reachable : PlatformReachable env system) :
    (bookkeeping env).Sound system :=
  Contract.sound_of_reachable Lock.conflicts_symm operate_outlined
    (fun _ empty => ⟨⟨[], .catalogueOnly empty.catalogue⟩, .nothingYet empty⟩) reachable

end RngGamePlatform
