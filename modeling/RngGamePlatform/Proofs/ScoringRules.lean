/-
Module: RngGamePlatform.Proofs.ScoringRules
Purpose: The score of every evaluated outcome under its own configuration.
Trusted boundary: none
Main exports: DailySpinConfig.bands, fairnessRewardBands_eq_ok,
  LongestCommonPrefix, correctPrefix_longest, revealed_scores,
  SkillScore, skillCheck_scores
-/
import RngGamePlatform.Proofs.FairDraw
import RngGamePlatform.Services.Gameplay

namespace RngGamePlatform

open Encoding Relational

variable {schema : Schema} {config : GameConfigVersion} {payload : GameConfigPayload}

section DailySpin

/-- The reward map of a daily-spin configuration. -/
def DailySpinConfig.bands (config : DailySpinConfig) : List RewardBand :=
  config.rewards.map fun band => ⟨band.key, band.weight, band.value⟩

/-- The bands of a configuration are those of its payload. -/
theorem fairnessRewardBands_eq_ok {gameKey : PyStr} {bands : List RewardBand}
    (mapped : fairnessRewardBands schema gameKey config = .ok bands) :
    ∃ spin, validatedConfig schema config = .ok (.dailySpin spin) ∧
      bands = spin.bands := by
  simp only [fairnessRewardBands, bind_eq_ok] at mapped
  obtain ⟨game, _, mapped⟩ := mapped
  split at mapped
  · cases mapped
  · obtain ⟨payload, validated, mapped⟩ := bind_eq_ok.mp mapped
    cases payload with
    | dailySpin spin =>
        cases mapped
        exact ⟨spin, validated, rfl⟩
    | predictionCard card => cases mapped
    | skillCheck skill => cases mapped

/-- A selected band is one of the map. -/
theorem selectDailySpinReward_mem {bands : List RewardBand} {value : Int}
    {band : RewardBand} (valid : ValidBands bands)
    (selected : selectDailySpinReward bands value = .ok band) : band ∈ bands := by
  by_cases inside : 0 ≤ value ∧ value < totalWeight bands
  · obtain ⟨index, bound, inBand⟩ := exists_inBand inside.1 inside.2
    rw [valid.select bound inBand] at selected
    cases selected
    exact List.get_mem _ _
  · rw [valid.select_error.mpr inside] at selected
    cases selected

/-- Searching a reward map without repeated keys for the key of one of its bands
finds that band. -/
theorem ValidBands.find {spin : DailySpinConfig} (valid : ValidBands spin.bands)
    {reward : RewardBand} (member : reward ∈ spin.bands) :
    ∃ band, (spin.rewards.find? fun band =>
      some (Json.str reward.key) = some (.str band.key)) = some band ∧
        band.value = reward.value := by
  obtain ⟨band, inRewards, isReward⟩ := List.mem_map.mp member
  cases found : spin.rewards.find? fun band =>
      some (Json.str reward.key) = some (.str band.key) with
  | none =>
      have never := List.find?_eq_none.mp found band inRewards
      rw [← isReward] at never
      simp at never
  | some other =>
      have inMap := List.mem_of_find?_eq_some found
      have sameKey := List.find?_some found
      simp only [Option.some.injEq, Json.str.injEq, decide_eq_true_eq] at sameKey
      refine ⟨other, rfl, ?_⟩
      -- the keys of the map are pairwise different
      have bandOf : (⟨other.key, other.weight, other.value⟩ : RewardBand) = reward := by
        apply List.inj_on_of_nodup_map valid.keys
        · exact List.mem_map_of_mem inMap
        · exact member
        · exact sameKey.symm
      exact congrArg RewardBand.value bandOf

/-- The score of a revealed outcome is the value that its derivation selected. -/
theorem revealed_scores {spin : DailySpinConfig} {derivation : DailySpinDerivation}
    (validated : validatedConfig schema config = .ok (.dailySpin spin))
    (valid : ValidBands spin.bands) (member : derivation.reward ∈ spin.bands)
    (gameSession : GameSession) (outcomeId : Uuid) :
    leaderboardScore schema config (revealedOutcome gameSession outcomeId derivation)
      .dailySpin = .ok derivation.reward.value := by
  have stored : (revealedOutcome gameSession outcomeId derivation).result.get?
      (py "reward_key") = some (.str derivation.reward.key) := by
    simp only [revealedOutcome, Json.get?_object]
    rfl
  obtain ⟨band, found, isValue⟩ := valid.find member
  simp only [leaderboardScore, definitionRewardValue, dailySpinRewardValue, validated,
    stored, bind, Except.bind, found, isValue]

end DailySpin

section SkillCheck

/-- `k` is the length of the longest common prefix of two lists. -/
def LongestCommonPrefix {α : Type} (k : Nat) (one other : List α) : Prop :=
  (∃ common, common <+: one ∧ common <+: other ∧ common.length = k) ∧
    ∀ common, common <+: one → common <+: other → common.length ≤ k

/-- The loop counts the longest common prefix. -/
theorem correctPrefix_longest (actions : List Int) (challenge : List Json) :
    LongestCommonPrefix (correctPrefix actions challenge) (actions.map Json.int)
      challenge := by
  induction actions generalizing challenge with
  | nil =>
      refine ⟨⟨[], by simp, by simp, by simp [correctPrefix]⟩, ?_⟩
      intro common isPrefix _
      rw [List.map_nil, List.prefix_nil] at isPrefix
      simp [isPrefix]
  | cons submitted actions ih =>
      cases challenge with
      | nil =>
          refine ⟨⟨[], by simp, by simp, by simp [correctPrefix]⟩, ?_⟩
          intro common _ isPrefix
          rw [List.prefix_nil] at isPrefix
          simp [isPrefix]
      | cons expected challenge =>
          by_cases same : expected = .int submitted
          · obtain ⟨⟨common, ofActions, ofChallenge, isLength⟩, longest⟩ := ih challenge
            subst same
            rw [correctPrefix, if_pos rfl, List.map_cons]
            refine ⟨⟨.int submitted :: common, ?_, ?_, by simp [isLength]⟩, ?_⟩
            · exact List.cons_prefix_cons.mpr ⟨rfl, ofActions⟩
            · exact List.cons_prefix_cons.mpr ⟨rfl, ofChallenge⟩
            · intro other inActions inChallenge
              cases other with
              | nil => simp
              | cons first rest =>
                  have shorter := longest rest (List.cons_prefix_cons.mp inActions).2
                    (List.cons_prefix_cons.mp inChallenge).2
                  simp only [List.length_cons]
                  omega
          · rw [correctPrefix, if_neg same]
            refine ⟨⟨[], by simp, by simp, rfl⟩, ?_⟩
            intro other inActions inChallenge
            cases other with
            | nil => simp
            | cons first rest =>
                rw [List.map_cons, List.cons_prefix_cons] at inActions
                rw [List.cons_prefix_cons] at inChallenge
                exact absurd (inChallenge.1.symm.trans inActions.1) same

namespace LongestCommonPrefix

variable {α : Type} {k : Nat} {one other : List α}

theorem le_length (longest : LongestCommonPrefix k one other) : k ≤ other.length := by
  obtain ⟨⟨common, _, ofOther, isLength⟩, _⟩ := longest
  rw [← isLength]
  exact ofOther.length_le

/-- The whole second list is common exactly when it is a prefix of the first. -/
theorem eq_length_iff (longest : LongestCommonPrefix k one other) :
    k = other.length ↔ other <+: one := by
  constructor
  · intro whole
    obtain ⟨⟨common, ofOne, ofOther, isLength⟩, _⟩ := longest
    rw [ofOther.eq_of_length (isLength.trans whole)] at ofOne
    exact ofOne
  · intro isPrefix
    have atMost := longest.2 other isPrefix List.prefix_rfl
    have atLeast := longest.le_length
    omega

end LongestCommonPrefix

/-- What the score of a skill check is made of. -/
structure SkillScore (maxScore value : Int) (actions : List Int)
    (challenge : List Json) : Prop where
  /-- The score is the whole part of the share of the common prefix. -/
  share : ∃ k, LongestCommonPrefix k (actions.map Json.int) challenge ∧
    value = maxScore * k / challenge.length
  bounds : 0 ≤ value ∧ value ≤ maxScore
  complete : value = maxScore ↔ challenge <+: actions.map Json.int

/-- The share of a prefix of a challenge. -/
theorem skillScore {maxScore : Int} {k : Nat} {actions : List Int}
    {challenge : List Json} (positive : 0 < maxScore) (nonempty : challenge ≠ [])
    (longest : LongestCommonPrefix k (actions.map Json.int) challenge) :
    SkillScore maxScore (maxScore * k / challenge.length) actions challenge := by
  have length : 0 < (challenge.length : Int) := by
    have isPositive := List.length_pos_iff.mpr nonempty
    omega
  have below : (k : Int) ≤ challenge.length := by
    have isBelow := longest.le_length
    omega
  have nonneg : 0 ≤ maxScore * k :=
    Int.mul_nonneg (Int.le_of_lt positive) (Int.natCast_nonneg k)
  constructor
  case share => exact ⟨k, longest, rfl⟩
  case bounds =>
    refine ⟨Int.ediv_nonneg nonneg (Int.le_of_lt length), ?_⟩
    apply Int.ediv_le_of_le_mul length
    exact Int.mul_le_mul_of_nonneg_left below (Int.le_of_lt positive)
  case complete =>
    rw [← longest.eq_length_iff]
    constructor
    · intro isMax
      by_contra different
      have strict : (k : Int) < challenge.length := by
        have isBelow := longest.le_length
        omega
      have smaller : maxScore * k < maxScore * challenge.length :=
        Int.mul_lt_mul_of_pos_left strict positive
      have less := Int.ediv_lt_of_lt_mul length smaller
      omega
    · intro isWhole
      rw [isWhole]
      exact Int.mul_ediv_cancel _ (Int.ne_of_gt length)

/-- What the evaluation of a skill check stores. -/
theorem skillCheckEvaluate_eq_ok {gameSession : GameSession} {intent : PlayIntent}
    {now : Int} {result : Json}
    (evaluated : skillCheckEvaluate schema gameSession config intent now = .ok result) :
    ∃ skill actions challenge,
      validatedConfig schema config = .ok (.skillCheck skill) ∧
        intent.actions = some actions ∧
        gameSession.challenge.get? (py "sequence") = some (.arr challenge) ∧
        challenge ≠ [] ∧
        result.get? (py "score") = some (.int
          (skill.maxScore * correctPrefix actions challenge / challenge.length)) := by
  simp only [skillCheckEvaluate, bind_eq_ok] at evaluated
  obtain ⟨payload, validated, evaluated⟩ := evaluated
  cases payload with
  | dailySpin spin => cases evaluated
  | predictionCard card => cases evaluated
  | skillCheck skill =>
      simp only at evaluated
      split at evaluated
      · next actions challenge isActions _ isChallenge =>
          split at evaluated
          · cases evaluated
          · split at evaluated
            · cases evaluated
            · next nonempty =>
                cases evaluated
                refine ⟨skill, actions, challenge, validated, isActions, isChallenge,
                  nonempty, ?_⟩
                rw [Json.get?_object]
                rfl
      · cases evaluated

/-- The score of an evaluated skill check. -/
theorem skillCheck_scores {gameSession : GameSession} {intent : PlayIntent} {now : Int}
    {result : Json}
    (evaluated : skillCheckEvaluate schema gameSession config intent now = .ok result)
    (outcomeId : Uuid) :
    ∃ skill actions challenge value,
      validatedConfig schema config = .ok (.skillCheck skill) ∧
        intent.actions = some actions ∧
        gameSession.challenge.get? (py "sequence") = some (.arr challenge) ∧
        SkillScore skill.maxScore value actions challenge ∧
        leaderboardScore schema config (playedOutcome gameSession outcomeId result)
          .skillCheck = .ok value := by
  obtain ⟨skill, actions, challenge, validated, isActions, isChallenge, nonempty,
    stored⟩ := skillCheckEvaluate_eq_ok evaluated
  have score := skillScore skill.score_positive nonempty
    (correctPrefix_longest actions challenge)
  refine ⟨skill, actions, challenge, _, validated, isActions, isChallenge, score, ?_⟩
  have stored' : (playedOutcome gameSession outcomeId result).result.get?
      (py "score") = _ := stored
  simp only [leaderboardScore, definitionRewardValue, skillCheckScore, validated,
    stored', bind, Except.bind, if_pos score.bounds]

end SkillCheck

end RngGamePlatform
