/-
Module: RngGamePlatform.GameRules
Purpose: Deterministic game rules and the registry of supported games.
Trusted boundary: human-reviewed semantics
Main exports: GameConfigPayload, Schema, GameKey, rulesFor, createChallenge,
  definitionRewardValue, fairnessRewardBands, retryMatches, evaluatePlay, leaderboardScore
-/
import RngGamePlatform.Rng
import RngGamePlatform.Encoding.Binary64

namespace RngGamePlatform

open Encoding

/-!
A payload that has passed its schema is a value of `GameConfigPayload`: the
bounds of the schema are fields, so that a payload outside them cannot be built.
-/

/-- One reward band of a daily-spin configuration. -/
structure ConfiguredBand where
  key : PyStr
  weight : Int
  value : Int
  key_length : 1 ≤ key.length ∧ key.length ≤ 30
  weight_positive : 0 < weight
  value_nonneg : 0 ≤ value
deriving DecidableEq

structure DailySpinConfig where
  cooldownSeconds : Int
  rewards : List ConfiguredBand
  cooldown_bounds : 60 ≤ cooldownSeconds ∧ cooldownSeconds ≤ 604800
  min_length : 2 ≤ rewards.length
deriving DecidableEq

structure PredictionCardConfig where
  cooldownSeconds : Int
  choices : List PyStr
  correctReward : Int
  cooldown_bounds : 0 ≤ cooldownSeconds ∧ cooldownSeconds ≤ 604800
  choices_length : 2 ≤ choices.length ∧ choices.length ≤ 10
  reward_nonneg : 0 ≤ correctReward
deriving DecidableEq

structure SkillCheckConfig where
  cooldownSeconds : Int
  durationSeconds : Int
  maxScore : Int
  cooldown_bounds : 0 ≤ cooldownSeconds ∧ cooldownSeconds ≤ 604800
  duration_bounds : 5 ≤ durationSeconds ∧ durationSeconds ≤ 300
  score_positive : 0 < maxScore
deriving DecidableEq

inductive GameConfigPayload where
  | dailySpin (config : DailySpinConfig)
  | predictionCard (config : PredictionCardConfig)
  | skillCheck (config : SkillCheckConfig)
deriving DecidableEq

namespace GameConfigPayload

def cooldownSeconds : GameConfigPayload → Int
  | .dailySpin config => config.cooldownSeconds
  | .predictionCard config => config.cooldownSeconds
  | .skillCheck config => config.cooldownSeconds

/-- Only skill-check payloads have a duration; the others default to 300. -/
def durationSeconds : GameConfigPayload → Int
  | .skillCheck config => config.durationSeconds
  | _ => 300

def gameType : GameConfigPayload → PyStr
  | .dailySpin _ => py "daily_spin"
  | .predictionCard _ => py "prediction_card"
  | .skillCheck _ => py "skill_check"

end GameConfigPayload

/-- The schema validator of configuration payloads; none for a payload that it
rejects. -/
abbrev Schema := Json → Option GameConfigPayload

/-- Canonical identifiers for the supported catalogue. -/
inductive GameKey where
  | dailySpin
  | predictionCard
  | skillCheck
deriving DecidableEq, Repr

def GameKey.value : GameKey → PyStr
  | .dailySpin => py "daily_spin"
  | .predictionCard => py "prediction_card"
  | .skillCheck => py "skill_check"

/-- How the outcome of a registered game is evaluated. -/
inductive GameMode where
  | direct
  | fairness
deriving DecidableEq, Repr

def GameKey.mode : GameKey → GameMode
  | .dailySpin => .fairness
  | .predictionCard => .direct
  | .skillCheck => .direct

/-- Whether the final scores of a registered game are settled. -/
def GameKey.settlement : GameKey → Bool
  | .skillCheck => true
  | _ => false

/-- Failures of the rules. -/
inductive RulesError where
  | invalidRulesInput
  | validation
  | zeroDivision
  | indexError
deriving DecidableEq, Repr

/-- A supported game; unknown identifiers are refused. -/
def rulesFor (gameKey : PyStr) : Except RulesError GameKey :=
  if gameKey = GameKey.dailySpin.value then .ok .dailySpin
  else if gameKey = GameKey.predictionCard.value then .ok .predictionCard
  else if gameKey = GameKey.skillCheck.value then .ok .skillCheck
  else .error .invalidRulesInput

/-- Every registered game supports leaderboards. -/
def leaderboardRulesFor (gameKey : PyStr) : Except RulesError GameKey :=
  rulesFor gameKey

def settlementRulesFor (gameKey : PyStr) : Except RulesError GameKey := do
  let game ← rulesFor gameKey
  if game.settlement then .ok game else .error .invalidRulesInput

structure PlayIntent where
  choice : Option PyStr
  actions : Option (List Int)
deriving DecidableEq

/-- Unbiased bounded value and non-secret derivation evidence. -/
structure DerivedValue where
  value : Nat
  digestHex : PyStr
deriving DecidableEq

/-- Cryptographic input consumed by the deterministic rules. -/
structure OutcomeProvider where
  uniform : (sessionId : Uuid) → (gameKey : PyStr) → (configVersionId : Uuid) →
    (purpose : PyStr) → (upperBound : Nat) → DerivedValue

section Rules

variable (schema : Schema)

def validatedConfig (config : GameConfigVersion) :
    Except RulesError GameConfigPayload :=
  match schema config.payload with
  | some payload => .ok payload
  | none => .error .validation

/-- The challenge of a new session; `sequence` is the drawn skill sequence. -/
def createChallenge (sequence : List Int) : GameKey → Json
  | .skillCheck => Json.object [(py "sequence", .arr (sequence.map .int))]
  | _ => Json.object []

def dailySpinRewardValue (config : GameConfigVersion) (outcome : Outcome) :
    Except RulesError Int := do
  match ← validatedConfig schema config with
  | .dailySpin payload =>
      let rewardKey := outcome.result.get? (py "reward_key")
      match payload.rewards.find? fun band => rewardKey = some (.str band.key) with
      | some band => .ok band.value
      | none => .error .invalidRulesInput
  | _ => .error .invalidRulesInput

def predictionCardRewardValue (config : GameConfigVersion) (outcome : Outcome) :
    Except RulesError Int := do
  match ← validatedConfig schema config with
  | .predictionCard payload =>
      if outcome.result.get? (py "correct") = some (.bool true) then
        .ok payload.correctReward
      else .ok 0
  | _ => .error .invalidRulesInput

def skillCheckScore (config : GameConfigVersion) (outcome : Outcome) :
    Except RulesError Int := do
  match ← validatedConfig schema config with
  | .skillCheck payload =>
      match outcome.result.get? (py "score") with
      | some (.int score) =>
          if 0 ≤ score ∧ score ≤ payload.maxScore then .ok score
          else .error .invalidRulesInput
      | _ => .error .invalidRulesInput
  | _ => .error .invalidRulesInput

/-- The reward that the definition of a game derives from an outcome. -/
def definitionRewardValue (config : GameConfigVersion) (outcome : Outcome) :
    GameKey → Except RulesError Int
  | .dailySpin => dailySpinRewardValue schema config outcome
  | .predictionCard => predictionCardRewardValue schema config outcome
  | .skillCheck => skillCheckScore schema config outcome

/-- The leaderboard score of an outcome. -/
def leaderboardScore (config : GameConfigVersion) (outcome : Outcome)
    (game : GameKey) : Except RulesError Int :=
  definitionRewardValue schema config outcome game

/-- The provably fair bands of a configuration; only daily spin has them. -/
def fairnessRewardBands (gameKey : PyStr) (config : GameConfigVersion) :
    Except RulesError (List RewardBand) := do
  let game ← rulesFor gameKey
  if game.mode ≠ .fairness then .error .invalidRulesInput
  match ← validatedConfig schema config with
  | .dailySpin payload =>
      .ok (payload.rewards.map fun band => ⟨band.key, band.weight, band.value⟩)
  | _ => .error .invalidRulesInput

/-- Compare a durable outcome with replayed intent, or decline retry support. -/
def retryMatches (outcome : Outcome) (intent : PlayIntent) :
    GameKey → Option Bool
  | .predictionCard =>
      some (intent.actions.isNone ∧
        (outcome.result.get? (py "player_choice")).getD .null =
          Json.ofOption .str intent.choice)
  | _ => none

def predictionCardEvaluate (gameSession : GameSession)
    (config : GameConfigVersion) (intent : PlayIntent)
    (provider : OutcomeProvider) : Except RulesError Json := do
  match ← validatedConfig schema config with
  | .predictionCard payload =>
      match intent.choice with
      | none => .error .invalidRulesInput
      | some choice =>
          if choice ∉ payload.choices ∨ intent.actions.isSome then
            .error .invalidRulesInput
          else
            let key := GameKey.predictionCard.value
            let derived := provider.uniform gameSession.id key config.id key
              payload.choices.length
            match payload.choices[derived.value]? with
            | none => .error .indexError
            | some authoritativeChoice =>
                .ok (Json.object
                  [(py "player_choice", .str choice),
                    (py "authoritative_choice", .str authoritativeChoice),
                    (py "correct", .bool (choice = authoritativeChoice)),
                    (py "normalized_value", .int derived.value),
                    (py "derivation_digest", .str derived.digestHex)])
  | _ => .error .invalidRulesInput

/-- The length of the common prefix of the actions and the challenge. -/
def correctPrefix : List Int → List Json → Nat
  | submitted :: actions, expected :: challenge =>
      if expected = .int submitted then correctPrefix actions challenge + 1 else 0
  | _, _ => 0

/-- Whole milliseconds of a duration, computed in binary64 as the source does;
none below zero. -/
def elapsedMilliseconds (microseconds : Int) : Nat :=
  ((Binary64.ofQuotient microseconds.toNat 1000000).times 1000).trunc

def skillCheckEvaluate (gameSession : GameSession) (config : GameConfigVersion)
    (intent : PlayIntent) (now : Int) : Except RulesError Json := do
  match ← validatedConfig schema config with
  | .skillCheck payload =>
      match intent.actions, intent.choice,
          gameSession.challenge.get? (py "sequence") with
      | some actions, none, some (.arr challenge) =>
          if ¬actions.Nodup then .error .invalidRulesInput
          else if challenge = [] then .error .zeroDivision
          else
            let correct := correctPrefix actions challenge
            .ok (Json.object
              [(py "score", .int (payload.maxScore * correct / challenge.length)),
                (py "correct_actions", .int correct),
                (py "submitted_actions", .int actions.length),
                (py "elapsed_ms",
                  .int (elapsedMilliseconds (now - gameSession.createdAt)))])
      | _, _, _ => .error .invalidRulesInput
  | _ => .error .invalidRulesInput

/-- The direct evaluation of a play. -/
def evaluatePlay (gameSession : GameSession) (config : GameConfigVersion)
    (intent : PlayIntent) (provider : OutcomeProvider) (now : Int) :
    GameKey → Except RulesError Json
  | .predictionCard =>
      predictionCardEvaluate schema gameSession config intent provider
  | .skillCheck => skillCheckEvaluate schema gameSession config intent now
  | .dailySpin => .error .invalidRulesInput

end Rules

end RngGamePlatform
