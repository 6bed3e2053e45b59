/-
Module: RngGamePlatform.Proofs.Playability
Purpose: Which admitted configurations can be committed, played and submitted.
Trusted boundary: none
Main exports: Playable, RoundOutcome, PlaysThrough, ConfigurationFailure,
  playsThrough_iff, config_admission, config_admission_fails
-/
import RngGamePlatform.Proofs.ScoringTruth
import RngGamePlatform.Transactions.Confinement

namespace RngGamePlatform

open Encoding Relational Transactions

/-!
Three layers check a configuration: its schema, the reward-map protocol and the
constraints of the tables.  The schema admits more than the other two.
-/

section Configurations

/-- The largest score that `ck_final_scores_score` admits. -/
def maxFinalScore : Int := 1000000

/-- The protocol accepts the reward map, and no reward exceeds the largest
score. -/
def Playable : GameConfigPayload → Prop
  | .dailySpin config =>
      (config.rewards.map ConfiguredBand.key).Nodup ∧
        (∀ band ∈ config.rewards, (encodeUtf8 band.key).isSome) ∧
        totalWeight config.bands ≤ maxRewardWeight ∧
        ∀ band ∈ config.rewards, band.value ≤ maxFinalScore
  | .predictionCard config => config.correctReward ≤ maxFinalScore
  | .skillCheck config => config.maxScore ≤ maxFinalScore

instance (payload : GameConfigPayload) : Decidable (Playable payload) := by
  cases payload <;> unfold Playable <;> infer_instance

/-- The outcomes that the services evaluate under a configuration, with the
entitlements that they issue: every intent and every drawn value counts. -/
inductive RoundOutcome (schema : Schema) (config : GameConfigVersion) :
    GameKey → Outcome → Int → Prop where
  | played {rules : GameKey} {gameSession : GameSession} {intent : PlayIntent}
      {provider : OutcomeProvider} {now value : Int} {outcomeId : Uuid} {result : Json}
      (evaluated : evaluatePlay schema gameSession config intent provider now rules =
        .ok result)
      (entitled : definitionRewardValue schema config
        (playedOutcome gameSession outcomeId result) rules = .ok value) :
      RoundOutcome schema config rules (playedOutcome gameSession outcomeId result) value
  | revealed {gameSession : GameSession} {crypto : Crypto} {fuel : Nat} {seed : Bytes}
      {clientSeed : PyStr} {nonce : Int} {outcomeId : Uuid} {bands : List RewardBand}
      {derivation : DailySpinDerivation}
      (mapped : fairnessRewardBands schema dailySpinGameKey config = .ok bands)
      (derived : deriveDailySpin crypto fuel seed clientSeed nonce config.id
        gameSession.id bands dailySpinGameKey protocolVersionV1 algorithmHmacSha256
        dailySpinMappingVersionV1 = .ok (some derivation)) :
      RoundOutcome schema config .dailySpin
        (revealedOutcome gameSession outcomeId derivation) derivation.reward.value

/-- What an admitted configuration promises to its rounds. -/
structure PlaysThrough (schema : Schema) (config : GameConfigVersion) : Prop where
  /-- A commitment never fails on the reward map. -/
  commits : ∀ gameKey bands, fairnessRewardBands schema gameKey config = .ok bands →
    validateRewardBands bands = .ok () ∧
      ∀ crypto, ∃ digest, dailySpinMappingDigest crypto bands = .ok digest
  /-- Every reward fits its column. -/
  issues : ∀ game outcome value, RoundOutcome schema config game outcome value →
    0 ≤ value ∧ Database.fitsInteger value = true
  /-- Every score passes the checks of its table. -/
  scores : ∀ game outcome value score, RoundOutcome schema config game outcome value →
    leaderboardScore schema config outcome game = .ok score →
    0 ≤ score ∧ score ≤ maxFinalScore

variable {schema : Schema} {config : GameConfigVersion} {payload : GameConfigPayload}

/-- Every score fits an `INTEGER` column. -/
theorem fitsInteger_score {value : Int} (nonneg : 0 ≤ value)
    (small : value ≤ maxFinalScore) : Database.fitsInteger value = true := by
  simp only [maxFinalScore] at small
  simp only [Database.fitsInteger, decide_eq_true_eq]
  omega

/-- A scored configuration has passed its schema. -/
theorem validated_of_scored {outcome : Outcome} {rules : GameKey} {value : Int}
    (scored : leaderboardScore schema config outcome rules = .ok value) :
    ∃ payload, validatedConfig schema config = .ok payload := by
  cases validated : validatedConfig schema config with
  | ok payload => exact ⟨payload, rfl⟩
  | error error =>
      cases rules <;>
        simp [leaderboardScore, definitionRewardValue, dailySpinRewardValue,
          predictionCardRewardValue, skillCheckScore, validated, bind, Except.bind]
          at scored

/-- No band weighs more than the whole map. -/
theorem weight_le_totalWeight {bands : List RewardBand} {band : RewardBand}
    (weighted : ∀ band ∈ bands, 0 < band.weight) (member : band ∈ bands) :
    band.weight ≤ totalWeight bands := by
  apply List.single_le_sum
  · intro weight isWeight
    obtain ⟨other, inBands, rfl⟩ := List.mem_map.mp isWeight
    exact Int.le_of_lt (weighted other inBands)
  · exact List.mem_map_of_mem member

/-- The map of a playable daily spin is valid. -/
theorem Playable.validBands {spin : DailySpinConfig}
    (playable : Playable (.dailySpin spin)) : ValidBands spin.bands := by
  obtain ⟨keys, encodes, total, values⟩ := playable
  have positive : ∀ band ∈ spin.bands, 0 < band.weight := by
    intro band member
    obtain ⟨configured, _, rfl⟩ := List.mem_map.mp member
    exact configured.weight_positive
  constructor
  case nonempty =>
    have two := spin.min_length
    intro isEmpty
    rw [DailySpinConfig.bands, List.map_eq_nil_iff] at isEmpty
    rw [isEmpty] at two
    simp at two
  case each =>
    intro band member
    have below := weight_le_totalWeight positive member
    obtain ⟨configured, inRewards, rfl⟩ := List.mem_map.mp member
    have small := values configured inRewards
    constructor
    case named =>
      intro isEmpty
      have long := configured.key_length.1
      have isEmpty' : configured.key = [] := isEmpty
      rw [isEmpty'] at long
      simp at long
    case encodes => exact encodes configured inRewards
    case weighted => exact ⟨configured.weight_positive, Int.le_trans below total⟩
    case valued =>
      refine ⟨configured.value_nonneg, Int.le_trans small ?_⟩
      decide
  case keys =>
    rw [DailySpinConfig.bands, List.map_map]
    exact keys
  case total => exact total

/-- Every reward that a playable configuration derives is a score. -/
theorem Playable.reward {outcome : Outcome} {rules : GameKey} {value : Int}
    (validated : validatedConfig schema config = .ok payload)
    (playable : Playable payload)
    (derived : definitionRewardValue schema config outcome rules = .ok value) :
    0 ≤ value ∧ value ≤ maxFinalScore := by
  cases rules with
  | dailySpin =>
      simp only [definitionRewardValue, dailySpinRewardValue, validated] at derived
      cases payload with
      | dailySpin spin =>
          simp only [bind, Except.bind] at derived
          split at derived
          · next band found =>
              cases derived
              have member := List.mem_of_find?_eq_some found
              exact ⟨band.value_nonneg, playable.2.2.2 band member⟩
          · cases derived
      | predictionCard card => cases derived
      | skillCheck skill => cases derived
  | predictionCard =>
      simp only [definitionRewardValue, predictionCardRewardValue, validated] at derived
      cases payload with
      | dailySpin spin => cases derived
      | predictionCard card =>
          simp only [bind, Except.bind] at derived
          split at derived
          · cases derived
            exact ⟨card.reward_nonneg, playable⟩
          · cases derived
            exact ⟨Int.le_refl 0, by decide⟩
      | skillCheck skill => cases derived
  | skillCheck =>
      simp only [definitionRewardValue, skillCheckScore, validated] at derived
      cases payload with
      | dailySpin spin => cases derived
      | predictionCard card => cases derived
      | skillCheck skill =>
          simp only [bind, Except.bind] at derived
          split at derived
          · split at derived
            · next score _ inside =>
                cases derived
                exact ⟨inside.1, Int.le_trans inside.2 playable⟩
            · cases derived
          · cases derived

/-- A playable configuration keeps its promises. -/
theorem Playable.playsThrough (validated : validatedConfig schema config = .ok payload)
    (playable : Playable payload) : PlaysThrough schema config := by
  have mapped : ∀ {gameKey bands}, fairnessRewardBands schema gameKey config = .ok bands →
      ValidBands bands ∧ ∀ band ∈ bands, 0 ≤ band.value ∧ band.value ≤ maxFinalScore := by
    intro gameKey bands isMap
    obtain ⟨spin, validated', rfl⟩ := fairnessRewardBands_eq_ok isMap
    cases validated.symm.trans validated'
    refine ⟨playable.validBands, fun band member => ?_⟩
    obtain ⟨configured, inRewards, rfl⟩ := List.mem_map.mp member
    exact ⟨configured.value_nonneg, playable.2.2.2 configured inRewards⟩
  constructor
  case commits =>
    intro gameKey bands isMap
    have accepted := validateRewardBands_iff.mpr (mapped isMap).1
    refine ⟨accepted, fun crypto => ?_⟩
    simp [dailySpinMappingDigest, dailySpinMappingBytes, accepted, bind, Except.bind,
      pure, Except.pure]
  case issues =>
    intro game outcome value round
    have bounds : 0 ≤ value ∧ value ≤ maxFinalScore := by
      cases round with
      | played evaluated entitled => exact playable.reward validated entitled
      | revealed isMap derived =>
          obtain ⟨valid, values⟩ := mapped isMap
          obtain ⟨_, _, _, _, _, drawn⟩ :=
            (valid.fairSpin.drawn _ _ _ _ _ _ _ _ _ _ _ _).mp derived
          exact values _ (selectDailySpinReward_mem valid drawn.selected)
    exact ⟨bounds.1, fitsInteger_score bounds.1 bounds.2⟩
  case scores =>
    intro game outcome value score round scored
    exact playable.reward validated scored

/-! Conversely, some round of every other configuration fails. -/

theorem rewardBands_dailySpin {spin : DailySpinConfig}
    (validated : validatedConfig schema config = .ok (.dailySpin spin)) :
    fairnessRewardBands schema dailySpinGameKey config = .ok spin.bands := by
  have isGame : rulesFor dailySpinGameKey = .ok .dailySpin := rfl
  simp only [fairnessRewardBands, isGame, validated]
  rfl

/-- Some digest makes a seed select the band at a given position. -/
theorem ValidBands.derived {bands : List RewardBand} (valid : ValidBands bands)
    (index : Fin bands.length) (configVersionId sessionId : Uuid) :
    ∃ crypto seed clientSeed derivation,
      deriveDailySpin crypto 1 seed clientSeed 0 configVersionId sessionId bands
        dailySpinGameKey protocolVersionV1 algorithmHmacSha256
        dailySpinMappingVersionV1 = .ok (some derivation) ∧
      derivation.reward = bands.get index := by
  have weighted : ∀ band ∈ bands, 0 < band.weight :=
    fun band member => (valid.each band member).weighted.1
  obtain ⟨total, isTotal, _, small, _⟩ := valid.limit
  obtain ⟨raw, isRaw⟩ := Int.eq_ofNat_of_zero_le (weightBefore_nonneg weighted index)
  have inside : InBand bands index raw := by
    have positive := weighted (bands.get index) (List.get_mem _ _)
    have next : weightBefore bands (index + 1) =
        weightBefore bands index + (bands.get index).weight := by
      simp only [weightBefore, totalWeight, List.take_succ_eq_append_getElem index.isLt,
        List.map_append, List.sum_append]
      simp
    rw [InBand, next, isRaw]
    omega
  have selected := valid.select index.isLt inside
  have below : (raw : Int) < totalWeight bands := by
    by_contra outside
    have refused := valid.select_error.mpr fun inRange => outside inRange.2
    rw [selected] at refused
    cases refused
  rw [isTotal] at below
  obtain ⟨bytes, isLength, isBytes⟩ :=
    exists_bigEndian 32 (show raw < 256 ^ 32 by omega)
  let digest : Digest := ⟨bytes, isLength⟩
  let crypto : Crypto := ⟨fun _ => digest, fun _ _ => digest⟩
  have accepted := validateRewardBands_iff.mpr valid
  have accepts : (raw : Int) < spinLimit bands := by
    have large := valid.fairSpin.large
    omega
  have residue : (raw : Int) % totalWeight bands = raw := by
    rw [isTotal]
    exact Int.emod_eq_of_lt (by omega) below
  have isDigest : attemptDigest crypto (List.replicate 32 0) (py "seed") 0 configVersionId
      sessionId dailySpinGameKey digest.hex 0 = .ok digest := by
    have seeded : validateClientSeed (py "seed") = .ok (encodeAscii (py "seed")) := rfl
    have counted : validateNonce 0 = .ok () := rfl
    simp only [attemptDigest, dailySpinDerivationMessage, seeded, counted,
      validateDigest_hex]
    rfl
  have hashed : dailySpinMappingDigest crypto bands = .ok digest.hex := by
    simp only [dailySpinMappingDigest, dailySpinMappingBytes, accepted]
    rfl
  refine ⟨crypto, List.replicate 32 0, py "seed",
    ⟨digest.hex, digest.hex, raw, raw, 0, bands.get index⟩, ?_, rfl⟩
  refine (valid.fairSpin.drawn _ _ _ _ _ _ _ _ _ _ _ _).mpr
    ⟨by decide, by simp [validateSupportedV1], rfl, hashed, Nat.zero_lt_one, ?_⟩
  constructor
  case digest => exact ⟨digest, isDigest, rfl, isBytes.symm⟩
  case accepted => exact accepts
  case rejected => exact fun _ _ earlier => absurd earlier (Nat.not_lt_zero _)
  case normalized => exact residue.symm
  case selected => exact selected

/-- A session of no particular player. -/
def someSession (challenge : Json) : GameSession where
  id := 0
  createdAt := 0
  playerId := 0
  gameId := 0
  configVersionId := 0
  requestId := 0
  requestFingerprint := []
  status := .active
  expiresAt := 0
  endedAt := none
  challenge := challenge

/-- A prediction of the drawn choice wins the whole reward. -/
theorem correct_round {card : PredictionCardConfig}
    (validated : validatedConfig schema config = .ok (.predictionCard card)) :
    ∃ outcome, RoundOutcome schema config .predictionCard outcome card.correctReward ∧
      leaderboardScore schema config outcome .predictionCard = .ok card.correctReward := by
  obtain ⟨choice, rest, isChoices⟩ : ∃ choice rest, card.choices = choice :: rest := by
    have two := card.choices_length.1
    cases isChoices : card.choices with
    | nil => simp [isChoices] at two
    | cons choice rest => exact ⟨choice, rest, rfl⟩
  let provider : OutcomeProvider := ⟨fun _ _ _ _ _ => ⟨0, []⟩⟩
  let result := Json.object
    [(py "player_choice", .str choice), (py "authoritative_choice", .str choice),
      (py "correct", .bool true), (py "normalized_value", .int 0),
      (py "derivation_digest", .str [])]
  have evaluated : evaluatePlay schema (someSession .null) config ⟨some choice, none⟩
      provider 0 .predictionCard = .ok result := by
    simp only [evaluatePlay, predictionCardEvaluate, validated, bind, Except.bind]
    simp [isChoices, provider, result]
  have isCorrect : (playedOutcome (someSession .null) 0 result).result.get?
      (py "correct") = some (.bool true) := by
    simp only [playedOutcome, result, Json.get?_object]
    rfl
  have scored : leaderboardScore schema config
      (playedOutcome (someSession .null) 0 result) .predictionCard =
        .ok card.correctReward := by
    simp only [leaderboardScore, definitionRewardValue, predictionCardRewardValue,
      validated, bind, Except.bind, isCorrect, if_pos]
  exact ⟨_, .played evaluated scored, scored⟩

/-- Actions that complete the challenge win the whole score. -/
theorem complete_round {skill : SkillCheckConfig}
    (validated : validatedConfig schema config = .ok (.skillCheck skill)) :
    ∃ outcome, RoundOutcome schema config .skillCheck outcome skill.maxScore ∧
      leaderboardScore schema config outcome .skillCheck = .ok skill.maxScore := by
  let gameSession := someSession (createChallenge [0, 1, 2, 3, 4] .skillCheck)
  have isChallenge : gameSession.challenge.get? (py "sequence") =
      some (.arr [.int 0, .int 1, .int 2, .int 3, .int 4]) := by
    simp only [gameSession, someSession, createChallenge, Json.get?_object]
    rfl
  obtain ⟨result, evaluated⟩ : ∃ result, skillCheckEvaluate schema gameSession config
      ⟨none, some [0, 1, 2, 3, 4]⟩ 0 = .ok result := by
    have distinct : ([0, 1, 2, 3, 4] : List Int).Nodup := by decide
    simp only [skillCheckEvaluate, validated, bind, Except.bind, isChallenge,
      if_neg (not_not_intro distinct), if_neg (List.cons_ne_nil _ _)]
    exact ⟨_, rfl⟩
  obtain ⟨skill', actions, challenge, value, validated', isActions, isChallenge', score,
    scored⟩ := skillCheck_scores evaluated 0
  cases validated.symm.trans validated'
  cases isActions
  cases isChallenge.symm.trans isChallenge'
  have whole : value = skill.maxScore := score.complete.mpr (by simp)
  rw [whole] at scored
  have played : evaluatePlay schema gameSession config ⟨none, some [0, 1, 2, 3, 4]⟩
      ⟨fun _ _ _ _ _ => ⟨0, []⟩⟩ 0 .skillCheck = .ok result := evaluated
  exact ⟨_, .played played scored, scored⟩

/-- A configuration that keeps its promises is playable. -/
theorem PlaysThrough.playable (validated : validatedConfig schema config = .ok payload)
    (plays : PlaysThrough schema config) : Playable payload := by
  cases payload with
  | dailySpin spin =>
      have isMap := rewardBands_dailySpin validated
      have valid := validateRewardBands_iff.mp (plays.commits _ _ isMap).1
      have keys : (spin.rewards.map ConfiguredBand.key).Nodup := by
        have isNodup := valid.keys
        rwa [DailySpinConfig.bands, List.map_map] at isNodup
      refine ⟨keys, fun band member => ?_, valid.total, fun band member => ?_⟩
      · exact (valid.each _ (List.mem_map_of_mem member)).encodes
      · obtain ⟨position, bound, isBand⟩ := List.getElem_of_mem member
        have inBands : position < spin.bands.length := by
          simpa [DailySpinConfig.bands] using bound
        obtain ⟨crypto, seed, clientSeed, derivation, derived, isReward⟩ :=
          valid.derived ⟨position, inBands⟩ config.id (someSession .null).id
        have isReward' : derivation.reward = ⟨band.key, band.weight, band.value⟩ := by
          rw [isReward]
          simp [DailySpinConfig.bands, isBand]
        have round : RoundOutcome schema config .dailySpin
            (revealedOutcome (someSession .null) 0 derivation) derivation.reward.value :=
          .revealed isMap derived
        have scored : leaderboardScore schema config
            (revealedOutcome (someSession .null) 0 derivation) .dailySpin =
              .ok band.value := by
          have found := revealed_scores validated valid
            (isReward ▸ List.get_mem _ _) (someSession .null) 0
          rw [isReward'] at found
          exact found
        exact (plays.scores _ _ _ _ round scored).2
  | predictionCard card =>
      obtain ⟨outcome, round, scored⟩ := correct_round validated
      exact (plays.scores _ _ _ _ round scored).2
  | skillCheck skill =>
      obtain ⟨outcome, round, scored⟩ := complete_round validated
      exact (plays.scores _ _ _ _ round scored).2

/-- The admitted configurations that keep their promises are the playable ones. -/
theorem playsThrough_iff (validated : validatedConfig schema config = .ok payload) :
    PlaysThrough schema config ↔ Playable payload :=
  ⟨fun plays => plays.playable validated, fun playable => playable.playsThrough validated⟩

end Configurations

section Requests

/-- The failures that only a configuration can cause, once it is admitted. -/
inductive ConfigurationFailure : ServiceError → Prop where
  | rewardMap : ConfigurationFailure (.fairness .invalidRewardMapping)
  | rewardRange : ConfigurationFailure (.integrity .integerOutOfRange)
  | rewardSign : ConfigurationFailure (.integrity .ckRewardValue)
  | scoreRange : ConfigurationFailure (.integrity .ckFinalScoresScore)

/-- A change that leaves the configurations alone and fails for other reasons. -/
structure Unrelated (change : Database → Except ServiceError Database) : Prop where
  configs : ∀ db db', change db = .ok db' → db'.configs = db.configs
  errors : ∀ db error, change db = .error error → ¬ConfigurationFailure error

namespace Unrelated

variable {change next : Database → Except ServiceError Database}

/-- A checked change that names none of the constraints of rewards and scores. -/
theorem checked {checks : Database → List (Constraint × Bool)}
    {changed : Database → Database}
    (configs : ∀ db, (changed db).configs = db.configs)
    (passes : ∀ db check, check ∈ checks db →
      ConfigurationFailure (.integrity check.1) → check.2 = true) :
    Unrelated fun db => Database.checked (checks db) (changed db) where
  configs := fun db db' written => by
    obtain ⟨_, rfl⟩ := Database.checked_eq_ok.mp written
    exact configs db
  errors := fun db error fails failure => by
    obtain ⟨violated, member, rfl⟩ := Database.checked_eq_error fails
    cases passes db _ member failure

theorem bind (first : Unrelated change) (second : Unrelated next) :
    Unrelated fun db => change db >>= next where
  configs := fun db db' written => by
    obtain ⟨middle, changed, written⟩ := bind_eq_ok.mp written
    exact (second.configs _ _ written).trans (first.configs _ _ changed)
  errors := fun db error fails => by
    rcases bind_eq_error.mp fails with violated | ⟨middle, _, violated⟩
    · exact first.errors _ _ violated
    · exact second.errors _ _ violated

theorem insertSession (row : GameSession) : Unrelated (Database.insertSession row) :=
  checked (fun _ => rfl) fun db check member failure => by
    simp only [List.mem_cons, List.not_mem_nil, or_false] at member
    rcases member with rfl | rfl | rfl | rfl | rfl <;> cases failure

theorem updateSession (row : GameSession) : Unrelated (Database.updateSession row) :=
  checked (fun _ => rfl) fun db check member failure => by
    simp only [List.mem_cons, List.not_mem_nil, or_false] at member
    rcases member with rfl | rfl <;> cases failure

theorem insertProof (row : FairnessProof) : Unrelated (Database.insertProof row) :=
  checked (fun _ => rfl) fun db check member failure => by
    simp only [Database.proofChecks, List.mem_cons, List.not_mem_nil, or_false] at member
    rcases member with rfl | rfl | rfl | rfl | rfl <;> cases failure

theorem updateProof (row : FairnessProof) : Unrelated (Database.updateProof row) :=
  checked (fun _ => rfl) fun db check member failure => by
    simp only [Database.proofChecks, List.mem_cons, List.not_mem_nil, or_false] at member
    rcases member with rfl | rfl | rfl | rfl | rfl <;> cases failure

theorem insertCustody (row : FairnessSeedCustody) :
    Unrelated (Database.insertCustody row) :=
  checked (fun _ => rfl) fun db check member failure => by
    simp only [List.mem_cons, List.not_mem_nil, or_false] at member
    rcases member with rfl | rfl <;> cases failure

theorem insertEvent (row : FairnessProofEvent) : Unrelated (Database.insertEvent row) :=
  checked (fun _ => rfl) fun db check member failure => by
    simp only [List.mem_cons, List.not_mem_nil, or_false] at member
    rcases member with rfl | rfl <;> cases failure

theorem insertOutcome (row : Outcome) : Unrelated (Database.insertOutcome row) :=
  checked (fun _ => rfl) fun db check member failure => by
    simp only [List.mem_cons, List.not_mem_nil, or_false] at member
    rcases member with rfl | rfl <;> cases failure

/-- A reward that fits its column. -/
theorem insertReward {row : Reward} (nonneg : 0 ≤ row.value)
    (fits : Database.fitsInteger row.value = true) :
    Unrelated (Database.insertReward row) :=
  checked (fun _ => rfl) fun db check member failure => by
    simp only [List.mem_cons, List.not_mem_nil, or_false] at member
    rcases member with rfl | rfl | rfl | rfl | rfl
    · exact fits
    · cases failure
    · cases failure
    · cases failure
    · exact decide_eq_true nonneg

theorem updateReward (row : Reward) : Unrelated (Database.updateReward row) where
  configs := fun db db' written => by
    cases written
    rfl
  errors := fun db error fails => by
    cases fails

/-- A score that passes the check of its table. -/
theorem insertScore {row : FinalScore}
    (bounds : 0 ≤ row.finalScore ∧ row.finalScore ≤ maxFinalScore) :
    Unrelated (Database.insertScore row) :=
  checked (fun _ => rfl) fun db check member failure => by
    simp only [List.mem_cons, List.not_mem_nil, or_false] at member
    rcases member with rfl | rfl | rfl
    · cases failure
    · cases failure
    · exact decide_eq_true bounds

theorem insertAnalytics (row : AnalyticsEvent) :
    Unrelated (Database.insertAnalytics row) :=
  checked (fun _ => rfl) fun db check member failure => by
    simp only [List.mem_cons, List.not_mem_nil, or_false] at member
    rcases member with rfl
    cases failure

theorem insertEvidence (audits : List AuditRecord) (events : List AnalyticsEvent) :
    Unrelated (RngGamePlatform.insertEvidence audits events) := by
  have all : ∀ events : List AnalyticsEvent, Unrelated fun db =>
      events.foldlM (fun state event => Database.insertAnalytics event state) db := by
    intro events
    induction events with
    | nil =>
        constructor
        · intro db db' written
          cases written
          rfl
        · intro db error fails
          cases fails
    | cons event events ih =>
        simp only [List.foldlM_cons]
        exact (insertAnalytics event).bind ih
  have kept : ∀ (audits : List AuditRecord) (db : Database),
      (audits.foldl (fun state audit => Database.insertAudit audit state) db).configs =
        db.configs := by
    intro audits
    induction audits with
    | nil => exact fun _ => rfl
    | cons audit audits ih => exact fun db => ih (Database.insertAudit audit db)
  constructor
  · intro db db' written
    exact ((all events).configs _ _ written).trans (kept audits db)
  · intro db error fails
    exact (all events).errors _ _ fails

theorem flushTermination (gameSession : GameSession) (proof : FairnessProof)
    (event : FairnessProofEvent) :
    Unrelated (RngGamePlatform.flushTermination gameSession proof event) := by
  refine (updateSession gameSession).bind ((updateProof proof).bind ?_)
  constructor
  · intro db db' written
    exact (insertEvent event).configs (Database.deleteCustody proof.id db) _ written
  · intro db error fails
    exact (insertEvent event).errors _ _ fails

theorem flushReveal (proof : FairnessProof) (event : FairnessProofEvent) :
    Unrelated (RngGamePlatform.flushReveal proof event) :=
  (updateProof proof).bind (insertEvent event)

theorem flushCompletion (gameSession : GameSession) (outcome : Outcome)
    (reward : Reward) (playerId : Uuid) (gameKey : PyStr) :
    Unrelated (RngGamePlatform.flushCompletion gameSession outcome reward playerId
      gameKey) :=
  (updateSession gameSession).bind (insertEvidence _ _)

theorem flushClaim (reward : Reward) (gameKey : PyStr) :
    Unrelated (RngGamePlatform.flushClaim reward gameKey) :=
  (updateReward reward).bind (insertEvidence _ _)

end Unrelated

variable {env : Platform} {configs : List GameConfigVersion}

/-- Every admitted configuration is playable. -/
def AllPlayable (env : Platform) (configs : List GameConfigVersion) : Prop :=
  ∀ config ∈ configs, ∀ payload, validatedConfig env.schema config = .ok payload →
    Playable payload

/-- A program over fixed configurations that never meets a configuration failure. -/
def Calm {α : Type} (configs : List GameConfigVersion) (program : Prog α)
    (returns : α → Prop) : Prop :=
  program.Confined (fun db => db.configs = configs)
    (fun error => ¬ConfigurationFailure error) returns

/-- No failure of the rules is a configuration failure. -/
theorem report_unrelated {translated : ServiceError} (error : RulesError)
    (unrelated : ¬ConfigurationFailure translated) :
    ¬ConfigurationFailure (error.report translated) := by
  cases error with
  | invalidRulesInput => exact unrelated
  | validation => nofun
  | zeroDivision => nofun
  | indexError => nofun

namespace Calm

variable {α β : Type} {returns : β → Prop}

theorem bind {program : Prog α} {f : α → Prog β} {middle : α → Prop}
    (first : Calm configs program middle)
    (rest : ∀ value, middle value → Calm configs (f value) returns) :
    Calm configs (program >>= f) returns := by
  apply confined_bind.mpr
  exact first.weaken rest

/-- A program whose result does not matter, and what follows it. -/
theorem andThen {program : Prog α} {f : α → Prog β}
    (first : Calm configs program fun _ => True)
    (rest : ∀ value, Calm configs (f value) returns) :
    Calm configs (program >>= f) returns :=
  first.bind fun value _ => rest value

theorem raise {error : ServiceError} (unrelated : ¬ConfigurationFailure error) :
    Calm configs (RngGamePlatform.raise error) returns := unrelated

theorem query {locks : Database → List Lock} {answer : Database → α} {f : α → Prog β}
    (rest : ∀ db, db.configs = configs → Calm configs (f (answer db)) returns) :
    Calm configs (Program.query locks answer >>= f) returns := rest

theorem clock {f : Int → Prog β} (rest : ∀ now, Calm configs (f now) returns) :
    Calm configs (RngGamePlatform.clock >>= f) returns := rest

theorem commitWork {f : Unit → Prog β} (rest : Calm configs (f ()) returns) :
    Calm configs (RngGamePlatform.commitWork >>= f) returns := rest

theorem orRaise {error : ServiceError} {found : Option α} {f : α → Prog β}
    (unrelated : ¬ConfigurationFailure error)
    (rest : ∀ value, found = some value → Calm configs (f value) returns) :
    Calm configs (RngGamePlatform.orRaise error found >>= f) returns := by
  cases found with
  | none => exact unrelated
  | some value => exact rest value rfl

theorem require {error : ServiceError} {condition : Prop} [Decidable condition]
    {f : Unit → Prog β} (unrelated : ¬ConfigurationFailure error)
    (rest : condition → Calm configs (f ()) returns) :
    Calm configs (RngGamePlatform.require error condition >>= f) returns := by
  unfold RngGamePlatform.require Program.require
  split
  · next holds => exact rest holds
  · exact unrelated

/-- A condition at the end of a program. -/
theorem check {error : ServiceError} {condition : Prop} [Decidable condition]
    (unrelated : ¬ConfigurationFailure error) :
    Calm configs (RngGamePlatform.require error condition) fun _ => True := by
  unfold RngGamePlatform.require Program.require
  split
  · trivial
  · exact unrelated

theorem ofExcept {result : Except ServiceError α} {f : α → Prog β}
    (unrelated : ∀ error, result = .error error → ¬ConfigurationFailure error)
    (rest : ∀ value, result = .ok value → Calm configs (f value) returns) :
    Calm configs (Program.ofExcept result >>= f) returns := by
  cases result with
  | error error => exact unrelated error rfl
  | ok value => exact rest value rfl

theorem byRules {translated : ServiceError} {result : Except RulesError α}
    {f : α → Prog β} (unrelated : ¬ConfigurationFailure translated)
    (rest : ∀ value, result = .ok value → Calm configs (f value) returns) :
    Calm configs (RngGamePlatform.byRules translated result >>= f) returns := by
  cases result with
  | error error => exact report_unrelated error unrelated
  | ok value => exact rest value rfl

theorem update {locks : Database → List Lock}
    {change : Database → Except ServiceError Database} {f : Unit → Prog β}
    (unrelated : Unrelated change) (rest : Calm configs (f ()) returns) :
    Calm configs (Program.update locks change >>= f) returns :=
  ⟨fun _ _ error fails => unrelated.errors _ error fails,
    fun _ _ same written => (unrelated.configs _ _ written).trans same, rest⟩

/-- A changing statement at the end of a program. -/
theorem change {locks : Database → List Lock}
    {change : Database → Except ServiceError Database} (unrelated : Unrelated change) :
    Calm configs (Program.update locks change) fun _ => True :=
  update (f := fun _ => .ret ()) unrelated trivial

end Calm

/-! ### The requests -/

theorem endCommittedFairnessProof_calm (crypto : Crypto) (gameSession : GameSession)
    (proof : FairnessProof) (status : FairnessProofStatus) (now : Int) :
    Calm configs
      (endCommittedFairnessProof crypto gameSession proof status now) fun _ => True := by
  unfold endCommittedFairnessProof
  split
  · trivial
  split
  · exact Calm.raise nofun
  refine Calm.query fun db _ => ?_
  refine Calm.orRaise nofun fun previous _ => ?_
  refine Calm.query fun db _ => ?_
  refine Calm.update (.flushTermination _ _ _) ?_
  trivial

theorem saveSession_calm (gameSession : GameSession) :
    Calm configs (saveSession gameSession) fun _ => True :=
  Calm.change (.updateSession gameSession)

theorem saveIfChanged_calm (changed : Bool) (gameSession : GameSession) :
    Calm configs (saveIfChanged changed gameSession) fun _ => True := by
  unfold saveIfChanged
  split
  · exact saveSession_calm gameSession
  · trivial

theorem finalizeExpiredSession_calm (crypto : Crypto) (gameSession : GameSession)
    (now : Int) (lockedProof : Option FairnessProof) :
    Calm configs (finalizeExpiredSession crypto gameSession now lockedProof)
      fun _ => True := by
  unfold finalizeExpiredSession
  simp only
  split
  · trivial
  have proofless : Calm configs
      (do
        saveIfChanged (expireIfDue gameSession now).1 (expireIfDue gameSession now).2
        return expireIfDue gameSession now : Prog (Bool × GameSession)) fun _ => True :=
    Calm.andThen (saveIfChanged_calm _ _) fun _ => trivial
  have ending : ∀ proof : FairnessProof, Calm configs
      (do
        let proofChanged ← endCommittedFairnessProof crypto
          (expireIfDue gameSession now).2 proof .expired now
        if proofChanged then return (true, (expireIfDue gameSession now).2)
        else do
          saveIfChanged (expireIfDue gameSession now).1
            (expireIfDue gameSession now).2
          return expireIfDue gameSession now : Prog (Bool × GameSession))
      fun _ => True := by
    intro proof
    refine Calm.andThen (endCommittedFairnessProof_calm _ _ _ _ _) fun changed => ?_
    split
    · trivial
    · exact proofless
  have locked : Calm configs
      (lockedProofOr lockedProof (expireIfDue gameSession now).2.id) fun _ => True := by
    cases lockedProof with
    | none => exact fun _ _ => trivial
    | some proof => trivial
  refine Calm.andThen locked fun proof => ?_
  cases proof with
  | none => exact proofless
  | some proof => exact ending proof

theorem finalizeExpiredSessions_calm (sessions : List GameSession) (now : Int) :
    Calm configs (finalizeExpiredSessions env sessions now) fun _ => True := by
  induction sessions with
  | nil => trivial
  | cons gameSession sessions ih =>
      exact Calm.andThen (finalizeExpiredSession_calm _ _ _ _) fun _ => ih

/-- The payload of the configuration of a session. -/
theorem loadedPayload_calm (configVersionId : Uuid) :
    Calm configs (loadedPayload env configVersionId) fun _ => True := by
  refine Calm.query fun db _ => ?_
  refine Calm.orRaise nofun fun config _ => ?_
  cases validatedConfig env.schema config with
  | error error => exact report_unrelated error nofun
  | ok payload => trivial

theorem checkLatest_calm (latest : Option GameSession) (now : Int) :
    Calm configs (checkLatest env latest now) fun _ => True := by
  cases latest with
  | none => trivial
  | some latest =>
      refine Calm.require nofun fun _ => ?_
      refine Calm.andThen (loadedPayload_calm _) fun payload => ?_
      exact Calm.check nofun

theorem createSession_calm (requestId playerId ownerId : Uuid) (gameKey : PyStr)
    (draw : SessionDraw) :
    Calm configs (createSession env requestId playerId ownerId gameKey draw)
      fun _ => True := by
  refine Calm.require nofun fun _ => ?_
  refine Calm.clock fun startedAt => ?_
  refine Calm.query fun db _ => ?_
  refine Calm.query fun db _ => ?_
  refine Calm.orRaise nofun fun player _ => ?_
  refine Calm.query fun db _ => ?_
  split
  · refine Calm.require nofun fun _ => ?_
    exact Calm.commitWork trivial
  · refine Calm.require nofun fun _ => ?_
    refine Calm.query fun db _ => ?_
    refine Calm.orRaise nofun fun game _ => ?_
    refine Calm.require nofun fun _ => ?_
    refine Calm.query fun db _ => ?_
    refine Calm.orRaise nofun fun config _ => ?_
    refine Calm.clock fun now => ?_
    refine Calm.query fun db _ => ?_
    refine Calm.andThen (finalizeExpiredSessions_calm _ _) fun _ => ?_
    refine Calm.query fun db _ => ?_
    refine Calm.andThen (checkLatest_calm _ _) fun _ => ?_
    refine Calm.byRules nofun fun payload _ => ?_
    refine Calm.byRules nofun fun rules _ => ?_
    refine Calm.update (.insertSession _) ?_
    refine Calm.update (.insertEvidence _ _) ?_
    exact Calm.commitWork trivial

/-- Locking a session of the caller. -/
theorem lockOwnedSession_calm (sessionId ownerId : Uuid) :
    Calm configs (lockOwnedSession sessionId ownerId) fun _ => True := by
  refine Calm.query fun db _ => ?_
  refine Calm.orRaise nofun fun gameSession _ => ?_
  exact Calm.require nofun fun _ => trivial

theorem retrieveSession_calm (sessionId ownerId : Uuid) :
    Calm configs (retrieveSession env sessionId ownerId) fun _ => True := by
  refine Calm.andThen (lockOwnedSession_calm _ _) fun gameSession => ?_
  refine Calm.clock fun now => ?_
  refine Calm.andThen (finalizeExpiredSession_calm _ _ _ _) fun finalized => ?_
  split
  · exact Calm.commitWork trivial
  · trivial

theorem readState_calm (playerId : Uuid) (game : Game) (now : Int) :
    Calm configs (readState env playerId game now) fun _ => True := by
  refine Calm.query fun db _ => ?_
  have cooling : Calm configs (nextPlayAt env (latestSessionRow playerId game.id db) now)
      fun _ => True := by
    cases latestSessionRow playerId game.id db with
    | none => trivial
    | some latest => exact Calm.andThen (loadedPayload_calm _) fun _ => trivial
  refine Calm.andThen cooling fun nextPlay => ?_
  split
  · trivial
  · refine Calm.query fun db _ => ?_
    refine Calm.query fun db _ => ?_
    refine Calm.query fun db _ => ?_
    exact Calm.query fun db _ => trivial

theorem retrievePlayerGameState_calm (playerId ownerId : Uuid) (gameKey : PyStr) :
    Calm configs (retrievePlayerGameState env playerId ownerId gameKey)
      fun _ => True := by
  refine Calm.require nofun fun _ => ?_
  refine Calm.query fun db _ => ?_
  refine Calm.orRaise nofun fun player _ => ?_
  refine Calm.query fun db _ => ?_
  refine Calm.orRaise nofun fun game _ => ?_
  refine Calm.query fun db _ => ?_
  refine Calm.orRaise nofun fun config _ => ?_
  refine Calm.clock fun now => ?_
  refine Calm.query fun db _ => ?_
  refine Calm.andThen (finalizeExpiredSessions_calm _ _) fun _ => ?_
  refine Calm.andThen (readState_calm _ _ _) fun state => ?_
  split
  · trivial
  · exact Calm.commitWork trivial

theorem cancelSession_calm (sessionId ownerId : Uuid) :
    Calm configs (cancelSession env sessionId ownerId) fun _ => True := by
  refine Calm.andThen (lockOwnedSession_calm _ _) fun gameSession => ?_
  refine Calm.clock fun now => ?_
  refine Calm.andThen (finalizeExpiredSession_calm _ _ _ _) fun finalized => ?_
  split
  · exact Calm.commitWork trivial
  refine Calm.ofExcept (fun error fails => ?_) fun cancelled _ => ?_
  · unfold cancelActive at fails
    split at fails
    · cases fails
      nofun
    · cases fails
  refine Calm.query fun db _ => ?_
  refine Calm.andThen ?_ fun _ => Calm.commitWork trivial
  cases proofBySession cancelled.id db with
  | none => exact saveSession_calm _
  | some proof =>
      refine Calm.andThen (endCommittedFairnessProof_calm _ _ _ _ _) fun changed => ?_
      split
      · trivial
      · exact saveSession_calm _

/-- The configuration of a session is one of the catalogue. -/
theorem gameAndConfig_calm {error : ServiceError} (gameId configVersionId : Uuid)
    (unrelated : ¬ConfigurationFailure error) :
    Calm configs (gameAndConfig error gameId configVersionId)
      fun loaded => loaded.2 ∈ configs := by
  refine Calm.query fun db _ => ?_
  refine Calm.query fun db same => ?_
  refine Calm.orRaise unrelated fun game _ => ?_
  refine Calm.orRaise unrelated fun config found => ?_
  refine Calm.require unrelated fun _ => ?_
  exact same ▸ lookup_mem found

/-- The map of a playable configuration. -/
theorem fairnessBands_playable {config : GameConfigVersion} {gameKey : PyStr}
    {bands : List RewardBand} (playable : AllPlayable env configs)
    (member : config ∈ configs) (mapped : fairnessBands env gameKey config = .ok bands) :
    PlaysThrough env.schema config ∧ ∃ spin,
      validatedConfig env.schema config = .ok (.dailySpin spin) ∧ bands = spin.bands ∧
        Playable (.dailySpin spin) := by
  obtain ⟨spin, validated, isBands⟩ := fairnessRewardBands_eq_ok mapped
  have isPlayable := playable config member _ validated
  exact ⟨isPlayable.playsThrough validated, spin, validated, isBands, isPlayable⟩

theorem commitFairness_calm (playable : AllPlayable env configs)
    (sessionId ownerId : Uuid) (draw : CommitDraw) :
    Calm configs (commitFairness env sessionId ownerId draw) fun _ => True := by
  refine Calm.query fun db _ => ?_
  refine Calm.orRaise nofun fun gameSession _ => ?_
  refine Calm.require nofun fun _ => ?_
  refine Calm.clock fun now => ?_
  refine Calm.andThen (finalizeExpiredSession_calm _ _ _ _) fun finalized => ?_
  split
  · exact Calm.commitWork (Calm.raise nofun)
  refine Calm.require nofun fun _ => ?_
  refine Calm.bind (gameAndConfig_calm _ _ nofun) fun loaded inCatalogue => ?_
  refine Calm.query fun db _ => ?_
  split
  · exact Calm.commitWork trivial
  refine Calm.byRules nofun fun bands mapped => ?_
  obtain ⟨plays, _⟩ := fairnessBands_playable playable inCatalogue mapped
  obtain ⟨digest, hashed⟩ := (plays.commits _ _ mapped).2 env.crypto
  have committed : serverSeedCommitment env.crypto draw.seed.val =
      .ok (env.crypto.sha256 draw.seed.val).hex := by
    have whole : draw.seed.val.length = 32 := draw.seed.property
    simp [serverSeedCommitment, validateServerSeed, whole, bind, Except.bind, pure,
      Except.pure, serverSeedBytes]
  rw [committed, hashed]
  refine Calm.update (.insertProof _) ?_
  refine Calm.update (.insertCustody _) ?_
  refine Calm.update (.insertEvent _) ?_
  exact Calm.commitWork trivial

/-- A derivation from the map of a playable configuration selects a score. -/
theorem evaluationOf_playable {config : GameConfigVersion} {gameKey clientSeed : PyStr}
    {bands : List RewardBand} {proof : FairnessProof} {seed : Bytes} {fuel : Nat}
    {derivation : DailySpinDerivation} (playable : AllPlayable env configs)
    (member : config ∈ configs) (mapped : fairnessBands env gameKey config = .ok bands)
    (derived : evaluationOf env proof seed bands clientSeed fuel = .ok derivation) :
    0 ≤ derivation.reward.value ∧
      Database.fitsInteger derivation.reward.value = true := by
  obtain ⟨_, spin, _, rfl, isPlayable⟩ := fairnessBands_playable playable member mapped
  have valid := isPlayable.validBands
  obtain ⟨_, _, _, _, _, drawn⟩ :=
    (valid.fairSpin.drawn _ _ _ _ _ _ _ _ _ _ _ _).mp (evaluationOf_ok derived)
  have inMap := selectDailySpinReward_mem valid drawn.selected
  obtain ⟨band, inRewards, isBand⟩ := List.mem_map.mp inMap
  have small := isPlayable.2.2.2 band inRewards
  rw [← isBand]
  exact ⟨band.value_nonneg, fitsInteger_score band.value_nonneg small⟩

theorem evaluateFairness_calm (playable : AllPlayable env configs)
    (proofId ownerId : Uuid) (clientSeed : PyStr) (draw : EvaluateDraw) :
    Calm configs (evaluateFairness env proofId ownerId clientSeed draw)
      fun _ => True := by
  refine Calm.query fun db _ => ?_
  refine Calm.orRaise nofun fun visible _ => ?_
  refine Calm.require nofun fun _ => ?_
  refine Calm.query fun db _ => ?_
  refine Calm.orRaise nofun fun gameSession _ => ?_
  refine Calm.query fun db _ => ?_
  refine Calm.orRaise nofun fun proof _ => ?_
  unfold evaluateLocked
  split
  · refine Calm.require nofun fun _ => ?_
    refine Calm.orRaise nofun fun outcomeId _ => ?_
    refine Calm.query fun db _ => ?_
    refine Calm.query fun db _ => ?_
    refine Calm.orRaise nofun fun outcome _ => ?_
    refine Calm.orRaise nofun fun reward _ => ?_
    exact Calm.commitWork trivial
  refine Calm.clock fun now => ?_
  refine Calm.andThen (finalizeExpiredSession_calm _ _ _ _) fun finalized => ?_
  split
  · exact Calm.commitWork (Calm.raise nofun)
  refine Calm.require nofun fun _ => ?_
  refine Calm.query fun db _ => ?_
  refine Calm.query fun db same => ?_
  refine Calm.query fun db _ => ?_
  refine Calm.orRaise nofun fun game _ => ?_
  refine Calm.orRaise nofun fun config found => ?_
  refine Calm.orRaise nofun fun custody _ => ?_
  refine Calm.byRules nofun fun bands mapped => ?_
  refine Calm.ofExcept (fun error fails => ?_) fun derivation derived => ?_
  · unfold evaluationOf at fails
    split at fails <;> cases fails <;> nofun
  obtain ⟨nonneg, fits⟩ :=
    evaluationOf_playable playable (same ▸ lookup_mem found) mapped derived
  refine Calm.update (.insertOutcome _) ?_
  refine Calm.update (.insertReward nonneg fits) ?_
  refine Calm.query fun db _ => ?_
  refine Calm.orRaise nofun fun previous _ => ?_
  refine Calm.update (.flushReveal _ _) ?_
  refine Calm.update (.flushCompletion _ _ _ _ _) ?_
  exact Calm.commitWork trivial

/-- The entitlement of a play under a playable configuration. -/
theorem rewardValue_playable {config : GameConfigVersion} {outcome : Outcome}
    {gameKey : PyStr} {value : Int} (playable : AllPlayable env configs)
    (member : config ∈ configs)
    (entitled : rewardValue env config outcome gameKey = .ok value) :
    0 ≤ value ∧ value ≤ maxFinalScore := by
  obtain ⟨payload, validated, entitled⟩ := bind_eq_ok.mp entitled
  obtain ⟨rules, _, entitled⟩ := bind_eq_ok.mp entitled
  exact (playable config member _ validated).reward validated entitled

theorem playSession_calm (playable : AllPlayable env configs)
    (sessionId ownerId : Uuid) (intent : PlayIntent) (provider : OutcomeProvider)
    (draw : PlayDraw) :
    Calm configs (playSession env sessionId ownerId intent provider draw)
      fun _ => True := by
  refine Calm.query fun db _ => ?_
  refine Calm.orRaise nofun fun gameSession _ => ?_
  refine Calm.require nofun fun _ => ?_
  refine Calm.clock fun now => ?_
  refine Calm.andThen (finalizeExpiredSession_calm _ _ _ _) fun finalized => ?_
  split
  · exact Calm.commitWork (Calm.raise nofun)
  split
  · unfold replayPlay
    split
    · exact Calm.raise nofun
    refine Calm.query fun db _ => ?_
    refine Calm.query fun db _ => ?_
    split
    · refine Calm.byRules nofun fun rules _ => ?_
      simp only
      split
      · exact Calm.commitWork trivial
      · exact Calm.raise nofun
      · exact Calm.raise nofun
    · exact Calm.raise nofun
  · refine Calm.bind (gameAndConfig_calm _ _ nofun) fun loaded inCatalogue => ?_
    refine Calm.byRules nofun fun rules _ => ?_
    refine Calm.require nofun fun _ => ?_
    refine Calm.byRules nofun fun result _ => ?_
    refine Calm.update (.insertOutcome _) ?_
    refine Calm.byRules nofun fun value entitled => ?_
    obtain ⟨nonneg, small⟩ := rewardValue_playable playable inCatalogue entitled
    refine Calm.update (.insertReward nonneg (fitsInteger_score nonneg small)) ?_
    refine Calm.update (.flushCompletion _ _ _ _ _) ?_
    exact Calm.commitWork trivial

theorem submitFinalScore_calm (playable : AllPlayable env configs)
    (sessionId ownerId scoreId : Uuid) :
    Calm configs (submitFinalScore env sessionId ownerId scoreId) fun _ => True := by
  refine Calm.query fun db _ => ?_
  refine Calm.orRaise nofun fun gameSession _ => ?_
  refine Calm.require nofun fun _ => ?_
  refine Calm.query fun db _ => ?_
  split
  · refine Calm.query fun db _ => ?_
    refine Calm.orRaise nofun fun game _ => ?_
    exact Calm.commitWork trivial
  · refine Calm.query fun db _ => ?_
    refine Calm.orRaise nofun fun player _ => ?_
    refine Calm.require nofun fun _ => ?_
    refine Calm.query fun db _ => ?_
    refine Calm.orRaise nofun fun game _ => ?_
    refine Calm.byRules nofun fun rules _ => ?_
    refine Calm.require nofun fun _ => ?_
    refine Calm.orRaise nofun fun endedAt _ => ?_
    refine Calm.query fun db _ => ?_
    refine Calm.orRaise nofun fun outcome _ => ?_
    refine Calm.require nofun fun _ => ?_
    refine Calm.query fun db same => ?_
    refine Calm.orRaise nofun fun config found => ?_
    refine Calm.byRules nofun fun value scored => ?_
    obtain ⟨payload, validated⟩ := validated_of_scored scored
    have bounds : 0 ≤ value ∧ value ≤ maxFinalScore :=
      (playable config (same ▸ lookup_mem found) _ validated).reward validated scored
    refine Calm.clock fun now => ?_
    refine Calm.require nofun fun _ => ?_
    refine Calm.update (.insertScore bounds) ?_
    refine Calm.update (.insertEvidence _ _) ?_
    exact Calm.commitWork trivial

theorem claimSessionReward_calm (sessionId ownerId : Uuid) :
    Calm configs (claimSessionReward sessionId ownerId) fun _ => True := by
  refine Calm.query fun db _ => ?_
  split
  · refine Calm.query fun db _ => ?_
    refine Calm.orRaise nofun fun gameSession _ => ?_
    exact Calm.require nofun fun _ => Calm.raise nofun
  · refine Calm.require nofun fun _ => ?_
    refine Calm.clock fun now => ?_
    refine Calm.ofExcept (fun error fails => ?_) fun changed _ => ?_
    · unfold claimReward at fails
      split at fails
      · cases fails
      · split at fails <;> cases fails
        nofun
    split
    · exact Calm.commitWork trivial
    · refine Calm.query fun db _ => ?_
      refine Calm.orRaise nofun fun gameKey _ => ?_
      refine Calm.update (.flushClaim _ _) ?_
      exact Calm.commitWork trivial

/-- No request over playable configurations meets a configuration failure. -/
theorem body_calm (playable : AllPlayable env configs) (call : Call) :
    Calm configs (body env call) fun _ => True := by
  cases call with
  | createSession requestId playerId ownerId gameKey draw =>
      exact confined_map.mpr (createSession_calm _ _ _ _ _)
  | retrieveSession sessionId ownerId =>
      exact confined_map.mpr (retrieveSession_calm _ _)
  | retrievePlayerGameState playerId ownerId gameKey =>
      exact confined_map.mpr (retrievePlayerGameState_calm _ _ _)
  | cancelSession sessionId ownerId => exact confined_map.mpr (cancelSession_calm _ _)
  | commitFairness sessionId ownerId draw =>
      exact confined_map.mpr (commitFairness_calm playable _ _ _)
  | evaluateFairness proofId ownerId clientSeed draw =>
      exact confined_map.mpr (evaluateFairness_calm playable _ _ _ _)
  | playSession sessionId ownerId intent provider draw =>
      exact confined_map.mpr (playSession_calm playable _ _ _ _ _)
  | submitFinalScore sessionId ownerId scoreId =>
      exact confined_map.mpr (submitFinalScore_calm playable _ _ _)
  | claimSessionReward sessionId ownerId =>
      exact confined_map.mpr (claimSessionReward_calm _ _)

end Requests

/-! ### Every admitted configuration -/

/-- An admitted configuration keeps its promises exactly when it is playable; and
in every run from a catalogue of playable configurations, no request ends with a
configuration failure. -/
theorem config_admission (env : Platform) :
    (∀ config payload, validatedConfig env.schema config = .ok payload →
      (PlaysThrough env.schema config ↔ Playable payload)) ∧
    ∀ catalogue, CatalogueOnly catalogue → AllPlayable env catalogue.configs →
      ∀ system, Reachable Lock.conflicts (body env) (fun db => db = catalogue) AnyStep
        system →
      ∀ thread ∈ system.threads, ∀ error,
        thread.status = .finished (.error error) → ¬ConfigurationFailure error := by
  refine ⟨fun config payload validated => playsThrough_iff validated, ?_⟩
  intro catalogue _ playable system reachable thread member error failed
  have confined := reachable.confined (body_calm playable) fun db isCatalogue => by
    rw [isCatalogue]
  exact (confined.threads thread member).failed error failed

namespace Sample

/-- The runs from the sample catalogue. -/
theorem from_catalogue {labels : List (Label Int Call)} {system : ServiceSystem}
    (isRun : run labels = some system) :
    Reachable Lock.conflicts (body platform) (fun db => db = catalogue) AnyStep system :=
  Reachable.follow (.start catalogue rfl) isRun

theorem catalogue_playable : AllPlayable platform catalogue.configs := by
  intro config member payload validated
  simp only [catalogue, List.mem_cons, List.not_mem_nil, or_false] at member
  rcases member with rfl | rfl | rfl <;> cases validated <;> decide +kernel

end Sample

/-- The sample configurations, and a run over them. -/
theorem config_admission_submitted :
    PlaysThrough Sample.schema (Sample.config 4 3) ∧
      ∀ thread ∈ Sample.submitted.threads, ∀ error,
        thread.status = .finished (.error error) → ¬ConfigurationFailure error := by
  constructor
  · exact ((config_admission Sample.platform).1 _ _ rfl).mpr (by decide)
  · refine (config_admission Sample.platform).2 _ Sample.catalogue_only
      Sample.catalogue_playable _ ?_
    unfold Sample.submitted
    exact Sample.from_catalogue (Option.some_get Sample.submitted_runs).symm

namespace Sample

theorem small_length : 1 ≤ (py "small").length ∧ (py "small").length ≤ 30 := by decide

theorem three_positive : (0 : Int) < 3 := by decide

theorem ten_nonneg : (0 : Int) ≤ 10 := by decide

theorem fifty_nonneg : (0 : Int) ≤ 50 := by decide

/-- Two bands of one key. -/
def twiceConfig : DailySpinConfig where
  cooldownSeconds := 60
  rewards :=
    [⟨py "small", 3, 10, small_length, three_positive, ten_nonneg⟩,
      ⟨py "small", 1, 50, small_length, Int.one_pos, fifty_nonneg⟩]
  cooldown_bounds := dailySpinConfig.cooldown_bounds
  min_length := dailySpinConfig.min_length

def twicePlatform : Platform where
  crypto := crypto
  schema := fun payload =>
    if payload = .int 1 then some (.dailySpin twiceConfig) else schema payload

/-- A session is created and a proof is to be committed. -/
def twiceLabels : List (Label Int Call) :=
  [.start spin] ++ statements 0 13 1000 ++ [.start commitSpin] ++ statements 1 6 2000

theorem twice_runs : (start.follow Lock.conflicts (body twicePlatform)
    twiceLabels).isSome = true := by
  decide +kernel

@[irreducible] def twice : ServiceSystem :=
  (start.follow Lock.conflicts (body twicePlatform) twiceLabels).get twice_runs

theorem twice_reachable : Reachable Lock.conflicts (body twicePlatform)
    (fun db => db = catalogue) AnyStep twice := by
  unfold twice
  exact Reachable.follow (.start catalogue rfl) (Option.some_get twice_runs).symm

theorem twice_admitted : ∀ config ∈ catalogue.configs, ∃ payload,
    validatedConfig twicePlatform.schema config = .ok payload := by
  intro config member
  simp only [catalogue, List.mem_cons, List.not_mem_nil, or_false] at member
  rcases member with rfl | rfl | rfl <;> exact ⟨_, rfl⟩

end Sample

theorem finished_of_error {ε ρ : Type} {status : Status ε ρ} {error : ε}
    (isError : status.error? = some error) : status = .finished (.error error) := by
  cases status with
  | running => cases isError
  | aborted => cases isError
  | finished result =>
      cases result with
      | ok value => cases isError
      | error other =>
          cases isError
          rfl

/-- A daily spin with two bands of one key is admitted and its session is created,
but the commitment of its proof fails on the reward map. -/
theorem config_admission_fails :
    ¬∀ (env : Platform) (catalogue : Database), CatalogueOnly catalogue →
      (∀ config ∈ catalogue.configs, ∃ payload,
        validatedConfig env.schema config = .ok payload) →
      ∀ system, Reachable Lock.conflicts (body env) (fun db => db = catalogue) AnyStep
        system →
      ∀ thread ∈ system.threads, ∀ error,
        thread.status = .finished (.error error) → ¬ConfigurationFailure error := by
  intro claimed
  have unfailing := claimed Sample.twicePlatform Sample.catalogue Sample.catalogue_only
    Sample.twice_admitted Sample.twice Sample.twice_reachable
  obtain ⟨thread, member, failed⟩ : ∃ thread ∈ Sample.twice.threads,
      thread.status.error? = some (.fairness .invalidRewardMapping) := by
    decide +kernel
  exact unfailing thread member _ (finished_of_error failed) .rewardMap

end RngGamePlatform
