/-
Module: RngGamePlatform.Proofs.Validation
Purpose: When the validation of the current player leaves the selection alone.
Trusted boundary: none
Main exports: PlayerStore.Listed, KeepsSelection, AnswersKeepSelection,
  StillCurrent, validation_keeps_selection
-/
import Mathlib.Data.List.Nodup
import RngGamePlatform.Web.PlayerStore

namespace RngGamePlatform

open Encoding

namespace PlayerStore

/-- The ids of the stored players. -/
abbrev ids (store : PlayerStore) : List PyStr := store.players.map (·.id)

/-- What every stored value satisfies. -/
structure Listed (store : PlayerStore) : Prop where
  distinct : store.ids.Nodup
  selected : ∀ id, store.currentId = some id → id ∈ store.ids
  few : store.players.length ≤ 8

theorem ids_filter (players : List StoredPlayer) (playerId : PyStr) :
    (players.filter fun player => player.id ≠ playerId).map (·.id) =
      (players.map (·.id)).filter (· ≠ playerId) := by
  rw [List.filter_map]
  rfl

theorem Listed.empty : Listed {} := by
  constructor
  case distinct => exact List.nodup_nil
  case selected => intro id selected; cases selected
  case few => exact Nat.zero_le 8

variable {store : PlayerStore}

/-- The validation's state is no part of the list. -/
theorem Listed.withValidation (listed : Listed store) (validation : Validation) :
    Listed { store with validation } :=
  ⟨listed.distinct, listed.selected, listed.few⟩

theorem Listed.save (listed : Listed store) (player : StoredPlayer) :
    Listed (store.save player) := by
  have distinct : (player :: store.players.filter
      fun candidate => candidate.id ≠ player.id).map (·.id) |>.Nodup := by
    rw [List.map_cons, ids_filter, List.nodup_cons]
    constructor
    · simp
    · exact listed.distinct.filter _
  constructor
  case distinct =>
    simp only [PlayerStore.save, ids, List.map_take]
    exact distinct.sublist (List.take_sublist _ _)
  case selected =>
    intro id selected
    cases selected
    simp [PlayerStore.save, ids]
  case few => simp [PlayerStore.save]

theorem Listed.select (listed : Listed store) (playerId : PyStr) :
    Listed (store.select playerId) := by
  unfold PlayerStore.select
  split
  case h_1 => exact listed
  case h_2 player found =>
    constructor
    case distinct => exact listed.distinct
    case selected =>
      intro id selected
      cases selected
      have same : player.id = playerId := by simpa using List.find?_some found
      exact List.mem_map.mpr ⟨player, List.mem_of_find?_eq_some found, same⟩
    case few => exact listed.few

theorem Listed.remove (listed : Listed store) (playerId : PyStr) :
    Listed (store.remove playerId) := by
  constructor
  case distinct =>
    simp only [PlayerStore.remove, ids, ids_filter]
    exact listed.distinct.filter _
  case selected =>
    intro id selected
    simp only [PlayerStore.remove] at selected
    simp only [PlayerStore.remove, ids]
    split at selected
    case isTrue =>
      obtain ⟨first, _⟩ := Option.filter_eq_some_iff.mp selected
      obtain ⟨player, head, same⟩ := Option.map_eq_some_iff.mp first
      exact List.mem_map.mpr ⟨player, List.mem_of_head? head, same⟩
    case isFalse other =>
      rw [ids_filter, List.mem_filter]
      refine ⟨listed.selected id selected, ?_⟩
      have different : id ≠ playerId := by
        intro same
        exact other (same ▸ selected)
      simpa using different
  case few =>
    exact Nat.le_trans (List.length_filter_le _ _) listed.few

theorem Listed.clear : Listed store.clear := by
  constructor
  case distinct => exact List.nodup_nil
  case selected => intro id selected; cases selected
  case few => exact Nat.zero_le 8

theorem Listed.validateCurrent (listed : Listed store) : Listed store.validateCurrent := by
  unfold PlayerStore.validateCurrent
  split
  · split
    · exact listed
    · exact listed.withValidation _
  · exact listed

theorem Listed.receive (listed : Listed store) (requested : PyStr)
    (answer : ValidationAnswer) : Listed (store.receive requested answer) := by
  unfold PlayerStore.receive
  cases answer with
  | validated player => exact (listed.withValidation _).save player
  | failed code =>
    dsimp only
    split
    · exact (listed.withValidation _).remove requested
    · exact listed.withValidation _

/-- What an answer does, where a request is in flight. -/
theorem perform_answered {next : PlayerStore} {answer : ValidationAnswer}
    (performed : store.perform (.answered answer) = some next) :
    ∃ requested, store.validation = .requested requested ∧
      (∀ player, answer = .validated player → player.id = requested) ∧
      next = store.receive requested answer := by
  simp only [PlayerStore.perform] at performed
  split at performed
  case h_1 requested player inFlight =>
    split at performed
    case isTrue same =>
      cases performed
      refine ⟨requested, inFlight, ?_, rfl⟩
      intro other isPlayer
      cases isPlayer
      exact same
    case isFalse => cases performed
  case h_2 requested code inFlight =>
    cases performed
    refine ⟨requested, inFlight, ?_, rfl⟩
    intro player isPlayer
    cases isPlayer
  case h_3 => cases performed

theorem Listed.perform {next : PlayerStore} {action : PlayerAction}
    (listed : Listed store) (performed : store.perform action = some next) :
    Listed next := by
  cases action with
  | save player => cases performed; exact listed.save player
  | select playerId => cases performed; exact listed.select playerId
  | remove playerId => cases performed; exact listed.remove playerId
  | clear => cases performed; exact .clear
  | validateCurrent => cases performed; exact listed.validateCurrent
  | answered answer =>
    obtain ⟨requested, _, _, rfl⟩ := perform_answered performed
    exact listed.receive requested answer
  | released =>
    simp only [PlayerStore.perform] at performed
    split at performed
    · cases performed
      exact listed.withValidation _
    · cases performed

theorem Listed.after {log : List PlayerAction} (ran : after log = some store) :
    Listed store := by
  induction log generalizing store with
  | nil =>
    cases ran
    exact .empty
  | cons action past ih =>
    obtain ⟨before, ranBefore, performed⟩ := Option.bind_eq_some_iff.mp ran
    exact (ih ranBefore).perform performed

end PlayerStore

/-- A history splits at each of its steps. -/
theorem PlayerStore.after_append {store : PlayerStore} {later past : List PlayerAction}
    (ran : PlayerStore.after (later ++ past) = some store) :
    ∃ between, PlayerStore.after past = some between := by
  induction later generalizing store with
  | nil => exact ⟨store, ran⟩
  | cons action rest ih =>
    obtain ⟨before, ranBefore, _⟩ := Option.bind_eq_some_iff.mp ran
    exact ih ranBefore

/-- An answer leaves the selection and the list as the operations before it made
them, except that a player reported as gone is removed. -/
def KeepsSelection (before after : PlayerStore) (requested : PyStr) :
    ValidationAnswer → Prop
  | .validated _ => after.currentId = before.currentId ∧ after.ids.Perm before.ids
  | .failed code =>
      if PlayerStore.isGone code then
        (before.currentId ≠ some requested → after.currentId = before.currentId) ∧
          after.ids = before.ids.filter (· ≠ requested)
      else after.currentId = before.currentId ∧ after.ids = before.ids

/-- Every validation of a history keeps the selection. -/
def AnswersKeepSelection (log : List PlayerAction) : Prop :=
  ∀ later past answer before after requested,
    log = later ++ .answered answer :: past →
    PlayerStore.after past = some before →
    before.validation = .requested requested →
    before.perform (.answered answer) = some after →
    KeepsSelection before after requested answer

/-- Every player that the server confirms is still the current one when the
answer arrives. -/
def StillCurrent (log : List PlayerAction) : Prop :=
  ∀ later past player before, log = later ++ .answered (.validated player) :: past →
    PlayerStore.after past = some before → before.currentId = some player.id

section Answers

open PlayerStore

variable {store : PlayerStore}

/-- Saving the current player again only moves it to the front. -/
theorem save_current_perm (listed : Listed store) {player : StoredPlayer}
    (current : store.currentId = some player.id) :
    (store.save player).ids.Perm store.ids := by
  have member : player.id ∈ store.ids := listed.selected _ current
  have others : (store.players.filter fun candidate => candidate.id ≠ player.id).map (·.id) =
      store.ids.erase player.id := by
    rw [ids_filter, listed.distinct.erase_eq_filter]
    exact List.filter_congr fun id _ => by simp [bne, Bool.beq_eq_decide_eq]
  have short : (player :: store.players.filter
      fun candidate => candidate.id ≠ player.id).length ≤ 8 := by
    have lengths := congrArg List.length others
    rw [List.length_map, List.length_erase_of_mem member, List.length_map] at lengths
    have few := listed.few
    have nonempty : 0 < store.players.length := by
      have := List.length_pos_of_mem member
      simpa using this
    simp only [List.length_cons]
    omega
  simp only [PlayerStore.save, ids, List.take_of_length_le short, List.map_cons, others]
  exact (List.perm_cons_erase member).symm

/-- A confirmation keeps the selection exactly when its player is the current
one. -/
theorem keepsSelection_validated (listed : Listed store) {requested : PyStr}
    {player : StoredPlayer} :
    KeepsSelection store (store.receive requested (.validated player)) requested
        (.validated player) ↔
      store.currentId = some player.id := by
  constructor
  · intro keeps
    exact keeps.1.symm
  · intro current
    constructor
    · exact current.symm
    · exact save_current_perm (listed.withValidation _) current

/-- A failure removes at most the player that is gone. -/
theorem keepsSelection_failed (store : PlayerStore) (requested code : PyStr) :
    KeepsSelection store (store.receive requested (.failed code)) requested
      (.failed code) := by
  simp only [KeepsSelection, PlayerStore.receive]
  split
  case isTrue =>
    constructor
    · intro other
      exact if_neg other
    · exact ids_filter _ _
  case isFalse => exact ⟨rfl, rfl⟩

end Answers

/-- In every history of steps the list stays in order, and the validations keep
the selection exactly when each confirmed player is still the current one. -/
theorem validation_keeps_selection {log : List PlayerAction} {store : PlayerStore}
    (ran : PlayerStore.after log = some store) :
    store.Listed ∧ (∀ player, (store.save player).players.length ≤ 8) ∧
      (AnswersKeepSelection log ↔ StillCurrent log) := by
  have listed := PlayerStore.Listed.after ran
  refine ⟨listed, fun player => (listed.save player).few, ?_⟩
  constructor
  · intro keeps later past player before split ranPast
    obtain ⟨between, ranAnswer⟩ := PlayerStore.after_append (split ▸ ran)
    obtain ⟨here, ranHere, performed⟩ := Option.bind_eq_some_iff.mp ranAnswer
    rw [ranPast] at ranHere
    cases ranHere
    obtain ⟨requested, inFlight, _, rfl⟩ := PlayerStore.perform_answered performed
    have kept := keeps later past _ before _ requested split ranPast inFlight performed
    exact (keepsSelection_validated (.after ranPast)).mp kept
  · intro still later past answer before after requested split ranPast inFlight performed
    obtain ⟨asked, inFlight', _, rfl⟩ := PlayerStore.perform_answered performed
    rw [inFlight] at inFlight'
    cases inFlight'
    cases answer with
    | validated player =>
      exact (keepsSelection_validated (.after ranPast)).mpr
        (still later past player before split ranPast)
    | failed code => exact keepsSelection_failed before requested code

namespace Sample

def ada : StoredPlayer := { id := py "a", displayName := py "Ada" }

def bob : StoredPlayer := { id := py "b", displayName := py "Bob" }

/-- Ada is selected while the record of Bob is on its way. -/
def switchedAway : List PlayerAction :=
  [.answered (.validated bob), .select ada.id, .validateCurrent, .save bob, .save ada]

/-- Ada is selected and Bob again, while his record is on its way. -/
def switchedBack : List PlayerAction :=
  [.answered (.validated bob), .select bob.id, .select ada.id, .validateCurrent, .save bob,
    .save ada]

end Sample

/-- The answer about Bob selects him again. -/
theorem validation_reselects :
    ¬ ∀ (log : List PlayerAction) (store : PlayerStore),
      PlayerStore.after log = some store → AnswersKeepSelection log := by
  intro always
  let selected : PlayerStore :=
    { currentId := some Sample.ada.id
      players := [Sample.bob, Sample.ada]
      validation := .requested Sample.bob.id }
  let reselected : PlayerStore :=
    { currentId := some Sample.bob.id
      players := [Sample.bob, Sample.ada]
      validation := .answered }
  have reached : PlayerStore.after Sample.switchedAway = some reselected := by decide
  have kept := always _ _ reached [] _ _ selected reselected Sample.bob.id rfl
    (by decide) rfl (by decide)
  exact absurd kept.1 (by decide)

/-- An answer about Bob, who is current again, keeps the selection. -/
theorem validation_keeps_selection_switched :
    ∃ store, PlayerStore.after Sample.switchedBack = some store ∧ store.Listed ∧
      AnswersKeepSelection Sample.switchedBack := by
  have ran : (PlayerStore.after Sample.switchedBack).isSome = true := by decide
  obtain ⟨store, reached⟩ := Option.isSome_iff_exists.mp ran
  have kept := validation_keeps_selection reached
  refine ⟨store, reached, kept.1, kept.2.2.mpr ?_⟩
  intro later past player before split ranPast
  cases later with
  | nil =>
      -- The only answer is the last step.
      obtain ⟨isAnswer, rfl⟩ := List.cons.inj split
      cases isAnswer
      have current : (PlayerStore.after Sample.switchedBack.tail).map PlayerStore.currentId =
          some (some Sample.bob.id) := by decide
      rw [show PlayerStore.after Sample.switchedBack.tail = some before from ranPast] at current
      exact Option.some.inj current
  | cons action later =>
      have member : PlayerAction.answered (.validated player) ∈ Sample.switchedBack.tail := by
        rw [split]
        exact List.mem_append_right later List.mem_cons_self
      simp [Sample.switchedBack] at member

end RngGamePlatform
