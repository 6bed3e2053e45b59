/-
Module: RngGamePlatform.Queues.KeepNewest
Purpose: Bounded queues that lose their oldest item rather than the newest.
Trusted boundary: none
Main exports: offer, Delivers, Delivers.offer, Delivers.take
-/
import Mathlib.Data.List.Basic

namespace RngGamePlatform.Queues

variable {α : Type*}

/-- Put an item on a queue of `size` places; a full queue first loses its oldest
item. -/
def offer (size : Nat) (queue : List α) (item : α) : List α :=
  (if size ≤ queue.length then queue.tail else queue) ++ [item]

theorem length_offer {size : Nat} {queue : List α} (positive : 0 < size)
    (bounded : queue.length ≤ size) (item : α) :
    (offer size queue item).length ≤ size := by
  unfold offer
  split <;> simp <;> omega

@[simp] theorem getLast?_offer (size : Nat) (queue : List α) (item : α) :
    (offer size queue item).getLast? = some item := by
  simp [offer]

@[simp] theorem offer_ne_nil (size : Nat) (queue : List α) (item : α) :
    offer size queue item ≠ [] := by
  simp [offer]

/-- What was offered to a queue, oldest first, falls into a part that is over,
of which some items were taken in order, and the part still queued. -/
def Delivers (offered taken queue : List α) : Prop :=
  ∃ gone, offered = gone ++ queue ∧ taken.Sublist gone

namespace Delivers

variable {offered taken queue : List α}

theorem nil : Delivers ([] : List α) [] [] :=
  ⟨[], rfl, .slnil⟩

/-- An offer queues the item and ends at most one older one. -/
theorem offer {size : Nat} (delivers : Delivers offered taken queue)
    (positive : 0 < size) (item : α) :
    Delivers (offered ++ [item]) taken (Queues.offer size queue item) := by
  obtain ⟨gone, rfl, inOrder⟩ := delivers
  unfold Queues.offer
  split
  case isTrue full =>
    cases queue with
    | nil => exact absurd (Nat.lt_of_lt_of_le positive full) (Nat.lt_irrefl 0)
    | cons oldest rest =>
      refine ⟨gone ++ [oldest], ?_, inOrder.trans (List.sublist_append_left _ _)⟩
      simp
  case isFalse =>
    exact ⟨gone, by simp, inOrder⟩

/-- Taking the oldest item. -/
theorem take {item : α} (delivers : Delivers offered taken (item :: queue)) :
    Delivers offered (taken ++ [item]) queue := by
  obtain ⟨gone, rfl, inOrder⟩ := delivers
  exact ⟨gone ++ [item], by simp, inOrder.append (List.Sublist.refl [item])⟩

/-- What was taken, followed by what is queued, keeps the order of the offers. -/
theorem sublist (delivers : Delivers offered taken queue) :
    (taken ++ queue).Sublist offered := by
  obtain ⟨gone, rfl, inOrder⟩ := delivers
  exact inOrder.append_right queue

theorem taken_sublist (delivers : Delivers offered taken queue) :
    taken.Sublist offered :=
  (List.sublist_append_left taken queue).trans delivers.sublist

/-- A queue with an item in it ends with the newest offer. -/
theorem getLast? (delivers : Delivers offered taken queue) (waiting : queue ≠ []) :
    queue.getLast? = offered.getLast? := by
  obtain ⟨gone, rfl, _⟩ := delivers
  rw [List.getLast?_append_of_ne_nil _ waiting]

end Delivers

end RngGamePlatform.Queues
