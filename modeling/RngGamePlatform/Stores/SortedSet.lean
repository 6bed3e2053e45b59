/-
Module: RngGamePlatform.Stores.SortedSet
Purpose: Sorted sets: members with scores, listed by score and, within a score, by
  member.
Trusted boundary: human-reviewed semantics
Main exports: SortedSet, SortedSet.addAll, SortedSet.range, SortedSet.rank?,
  SortedSet.score?_addAll, SortedSet.range_addAll, SortedSet.rank?_addAll
-/
import Mathlib.Data.List.Sort
import Mathlib.Data.Prod.Lex

namespace RngGamePlatform.Stores

/-- Members with their scores; a member occurs once. -/
structure SortedSet (μ σ : Type) where
  entries : List (μ × σ)
  unique : (entries.map Prod.fst).Nodup

namespace SortedSet

section Operations

variable {μ σ : Type} [DecidableEq μ]

def empty : SortedSet μ σ := ⟨[], List.nodup_nil⟩

theorem unique_add {entries : List (μ × σ)} (unique : (entries.map Prod.fst).Nodup)
    (entry : μ × σ) :
    ((entries.filter (fun other => other.1 ≠ entry.1) ++ [entry]).map Prod.fst).Nodup := by
  rw [List.map_append, List.nodup_append]
  constructor
  · exact unique.sublist (List.filter_sublist.map _)
  · constructor
    · exact List.nodup_singleton _
    · intro member inRest other isEntry
      obtain ⟨kept, inFilter, rfl⟩ := List.mem_map.mp inRest
      have differs := (List.mem_filter.mp inFilter).2
      rw [List.mem_singleton.mp isEntry]
      exact of_decide_eq_true differs

/-- Add a member, or change its score. -/
def add (set : SortedSet μ σ) (entry : μ × σ) : SortedSet μ σ where
  entries := set.entries.filter (fun other => other.1 ≠ entry.1) ++ [entry]
  unique := unique_add set.unique entry

def addAll (set : SortedSet μ σ) (entries : List (μ × σ)) : SortedSet μ σ :=
  entries.foldl add set

def card (set : SortedSet μ σ) : Nat := set.entries.length

/-- The score of a member. -/
def score? (set : SortedSet μ σ) (member : μ) : Option σ :=
  (set.entries.find? fun entry => entry.1 = member).map Prod.snd

variable [LinearOrder μ] [LinearOrder σ]

/-- The place of an entry in the order of the set. -/
def key (entry : μ × σ) : σ ×ₗ μ := toLex (entry.2, entry.1)

/-- All entries, in order. -/
def range (set : SortedSet μ σ) : List (μ × σ) :=
  set.entries.insertionSort fun one other => key one ≤ key other

/-- The position of a member, from zero. -/
def rank? (set : SortedSet μ σ) (member : μ) : Option Nat :=
  set.range.findIdx? fun entry => entry.1 = member

end Operations

section Building

variable {μ σ : Type} [DecidableEq μ]

theorem addAll_entries {entries : List (μ × σ)} (set : SortedSet μ σ)
    (unique : ((set.entries ++ entries).map Prod.fst).Nodup) :
    (set.addAll entries).entries = set.entries ++ entries := by
  induction entries generalizing set with
  | nil => simp [addAll]
  | cons entry rest ih =>
    have kept : set.entries.filter (fun other => other.1 ≠ entry.1) = set.entries := by
      rw [List.filter_eq_self]
      intro other member
      rw [List.map_append, List.nodup_append] at unique
      exact decide_eq_true (unique.2.2 other.1 (List.mem_map_of_mem member) entry.1
        (List.mem_map_of_mem List.mem_cons_self))
    have added : (set.add entry).entries = set.entries ++ [entry] :=
      congrArg (· ++ [entry]) kept
    have rest_unique : (((set.add entry).entries ++ rest).map Prod.fst).Nodup := by
      rw [added, List.append_assoc]
      exact unique
    rw [addAll, List.foldl_cons]
    exact (ih (set.add entry) rest_unique).trans (by rw [added, List.append_assoc]; rfl)

/-- The score of a member is the one that was given. -/
theorem score?_addAll {entries : List (μ × σ)} (unique : (entries.map Prod.fst).Nodup)
    {entry : μ × σ} (member : entry ∈ entries) :
    ((empty : SortedSet μ σ).addAll entries).score? entry.1 = some entry.2 := by
  have isEntries : ((empty : SortedSet μ σ).addAll entries).entries = [] ++ entries :=
    addAll_entries empty unique
  rw [score?, isEntries, List.nil_append]
  cases found : entries.find? fun other => decide (other.1 = entry.1) with
  | none =>
    have absent := List.find?_eq_none.mp found entry member
    simp at absent
  | some other =>
    have isMember : other.1 = entry.1 := by simpa using List.find?_some found
    rw [List.inj_on_of_nodup_map unique (List.mem_of_find?_eq_some found) member isMember]
    rfl

variable [LinearOrder μ] [LinearOrder σ]

/-- Entries that are given in order are listed as they were given. -/
theorem range_addAll {entries : List (μ × σ)}
    (increasing : entries.Pairwise fun one other => key one < key other)
    (unique : (entries.map Prod.fst).Nodup) :
    ((empty : SortedSet μ σ).addAll entries).range = entries := by
  rw [range, addAll_entries empty unique]
  apply List.Pairwise.insertionSort_eq
  exact increasing.imp le_of_lt

/-- The rank of a member is its position in the order that was given. -/
theorem rank?_addAll {entries : List (μ × σ)}
    (increasing : entries.Pairwise fun one other => key one < key other)
    (unique : (entries.map Prod.fst).Nodup) {position : Nat} {entry : μ × σ}
    (found : entries[position]? = some entry) :
    ((empty : SortedSet μ σ).addAll entries).rank? entry.1 = some position := by
  rw [rank?, range_addAll increasing unique, List.findIdx?_eq_some_iff_getElem]
  obtain ⟨below, isEntry⟩ := List.getElem?_eq_some_iff.mp found
  refine ⟨below, by simp [isEntry], ?_⟩
  intro earlier before
  have inBounds : earlier < entries.length := before.trans below
  have apart : entries[earlier].1 ≠ entries[position].1 := by
    intro same
    have names : ∀ (index : Nat) (bound : index < entries.length),
        (entries.map Prod.fst)[index]? = some entries[index].1 := by
      intro index bound
      rw [List.getElem?_map, List.getElem?_eq_getElem bound]
      rfl
    have bound : earlier < (entries.map Prod.fst).length := by rwa [List.length_map]
    have positions := (List.getElem?_inj bound unique).mp
      ((names earlier inBounds).trans ((congrArg some same).trans (names position below).symm))
    omega
  rw [← isEntry]
  simp [apart]

end Building

end SortedSet

end RngGamePlatform.Stores
