/-
Module: RngGamePlatform.Relational.Grouping
Purpose: GROUP BY with an ordered result, and tables that record other tables up to the
  order of the rows.
Trusted boundary: human-reviewed semantics
Main exports: groupBy, mem_groupBy, groupBy_pairwise, count_map, exists_matching
-/
import Mathlib.Data.List.Dedup
import Mathlib.Data.List.Forall2

namespace RngGamePlatform.Relational

variable {ρ κ : Type} [DecidableEq κ]

/-- `GROUP BY key ORDER BY key`: each key with its rows. -/
def groupBy (key : ρ → κ) (le : κ → κ → Bool) (rows : List ρ) : List (κ × List ρ) :=
  ((rows.map key).dedup.mergeSort le).map fun k => (k, rows.filter fun row => key row = k)

section Groups

variable {key : ρ → κ} {le : κ → κ → Bool} {rows : List ρ}

theorem mem_groupBy {group : κ × List ρ} : group ∈ groupBy key le rows ↔
    (∃ row ∈ rows, key row = group.1) ∧ group.2 = rows.filter fun row => key row = group.1 := by
  obtain ⟨k, members⟩ := group
  simp only [groupBy, List.mem_map, List.mem_mergeSort, List.mem_dedup, Prod.mk.injEq]
  constructor
  · rintro ⟨_, inRows, rfl, rfl⟩
    exact ⟨inRows, rfl⟩
  · rintro ⟨inRows, selected⟩
    exact ⟨k, inRows, rfl, selected.symm⟩

/-- The groups stand in the order of their keys, each key once. -/
theorem groupBy_pairwise (trans : ∀ a b c, le a b = true → le b c = true → le a c = true)
    (total : ∀ a b, (le a b || le b a) = true) :
    (groupBy key le rows).Pairwise fun one other => one.1 ≠ other.1 ∧ le one.1 other.1 = true := by
  have sorted := List.pairwise_mergeSort trans total (rows.map key).dedup
  have distinct : ((rows.map key).dedup.mergeSort le).Nodup :=
    (List.mergeSort_perm _ _).nodup_iff.mpr (List.nodup_dedup _)
  exact List.pairwise_map.mpr (distinct.and sorted)

/-- The rows of a group that a condition keeps, as a part of the rows that it keeps. -/
theorem filter_group (p q r : ρ → Bool) :
    ((rows.filter p).filter q).filter r = (rows.filter r).filter fun row => p row && q row := by
  simp only [List.filter_filter]
  apply List.filter_congr
  intro row _
  cases p row <;> cases q row <;> cases r row <;> rfl

/-- How often a value occurs is how many rows have it. -/
theorem count_map [BEq κ] [LawfulBEq κ] (value : κ) :
    (rows.map key).count value = (rows.filter fun row => key row = value).length := by
  rw [List.count, List.countP_map, List.countP_eq_length_filter]
  congr 1
  apply List.filter_congr
  intro row _
  rw [Function.comp_apply, beq_eq_decide]

end Groups

section Records

variable {α β γ : Type} {R : α → β → Prop}

/-- Rows that attest others, up to their order, can be put next to them. -/
theorem exists_matching {attests : α → γ} {calls : β → γ} {rows : List α} {expected : List β}
    (complete : (rows.map attests).Perm (expected.map calls))
    (agree : ∀ row ∈ rows, ∀ other ∈ expected, attests row = calls other → R row other) :
    ∃ matched, matched.Perm rows ∧ List.Forall₂ R matched expected := by
  induction expected generalizing rows with
  | nil =>
      have nothing : rows = [] := List.map_eq_nil_iff.mp (List.perm_nil.mp complete)
      exact ⟨[], nothing ▸ .refl _, .nil⟩
  | cons first expected ih =>
      have called : calls first ∈ rows.map attests :=
        complete.mem_iff.mpr List.mem_cons_self
      obtain ⟨row, member, isFirst⟩ := List.mem_map.mp called
      obtain ⟨before, after, rfl⟩ := List.append_of_mem member
      have moved : (before ++ row :: after).Perm (row :: (before ++ after)) := List.perm_middle
      have rest : ((before ++ after).map attests).Perm (expected.map calls) := by
        have whole := (moved.map attests).symm.trans complete
        rw [List.map_cons, List.map_cons, isFirst] at whole
        exact List.Perm.cons_inv whole
      obtain ⟨matched, isPerm, related⟩ := ih rest fun other inRest one inExpected =>
        agree other (moved.mem_iff.mpr (List.mem_cons_of_mem _ inRest)) one
          (List.mem_cons_of_mem _ inExpected)
      exact ⟨row :: matched, (isPerm.cons row).trans moved.symm,
        .cons (agree row member first List.mem_cons_self isFirst) related⟩

theorem related_of_mem {matched : List α} {expected : List β}
    (related : List.Forall₂ R matched expected) {row : α} (member : row ∈ matched) :
    ∃ other ∈ expected, R row other := by
  induction related with
  | nil => cases member
  | cons isRelated _ ih =>
      rcases List.mem_cons.mp member with rfl | inRest
      · exact ⟨_, List.mem_cons_self, isRelated⟩
      · obtain ⟨other, inExpected, found⟩ := ih inRest
        exact ⟨other, List.mem_cons_of_mem _ inExpected, found⟩

/-- Conditions that agree on related rows select related rows. -/
theorem related_filter {matched : List α} {expected : List β} {p : α → Bool} {q : β → Bool}
    (related : List.Forall₂ R matched expected) (agree : ∀ a b, R a b → p a = q b) :
    List.Forall₂ R (matched.filter p) (expected.filter q) :=
  List.rel_filter (fun a b isRelated => Bool.eq_iff_iff.mp (agree a b isRelated)) related

theorem related_map {matched : List α} {expected : List β} {valueOf : α → γ} {value : β → γ}
    (related : List.Forall₂ R matched expected) (same : ∀ a b, R a b → valueOf a = value b) :
    matched.map valueOf = expected.map value := by
  induction related with
  | nil => rfl
  | cons isRelated _ ih => rw [List.map_cons, List.map_cons, same _ _ isRelated, ih]

/-- Conditions that agree on related rows select the same values, up to their order. -/
theorem perm_filter_matching {matched rows : List α} {expected : List β} {p : α → Bool}
    {q : β → Bool} {valueOf : α → γ} {value : β → γ} (isPerm : matched.Perm rows)
    (related : List.Forall₂ R matched expected) (agree : ∀ a b, R a b → p a = q b)
    (same : ∀ a b, R a b → valueOf a = value b) :
    ((rows.filter p).map valueOf).Perm ((expected.filter q).map value) := by
  rw [← related_map (related_filter related agree) same]
  exact ((isPerm.filter p).map valueOf).symm

/-- Conditions that agree on related rows select as many of them. -/
theorem length_filter_matching {matched rows : List α} {expected : List β} {p : α → Bool}
    {q : β → Bool} (isPerm : matched.Perm rows) (related : List.Forall₂ R matched expected)
    (agree : ∀ a b, R a b → p a = q b) :
    (rows.filter p).length = (expected.filter q).length := by
  rw [← (isPerm.filter p).length_eq, (related_filter related agree).length_eq]

end Records

end RngGamePlatform.Relational
