/-
Module: RngGamePlatform.Relational.Table
Purpose: Tables as lists of rows in insertion order: keyed reads, keyed changes,
  uniqueness, and how a table may grow.
Trusted boundary: human-reviewed semantics
Main exports: lookup, replace, remove, Unique, Grows
-/
import Mathlib.Data.List.Forall2

namespace RngGamePlatform.Relational

variable {ρ κ : Type} [DecidableEq κ]

/-- The first row with a key. -/
def lookup (key : ρ → κ) (k : κ) (rows : List ρ) : Option ρ :=
  rows.find? fun row => key row = k

/-- Write a row over the row with its key. -/
def replace (key : ρ → κ) (row : ρ) (rows : List ρ) : List ρ :=
  rows.map fun old => if key old = key row then row else old

/-- Delete the rows with a key. -/
def remove (key : ρ → κ) (k : κ) (rows : List ρ) : List ρ :=
  rows.filter fun row => key row ≠ k

/-- No two rows have the same key. -/
def Unique {ρ κ : Type} (key : ρ → κ) (rows : List ρ) : Prop :=
  rows.Pairwise fun one other => key one ≠ key other

section Reads

variable {key : ρ → κ} {k : κ} {rows : List ρ} {row : ρ}

theorem lookup_mem (found : lookup key k rows = some row) : row ∈ rows :=
  List.mem_of_find?_eq_some found

theorem lookup_key (found : lookup key k rows = some row) : key row = k := by
  simpa using List.find?_some found

theorem lookup_none : lookup key k rows = none ↔ ∀ row ∈ rows, key row ≠ k := by
  simp [lookup]

theorem lookup_isSome : (∃ row, lookup key k rows = some row) ↔
    ∃ row ∈ rows, key row = k := by
  constructor
  · rintro ⟨row, found⟩
    exact ⟨row, lookup_mem found, lookup_key found⟩
  · rintro ⟨row, member, isKey⟩
    cases found : lookup key k rows with
    | some other => exact ⟨other, rfl⟩
    | none => exact absurd isKey (lookup_none.mp found row member)

theorem Unique.eq {ρ κ : Type} {key : ρ → κ} {rows : List ρ} {one other : ρ}
    (unique : Unique key rows) (inOne : one ∈ rows) (inOther : other ∈ rows)
    (same : key one = key other) : one = other := by
  induction unique with
  | nil => cases inOne
  | cons apart _ ih =>
      rcases List.mem_cons.mp inOne with rfl | oneRest
      · rcases List.mem_cons.mp inOther with rfl | otherRest
        · rfl
        · exact absurd same (apart other otherRest)
      · rcases List.mem_cons.mp inOther with rfl | otherRest
        · exact absurd same.symm (apart one oneRest)
        · exact ih oneRest otherRest

/-- With unique keys a row is the one its key finds. -/
theorem Unique.lookup (unique : Unique key rows) (member : row ∈ rows)
    (isKey : key row = k) : lookup key k rows = some row := by
  rcases lookup_isSome.mpr ⟨row, member, isKey⟩ with ⟨found, isFound⟩
  rw [isFound]
  exact congrArg some (unique.eq (lookup_mem isFound) member
    ((lookup_key isFound).trans isKey.symm))

theorem lookup_append (more : List ρ) :
    lookup key k (rows ++ more) = (lookup key k rows).or (lookup key k more) := by
  simp [lookup, List.find?_append]

@[simp] theorem lookup_append_of_ne (different : key row ≠ k) :
    lookup key k (rows ++ [row]) = lookup key k rows := by
  simp [lookup, different]

theorem lookup_append_none : lookup key k (rows ++ [row]) = none ↔
    lookup key k rows = none ∧ key row ≠ k := by
  simp [lookup]

theorem lookup_append_self (absent : lookup key (key row) rows = none) :
    lookup key (key row) (rows ++ [row]) = some row := by
  simp [lookup_append, absent]
  simp [lookup]

/-- Reading through an index that the written row shares with the row it
replaces. -/
theorem lookup_replace_of_ne {κ' : Type} [DecidableEq κ'] {index : ρ → κ'}
    {i : κ'} (shared : ∀ old ∈ rows, key old = key row → index old = index row)
    (different : index row ≠ i) :
    lookup index i (replace key row rows) = lookup index i rows := by
  induction rows with
  | nil => rfl
  | cons old rest ih =>
      have restShared := ih fun other inRest =>
        shared other (List.mem_cons_of_mem _ inRest)
      have headShared := shared old List.mem_cons_self
      simp only [lookup, replace, List.map_cons, List.find?_cons] at restShared ⊢
      by_cases hit : key old = key row
      · simp [hit, headShared hit, different, restShared]
      · simp [hit, restShared]

theorem lookup_replace {κ' : Type} [DecidableEq κ'] {index : ρ → κ'} {old : ρ}
    (found : lookup index (index row) rows = some old)
    (hit : key old = key row)
    (shared : ∀ old ∈ rows, key old = key row → index old = index row) :
    lookup index (index row) (replace key row rows) = some row := by
  induction rows with
  | nil => simp [lookup] at found
  | cons head rest ih =>
      have headShared := shared head List.mem_cons_self
      simp only [lookup, replace, List.map_cons, List.find?_cons] at found ⊢
      by_cases here : index head = index row
      · simp only [here, decide_true] at found
        cases found
        simp [hit]
      · have miss : key head ≠ key row := fun same => here (headShared same)
        simp only [here, decide_false] at found
        simp only [miss, if_false, here, decide_false]
        exact ih found fun other inRest =>
          shared other (List.mem_cons_of_mem _ inRest)

theorem lookup_remove_self : lookup key k (remove key k rows) = none := by
  simp [lookup_none, remove]

theorem lookup_remove_of_ne {other : κ} (different : k ≠ other) :
    lookup key k (remove key other rows) = lookup key k rows := by
  simp only [lookup, remove, List.find?_filter]
  congr 1
  funext row
  by_cases isKey : key row = k
  · simp [isKey, different]
  · simp [isKey]

theorem mem_replace {old : ρ} (member : old ∈ replace key row rows) :
    old = row ∨ old ∈ rows ∧ key old ≠ key row := by
  rcases List.mem_map.mp member with ⟨before, inRows, same⟩
  by_cases hit : key before = key row
  · rw [if_pos hit] at same
    exact Or.inl same.symm
  · rw [if_neg hit] at same
    subst same
    exact Or.inr ⟨inRows, hit⟩

theorem mem_replace_of_ne {old : ρ} (member : old ∈ rows)
    (different : key old ≠ key row) : old ∈ replace key row rows :=
  List.mem_map.mpr ⟨old, member, if_neg different⟩

theorem mem_replace_self {old : ρ} (member : old ∈ rows)
    (same : key old = key row) : row ∈ replace key row rows :=
  List.mem_map.mpr ⟨old, member, if_pos same⟩

/-- A condition that only the rows of one key meet singles out one row. -/
theorem Unique.filter_only {ρ κ : Type} {key : ρ → κ} {rows : List ρ} {row : ρ}
    {condition : ρ → Bool} (unique : Unique key rows) (member : row ∈ rows)
    (meets : condition row = true)
    (only : ∀ other ∈ rows, condition other = true → key other = key row) :
    rows.filter condition = [row] := by
  obtain ⟨before, after, rfl⟩ := List.append_of_mem member
  obtain ⟨_, uniqueAfter, apart⟩ := List.pairwise_append.mp unique
  have fromBefore : before.filter condition = [] := by
    refine List.filter_eq_nil_iff.mpr fun other inBefore isMet => ?_
    exact apart other inBefore row List.mem_cons_self
      (only other (List.mem_append_left _ inBefore) isMet)
  have fromAfter : after.filter condition = [] := by
    refine List.filter_eq_nil_iff.mpr fun other inAfter isMet => ?_
    exact (List.pairwise_cons.mp uniqueAfter).1 other inAfter
      (only other (List.mem_append_right _ (List.mem_cons_of_mem _ inAfter)) isMet).symm
  rw [List.filter_append, fromBefore, List.filter_cons_of_pos meets, fromAfter]
  rfl

/-- Writing a row over one that agrees on an index keeps the index. -/
theorem map_replace {κ' : Type} {index : ρ → κ'}
    (shared : ∀ old ∈ rows, key old = key row → index old = index row) :
    (replace key row rows).map index = rows.map index := by
  simp only [replace, List.map_map]
  apply List.map_congr_left
  intro old member
  by_cases hit : key old = key row
  · simp [hit, shared old member hit]
  · simp [hit]

/-- Nothing is written over rows with other keys. -/
theorem replace_absent (absent : lookup key (key row) rows = none) :
    replace key row rows = rows := by
  have kept : ∀ old ∈ rows, (if key old = key row then row else old) = old :=
    fun old member => if_neg (lookup_none.mp absent old member)
  exact (List.map_congr_left kept).trans (List.map_id' rows)

theorem Unique.iff_nodup {ρ κ : Type} {key : ρ → κ} {rows : List ρ} :
    Unique key rows ↔ (rows.map key).Nodup := by
  simp [Unique, List.Nodup, List.pairwise_map]

theorem Unique.replace {κ' : Type} {index : ρ → κ'} (unique : Unique index rows)
    (shared : ∀ old ∈ rows, key old = key row → index old = index row) :
    Unique index (replace key row rows) := by
  rw [Unique.iff_nodup, map_replace shared]
  exact Unique.iff_nodup.mp unique

/-- A key that occurs once is written in one place. -/
theorem Unique.replace_eq {old : ρ} (unique : Unique key rows) (member : old ∈ rows)
    (same : key row = key old) :
    ∃ before after, rows = before ++ old :: after ∧
      Relational.replace key row rows = before ++ row :: after := by
  obtain ⟨before, after, rfl⟩ := List.append_of_mem member
  refine ⟨before, after, rfl, ?_⟩
  obtain ⟨_, uniqueAfter, apart⟩ := List.pairwise_append.mp unique
  have fromBefore : ∀ other ∈ before, key other ≠ key row := fun other inBefore =>
    same ▸ apart other inBefore old List.mem_cons_self
  have fromAfter : ∀ other ∈ after, key other ≠ key row := fun other inAfter =>
    same ▸ Ne.symm ((List.pairwise_cons.mp uniqueAfter).1 other inAfter)
  have split : Relational.replace key row (before ++ old :: after) =
      Relational.replace key row before ++ row :: Relational.replace key row after := by
    simp only [Relational.replace, List.map_append, List.map_cons, if_pos same.symm]
  rw [split, replace_absent (lookup_none.mpr fromBefore),
    replace_absent (lookup_none.mpr fromAfter)]

/-- A row that meets a condition only after it is written. -/
theorem Unique.filter_replace {old : ρ} {condition : ρ → Bool} (unique : Unique key rows)
    (member : old ∈ rows) (same : key row = key old) (before : condition old = false)
    (after : condition row = true) :
    ((Relational.replace key row rows).filter condition).Perm
      (rows.filter condition ++ [row]) := by
  obtain ⟨first, last, isRows, replaced⟩ := unique.replace_eq member same
  rw [replaced, isRows]
  simp only [List.filter_append, List.filter_cons, before, after, if_true,
    Bool.false_eq_true, if_false]
  refine List.perm_middle.trans ?_
  exact (List.perm_append_singleton _ _).symm

theorem Unique.append {κ' : Type} {index : ρ → κ'} (unique : Unique index rows)
    (absent : ∀ old ∈ rows, index old ≠ index row) :
    Unique index (rows ++ [row]) := by
  refine List.pairwise_append.mpr ⟨unique, List.pairwise_singleton _ _, ?_⟩
  intro old inRows new isNew
  rw [List.mem_singleton.mp isNew]
  exact absent old inRows

theorem Unique.appendAll {news : List ρ} (unique : Unique key rows)
    (uniqueNews : Unique key news)
    (absent : ∀ row ∈ news, Relational.lookup key (key row) rows = none) :
    Unique key (rows ++ news) := by
  refine List.pairwise_append.mpr ⟨unique, uniqueNews, ?_⟩
  intro old inRows new inNews
  exact lookup_none.mp (absent new inNews) old inRows

/-- Rows that fail a condition may come, change and go. -/
theorem filter_append_other {condition : ρ → Bool} (fails : condition row = false) :
    (rows ++ [row]).filter condition = rows.filter condition := by
  simp [List.filter_append, fails]

theorem filter_replace_other {condition : ρ → Bool} (fails : condition row = false)
    (old : ∀ other ∈ rows, key other = key row → condition other = false) :
    (replace key row rows).filter condition = rows.filter condition := by
  induction rows with
  | nil => rfl
  | cons head rows ih =>
      have rest := ih fun other member => old other (List.mem_cons_of_mem _ member)
      simp only [replace, List.map_cons, List.filter_cons] at rest ⊢
      by_cases same : key head = key row
      · rw [if_pos same, fails, old head List.mem_cons_self same, rest]
        rfl
      · rw [if_neg same, rest]

theorem filter_remove_other {condition : ρ → Bool}
    (gone : ∀ other ∈ rows, key other = k → condition other = false) :
    (remove key k rows).filter condition = rows.filter condition := by
  unfold remove
  rw [List.filter_filter]
  apply List.filter_congr
  intro other member
  by_cases same : key other = k
  · simp [gone other member same]
  · simp [same]

end Reads

section Pairs

variable {step : ρ → ρ → Prop}

private theorem forall₂_trans
    (transitive : ∀ a b c, step a b → step b c → step a c) {as bs cs : List ρ}
    (first : List.Forall₂ step as bs) (second : List.Forall₂ step bs cs) :
    List.Forall₂ step as cs := by
  induction first generalizing cs with
  | nil => exact second
  | cons ab rest ih =>
      cases second with
      | cons bc rest' => exact .cons (transitive _ _ _ ab bc) (ih rest')

private theorem forall₂_mem_left {as bs : List ρ} {a : ρ}
    (pairs : List.Forall₂ step as bs) (member : a ∈ as) : ∃ b ∈ bs, step a b := by
  induction pairs with
  | nil => cases member
  | cons ab rest ih =>
      rcases List.mem_cons.mp member with rfl | inRest
      · exact ⟨_, List.mem_cons_self, ab⟩
      · rcases ih inRest with ⟨b, inB, steps⟩
        exact ⟨b, List.mem_cons_of_mem _ inB, steps⟩

theorem forall₂_mem_right {as bs : List ρ} {b : ρ}
    (pairs : List.Forall₂ step as bs) (member : b ∈ bs) : ∃ a ∈ as, step a b := by
  induction pairs with
  | nil => cases member
  | cons ab rest ih =>
      rcases List.mem_cons.mp member with rfl | inRest
      · exact ⟨_, List.mem_cons_self, ab⟩
      · rcases ih inRest with ⟨a, inA, steps⟩
        exact ⟨a, List.mem_cons_of_mem _ inA, steps⟩

private theorem forall₂_append_left {as bs cs : List ρ}
    (pairs : List.Forall₂ step (as ++ bs) cs) :
    ∃ xs ys, cs = xs ++ ys ∧ List.Forall₂ step as xs ∧
      List.Forall₂ step bs ys := by
  induction as generalizing cs with
  | nil => exact ⟨[], cs, rfl, .nil, pairs⟩
  | cons a as ih =>
      cases pairs with
      | @cons _ c _ _ ac rest =>
          rcases ih rest with ⟨xs, ys, rfl, first, second⟩
          exact ⟨c :: xs, ys, rfl, .cons ac first, second⟩

private theorem forall₂_lookup {key : ρ → κ} {k : κ} {as bs : List ρ} {row : ρ}
    (keeps : ∀ a b, step a b → key b = key a)
    (pairs : List.Forall₂ step as bs) (found : lookup key k as = some row) :
    ∃ row', lookup key k bs = some row' ∧ step row row' := by
  induction pairs with
  | nil => simp [lookup] at found
  | @cons a b _ _ ab rest ih =>
      simp only [lookup, List.find?_cons] at found ih ⊢
      rw [keeps _ _ ab]
      by_cases here : key a = k
      · simp only [here, decide_true, Option.some.injEq] at found ⊢
        subst found
        exact ⟨b, rfl, ab⟩
      · simp only [here, decide_false] at found ⊢
        exact ih found

end Pairs

/-!
A table grows when its rows change in place by `step` and the rows added at its
end meet `fresh`.
-/

/-- `after` is `before` with its rows changed by `step` and rows that meet
`fresh` added. -/
def Grows {ρ : Type} (step : ρ → ρ → Prop) (fresh : ρ → Prop)
    (before after : List ρ) : Prop :=
  ∃ olds news, after = olds ++ news ∧ List.Forall₂ step before olds ∧
    ∀ row ∈ news, fresh row

namespace Grows

variable {step step' : ρ → ρ → Prop} {fresh fresh' : ρ → Prop}
  {before after later : List ρ} {key : ρ → κ} {k : κ} {row : ρ}

theorem refl (reflexive : ∀ row, step row row) (rows : List ρ) :
    Grows step fresh rows rows :=
  ⟨rows, [], (List.append_nil _).symm,
    List.forall₂_same.mpr fun row _ => reflexive row,
    fun _ inNone => absurd inNone List.not_mem_nil⟩

/-- An added row. -/
theorem append (reflexive : ∀ row, step row row) (isFresh : fresh row) :
    Grows step fresh before (before ++ [row]) :=
  ⟨before, [row], rfl, List.forall₂_same.mpr fun row _ => reflexive row,
    fun other isRow => by rw [List.mem_singleton.mp isRow]; exact isFresh⟩

/-- A row written in place. -/
theorem replace (reflexive : ∀ row, step row row)
    (steps : ∀ old ∈ before, key old = key row → step old row) :
    Grows step fresh before (replace key row before) := by
  refine ⟨_, [], (List.append_nil _).symm, ?_,
    fun _ inNone => absurd inNone List.not_mem_nil⟩
  rw [Relational.replace, List.forall₂_map_right_iff]
  refine List.forall₂_same.mpr fun old member => ?_
  by_cases hit : key old = key row
  · rw [if_pos hit]
    exact steps old member hit
  · rw [if_neg hit]
    exact reflexive old

theorem trans (transitive : ∀ a b c, step a b → step b c → step a c)
    (carries : ∀ a b, fresh a → step a b → fresh b)
    (first : Grows step fresh before after)
    (second : Grows step fresh after later) : Grows step fresh before later := by
  rcases first with ⟨olds, news, rfl, stepped, added⟩
  rcases second with ⟨olds', news', rfl, stepped', added'⟩
  rcases forall₂_append_left stepped' with ⟨xs, ys, rfl, left, right⟩
  refine ⟨xs, ys ++ news', List.append_assoc _ _ _,
    forall₂_trans transitive stepped left, ?_⟩
  intro row member
  rcases List.mem_append.mp member with inOlds | inNews
  · rcases forall₂_mem_right right inOlds with ⟨source, inSource, steps⟩
    exact carries _ _ (added source inSource) steps
  · exact added' row inNews

/-- Every row is still there, changed by a step. -/
theorem mem (grows : Grows step fresh before after) (member : row ∈ before) :
    ∃ row' ∈ after, step row row' := by
  rcases grows with ⟨olds, news, rfl, stepped, _⟩
  rcases forall₂_mem_left stepped member with ⟨row', inOlds, steps⟩
  exact ⟨row', List.mem_append_left _ inOlds, steps⟩

/-- Every row comes from an earlier one or is fresh. -/
theorem source (grows : Grows step fresh before after) (member : row ∈ after) :
    (∃ old ∈ before, step old row) ∨ fresh row := by
  rcases grows with ⟨olds, news, rfl, stepped, added⟩
  rcases List.mem_append.mp member with inOlds | inNews
  · exact Or.inl (forall₂_mem_right stepped inOlds)
  · exact Or.inr (added row inNews)

/-- A row found by a key that steps keep is still found, changed by a step. -/
theorem lookup_some (keeps : ∀ a b, step a b → key b = key a)
    (grows : Grows step fresh before after)
    (found : lookup key k before = some row) :
    ∃ row', lookup key k after = some row' ∧ step row row' := by
  rcases grows with ⟨olds, news, rfl, stepped, _⟩
  rcases forall₂_lookup keeps stepped found with ⟨row', foundOld, steps⟩
  exact ⟨row', by rw [lookup_append, foundOld]; rfl, steps⟩

/-- A key without a row stays without one when fresh rows have other keys. -/
theorem lookup_none (keeps : ∀ a b, step a b → key b = key a)
    (grows : Grows step fresh before after)
    (absent : lookup key k before = none)
    (others : ∀ row, fresh row → key row ≠ k) : lookup key k after = none := by
  rw [Relational.lookup_none]
  intro row member
  rcases grows.source member with ⟨old, inBefore, steps⟩ | isFresh
  · rw [keeps _ _ steps]
    exact Relational.lookup_none.mp absent old inBefore
  · exact others row isFresh

/-- When rows with a key do not change and none is added, the key reads the
same. -/
theorem lookup_eq (keeps : ∀ a b, step a b → key b = key a)
    (grows : Grows step fresh before after)
    (still : ∀ a b, step a b → key a = k → b = a)
    (others : ∀ row, fresh row → key row ≠ k) :
    lookup key k after = lookup key k before := by
  cases found : lookup key k before with
  | none => exact grows.lookup_none keeps found others
  | some row =>
      rcases grows.lookup_some keeps found with ⟨row', found', steps⟩
      rw [found', still _ _ steps (lookup_key found)]

/-- The rows a condition selects, when steps keep it and no fresh row meets
it. -/
theorem filter_forall₂ {condition : ρ → Bool}
    (keeps : ∀ a b, step a b → condition b = condition a)
    (grows : Grows step fresh before after)
    (others : ∀ row, fresh row → condition row = false) :
    List.Forall₂ step (before.filter condition) (after.filter condition) := by
  rcases grows with ⟨olds, news, rfl, stepped, added⟩
  have none : news.filter condition = [] :=
    List.filter_eq_nil_iff.mpr fun row member => by
      simp [others row (added row member)]
  rw [List.filter_append, none, List.append_nil]
  clear none added
  induction stepped with
  | nil => exact .nil
  | @cons a b as bs ab rest ih =>
      rw [List.filter_cons, List.filter_cons, keeps _ _ ab]
      split
      · exact .cons ab ih
      · exact ih

theorem filter_eq {condition : ρ → Bool}
    (keeps : ∀ a b, step a b → condition b = condition a)
    (grows : Grows step fresh before after)
    (still : ∀ a b, step a b → condition a = true → b = a)
    (others : ∀ row, fresh row → condition row = false) :
    after.filter condition = before.filter condition := by
  have pairs := grows.filter_forall₂ keeps others
  have selected : ∀ row ∈ before.filter condition, condition row = true :=
    fun row member => (List.mem_filter.mp member).2
  generalize before.filter condition = olds at pairs selected
  generalize after.filter condition = rows at pairs
  induction pairs with
  | nil => rfl
  | cons ab rest ih =>
      rw [still _ _ ab (selected _ List.mem_cons_self),
        ih fun row member => selected row (List.mem_cons_of_mem _ member)]

end Grows

end RngGamePlatform.Relational
