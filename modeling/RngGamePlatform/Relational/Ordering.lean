/-
Module: RngGamePlatform.Relational.Ordering
Purpose: Ordered queries: ORDER BY over several columns, row numbers in
  partitions, joins, and what they say about the one ranking of the rows.
Trusted boundary: human-reviewed semantics
Main exports: ascending, descending, precedes, orderBy, rowNumbers, join,
  IsRanking, IsRanking.orderBy_eq, exists_ranking, IsRanking.after, firsts,
  IsRanking.join_firsts, IsRanking.join_rank
-/
import Mathlib.Data.List.Nodup
import Mathlib.Data.List.Sort
import Mathlib.Data.List.Dedup

namespace RngGamePlatform.Relational

section Queries

variable {α β π : Type}

/-- A column of an `ORDER BY`, ascending. -/
def ascending [Ord β] (column : α → β) (one other : α) : Ordering :=
  compare (column one) (column other)

/-- A column of an `ORDER BY`, descending. -/
def descending [Ord β] (column : α → β) (one other : α) : Ordering :=
  compare (column other) (column one)

/-- The first column that differs decides. -/
def precedes : List (α → α → Ordering) → α → α → Bool
  | [], _, _ => true
  | column :: columns, one, other =>
      match column one other with
      | .lt => true
      | .gt => false
      | .eq => precedes columns one other

/-- `ORDER BY`. -/
def orderBy (columns : List (α → α → Ordering)) (rows : List α) : List α :=
  rows.insertionSort fun one other => precedes columns one other = true

/-- `row_number() OVER (PARTITION BY … ORDER BY …)`: each row with its number. -/
def rowNumbers [DecidableEq π] (partitionOf : α → π)
    (columns : List (α → α → Ordering)) (rows : List α) : List (α × Nat) :=
  (rows.map partitionOf).dedup.flatMap fun part =>
    (orderBy columns (rows.filter fun row => partitionOf row = part)).zipIdx 1

/-- `JOIN … ON`. -/
def join (on : α → β → Bool) (left : List α) (right : List β) : List (α × β) :=
  left.flatMap fun one => (right.filter (on one)).map fun other => (one, other)

theorem mem_join {on : α → β → Bool} {left : List α} {right : List β} {pair : α × β} :
    pair ∈ join on left right ↔
      pair.1 ∈ left ∧ pair.2 ∈ right ∧ on pair.1 pair.2 = true := by
  rcases pair with ⟨one, other⟩
  simp only [join, List.mem_flatMap, List.mem_map, List.mem_filter, Prod.mk.injEq]
  constructor
  · rintro ⟨a, inLeft, b, ⟨inRight, matched⟩, rfl, rfl⟩
    exact ⟨inLeft, inRight, matched⟩
  · rintro ⟨inLeft, inRight, matched⟩
    exact ⟨one, inLeft, other, ⟨inRight, matched⟩, rfl, rfl⟩

theorem nodup_join {on : α → β → Bool} {left : List α} {right : List β}
    (nodupLeft : left.Nodup) (nodupRight : right.Nodup) : (join on left right).Nodup := by
  rw [join, List.nodup_flatMap]
  constructor
  · intro one _
    apply (nodupRight.filter _).map
    intro a b same
    exact (Prod.mk.inj same).2
  · apply nodupLeft.imp
    intro one other different pair inOne inOther
    obtain ⟨_, _, rfl⟩ := List.mem_map.mp inOne
    obtain ⟨_, _, same⟩ := List.mem_map.mp inOther
    exact different (Prod.mk.inj same).1.symm

end Queries

/-! ### Rankings

A ranking of rows lists them in the order of a key that no two of them share.
-/

section Ranking

variable {α κ π : Type} [LinearOrder κ] (key : α → κ)

/-- The rows in the order of their keys. -/
structure IsRanking (rows board : List α) : Prop where
  perm : board.Perm rows
  increasing : board.Pairwise fun one other => key one < key other

/-- The columns order rows by the key. -/
def Follows (columns : List (α → α → Ordering)) : Prop :=
  ∀ one other, precedes columns one other = true ↔ key one ≤ key other

variable {key} {columns : List (α → α → Ordering)} {rows board : List α}

theorem orderBy_perm (columns : List (α → α → Ordering)) (rows : List α) :
    (orderBy columns rows).Perm rows := List.perm_insertionSort _ rows

/-- Ordering by columns that follow the key sorts by the key. -/
theorem orderBy_pairwise (follows : Follows key columns) (rows : List α) :
    (orderBy columns rows).Pairwise fun one other => key one ≤ key other := by
  have total : Std.Total fun one other => precedes columns one other = true :=
    ⟨fun one other => by
      rw [follows, follows]
      exact le_total _ _⟩
  have transitive : IsTrans α fun one other => precedes columns one other = true :=
    ⟨fun one other third first second => by
      rw [follows] at first second ⊢
      exact le_trans first second⟩
  refine (List.pairwise_insertionSort
    (fun one other => precedes columns one other = true) rows).imp ?_
  intro one other before
  exact (follows one other).mp before

namespace IsRanking

theorem nodup (ranking : IsRanking key rows board) : board.Nodup :=
  ranking.increasing.imp fun before same => absurd (congrArg key same) before.ne

theorem mem_iff (ranking : IsRanking key rows board) {row : α} :
    row ∈ board ↔ row ∈ rows := ranking.perm.mem_iff

/-- No two rows of a ranking share their key. -/
theorem eq_of_key (ranking : IsRanking key rows board) {one other : α}
    (inOne : one ∈ board) (inOther : other ∈ board) (same : key one = key other) :
    one = other := by
  have apart : board.Pairwise fun a b => key a = key b → a = b :=
    ranking.increasing.imp fun before same => absurd same before.ne
  have apart' : board.Pairwise fun a b => key b = key a → b = a :=
    ranking.increasing.imp fun before same => absurd same.symm before.ne
  exact apart.forall_of_forall_of_flip (fun _ _ _ => rfl) apart' inOne inOther same

/-- Rows have one ranking. -/
theorem unique {board' : List α} (ranking : IsRanking key rows board)
    (ranking' : IsRanking key rows board') : board = board' := by
  refine List.Perm.eq_of_pairwise ?_ ranking.increasing ranking'.increasing
    (ranking.perm.trans ranking'.perm.symm)
  intro one other _ _ before after
  exact absurd after before.not_gt

/-- A query that orders by the key lists the ranking. -/
theorem orderBy_eq (ranking : IsRanking key rows board)
    (follows : Follows key columns) : orderBy columns rows = board := by
  refine List.Perm.eq_of_pairwise ?_ (orderBy_pairwise follows rows)
    (ranking.increasing.imp le_of_lt) ((orderBy_perm columns rows).trans ranking.perm.symm)
  intro one other inOne inOther before after
  have inBoard : one ∈ board :=
    ranking.perm.mem_iff.mpr ((orderBy_perm columns rows).mem_iff.mp inOne)
  exact ranking.eq_of_key inBoard inOther (le_antisymm before after)

/-- The ranking of some of the rows. -/
theorem filter (ranking : IsRanking key rows board) (condition : α → Bool) :
    IsRanking key (rows.filter condition) (board.filter condition) :=
  ⟨ranking.perm.filter condition, ranking.increasing.filter condition⟩

/-- The rows behind position `index` are those with a greater key. -/
theorem after (ranking : IsRanking key rows board) {index : Nat} {row : α}
    (found : board[index]? = some row) :
    (board.filter fun other => key row < key other) = board.drop (index + 1) := by
  have increasing := ranking.increasing
  clear ranking
  induction board generalizing index with
  | nil => simp at found
  | cons head tail ih =>
      obtain ⟨first, rest⟩ := List.pairwise_cons.mp increasing
      cases index with
      | zero =>
          cases found
          have kept : tail.filter (fun other => decide (key row < key other)) = tail :=
            List.filter_eq_self.mpr fun other member => by simpa using first other member
          simp [kept]
      | succ index =>
          have inTail : row ∈ tail := List.mem_of_getElem? (by simpa using found)
          have behind := first row inTail
          have notBefore : ¬key row < key head := behind.not_gt
          have dropped := @ih index (by simpa using found) rest
          simpa [notBefore] using dropped

/-- The ranking of more rows lists the old ones in their old order. -/
theorem sublist {news board' : List α} (ranking : IsRanking key rows board)
    (ranking' : IsRanking key (rows ++ news) board') : board.Sublist board' := by
  classical
  have rowsOfAll : (rows ++ news).filter (fun row => decide (row ∈ rows)) = rows := by
    have nodup : (rows ++ news).Nodup := ranking'.perm.nodup_iff.mp ranking'.nodup
    have apart := (List.nodup_append.mp nodup).2.2
    rw [List.filter_append, List.filter_eq_self.mpr (by simp), List.filter_eq_nil_iff.mpr,
      List.append_nil]
    intro row isNew isOld
    exact apart row (of_decide_eq_true isOld) row isNew rfl
  have filtered := ranking'.filter fun row => decide (row ∈ rows)
  rw [rowsOfAll] at filtered
  rw [ranking.unique filtered]
  exact List.filter_sublist

end IsRanking

/-- Rows without a shared key have a ranking. -/
theorem exists_ranking (follows : Follows key columns)
    (apart : (rows.map key).Nodup) : IsRanking key rows (orderBy columns rows) := by
  refine ⟨orderBy_perm columns rows, ?_⟩
  have keys : (orderBy columns rows).Pairwise fun one other => key one ≠ key other := by
    have nodup := (((orderBy_perm columns rows).map key).nodup_iff).mpr apart
    exact List.pairwise_map.mp nodup
  exact ((orderBy_pairwise follows rows).and keys).imp
    fun both => lt_of_le_of_ne both.1 both.2

end Ranking

/-! ### Row numbers in a ranking -/

section Numbers

variable {α ι κ π : Type} [LinearOrder κ] [DecidableEq π] {key : α → κ}
  {columns : List (α → α → Ordering)} {rows board : List α}

/-- The first row of each partition, in order. -/
def firsts (partitionOf : α → π) : List α → List α
  | [] => []
  | row :: rows =>
      row :: (firsts partitionOf rows).filter fun other =>
        partitionOf other ≠ partitionOf row

theorem firsts_sublist (partitionOf : α → π) (rows : List α) :
    (firsts partitionOf rows).Sublist rows := by
  induction rows with
  | nil => exact List.Sublist.refl _
  | cons row rows ih => exact (List.filter_sublist.trans ih).cons_cons row

/-- A row is a first one when it heads its own partition. -/
theorem mem_firsts {partitionOf : α → π} {row : α} :
    row ∈ firsts partitionOf rows ↔
      (rows.filter fun other => partitionOf other = partitionOf row).head? =
        some row := by
  induction rows with
  | nil => simp [firsts]
  | cons head rows ih =>
      rw [firsts, List.mem_cons, List.mem_filter, ih]
      by_cases same : partitionOf head = partitionOf row
      · simp only [List.filter_cons, same, decide_true, if_true, List.head?_cons,
          Option.some.injEq]
        constructor
        · rintro (rfl | ⟨_, differs⟩)
          · rfl
          · simp at differs
        · intro isHead
          exact Or.inl isHead.symm
      · have differs : row ≠ head := fun isHead => same (by rw [isHead])
        have differs' : ¬partitionOf row = partitionOf head := fun equal => same equal.symm
        simp [same, differs, differs']

/-- No two of the firsts share their partition. -/
theorem firsts_apart (partitionOf : α → π) (rows : List α) :
    (firsts partitionOf rows).Pairwise fun one other =>
      partitionOf one ≠ partitionOf other := by
  induction rows with
  | nil => exact List.Pairwise.nil
  | cons row rows ih =>
      refine List.pairwise_cons.mpr ⟨fun other member => ?_, ih.filter _⟩
      have differs := (List.mem_filter.mp member).2
      simp only [ne_eq, decide_not, Bool.not_eq_eq_eq_not, Bool.not_true,
        decide_eq_false_iff_not] at differs
      exact fun same => differs same.symm

/-- The row numbers of a ranking. -/
theorem IsRanking.mem_rowNumbers (ranking : IsRanking key rows board)
    (follows : Follows key columns) {partitionOf : α → π} {numbered : α × Nat} :
    numbered ∈ rowNumbers partitionOf columns rows ↔
      numbered ∈ (board.filter fun other =>
        partitionOf other = partitionOf numbered.1).zipIdx 1 := by
  rcases numbered with ⟨row, number⟩
  simp only [rowNumbers, List.mem_flatMap, List.mem_dedup, List.mem_map,
    (ranking.filter _).orderBy_eq follows]
  constructor
  · rintro ⟨part, _, member⟩
    have inFilter := List.mem_filter.mp (List.fst_mem_of_mem_zipIdx member)
    have isPart : partitionOf row = part := of_decide_eq_true inFilter.2
    rwa [← isPart] at member
  · intro member
    have inFilter := List.mem_filter.mp (List.fst_mem_of_mem_zipIdx member)
    exact ⟨partitionOf row, ⟨row, ranking.mem_iff.mp inFilter.1, rfl⟩, member⟩

theorem nodup_zipIdx (rows : List α) (start : Nat) : (rows.zipIdx start).Nodup := by
  apply List.Nodup.of_map Prod.snd
  rw [List.zipIdx_map_snd]
  exact List.nodup_range'

theorem nodup_rowNumbers (partitionOf : α → π) (columns : List (α → α → Ordering))
    (rows : List α) : (rowNumbers partitionOf columns rows).Nodup := by
  rw [rowNumbers, List.nodup_flatMap]
  constructor
  · exact fun part _ => nodup_zipIdx _ 1
  · apply (List.nodup_dedup _).imp
    intro one other different numbered inOne inOther
    have partOne := (List.mem_filter.mp ((orderBy_perm _ _).mem_iff.mp
      (List.fst_mem_of_mem_zipIdx inOne))).2
    have partOther := (List.mem_filter.mp ((orderBy_perm _ _).mem_iff.mp
      (List.fst_mem_of_mem_zipIdx inOther))).2
    exact different ((of_decide_eq_true partOne).symm.trans (of_decide_eq_true partOther))

/-- A join of a table with numbered rows of its own, on the key of the table. -/
theorem join_self {ident : α → ι} [DecidableEq ι] {table : List α}
    {numbered : List (α × Nat)} (unique : (table.map ident).Nodup)
    (own : ∀ pair ∈ numbered, pair.1 ∈ table) (nodup : numbered.Nodup) :
    (join (fun row pair => ident pair.1 = ident row) table numbered).Perm
      (numbered.map fun pair => (pair.1, pair)) := by
  have nodup' : (numbered.map fun pair => (pair.1, pair)).Nodup :=
    nodup.map fun a b same => (Prod.mk.inj same).2
  rw [List.perm_ext_iff_of_nodup (nodup_join (List.Nodup.of_map _ unique) nodup) nodup']
  rintro ⟨row, pair⟩
  rw [mem_join, List.mem_map]
  constructor
  · rintro ⟨inTable, inNumbered, matched⟩
    have sameId : ident pair.1 = ident row := of_decide_eq_true matched
    have same := List.inj_on_of_nodup_map unique (own pair inNumbered) inTable sameId
    exact ⟨pair, inNumbered, by rw [same]⟩
  · rintro ⟨other, inNumbered, same⟩
    obtain ⟨rfl, rfl⟩ := Prod.mk.inj same
    exact ⟨own other inNumbered, inNumbered, by simp⟩

variable {ident : α → ι} [DecidableEq ι] {table : List α}

/-- The rows with number one in their partition, joined back to the table and
ordered, are the firsts of the ranking. -/
theorem IsRanking.join_firsts (ranking : IsRanking key rows board)
    (follows : Follows key columns) (partitionOf : α → π)
    (unique : (table.map ident).Nodup) (subset : ∀ row ∈ rows, row ∈ table) :
    orderBy columns (((join (fun row pair => ident pair.1 = ident row) table
      (rowNumbers partitionOf columns rows)).filter fun pair => pair.2.2 = 1).map
        Prod.fst) = firsts partitionOf board := by
  have own : ∀ pair ∈ rowNumbers partitionOf columns rows, pair.1 ∈ table := by
    intro pair member
    have inFilter := List.fst_mem_of_mem_zipIdx ((ranking.mem_rowNumbers follows).mp member)
    exact subset _ (ranking.mem_iff.mp (List.mem_filter.mp inFilter).1)
  have joined := join_self unique own (nodup_rowNumbers partitionOf columns rows)
  have listed := (joined.filter fun pair => pair.2.2 = 1).map Prod.fst
  rw [List.filter_map, List.map_map] at listed
  refine IsRanking.orderBy_eq ⟨List.Perm.trans ?_ listed.symm,
    ranking.increasing.sublist (firsts_sublist partitionOf board)⟩ follows
  · apply (List.perm_ext_iff_of_nodup
      (ranking.nodup.sublist (firsts_sublist partitionOf board)) ?_).mpr
    · intro row
      rw [mem_firsts]
      simp only [List.mem_map, List.mem_filter, ranking.mem_rowNumbers follows,
        Function.comp_apply, decide_eq_true_eq]
      constructor
      · intro isHead
        refine ⟨(row, 1), ⟨?_, rfl⟩, rfl⟩
        rw [List.mem_zipIdx_iff_le_and_getElem?_sub]
        simpa [List.head?_eq_getElem?] using isHead
      · rintro ⟨⟨row', number⟩, ⟨member, isOne⟩, rfl⟩
        simp only at isOne member
        subst isOne
        rw [List.mem_zipIdx_iff_le_and_getElem?_sub] at member
        simpa [List.head?_eq_getElem?] using member
    · apply List.Nodup.map_on ?_ ((nodup_rowNumbers partitionOf columns rows).filter _)
      rintro ⟨one, number⟩ inOne ⟨other, number'⟩ inOther same
      have isOne : number = 1 := by simpa using (List.mem_filter.mp inOne).2
      have isOne' : number' = 1 := by simpa using (List.mem_filter.mp inOther).2
      rw [isOne, isOne']
      exact congrArg (fun row => (row, 1)) same

/-- Row numbers without partitions are the positions of the ranking. -/
theorem IsRanking.rowNumbers_all (ranking : IsRanking key rows board)
    (follows : Follows key columns) :
    rowNumbers (fun _ => ()) columns rows = board.zipIdx 1 := by
  have isBoard := ranking.orderBy_eq follows
  cases rows with
  | nil =>
      have empty : board = [] := ranking.perm.eq_nil
      simp [rowNumbers, empty]
  | cons row rows =>
      have parts : ((row :: rows).map fun _ => ()).dedup = [()] := by
        rw [List.map_const', List.length_cons]
        exact List.replicate_dedup (Nat.succ_ne_zero _)
      rw [rowNumbers, parts]
      simp [isBoard]

/-- The numbered rows with a property, joined back to the table and ordered by
their numbers. -/
theorem IsRanking.join_rank (ranking : IsRanking key rows board)
    (follows : Follows key columns) (condition : α → Bool)
    (unique : (table.map ident).Nodup) (subset : ∀ row ∈ rows, row ∈ table) :
    orderBy [ascending fun pair : α × (α × Nat) => pair.2.2]
      ((join (fun row pair => ident pair.1 = ident row) table
        (rowNumbers (fun _ => ()) columns rows)).filter fun pair => condition pair.1) =
      ((board.zipIdx 1).filter fun pair => condition pair.1).map
        fun pair => (pair.1, pair) := by
  rw [ranking.rowNumbers_all follows]
  have own : ∀ pair ∈ board.zipIdx 1, pair.1 ∈ table := fun pair member =>
    subset _ (ranking.mem_iff.mp (List.fst_mem_of_mem_zipIdx member))
  have joined := (join_self unique own (nodup_zipIdx board 1)).filter
    fun pair => condition pair.1
  rw [List.filter_map] at joined
  have follows' : Follows (fun pair : α × (α × Nat) => pair.2.2)
      [ascending fun pair : α × (α × Nat) => pair.2.2] := by
    intro one other
    simp only [precedes, ascending]
    split
    · next isLess => simpa using (Nat.compare_eq_lt.mp isLess).le
    · next isGreater =>
        have above := Nat.compare_eq_gt.mp isGreater
        simp [above]
    · next isSame => simp [Nat.compare_eq_eq.mp isSame]
  refine IsRanking.orderBy_eq ⟨joined.symm, ?_⟩ follows'
  rw [List.pairwise_map]
  apply List.Pairwise.filter
  rw [List.pairwise_iff_getElem]
  intro i j inI inJ before
  simp only [List.getElem_zipIdx]
  omega

end Numbers

end RngGamePlatform.Relational
