/-
Module: RngGamePlatform.Encoding.Collation
Purpose: Texts of fixed width that compare, character by character, as the numbers
  they stand for: padded decimals and UUIDs.
Trusted boundary: none
Main exports: append_lt_append_iff, zeroPadded_lt, uuidStr_lt
-/
import Mathlib.Data.List.Lex
import RngGamePlatform.Encoding.Instants

namespace RngGamePlatform.Encoding

section Fields

variable {α : Type} [LinearOrder α]

/-- Fields of one width decide in order. -/
theorem append_lt_append_iff {a b x y : List α} (sameWidth : a.length = b.length) :
    a ++ x < b ++ y ↔ a < b ∨ a = b ∧ x < y := by
  induction a generalizing b with
  | nil =>
    cases b with
    | nil => simp
    | cons => cases sameWidth
  | cons c a ih =>
    cases b with
    | nil => cases sameWidth
    | cons d b =>
      have sameRest : a.length = b.length := Nat.succ.inj sameWidth
      rw [List.cons_append, List.cons_append, List.cons_lt_cons_iff, List.cons_lt_cons_iff,
        ih sameRest]
      constructor
      · rintro (less | ⟨rfl, less | ⟨rfl, rest⟩⟩)
        · exact .inl (.inl less)
        · exact .inl (.inr ⟨rfl, less⟩)
        · exact .inr ⟨rfl, rest⟩
      · rintro ((less | ⟨rfl, less⟩) | ⟨same, rest⟩)
        · exact .inl less
        · exact .inr ⟨rfl, .inl less⟩
        · cases same
          exact .inr ⟨rfl, .inr ⟨rfl, rest⟩⟩

theorem append_lt_append {a b : List α} (sameWidth : a.length = b.length) (less : a < b)
    (x y : List α) : a ++ x < b ++ y := (append_lt_append_iff sameWidth).mpr (.inl less)

/-- A separator at one place of both texts does not change their order. -/
theorem separated_lt {a b : List α} (separator : α) (width : Nat)
    (sameLength : a.length = b.length) {f : List α → List α}
    (rest : a.drop width < b.drop width → f (a.drop width) < f (b.drop width))
    (less : a < b) :
    a.take width ++ separator :: f (a.drop width) <
      b.take width ++ separator :: f (b.drop width) := by
  have sameWidth : (a.take width).length = (b.take width).length := by
    rw [List.length_take, List.length_take, sameLength]
  rw [append_lt_append_iff sameWidth, List.cons_lt_cons_iff]
  have parts := less
  rw [← List.take_append_drop width a, ← List.take_append_drop width b,
    append_lt_append_iff sameWidth] at parts
  rcases parts with first | ⟨same, later⟩
  · exact .inl first
  · exact .inr ⟨same, .inr ⟨rfl, rest later⟩⟩

end Fields

section Numbers

variable {base : Nat} {value : CodePoint → Nat}

/-- The number of digits in a base, the most significant first, after `total`. -/
def valueAfter (base : Nat) (value : CodePoint → Nat) (total : Nat) (text : PyStr) : Nat :=
  text.foldl (fun total c => base * total + value c) total

/-- Texts of one width compare as their numbers, when their characters do. -/
theorem valueAfter_lt {one other : PyStr} (sameWidth : one.length = other.length)
    (small : ∀ c, c ∈ one ∨ c ∈ other → value c < base)
    (ordered : ∀ c ∈ one, ∀ d ∈ other, c < d ↔ value c < value d)
    (apart : ∀ c ∈ one, ∀ d ∈ other, value c = value d → c = d) (total total' : Nat) :
    valueAfter base value total one < valueAfter base value total' other ↔
      total < total' ∨ total = total' ∧ one < other := by
  induction one generalizing other total total' with
  | nil =>
    cases other with
    | nil => simp [valueAfter]
    | cons => cases sameWidth
  | cons c one ih =>
    cases other with
    | nil => cases sameWidth
    | cons d other =>
      have smallC := small c (.inl List.mem_cons_self)
      have smallD := small d (.inr List.mem_cons_self)
      have order := ordered c List.mem_cons_self d List.mem_cons_self
      have same := apart c List.mem_cons_self d List.mem_cons_self
      have rest := @ih other (Nat.succ.inj sameWidth)
        (fun e inRest => small e (inRest.imp (List.mem_cons_of_mem _) (List.mem_cons_of_mem _)))
        (fun e inOne f inOther => ordered e (List.mem_cons_of_mem _ inOne) f
          (List.mem_cons_of_mem _ inOther))
        (fun e inOne f inOther => apart e (List.mem_cons_of_mem _ inOne) f
          (List.mem_cons_of_mem _ inOther)) (base * total + value c) (base * total' + value d)
      simp only [valueAfter, List.foldl_cons] at rest ⊢
      rw [rest, List.cons_lt_cons_iff, order]
      rcases Nat.lt_trichotomy total total' with less | rfl | more
      · have bound : base * total + base ≤ base * total' := by
          rw [← Nat.mul_succ]
          exact Nat.mul_le_mul_left base less
        have before : base * total + value c < base * total' + value d := by omega
        simp only [less, before, true_or]
      · simp only [Nat.add_lt_add_iff_left, Nat.add_left_cancel_iff, lt_irrefl, false_or,
          true_and]
        constructor
        · rintro (lower | ⟨equal, later⟩)
          · exact .inl lower
          · exact .inr ⟨same equal, later⟩
        · rintro (lower | ⟨rfl, later⟩)
          · exact .inl lower
          · exact .inr ⟨rfl, later⟩
      · have bound : base * total' + base ≤ base * total := by
          rw [← Nat.mul_succ]
          exact Nat.mul_le_mul_left base more
        have notBefore : ¬base * total + value c < base * total' + value d := by omega
        have notSame : base * total + value c ≠ base * total' + value d := by omega
        simp only [notBefore, notSame, false_and, more.not_gt, more.ne', or_self]

/-- The value of a hexadecimal digit; a decimal one has the same. -/
def nibble (c : CodePoint) : Nat := (hexValue c).getD 0

theorem nibble_digit {d : Nat} (small : d < 16) : nibble (digit d) = d := by
  rw [nibble, hexValue_digit small]
  rfl

theorem digit_lt {d e : Nat} (smallD : d < 16) (smallE : e < 16) :
    digit d < digit e ↔ d < e := by
  have checked : ∀ d e : Fin 16, digit d.val < digit e.val ↔ d.val < e.val := by decide
  exact checked ⟨d, smallD⟩ ⟨e, smallE⟩

/-- Digits of one width compare as their numbers. -/
theorem digits_lt {ds es : List Nat} (base : Nat) (hexadecimal : base ≤ 16)
    (sameWidth : ds.length = es.length) (small : ∀ d, d ∈ ds ∨ d ∈ es → d < base) :
    ds.map digit < es.map digit ↔
      valueAfter base nibble 0 (ds.map digit) < valueAfter base nibble 0 (es.map digit) := by
  have below : ∀ d, d ∈ ds ∨ d ∈ es → d < 16 := fun d member =>
    (small d member).trans_le hexadecimal
  rw [valueAfter_lt]
  · simp
  · rw [List.length_map, List.length_map, sameWidth]
  · intro c member
    have digits : ∃ d, (d ∈ ds ∨ d ∈ es) ∧ digit d = c := by
      rcases member with inOne | inOther
      · obtain ⟨d, inDigits, isDigit⟩ := List.mem_map.mp inOne
        exact ⟨d, .inl inDigits, isDigit⟩
      · obtain ⟨d, inDigits, isDigit⟩ := List.mem_map.mp inOther
        exact ⟨d, .inr inDigits, isDigit⟩
    obtain ⟨d, inDigits, rfl⟩ := digits
    rw [nibble_digit (below d inDigits)]
    exact small d inDigits
  · intro c inOne e inOther
    obtain ⟨d, inDigits, rfl⟩ := List.mem_map.mp inOne
    obtain ⟨d', inDigits', rfl⟩ := List.mem_map.mp inOther
    rw [nibble_digit (below d (.inl inDigits)), nibble_digit (below d' (.inr inDigits'))]
    exact digit_lt (below d (.inl inDigits)) (below d' (.inr inDigits'))
  · intro c inOne e inOther same
    obtain ⟨d, inDigits, rfl⟩ := List.mem_map.mp inOne
    obtain ⟨d', inDigits', rfl⟩ := List.mem_map.mp inOther
    rw [nibble_digit (below d (.inl inDigits)), nibble_digit (below d' (.inr inDigits'))]
      at same
    rw [same]

end Numbers

section Padded

/-- The digits of a number after zeros. -/
theorem padded_digits (count n : Nat) :
    ∃ ds : List Nat, List.replicate count (digit 0) ++ decimalNat n = ds.map digit ∧
      ds ≠ [] ∧ (∀ d ∈ ds, d < 10) ∧ valueAfter 10 nibble 0 (ds.map digit) = n := by
  obtain ⟨digits, isText, notEmpty, small, isValue⟩ := decimalNat_digits n
  refine ⟨List.replicate count 0 ++ digits.reverse, ?_, ?_, ?_, ?_⟩
  · rw [List.map_append, List.map_replicate, isText]
  · simp [notEmpty]
  · intro d member
    cases List.mem_append.mp member with
    | inl zero =>
      rw [List.eq_of_mem_replicate zero]
      decide
    | inr inDigits => exact small d (List.mem_reverse.mp inDigits)
  · have zeros : ∀ count, valueAfter 10 nibble 0 (List.replicate count (digit 0)) = 0 := by
      intro count
      induction count with
      | zero => rfl
      | succ count ih =>
        rw [List.replicate_succ, valueAfter, List.foldl_cons]
        exact ih
    have value : valueAfter 10 nibble 0 (digits.reverse.map digit) = n := by
      rw [← isValue, valueAfter, List.map_reverse, List.foldl_reverse]
      clear isValue isText notEmpty
      induction digits with
      | nil => rfl
      | cons d digits ih =>
        have smallRest : ∀ e ∈ digits, e < 10 := fun e member =>
          small e (List.mem_cons_of_mem _ member)
        have smallHere := small d List.mem_cons_self
        rw [List.map_cons, List.foldr_cons, ih smallRest, nibble_digit (by omega),
          Nat.ofDigits_cons]
        exact Nat.add_comm _ _
    rw [List.map_append, List.map_replicate]
    simp only [valueAfter, List.foldl_append] at zeros value ⊢
    rw [zeros, value]

theorem zeroPadded_nonneg {width : Nat} {i : Int} (nonneg : 0 ≤ i) :
    zeroPadded width i =
      List.replicate (width - (decimalNat i.natAbs).length) (digit 0) ++
        decimalNat i.natAbs := by
  rw [zeroPadded, if_neg (by omega)]

/-- Numbers padded to one width compare as their texts. -/
theorem zeroPadded_lt {width : Nat} {one other : Int} (positive : 0 < width)
    (nonneg : 0 ≤ one) (less : one < other) (small : other < 10 ^ width) :
    zeroPadded width one < zeroPadded width other := by
  obtain ⟨ds, isOne, -, smallDs, valueDs⟩ := padded_digits
    (width - (decimalNat one.natAbs).length) one.natAbs
  obtain ⟨es, isOther, -, smallEs, valueEs⟩ := padded_digits
    (width - (decimalNat other.natAbs).length) other.natAbs
  rw [← zeroPadded_nonneg nonneg] at isOne
  rw [← zeroPadded_nonneg (nonneg.trans less.le)] at isOther
  have lengthOne := length_zeroPadded positive nonneg (less.trans small)
  have lengthOther := length_zeroPadded positive (nonneg.trans less.le) small
  rw [isOne, List.length_map] at lengthOne
  rw [isOther, List.length_map] at lengthOther
  rw [isOne, isOther, digits_lt 10 (by decide) (lengthOne.trans lengthOther.symm), valueDs,
    valueEs]
  · omega
  · rintro d (inOne | inOther)
    · exact smallDs d inOne
    · exact smallEs d inOther

end Padded

section Identifiers

/-- The hexadecimal digits of a number, `count` of them. -/
theorem valueAfter_hexDigits (n count total : Nat) :
    valueAfter 16 nibble total
        ((List.range count).map fun position => digit (n / 16 ^ (count - 1 - position) % 16)) =
      16 ^ count * total + n % 16 ^ count := by
  induction count generalizing total with
  | zero => simp [valueAfter, Nat.mod_one]
  | succ count ih =>
    have later : ∀ position, count + 1 - 1 - (position + 1) = count - 1 - position := by
      intro position
      omega
    rw [List.range_succ_eq_map, List.map_cons, List.map_map]
    simp only [valueAfter, List.foldl_cons] at ih ⊢
    have rest : ((fun position => digit (n / 16 ^ (count + 1 - 1 - position) % 16)) ∘
        Nat.succ) = fun position => digit (n / 16 ^ (count - 1 - position) % 16) := by
      funext position
      rw [Function.comp_apply, Nat.succ_eq_add_one, later]
    rw [rest, ih, nibble_digit (Nat.mod_lt _ (by decide)), Nat.mod_pow_succ, Nat.pow_succ]
    simp only [Nat.add_sub_cancel, Nat.sub_zero]
    ring

theorem valueAfter_uuidHex (id : Uuid) : valueAfter 16 nibble 0 (uuidHex id) = id.toNat := by
  rw [uuidHex, valueAfter_hexDigits id.toNat 32 0, Nat.mul_zero, Nat.zero_add,
    Nat.mod_eq_of_lt]
  have bound := id.isLt
  norm_num at bound ⊢
  exact bound

/-- UUIDs compare as their hexadecimal digits. -/
theorem uuidHex_lt {one other : Uuid} (less : one.toNat < other.toNat) :
    uuidHex one < uuidHex other := by
  have digits : ∀ id : Uuid, uuidHex id = ((List.range 32).map fun position =>
      id.toNat / 16 ^ (31 - position) % 16).map digit := by
    intro id
    rw [List.map_map]
    rfl
  rw [digits one, digits other, digits_lt 16 (le_refl _), ← digits, ← digits,
    valueAfter_uuidHex, valueAfter_uuidHex]
  · exact less
  · simp
  · rintro d (inOne | inOther)
    · obtain ⟨_, -, rfl⟩ := List.mem_map.mp inOne
      exact Nat.mod_lt _ (by decide)
    · obtain ⟨_, -, rfl⟩ := List.mem_map.mp inOther
      exact Nat.mod_lt _ (by decide)

theorem length_uuidHex (id : Uuid) : (uuidHex id).length = 32 := by
  rw [uuidHex, List.length_map, List.length_range]

/-- The text of a UUID: its digits with hyphens after the first eight and after every
four of the next twelve. -/
theorem uuidStr_eq (id : Uuid) :
    uuidStr id = (uuidHex id).take 8 ++ codePoint '-' :: (((uuidHex id).drop 8).take 4 ++
      codePoint '-' :: ((((uuidHex id).drop 8).drop 4).take 4 ++
        codePoint '-' :: (((((uuidHex id).drop 8).drop 4).drop 4).take 4 ++
          codePoint '-' :: ((((uuidHex id).drop 8).drop 4).drop 4).drop 4))) := by
  simp only [uuidStr, List.drop_drop, List.append_assoc, List.cons_append]

theorem length_uuidStr (id : Uuid) : (uuidStr id).length = 36 := by
  rw [uuidStr_eq]
  simp [length_uuidHex]

/-- The text of a UUID compares as the UUID, byte by byte. -/
theorem uuidStr_lt {one other : Uuid} (less : one.toNat < other.toNat) :
    uuidStr one < uuidStr other := by
  have sameLength : ∀ count, ((uuidHex one).drop count).length =
      ((uuidHex other).drop count).length := by
    intro count
    rw [List.length_drop, List.length_drop, length_uuidHex, length_uuidHex]
  rw [uuidStr_eq, uuidStr_eq]
  -- one separator after the other, from the left
  apply separated_lt (f := fun rest => rest.take 4 ++ codePoint '-' ::
    ((rest.drop 4).take 4 ++ codePoint '-' :: (((rest.drop 4).drop 4).take 4 ++
      codePoint '-' :: ((rest.drop 4).drop 4).drop 4))) _ 8 (sameLength 0) ?_
    (uuidHex_lt less)
  intro lessAfterFirst
  apply separated_lt (f := fun rest => rest.take 4 ++ codePoint '-' ::
    ((rest.drop 4).take 4 ++ codePoint '-' :: (rest.drop 4).drop 4)) _ 4 (sameLength 8) ?_
    lessAfterFirst
  intro lessAfterSecond
  have sameThird : (((uuidHex one).drop 8).drop 4).length =
      (((uuidHex other).drop 8).drop 4).length := by
    rw [List.drop_drop, List.drop_drop]
    exact sameLength _
  apply separated_lt (f := fun rest => rest.take 4 ++ codePoint '-' :: rest.drop 4) _ 4
    sameThird ?_ lessAfterSecond
  intro lessAfterThird
  have sameFourth : ((((uuidHex one).drop 8).drop 4).drop 4).length =
      ((((uuidHex other).drop 8).drop 4).drop 4).length := by
    rw [List.drop_drop, List.drop_drop, List.drop_drop, List.drop_drop]
    exact sameLength _
  exact separated_lt (f := id) _ 4 sameFourth id lessAfterThird

end Identifiers

end RngGamePlatform.Encoding
