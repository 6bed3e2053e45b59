/-
Module: RngGamePlatform.Encoding.Rounding
Purpose: What correctly rounded binary64 quotients and products are.
Trusted boundary: none
Main exports: le_roundHalfEven_iff, roundHalfEven_le_iff, ofQuotient_eq, times_eq,
  nearestTimes_eq, trunc_ofQuotient_small, trunc_ofQuotient_large
-/
import Mathlib.Tactic.Ring
import RngGamePlatform.Encoding.Binary64

namespace RngGamePlatform.Encoding.Binary64

/-! ### The nearest integer -/

section Nearest

variable {n d q : Nat}

/-- A quotient rounds to at least `q` from the half below `q` on; at that half, if `q` is
even. -/
theorem le_roundHalfEven_iff (positive : 0 < d) : q ≤ roundHalfEven n d ↔
    2 * (q * d) < 2 * n + d ∨ 2 * (q * d) = 2 * n + d ∧ q % 2 = 0 := by
  have parts : n / d * d + n % d = n := Nat.div_add_mod' n d
  have small := Nat.mod_lt n positive
  unfold roundHalfEven
  simp only
  generalize n / d = low at *
  generalize n % d = rest at *
  rcases Nat.lt_trichotomy q (low + 1) with below | isNext | above
  · have product : q * d ≤ low * d := Nat.mul_le_mul_right d (by omega)
    split <;> try split <;> try split
    all_goals omega
  · have product : q * d = low * d + d := by rw [isNext, Nat.succ_mul]
    split <;> try split <;> try split
    all_goals omega
  · have product : (low + 2) * d ≤ q * d := Nat.mul_le_mul_right d above
    have expanded : (low + 2) * d = low * d + 2 * d := Nat.add_mul low 2 d
    split <;> try split <;> try split
    all_goals omega

/-- A quotient rounds to at most `q` up to the half above `q`; at that half, if `q` is
even. -/
theorem roundHalfEven_le_iff (positive : 0 < d) : roundHalfEven n d ≤ q ↔
    2 * n < 2 * (q * d) + d ∨ 2 * n = 2 * (q * d) + d ∧ q % 2 = 0 := by
  have above : q + 1 ≤ roundHalfEven n d ↔
      2 * ((q + 1) * d) < 2 * n + d ∨ 2 * ((q + 1) * d) = 2 * n + d ∧ (q + 1) % 2 = 0 :=
    le_roundHalfEven_iff positive
  have product : (q + 1) * d = q * d + d := Nat.succ_mul q d
  rw [product] at above
  omega

/-- Rounding depends on the quotient alone. -/
theorem roundHalfEven_mul {c : Nat} (positive : 0 < c) :
    roundHalfEven (n * c) (d * c) = roundHalfEven n d := by
  have rest : n * c % (d * c) = n % d * c := Nat.mul_mod_mul_right c n d
  have double : 2 * (n % d * c) = 2 * (n % d) * c := (Nat.mul_assoc 2 _ c).symm
  unfold roundHalfEven
  simp only [Nat.mul_div_mul_right n d positive, rest, double, Nat.mul_lt_mul_right positive]

/-- A quotient that rounds to a multiple of `c` also rounds there in steps of `c`. -/
theorem roundHalfEven_multiple {c : Nat} (positive : 0 < d) (nonzero : 0 < c)
    (rounded : roundHalfEven n d = q) (divides : c ∣ q) :
    roundHalfEven n (d * c) * c = q := by
  obtain ⟨parts, rfl⟩ := divides
  have lower := (le_roundHalfEven_iff positive).mp (Nat.le_of_eq rounded.symm)
  have upper := (roundHalfEven_le_iff positive).mp (Nat.le_of_eq rounded)
  have product : parts * (d * c) = c * parts * d := by ring
  have isParts : roundHalfEven n (d * c) = parts := by
    have scaled : 0 < d * c := Nat.mul_pos positive nonzero
    rw [Nat.le_antisymm_iff, roundHalfEven_le_iff scaled, le_roundHalfEven_iff scaled, product]
    rcases Nat.lt_or_ge 1 c with wide | narrow
    · have wider : d * 2 ≤ d * c := Nat.mul_le_mul_left d wide
      omega
    · have isOne : c = 1 := by omega
      simp only [isOne, Nat.mul_one, Nat.one_mul] at *
      omega
  rw [isParts, Nat.mul_comm]

/-- The integer part of a quotient that is rounded with some places after its point: it
is `q` when the quotient is not below `q` by more than half of the last place, and above
it by half of one at most. -/
theorem floor_roundHalfEven {step slack : Nat} (positive : 0 < step)
    (isDivisor : d = 2 * (2 * step) * slack) (nonzero : 0 < d)
    (upper : 2 * n ≤ 2 * (q * d) + d) :
    roundHalfEven (n * (2 * step)) d / (2 * step) = q ↔ q * d ≤ n + slack := by
  have wide : 0 < 2 * step := by omega
  have expanded : (q + 1) * (2 * step) = q * (2 * step) + 2 * step := Nat.succ_mul _ _
  have above : roundHalfEven (n * (2 * step)) d < (q + 1) * (2 * step) := by
    have atMost : roundHalfEven (n * (2 * step)) d ≤ q * (2 * step) + step := by
      rw [roundHalfEven_le_iff nonzero]
      left
      have scaled := Nat.mul_le_mul_left (2 * step) upper
      have left : 2 * step * (2 * n) = 2 * (n * (2 * step)) := by ring
      have right : 2 * step * (2 * (q * d) + d) = 2 * ((q * (2 * step) + step) * d) := by ring
      omega
    omega
  have even : q * (2 * step) % 2 = 0 := by
    rw [Nat.mul_left_comm]
    exact Nat.mul_mod_right 2 _
  have below : q * (2 * step) ≤ roundHalfEven (n * (2 * step)) d ↔ q * d ≤ n + slack := by
    have left : 2 * (q * (2 * step) * d) = 2 * (2 * step) * (q * d) := by ring
    have right : 2 * (n * (2 * step)) + d = 2 * (2 * step) * (n + slack) := by
      rw [isDivisor]
      ring
    rw [le_roundHalfEven_iff nonzero, left, right, ← Nat.mul_le_mul_left_iff
      (Nat.mul_pos Nat.two_pos wide : 0 < 2 * (2 * step))]
    simp only [even, and_true]
    exact (Nat.le_iff_lt_or_eq).symm
  rw [Nat.div_eq_iff wide, ← below]
  omega

end Nearest

/-! ### Quotients -/

section Quotients

variable {n d a b : Nat}

/-- The powers of two exponents, up to a common factor. -/
theorem exponent_parts (a b : Nat) : ∃ c, 0 < c ∧
    2 ^ a = 2 ^ (-(b - a : Int)).toNat * c ∧ 2 ^ b = 2 ^ (b - a : Int).toNat * c := by
  have left : (-(b - a : Int)).toNat + min a b = a := by omega
  have right : (b - a : Int).toNat + min a b = b := by omega
  refine ⟨2 ^ min a b, Nat.two_pow_pos _, ?_, ?_⟩
  · rw [← Nat.pow_add, left]
  · rw [← Nat.pow_add, right]

theorem roundAt_eq : roundAt n d (b - a : Int) =
    ⟨roundHalfEven (n * 2 ^ a) (d * 2 ^ b), b - a⟩ := by
  obtain ⟨c, positive, isLeft, isRight⟩ := exponent_parts a b
  rw [isLeft, isRight, ← Nat.mul_assoc, ← Nat.mul_assoc, roundHalfEven_mul positive]
  unfold roundAt
  simp only [mk.injEq, and_true]
  split
  · next nonnegative =>
      rw [Int.toNat_eq_zero.mpr (by omega : -(b - a : Int) ≤ 0), Nat.pow_zero, Nat.mul_one]
  · next negative =>
      rw [Int.toNat_eq_zero.mpr (by omega : (b - a : Int) ≤ 0), Nat.pow_zero, Nat.mul_one]

theorem fills_iff : fills n d (b - a : Int) = true ↔ 2 ^ 52 * (d * 2 ^ b) ≤ n * 2 ^ a := by
  obtain ⟨c, positive, isLeft, isRight⟩ := exponent_parts a b
  rw [isLeft, isRight, ← Nat.mul_assoc n, ← Nat.mul_assoc d, ← Nat.mul_assoc (2 ^ 52),
    Nat.mul_le_mul_right_iff positive]
  unfold fills
  split
  · next nonnegative =>
      rw [Int.toNat_eq_zero.mpr (by omega : -(b - a : Int) ≤ 0), Nat.pow_zero, Nat.mul_one,
        decide_eq_true_iff]
  · next negative =>
      rw [Int.toNat_eq_zero.mpr (by omega : (b - a : Int) ≤ 0), Nat.pow_zero, Nat.mul_one,
        decide_eq_true_iff]

/-- A quotient is rounded at the exponent that leaves 53 bits before the point. -/
theorem ofQuotient_eq (positive : 0 < d) (low : 2 ^ 52 * (d * 2 ^ b) ≤ n * 2 ^ a)
    (high : n * 2 ^ a < 2 ^ 53 * (d * 2 ^ b)) :
    ofQuotient n d = ⟨roundHalfEven (n * 2 ^ a) (d * 2 ^ b), b - a⟩ := by
  have nonzero : n ≠ 0 := by
    rintro rfl
    have : 0 < 2 ^ 52 * (d * 2 ^ b) :=
      Nat.mul_pos (Nat.two_pow_pos 52) (Nat.mul_pos positive (Nat.two_pow_pos b))
    omega
  have lowN := Nat.log2_self_le nonzero
  have highN := @Nat.lt_log2_self n
  have lowD := Nat.log2_self_le (Nat.pos_iff_ne_zero.mp positive)
  have highD := @Nat.lt_log2_self d
  -- The exponent is the guess or the one below it.
  have atMost : 52 + d.log2 + b < n.log2 + 1 + a := by
    apply (Nat.pow_lt_pow_iff_right (by decide : 1 < 2)).mp
    calc 2 ^ (52 + d.log2 + b) = 2 ^ 52 * (2 ^ d.log2 * 2 ^ b) := by ring
      _ ≤ 2 ^ 52 * (d * 2 ^ b) := Nat.mul_le_mul_left _ (Nat.mul_le_mul_right _ lowD)
      _ ≤ n * 2 ^ a := low
      _ < 2 ^ (n.log2 + 1) * 2 ^ a := Nat.mul_lt_mul_of_pos_right highN (Nat.two_pow_pos a)
      _ = 2 ^ (n.log2 + 1 + a) := (Nat.pow_add 2 _ a).symm
  have atLeast : n.log2 + a < 53 + (d.log2 + 1) + b := by
    apply (Nat.pow_lt_pow_iff_right (by decide : 1 < 2)).mp
    calc 2 ^ (n.log2 + a) = 2 ^ n.log2 * 2 ^ a := Nat.pow_add 2 _ a
      _ ≤ n * 2 ^ a := Nat.mul_le_mul_right _ lowN
      _ < 2 ^ 53 * (d * 2 ^ b) := high
      _ ≤ 2 ^ 53 * (2 ^ (d.log2 + 1) * 2 ^ b) :=
          Nat.mul_le_mul_left _ (Nat.mul_le_mul_right _ (Nat.le_of_lt highD))
      _ = 2 ^ (53 + (d.log2 + 1) + b) := by ring
  unfold ofQuotient
  rw [if_neg nonzero]
  simp only
  by_cases isGuess : ((n.log2 : Int) - d.log2 - 52) = b - a
  · rw [isGuess, if_pos (fills_iff.mpr low), roundAt_eq]
  · have isBelow : ((n.log2 : Int) - d.log2 - 52) = ((b + 1 : Nat) : Int) - a := by omega
    have notFilled : ¬fills n d (((b + 1 : Nat) : Int) - a) = true := by
      rw [fills_iff]
      have double : 2 ^ 52 * (d * 2 ^ (b + 1)) = 2 ^ 53 * (d * 2 ^ b) := by ring
      omega
    have isExponent : ((b + 1 : Nat) : Int) - a - 1 = b - a := by omega
    rw [isBelow, if_neg notFilled, isExponent, roundAt_eq]

end Quotients

/-! ### Products and integers -/

section Products

variable {m c k y g : Nat}

theorem times_eq (m c k : Nat) :
    times ⟨m, ((0 : Nat) : Int) - k⟩ c = ofQuotient (m * c) (2 ^ k) := by
  unfold times
  split
  · next nonnegative =>
      have isZero : k = 0 := by
        simp only at nonnegative
        omega
      rw [isZero]
      simp
  · next negative => simp

theorem nearestTimes_eq (m c k : Nat) :
    nearestTimes ⟨m, ((0 : Nat) : Int) - k⟩ c = roundHalfEven (m * c) (2 ^ k) := by
  unfold nearestTimes
  split
  · next nonnegative =>
      have isZero : k = 0 := by
        simp only at nonnegative
        omega
      rw [isZero]
      simp [roundHalfEven, Nat.mod_one]
  · next negative => simp

theorem trunc_eq (m a b : Nat) : trunc ⟨m, (b - a : Int)⟩ = m * 2 ^ b / 2 ^ a := by
  obtain ⟨c, positive, isLeft, isRight⟩ := exponent_parts a b
  rw [isLeft, isRight, ← Nat.mul_assoc, Nat.mul_div_mul_right _ _ positive]
  unfold trunc
  split
  · next nonnegative =>
      simp only at nonnegative
      rw [Int.toNat_eq_zero.mpr (by omega : -(b - a : Int) ≤ 0), Nat.pow_zero, Nat.div_one]
  · next negative =>
      simp only at negative
      rw [Int.toNat_eq_zero.mpr (by omega : (b - a : Int) ≤ 0), Nat.pow_zero, Nat.mul_one]

/-- The integer part of a number below `2 ^ 53`, which keeps places after the point. -/
theorem trunc_ofQuotient_small (small : g ≤ 53) (low : 2 ^ g * 2 ^ k ≤ 2 * y)
    (high : y < 2 ^ g * 2 ^ k) : (ofQuotient y (2 ^ k)).trunc =
      roundHalfEven (y * 2 ^ (53 - g)) (2 ^ k) / 2 ^ (53 - g) := by
  have power : 2 ^ (53 - g) * 2 ^ g = 2 ^ 53 := by rw [← Nat.pow_add, Nat.sub_add_cancel small]
  have lower : 2 ^ 52 * (2 ^ k * 2 ^ 0) ≤ y * 2 ^ (53 - g) := by
    apply Nat.le_of_mul_le_mul_left _ (by decide : 0 < 2)
    calc 2 * (2 ^ 52 * (2 ^ k * 2 ^ 0)) = 2 ^ 53 * 2 ^ k := by ring
      _ = 2 ^ (53 - g) * (2 ^ g * 2 ^ k) := by rw [← power, Nat.mul_assoc]
      _ ≤ 2 ^ (53 - g) * (2 * y) := Nat.mul_le_mul_left _ low
      _ = 2 * (y * 2 ^ (53 - g)) := by ring
  have upper : y * 2 ^ (53 - g) < 2 ^ 53 * (2 ^ k * 2 ^ 0) := by
    calc y * 2 ^ (53 - g) < 2 ^ g * 2 ^ k * 2 ^ (53 - g) :=
          Nat.mul_lt_mul_of_pos_right high (Nat.two_pow_pos _)
      _ = 2 ^ (53 - g) * 2 ^ g * 2 ^ k := by ring
      _ = 2 ^ 53 * (2 ^ k * 2 ^ 0) := by rw [power]; ring
  rw [ofQuotient_eq (Nat.two_pow_pos k) lower upper, trunc_eq, Nat.pow_zero, Nat.mul_one,
    Nat.mul_one]

/-- A number from `2 ^ 52` on is rounded to a multiple of a power of two. -/
theorem trunc_ofQuotient_large (large : 53 ≤ g) (low : 2 ^ g * 2 ^ k ≤ 2 * y)
    (high : y < 2 ^ g * 2 ^ k) : (ofQuotient y (2 ^ k)).trunc =
      roundHalfEven y (2 ^ k * 2 ^ (g - 53)) * 2 ^ (g - 53) := by
  have power : 2 ^ 53 * 2 ^ (g - 53) = 2 ^ g := by rw [← Nat.pow_add, Nat.add_sub_cancel' large]
  have lower : 2 ^ 52 * (2 ^ k * 2 ^ (g - 53)) ≤ y * 2 ^ 0 := by
    apply Nat.le_of_mul_le_mul_left _ (by decide : 0 < 2)
    calc 2 * (2 ^ 52 * (2 ^ k * 2 ^ (g - 53))) = 2 ^ 53 * 2 ^ (g - 53) * 2 ^ k := by ring
      _ ≤ 2 * y := by rwa [power]
      _ = 2 * (y * 2 ^ 0) := by ring
  have upper : y * 2 ^ 0 < 2 ^ 53 * (2 ^ k * 2 ^ (g - 53)) := by
    calc y * 2 ^ 0 < 2 ^ g * 2 ^ k := by rwa [Nat.pow_zero, Nat.mul_one]
      _ = 2 ^ 53 * (2 ^ k * 2 ^ (g - 53)) := by rw [← power]; ring
  rw [ofQuotient_eq (Nat.two_pow_pos k) lower upper, trunc_eq, Nat.pow_zero, Nat.mul_one,
    Nat.div_one]

end Products

end RngGamePlatform.Encoding.Binary64
