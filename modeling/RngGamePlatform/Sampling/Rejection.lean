/-
Module: RngGamePlatform.Sampling.Rejection
Purpose: Counting the draws of rejection sampling: which raw values are accepted
  and how many of them fall on each residue.
Trusted boundary: none
Main exports: acceptanceLimit, acceptanceLimit_eq, lt_acceptanceLimit_add,
  card_residue, card_residues
-/
import Mathlib.Algebra.Order.BigOperators.Group.Finset
import Mathlib.Data.Finset.Card

namespace RngGamePlatform.Sampling

/-!
A raw value below `size` is accepted when it is below the largest multiple of
`modulus`.  Among the accepted values every residue occurs equally often.
-/

/-- The largest multiple of `modulus` that is not above `size`. -/
def acceptanceLimit (size modulus : Nat) : Nat := size - size % modulus

theorem acceptanceLimit_eq (size modulus : Nat) :
    acceptanceLimit size modulus = modulus * (size / modulus) := by
  have whole := Nat.div_add_mod size modulus
  unfold acceptanceLimit
  omega

/-- Less than one modulus is rejected. -/
theorem lt_acceptanceLimit_add {size modulus : Nat} (positive : 0 < modulus) :
    size < acceptanceLimit size modulus + modulus := by
  have bound := Nat.mod_lt size positive
  unfold acceptanceLimit
  omega

theorem acceptanceLimit_le (size modulus : Nat) :
    acceptanceLimit size modulus ≤ size := Nat.sub_le _ _

theorem quotient_pos {size modulus : Nat} (positive : 0 < modulus)
    (fits : modulus ≤ size) : 0 < size / modulus := Nat.div_pos fits positive

/-- The values below a multiple of `modulus` with one residue. -/
theorem card_residue {modulus residue : Nat} (count : Nat)
    (small : residue < modulus) :
    ((Finset.range (modulus * count)).filter
      fun value => value % modulus = residue).card = count := by
  have listed : (Finset.range (modulus * count)).filter
      (fun value => value % modulus = residue) =
        (Finset.range count).image fun turn => modulus * turn + residue := by
    ext value
    simp only [Finset.mem_filter, Finset.mem_range, Finset.mem_image]
    constructor
    · rintro ⟨below, isResidue⟩
      refine ⟨value / modulus, ?_, ?_⟩
      · exact Nat.div_lt_of_lt_mul below
      · rw [← isResidue]
        exact Nat.div_add_mod value modulus
    · rintro ⟨turn, below, rfl⟩
      constructor
      · calc modulus * turn + residue < modulus * turn + modulus := by omega
          _ = modulus * (turn + 1) := rfl
          _ ≤ modulus * count := Nat.mul_le_mul_left modulus below
      · rw [Nat.mul_add_mod, Nat.mod_eq_of_lt small]
  rw [listed, Finset.card_image_of_injective, Finset.card_range]
  intro one other same
  have positive : 0 < modulus := Nat.zero_lt_of_lt small
  have products : modulus * one = modulus * other := Nat.add_right_cancel same
  exact Nat.eq_of_mul_eq_mul_left positive products

/-- The values below a multiple of `modulus` whose residue is one of several. -/
theorem card_residues {modulus : Nat} (count : Nat) {residues : Finset Nat}
    (small : ∀ residue ∈ residues, residue < modulus) :
    ((Finset.range (modulus * count)).filter
      fun value => value % modulus ∈ residues).card = residues.card * count := by
  have fibers := Finset.card_eq_sum_card_fiberwise
    (s := (Finset.range (modulus * count)).filter
      fun value => value % modulus ∈ residues)
    (t := residues) (f := fun value => value % modulus)
    (fun value member => (Finset.mem_filter.mp member).2)
  rw [fibers, Finset.sum_const_nat fun residue member => ?_]
  have fiber : ((Finset.range (modulus * count)).filter
        fun value => value % modulus ∈ residues).filter
          (fun value => value % modulus = residue) =
      (Finset.range (modulus * count)).filter
        fun value => value % modulus = residue := by
    ext value
    simp only [Finset.mem_filter]
    constructor
    · rintro ⟨⟨inRange, _⟩, isResidue⟩
      exact ⟨inRange, isResidue⟩
    · rintro ⟨inRange, isResidue⟩
      exact ⟨⟨inRange, isResidue ▸ member⟩, isResidue⟩
  rw [fiber]
  exact card_residue count (small residue member)

end RngGamePlatform.Sampling
