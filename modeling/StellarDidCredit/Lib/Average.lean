import Mathlib.Algebra.BigOperators.Ring.Finset
import Mathlib.Algebra.Order.BigOperators.Group.Finset
import Mathlib.Algebra.Order.Ring.Defs
import Mathlib.Algebra.Order.Ring.Unbundled.Basic

/-!
# Weighted sums

With weights that are not negative, a weighted sum of values is between the sums of their least
and of their greatest value, and it grows when weight moves to a greatest value.
-/

namespace StellarDidCredit

variable {ι R : Type*} [CommSemiring R] [PartialOrder R] [IsOrderedRing R] {s : Finset ι} {w w' x : ι → R} {j : ι}

/-- A lower bound of the values, at the weight of all of them, is below the weighted sum. -/
theorem mul_sum_le_sum_mul {m : R} (hweights : ∀ i ∈ s, 0 ≤ w i) (hmin : ∀ i ∈ s, m ≤ x i) :
    m * ∑ i ∈ s, w i ≤ ∑ i ∈ s, x i * w i := by
  rw [Finset.mul_sum]
  exact Finset.sum_le_sum fun i hi => mul_le_mul_of_nonneg_right (hmin i hi) (hweights i hi)

/-- An upper bound is above it. -/
theorem sum_mul_le_mul_sum {m : R} (hweights : ∀ i ∈ s, 0 ≤ w i) (hmax : ∀ i ∈ s, x i ≤ m) :
    ∑ i ∈ s, x i * w i ≤ m * ∑ i ∈ s, w i := by
  rw [Finset.mul_sum]
  exact Finset.sum_le_sum fun i hi => mul_le_mul_of_nonneg_right (hmax i hi) (hweights i hi)

/-- Weight that moves to a greatest value from the others does not lower the sum. -/
theorem sum_mul_le_of_shift [ExistsAddOfLE R] [IsOrderedCancelAddMonoid R]
    (hsum : ∑ i ∈ s, w i = ∑ i ∈ s, w' i) (hmax : ∀ i ∈ s, x i ≤ x j) (hless : ∀ i ∈ s, i ≠ j → w' i ≤ w i) :
    ∑ i ∈ s, x i * w i ≤ ∑ i ∈ s, x i * w' i := by
  have hterm : ∀ i ∈ s, x i * w i + x j * w' i ≤ x i * w' i + x j * w i := by
    intro i hi
    by_cases hsame : i = j
    · rw [hsame, add_comm]
    · exact mul_add_mul_le_mul_add_mul (hmax i hi) (hless i hi hsame)
  have htotal := Finset.sum_le_sum hterm
  rw [Finset.sum_add_distrib, Finset.sum_add_distrib, ← Finset.mul_sum, ← Finset.mul_sum, hsum] at htotal
  exact le_of_add_le_add_right htotal

end StellarDidCredit
