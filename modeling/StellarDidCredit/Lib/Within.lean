import Mathlib.Algebra.Order.Ring.Nat
import Mathlib.Tactic.Common

/-!
# Numbers within a distance

How far two results of truncating arithmetic can be apart when their inputs are within a distance:
caps keep it, a product multiplies it, and a quotient divides it and adds one, because a floor may
be crossed once more.
-/

namespace StellarDidCredit

/-- The numbers are at most `d` apart. -/
def Within (d a b : ℕ) : Prop := a ≤ b + d ∧ b ≤ a + d

namespace Within

variable {d e a b a' b' : ℕ}

/-- A number is within any distance of itself. -/
theorem refl (d a : ℕ) : Within d a a := ⟨Nat.le_add_right _ _, Nat.le_add_right _ _⟩

/-- A larger distance is no stronger. -/
theorem mono (h : Within d a b) (hle : d ≤ e) : Within e a b := by
  unfold Within at *
  omega

/-- A cap keeps the distance. -/
theorem min_right (h : Within d a b) (c : ℕ) : Within d (min a c) (min b c) := by
  unfold Within at *
  omega

/-- So does a lower bound. -/
theorem max_right (h : Within d a b) (c : ℕ) : Within d (max a c) (max b c) := by
  unfold Within at *
  omega

/-- The distance of a sum is at most the sum of the distances. -/
theorem add (h : Within d a b) (h' : Within e a' b') : Within (d + e) (a + a') (b + b') := by
  unfold Within at *
  omega

/-- A common summand changes no distance. -/
theorem add_right (h : Within d a b) (c : ℕ) : Within d (a + c) (b + c) := h.add (refl 0 c)

/-- On the other side neither. -/
theorem add_left (h : Within d a b) (c : ℕ) : Within d (c + a) (c + b) := by
  unfold Within at *
  omega

/-- A factor multiplies the distance. -/
theorem mul_right (h : Within d a b) (k : ℕ) : Within (d * k) (a * k) (b * k) := by
  unfold Within
  rw [← Nat.add_mul, ← Nat.add_mul]
  exact ⟨Nat.mul_le_mul_right k h.1, Nat.mul_le_mul_right k h.2⟩

/-- One side of the next rule. -/
theorem div_le_of_le_add {k : ℕ} (hk : 0 < k) (h : a ≤ b + d) : a / k ≤ b / k + (d / k + 1) := by
  have hb : b < (b / k + 1) * k := Nat.lt_mul_of_div_lt (Nat.lt_succ_self _) hk
  have hd : d < (d / k + 1) * k := Nat.lt_mul_of_div_lt (Nat.lt_succ_self _) hk
  have hlt : a < (b / k + 1 + (d / k + 1)) * k := by
    rw [Nat.add_mul]
    omega
  have hdiv : a / k < b / k + 1 + (d / k + 1) := (Nat.div_lt_iff_lt_mul hk).mpr hlt
  omega

/-- A divisor divides the distance, and the floor adds at most one. -/
theorem div (h : Within d a b) {k : ℕ} (hk : 0 < k) : Within (d / k + 1) (a / k) (b / k) :=
  ⟨div_le_of_le_add hk h.1, div_le_of_le_add hk h.2⟩

end Within

end StellarDidCredit
