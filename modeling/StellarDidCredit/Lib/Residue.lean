import Mathlib.Data.ZMod.Basic
import Mathlib.Tactic.Common

/-!
# Small numbers as residues

Equations between residues of small numbers are equations between the numbers, as long as
neither side reaches the modulus. The modulus need not be prime: a product of two small
differences is itself too small to be a multiple of it.
-/

namespace StellarDidCredit

variable {m a b c v k : ℕ}

/-- Numbers below the modulus are determined by their residues. -/
theorem natCast_inj_of_lt (ha : a < m) (hb : b < m) : (a : ZMod m) = b ↔ a = b := by
  rw [ZMod.natCast_eq_natCast_iff']
  rw [Nat.mod_eq_of_lt ha, Nat.mod_eq_of_lt hb]

/-- A difference that passes a range check did not go below zero. -/
theorem val_sub_lt_iff (ha : a < m) (hb : b + k ≤ m) :
    ((a : ZMod m) - b).val < k ↔ b ≤ a ∧ a - b < k := by
  by_cases hle : b ≤ a
  · rw [← Nat.cast_sub hle, ZMod.val_natCast, Nat.mod_eq_of_lt (by omega)]
    exact ⟨fun h => ⟨hle, h⟩, fun h => h.2⟩
  · -- below zero the residue wraps around to a number just under the modulus
    have hwrap : (a : ZMod m) - b = (m - (b - a) : ℕ) := by
      rw [Nat.cast_sub (by omega), Nat.cast_sub (by omega), ZMod.natCast_self, zero_sub, neg_sub]
    rw [hwrap, ZMod.val_natCast, Nat.mod_eq_of_lt (by omega)]
    omega

/-- A product of two differences of small numbers vanishes exactly when one of them does. -/
theorem sub_mul_sub_eq_zero_iff {bound : ℕ} (hv : v < bound) (ha : a < bound) (hc : c < bound)
    (hbound : bound * bound ≤ m) : ((v : ZMod m) - a) * (v - c) = 0 ↔ v = a ∨ v = c := by
  have hcast : ((v : ZMod m) - a) * (v - c) = (((v - a) * (v - c) : ℤ) : ZMod m) := by push_cast; rfl
  rw [hcast, ZMod.intCast_zmod_eq_zero_iff_dvd]
  constructor
  · intro hdvd
    have hfirst : |(v - a : ℤ)| < bound := abs_lt.mpr (by omega)
    have hsecond : |(v - c : ℤ)| < bound := abs_lt.mpr (by omega)
    have hsmall : |((v - a) * (v - c) : ℤ)| < m := by
      rw [abs_mul]
      calc |(v - a : ℤ)| * |(v - c : ℤ)| < bound * bound :=
            mul_lt_mul'' hfirst hsecond (abs_nonneg _) (abs_nonneg _)
        _ ≤ m := by exact_mod_cast hbound
    rcases mul_eq_zero.mp (Int.eq_zero_of_abs_lt_dvd hdvd hsmall) with hzero | hzero
    · exact Or.inl (by omega)
    · exact Or.inr (by omega)
  · rintro (rfl | rfl)
    · simp
    · simp

end StellarDidCredit
