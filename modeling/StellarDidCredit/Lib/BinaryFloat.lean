import Mathlib.Data.Nat.Log
import Mathlib.Data.Int.Notation
import Mathlib.Tactic.Common
import Mathlib.Tactic.Ring

/-!
# Integers in binary floating point

A binary float with `p` significant bits holds an integer exactly when its bits fit, and
otherwise the nearest multiple of a power of two, the even one of two that are equally near.
The range of the exponent is left out: no integer of a fixed width comes near its end.
-/

namespace StellarDidCredit.BinaryFloat

/-- The multiple of `2 ^ k` nearest to a number, the even one of two. -/
def roundMultiple (k n : ℕ) : ℕ :=
  let down := n / 2 ^ k
  let low := n % 2 ^ k
  if 2 * low < 2 ^ k ∨ (2 * low = 2 ^ k ∧ down % 2 = 0) then down * 2 ^ k else (down + 1) * 2 ^ k

/-- A natural number with `p` significant bits. -/
def roundNat (p n : ℕ) : ℕ := roundMultiple (n.log2 + 1 - p) n

/-- An integer with `p` significant bits. -/
def roundInt (p : ℕ) (n : ℤ) : ℤ := if 0 ≤ n then (roundNat p n.toNat : ℤ) else -(roundNat p n.natAbs : ℤ)

/-- Rounding goes no lower than the multiple below. -/
theorem le_roundMultiple (k n : ℕ) : n / 2 ^ k * 2 ^ k ≤ roundMultiple k n := by
  unfold roundMultiple
  dsimp only
  split
  · exact le_refl _
  · exact Nat.mul_le_mul_right _ (Nat.le_succ _)

/-- Every number is a multiple of one. -/
theorem roundMultiple_zero (n : ℕ) : roundMultiple 0 n = n := by
  have hlow : 2 * (n % 2 ^ 0) < 2 ^ 0 := by
    rw [pow_zero, Nat.mod_one]
    decide
  rw [roundMultiple, if_pos (Or.inl hlow), pow_zero, Nat.div_one, mul_one]

/-- A number whose bits fit is kept. -/
theorem roundNat_of_lt {p n : ℕ} (hp : 0 < p) (h : n < 2 ^ p) : roundNat p n = n := by
  have hbits : n.log2 + 1 - p = 0 := by
    rcases Nat.eq_zero_or_pos n with rfl | hpos
    · rw [Nat.log2_zero]
      omega
    · have hlog : n.log2 < p := (Nat.log2_lt hpos.ne').mpr h
      omega
  rw [roundNat, hbits, roundMultiple_zero]

/-- A number that is too long does not become short. -/
theorem le_roundNat {p n : ℕ} (hp : 0 < p) (h : 2 ^ p ≤ n) : 2 ^ p ≤ roundNat p n := by
  have hpos : n ≠ 0 := by
    have hpow : 0 < 2 ^ p := Nat.two_pow_pos p
    omega
  obtain ⟨k, hk⟩ : ∃ k, n.log2 = p + k := by
    have hlog : p ≤ n.log2 := (Nat.le_log2 hpos).mpr h
    exact Nat.exists_eq_add_of_le hlog
  have hdropped : n.log2 + 1 - p = k + 1 := by omega
  have hleading : 2 ^ (p + k) ≤ n := hk ▸ Nat.log2_self_le hpos
  -- the leading bit survives in the quotient
  have hquotient : 2 ^ (p - 1) ≤ n / 2 ^ (k + 1) := by
    rw [Nat.le_div_iff_mul_le (Nat.two_pow_pos _), ← pow_add]
    rwa [show p - 1 + (k + 1) = p + k by omega]
  calc 2 ^ p ≤ 2 ^ (p - 1) * 2 ^ (k + 1) := by
        rw [← pow_add]
        exact Nat.pow_le_pow_right (by decide) (by omega)
    _ ≤ n / 2 ^ (k + 1) * 2 ^ (k + 1) := Nat.mul_le_mul_right _ hquotient
    _ ≤ roundMultiple (k + 1) n := le_roundMultiple _ _
    _ = roundNat p n := by rw [roundNat, hdropped]

/-- A natural number whose bits fit is kept. -/
theorem roundInt_of_lt {p : ℕ} {n : ℤ} (hp : 0 < p) (hnonneg : 0 ≤ n) (h : n < 2 ^ p) : roundInt p n = n := by
  have hcast : (n.toNat : ℤ) = n := Int.toNat_of_nonneg hnonneg
  have hfits : n.toNat < 2 ^ p := by
    rw [← hcast] at h
    exact_mod_cast h
  rw [roundInt, if_pos hnonneg, roundNat_of_lt hp hfits, hcast]

/-- A positive number that is too long does not become short. -/
theorem le_roundInt {p : ℕ} {n : ℤ} (hp : 0 < p) (h : 2 ^ p ≤ n) : 2 ^ p ≤ roundInt p n := by
  have hnonneg : 0 ≤ n := (Int.pow_pos (by decide)).le.trans h
  have hcast : (n.toNat : ℤ) = n := Int.toNat_of_nonneg hnonneg
  have hlong : 2 ^ p ≤ n.toNat := by
    rw [← hcast] at h
    exact_mod_cast h
  have hround := le_roundNat hp hlong
  rw [roundInt, if_pos hnonneg]
  exact_mod_cast hround

/-- A number that is not positive stays so. -/
theorem roundInt_nonpos {p : ℕ} {n : ℤ} (hp : 0 < p) (h : n ≤ 0) : roundInt p n ≤ 0 := by
  rcases h.lt_or_eq with hneg | rfl
  · rw [roundInt, if_neg (by omega)]
    omega
  · rw [roundInt_of_lt hp (le_refl 0) (Int.pow_pos (by decide))]

/-- Halfway between two multiples of two, the multiple of four is taken. -/
example : [roundInt 53 9007199254740993, roundInt 53 9007199254740995] =
    [9007199254740992, 9007199254740996] := by decide

end StellarDidCredit.BinaryFloat
