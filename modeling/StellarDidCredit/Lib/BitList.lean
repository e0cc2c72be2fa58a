import Mathlib.Data.Nat.Bitwise
import Mathlib.Algebra.Order.Ring.Nat
import Mathlib.Tactic.Ring

/-!
# Little-endian bit lists

The number a list of bits denotes, least significant bit first. Clearing all bits from a
position on is a range check.
-/

namespace StellarDidCredit

/-- The number that the bits denote. -/
def littleEndian : List Bool → ℕ
  | [] => 0
  | b :: bs => b.toNat + 2 * littleEndian bs

/-- The lowest `w` bits of a number. -/
def lowBits (w n : ℕ) : List Bool := (List.range w).map n.testBit

/-- Appended bits count from the length on. -/
theorem littleEndian_append (bs cs : List Bool) :
    littleEndian (bs ++ cs) = littleEndian bs + 2 ^ bs.length * littleEndian cs := by
  induction bs with
  | nil => simp [littleEndian]
  | cons b bs ih =>
    rw [List.cons_append, littleEndian, littleEndian, ih, List.length_cons, pow_succ]
    ring

/-- The lowest bits denote the remainder. -/
theorem littleEndian_lowBits (w n : ℕ) : littleEndian (lowBits w n) = n % 2 ^ w := by
  induction w with
  | zero => simp [lowBits, littleEndian, Nat.mod_one]
  | succ w ih =>
    have hlast : lowBits (w + 1) n = lowBits w n ++ [n.testBit w] := by
      simp only [lowBits, List.range_succ, List.map_append, List.map_singleton]
    have hlength : (lowBits w n).length = w := by
      simp only [lowBits, List.length_map, List.length_range]
    have hbit : littleEndian [n.testBit w] = n / 2 ^ w % 2 := by
      rw [littleEndian, littleEndian, Nat.mul_zero, Nat.add_zero, Nat.toNat_testBit]
    rw [hlast, littleEndian_append, ih, hlength, hbit, Nat.mod_pow_succ]

/-- All bits are clear exactly when the number is zero. -/
theorem littleEndian_eq_zero {bs : List Bool} : littleEndian bs = 0 ↔ ∀ b ∈ bs, b = false := by
  induction bs with
  | nil => simp [littleEndian]
  | cons b bs ih =>
    rw [List.forall_mem_cons, ← ih, littleEndian]
    cases b with
    | false => simp
    | true => simp

/-- The bits from `k` on are clear exactly when the number is below `2 ^ k`. -/
theorem drop_clear_iff {bs : List Bool} {k : ℕ} : (∀ b ∈ bs.drop k, b = false) ↔ littleEndian bs < 2 ^ k := by
  induction k generalizing bs with
  | zero => rw [List.drop_zero, pow_zero, Nat.lt_one_iff, littleEndian_eq_zero]
  | succ k ih =>
    cases bs with
    | nil => simp [littleEndian]
    | cons b bs =>
      have hbit : b.toNat ≤ 1 := Bool.toNat_le b
      rw [List.drop_succ_cons, ih, littleEndian, pow_succ]
      constructor <;> omega

end StellarDidCredit
