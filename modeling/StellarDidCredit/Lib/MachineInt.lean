import Mathlib.Algebra.Ring.Nat
import Mathlib.Data.Int.Notation
import Mathlib.Tactic.Common

/-!
# Fixed-width integer arithmetic

Unsigned values are natural numbers and signed values are integers; the width of an
operation is in its name. The checked operations return nothing when the exact result does
not fit, which is also when the plain operators trap in a build with overflow checks. The
saturating ones return the nearest bound.
-/

namespace StellarDidCredit

/-- A guarded value is present exactly when the guard holds. -/
theorem ite_some_eq_some {α : Type} {c : Prop} [Decidable c] {a b : α} :
    (if c then some a else none) = some b ↔ c ∧ b = a := by
  by_cases h : c <;> simp [h, eq_comm]

namespace U32

/-- The largest 32-bit value. -/
def max : ℕ := 4294967295

/-- Addition without wrap-around. -/
def checkedAdd (a b : ℕ) : Option ℕ := if a + b ≤ max then some (a + b) else none

/-- Subtraction without wrap-around. -/
def checkedSub (a b : ℕ) : Option ℕ := if b ≤ a then some (a - b) else none

/-- Multiplication without wrap-around. -/
def checkedMul (a b : ℕ) : Option ℕ := if a * b ≤ max then some (a * b) else none

/-- Addition that stops at the largest value. -/
def saturatingAdd (a b : ℕ) : ℕ := min (a + b) max

/-- Multiplication that stops at the largest value. -/
def saturatingMul (a b : ℕ) : ℕ := min (a * b) max

/-- The low 32 bits. -/
def truncate (a : ℕ) : ℕ := a % 4294967296

/-- The sum fits. -/
@[simp] theorem checkedAdd_eq_some {a b c : ℕ} :
    checkedAdd a b = some c ↔ a + b ≤ max ∧ c = a + b :=
  ite_some_eq_some

/-- The difference is not negative. -/
@[simp] theorem checkedSub_eq_some {a b c : ℕ} :
    checkedSub a b = some c ↔ b ≤ a ∧ c = a - b :=
  ite_some_eq_some

/-- The product fits. -/
@[simp] theorem checkedMul_eq_some {a b c : ℕ} :
    checkedMul a b = some c ↔ a * b ≤ max ∧ c = a * b :=
  ite_some_eq_some

/-- A saturating sum and the exact one agree below every cap that fits. -/
theorem min_foldl_saturatingAdd {α : Type} {cap : ℕ} (hcap : cap ≤ max) (f : α → ℕ) (as : List α) (acc : ℕ) :
    min (as.foldl (fun total a => saturatingAdd total (f a)) acc) cap = min (acc + (as.map f).sum) cap := by
  induction as generalizing acc with
  | nil => simp
  | cons a as ih =>
    have hstep : saturatingAdd acc (f a) = min (acc + f a) max := rfl
    rw [List.foldl_cons, ih, List.map_cons, List.sum_cons, hstep]
    omega

end U32

namespace U64

/-- The largest 64-bit value. -/
def max : ℕ := 18446744073709551615

/-- Addition without wrap-around. -/
def checkedAdd (a b : ℕ) : Option ℕ := if a + b ≤ max then some (a + b) else none

/-- Multiplication that stops at the largest value. -/
def saturatingMul (a b : ℕ) : ℕ := min (a * b) max

/-- The sum fits. -/
@[simp] theorem checkedAdd_eq_some {a b c : ℕ} :
    checkedAdd a b = some c ↔ a + b ≤ max ∧ c = a + b :=
  ite_some_eq_some

end U64

namespace U128

/-- The largest unsigned 128-bit value. -/
def max : ℕ := 340282366920938463463374607431768211455

/-- Addition without wrap-around. -/
def checkedAdd (a b : ℕ) : Option ℕ := if a + b ≤ max then some (a + b) else none

/-- Multiplication without wrap-around. -/
def checkedMul (a b : ℕ) : Option ℕ := if a * b ≤ max then some (a * b) else none

/-- Division, unless by zero. -/
def checkedDiv (a b : ℕ) : Option ℕ := if b ≠ 0 then some (a / b) else none

/-- Multiplication that stops at the largest value. -/
def saturatingMul (a b : ℕ) : ℕ := min (a * b) max

/-- The bits of a signed value, read as an unsigned one. -/
def ofSigned (a : ℤ) : ℕ := (a % 340282366920938463463374607431768211456).toNat

/-- A sum below a bound that fits is taken. -/
theorem checkedAdd_of_le {a b bound : ℕ} (h : a + b ≤ bound) (hbound : bound ≤ max) :
    checkedAdd a b = some (a + b) :=
  if_pos (Nat.le_trans h hbound)

/-- A product below a bound that fits is taken. -/
theorem checkedMul_of_le {a b bound : ℕ} (h : a * b ≤ bound) (hbound : bound ≤ max) :
    checkedMul a b = some (a * b) :=
  if_pos (Nat.le_trans h hbound)

/-- A quotient is taken unless the divisor is zero. -/
theorem checkedDiv_of_ne_zero (a : ℕ) {b : ℕ} (hb : b ≠ 0) : checkedDiv a b = some (a / b) := if_pos hb

end U128

namespace I128

/-- The smallest signed 128-bit value. -/
def min : ℤ := -170141183460469231731687303715884105728

/-- The largest signed 128-bit value. -/
def max : ℤ := 170141183460469231731687303715884105727

/-- The exact result of an operation, when it fits. -/
def checked (a : ℤ) : Option ℤ := if min ≤ a ∧ a ≤ max then some a else none

/-- Addition without wrap-around. -/
def checkedAdd (a b : ℤ) : Option ℤ := checked (a + b)

/-- Subtraction without wrap-around. -/
def checkedSub (a b : ℤ) : Option ℤ := checked (a - b)

/-- Multiplication without wrap-around. -/
def checkedMul (a b : ℤ) : Option ℤ := checked (a * b)

/-- Division towards zero, unless by zero or out of range. -/
def checkedDiv (a b : ℤ) : Option ℤ := if b = 0 then none else checked (a.tdiv b)

/-- Addition that stops at the bounds. -/
def saturatingAdd (a b : ℤ) : ℤ := if a + b < min then min else if max < a + b then max else a + b

/-- Zero is in the range. -/
theorem zero_le_max : 0 ≤ max := by decide

/-- A number in the range is kept. -/
@[simp] theorem checked_eq_some {a c : ℤ} : checked a = some c ↔ (min ≤ a ∧ a ≤ max) ∧ c = a :=
  ite_some_eq_some

/-- The sum fits on both sides. -/
@[simp] theorem checkedAdd_eq_some {a b c : ℤ} :
    checkedAdd a b = some c ↔ (min ≤ a + b ∧ a + b ≤ max) ∧ c = a + b := checked_eq_some

/-- The difference fits on both sides. -/
@[simp] theorem checkedSub_eq_some {a b c : ℤ} :
    checkedSub a b = some c ↔ (min ≤ a - b ∧ a - b ≤ max) ∧ c = a - b := checked_eq_some

/-- The product fits on both sides. -/
@[simp] theorem checkedMul_eq_some {a b c : ℤ} :
    checkedMul a b = some c ↔ (min ≤ a * b ∧ a * b ≤ max) ∧ c = a * b := checked_eq_some

/-- Dividing by a positive value stays in range. -/
theorem checkedDiv_of_pos {a b : ℤ} (ha : min ≤ a ∧ a ≤ max) (hb : 0 < b) :
    checkedDiv a b = some (a.tdiv b) := by
  have hsize := Int.natAbs_tdiv_le_natAbs a b
  have hdivisor : 0 ≤ b := Int.le_of_lt hb
  have hfits : min ≤ a.tdiv b ∧ a.tdiv b ≤ max := by
    rcases Int.le_total 0 a with hnonneg | hneg
    · have hquotient := Int.tdiv_nonneg hnonneg hdivisor
      unfold min max at *
      omega
    · have hquotient := Int.tdiv_nonneg (Int.neg_nonneg_of_nonpos hneg) hdivisor
      rw [Int.neg_tdiv] at hquotient
      unfold min max at *
      omega
  rw [checkedDiv, if_neg (Int.ne_of_gt hb), checked_eq_some]
  exact ⟨hfits, rfl⟩

end I128

end StellarDidCredit
