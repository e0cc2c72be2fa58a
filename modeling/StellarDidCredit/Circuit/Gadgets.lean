import StellarDidCredit.Lib.BitList
import StellarDidCredit.Lib.MachineInt
import StellarDidCredit.Lib.Residue
import Mathlib.Tactic.Ring

/-!
# Gadgets over the scalar field

What the circuit's helpers constrain, as propositions about the values of the variables. A
machine-integer variable is its list of bits, so its value is a bit vector of that width. A
range check reads the bits of a field variable and demands that all of them are clear from a
position on.

The bits of a field variable come from the gadget library, which enforces that they are the
bits of its canonical representative; `BitGadget` states just that.
-/

namespace StellarDidCredit.Circuit

/-- The order of the BLS12-381 scalar field. -/
def scalarOrder : ℕ := 52435875175126190479447740508185965837690552500527637822603658699938581184513

abbrev Fr := ZMod scalarOrder

instance : NeZero scalarOrder := ⟨by decide⟩

/-- The decomposition of a field variable into bits, least significant first. -/
structure BitGadget where
  toBitsLe : Fr → List Bool
  littleEndian_toBitsLe : ∀ x, littleEndian (toBitsLe x) = x.val

/-- The 255 bits of the canonical representative. -/
def BitGadget.canonical : BitGadget where
  toBitsLe x := lowBits 255 x.val
  littleEndian_toBitsLe x := by
    have hval : x.val < 2 ^ 255 := (ZMod.val_lt x).trans (by decide)
    rw [littleEndian_lowBits, Nat.mod_eq_of_lt hval]

/-! ## Conversions -/

/-- The bits of a machine-integer variable. -/
def bitsLe {w : ℕ} (value : BitVec w) : List Bool := lowBits w value.toNat

/-- A bit as a field element. -/
def booleanToFp (bit : Bool) : Fr := if bit then 1 else 0

/-- `sum_i bit_i * 2^i`, with the power of two doubled along the way. -/
def fpFromBits (bits : List Bool) : Fr :=
  (bits.foldl (fun (acc, pow) bit => (acc + booleanToFp bit * pow, pow * 2)) (0, 1)).1

/-- A 32-bit variable as a field element. -/
def uint32ToFp (value : BitVec 32) : Fr := fpFromBits (bitsLe value)

/-- A 64-bit variable as a field element. -/
def uint64ToFp (value : BitVec 64) : Fr := fpFromBits (bitsLe value)

/-- The bits denote the value. -/
theorem littleEndian_bitsLe {w : ℕ} (value : BitVec w) : littleEndian (bitsLe value) = value.toNat := by
  rw [bitsLe, littleEndian_lowBits, Nat.mod_eq_of_lt value.isLt]

/-- A bit as a field element. -/
theorem booleanToFp_eq (bit : Bool) : booleanToFp bit = (bit.toNat : Fr) := by
  cases bit <;> simp [booleanToFp]

/-- From any accumulator on, the loop adds the number that the remaining bits denote. -/
theorem fpFromBits_loop (bits : List Bool) (acc pow : Fr) :
    (bits.foldl (fun (acc, pow) bit => (acc + booleanToFp bit * pow, pow * 2)) (acc, pow)).1 =
      acc + pow * littleEndian bits := by
  induction bits generalizing acc pow with
  | nil => simp [littleEndian]
  | cons bit bits ih =>
    rw [List.foldl_cons, ih, littleEndian, booleanToFp_eq]
    push_cast
    ring

/-- The field element of a list of bits is the number they denote. -/
theorem fpFromBits_eq (bits : List Bool) : fpFromBits bits = (littleEndian bits : Fr) := by
  rw [fpFromBits, fpFromBits_loop, zero_add, one_mul]

/-- A 32-bit number as a field element. -/
@[simp] theorem uint32ToFp_eq (value : BitVec 32) : uint32ToFp value = (value.toNat : Fr) := by
  rw [uint32ToFp, fpFromBits_eq, littleEndian_bitsLe]

/-- A 64-bit number as a field element. -/
@[simp] theorem uint64ToFp_eq (value : BitVec 64) : uint64ToFp value = (value.toNat : Fr) := by
  rw [uint64ToFp, fpFromBits_eq, littleEndian_bitsLe]

/-! ## Constraints -/

/-- Every bit from position `k` on equals the constant false. -/
def Clear (k : ℕ) (bits : List Bool) : Prop := ∀ b ∈ bits.drop k, b = false

instance (k : ℕ) (bits : List Bool) : Decidable (Clear k bits) :=
  inferInstanceAs (Decidable (∀ b ∈ bits.drop k, b = false))

/-- `value < bound`, as `value <= bound - 1` with a subtraction that stops at zero. -/
def enforceU32LessThan (gadget : BitGadget) (value bound : BitVec 32) : Prop :=
  Clear 32 (gadget.toBitsLe (((bound.toNat - 1 : ℕ) : Fr) - uint32ToFp value))

/-- `value >= bound`. -/
def enforceU32Gte (gadget : BitGadget) (value bound : BitVec 32) : Prop :=
  Clear 32 (gadget.toBitsLe (uint32ToFp value - (bound.toNat : Fr)))

/-- `value > bound`, as `value >= bound + 1` with an addition that stops at the largest value. -/
def enforceU32Gt (gadget : BitGadget) (value bound : BitVec 32) : Prop :=
  enforceU32Gte gadget value (.ofNat 32 (U32.saturatingAdd bound.toNat 1))

/-- `value > bound`, where the bound is a field variable. -/
def enforceU32GtFp (gadget : BitGadget) (value : BitVec 32) (bound : Fr) : Prop :=
  Clear 32 (gadget.toBitsLe (uint32ToFp value - bound - 1))

/-- `value == min(source, cap)`, as the circuit has it in five places: a range check to `bits`
bits and `(value - source) * (value - cap) == 0`. -/
def enforceCapped (bits cap : ℕ) (value : BitVec 32) (source : Fr) : Prop :=
  Clear bits (bitsLe value) ∧ (uint32ToFp value - source) * (uint32ToFp value - (cap : Fr)) = 0

/-- `quotient == dividend / divisor`, as the circuit has it in five places: a range check of
the remainder to `bits` bits. -/
def enforceQuotient (gadget : BitGadget) (bits divisor : ℕ) (dividend quotient : Fr) : Prop :=
  Clear bits (gadget.toBitsLe (dividend - quotient * (divisor : Fr)))

section Decidability

variable (gadget : BitGadget)

instance (value : BitVec 32) (bound : Fr) : Decidable (enforceU32GtFp gadget value bound) :=
  inferInstanceAs (Decidable (Clear _ _))

instance (bits cap : ℕ) (value : BitVec 32) (source : Fr) : Decidable (enforceCapped bits cap value source) :=
  inferInstanceAs (Decidable (_ ∧ _))

instance (bits divisor : ℕ) (dividend quotient : Fr) :
    Decidable (enforceQuotient gadget bits divisor dividend quotient) :=
  inferInstanceAs (Decidable (Clear _ _))

end Decidability

/-! ## What they say about numbers -/

section Numbers

variable {gadget : BitGadget} {bits k cap n q d : ℕ}

/-- A field variable passes a range check exactly when its representative is below the bound. -/
theorem clear_toBitsLe {x : Fr} : Clear k (gadget.toBitsLe x) ↔ x.val < 2 ^ k := by
  rw [Clear, drop_clear_iff, gadget.littleEndian_toBitsLe]

/-- So does a machine-integer variable. -/
theorem clear_bitsLe {w : ℕ} {value : BitVec w} : Clear k (bitsLe value) ↔ value.toNat < 2 ^ k := by
  rw [Clear, drop_clear_iff, littleEndian_bitsLe]

/-- A difference of small numbers passes a range check exactly when it is a number of that range. -/
theorem clear_sub (hn : n < scalarOrder) (hq : q + 2 ^ k ≤ scalarOrder) :
    Clear k (gadget.toBitsLe ((n : Fr) - (q : Fr))) ↔ q ≤ n ∧ n - q < 2 ^ k := by
  rw [clear_toBitsLe, val_sub_lt_iff hn hq]

/-- A 32-bit bound is below the value. -/
theorem enforceU32GtFp_iff {value bound : BitVec 32} :
    enforceU32GtFp gadget value (bound.toNat : Fr) ↔ bound.toNat < value.toNat := by
  have hvalue := value.isLt
  have hbound := bound.isLt
  have hdiff : uint32ToFp value - (bound.toNat : Fr) - 1 =
      (value.toNat : Fr) - ((bound.toNat + 1 : ℕ) : Fr) := by
    rw [uint32ToFp_eq]
    push_cast
    ring
  rw [enforceU32GtFp, hdiff, clear_sub (by rw [scalarOrder]; omega) (by rw [scalarOrder]; omega)]
  omega

/-- The value is the source or the cap, whichever fits: not necessarily the smaller one. -/
def Capped (bits cap source value : ℕ) : Prop := value < 2 ^ bits ∧ (value = source ∨ value = cap)

/-- The gadget of a cap, between numbers that do not wrap around. -/
theorem enforceCapped_iff {value : BitVec 32} (hn : n < 2 ^ 33) (hcap : cap < 2 ^ 33) :
    enforceCapped bits cap value (n : Fr) ↔ Capped bits cap n value.toNat := by
  have hvalue : value.toNat < 2 ^ 33 := value.isLt.trans (by decide)
  rw [enforceCapped, clear_bitsLe, uint32ToFp_eq, sub_mul_sub_eq_zero_iff hvalue hn hcap (by decide), Capped]

/-- The remainder is in the range of the check: not necessarily below the divisor. -/
def Divided (bits divisor dividend quotient : ℕ) : Prop :=
  quotient * divisor ≤ dividend ∧ dividend - quotient * divisor < 2 ^ bits

/-- The gadget of a quotient, between numbers that do not wrap around. -/
theorem enforceQuotient_iff (hn : n < scalarOrder) (hq : q * d + 2 ^ bits ≤ scalarOrder) :
    enforceQuotient gadget bits d (n : Fr) (q : Fr) ↔ Divided bits d n q := by
  rw [enforceQuotient, ← Nat.cast_mul, clear_sub hn hq, Divided]

/-- With a range between one and two divisors the quotient is the true one, or one less when
the remainder leaves room for another divisor. -/
theorem divided_iff (hd : d ≤ 2 ^ bits) (hbits : 2 ^ bits ≤ 2 * d) :
    Divided bits d n q ↔ q = n / d ∨ q + 1 = n / d ∧ n % d + d < 2 ^ bits := by
  have hpos : 0 < d := by
    have := Nat.two_pow_pos bits
    omega
  have hdivision : n / d * d + n % d = n := Nat.div_add_mod' n d
  have hrem : n % d < d := Nat.mod_lt n hpos
  unfold Divided
  constructor
  · rintro ⟨hle, hlt⟩
    have hq : q ≤ n / d := (Nat.le_div_iff_mul_le hpos).mpr hle
    rcases Nat.lt_or_ge (q + 1) (n / d) with htwo | hnear
    · -- two divisors below the true quotient the remainder is out of range
      have hmul : (q + 2) * d ≤ n / d * d := Nat.mul_le_mul_right d htwo
      rw [Nat.add_mul] at hmul
      omega
    · rcases Nat.eq_or_lt_of_le hq with hsame | hless
      · exact Or.inl hsame
      · have hnext : q + 1 = n / d := by omega
        rw [← hnext, Nat.succ_mul] at hdivision
        exact Or.inr ⟨hnext, by omega⟩
  · rintro (rfl | ⟨hnext, hroom⟩)
    · omega
    · rw [← hnext, Nat.succ_mul] at hdivision
      omega

end Numbers

end StellarDidCredit.Circuit
