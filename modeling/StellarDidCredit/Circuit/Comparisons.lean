import StellarDidCredit.Circuit.Gadgets

/-!
# The comparison gadgets

A comparison with a constant encodes the order as the range of a difference, after moving the bound
by one where the order is strict. At the end of the 32 bits the bound does not move: nothing is
below 0 and nothing above the largest value, but the gadgets accept these values themselves.
-/

namespace StellarDidCredit.Circuit

variable {gadget : BitGadget} {value bound : BitVec 32}

/-- `enforce_u32_less_than` accepts the values up to the bound less one, or up to 0. -/
theorem enforceU32LessThan_iff : enforceU32LessThan gadget value bound ↔ value.toNat ≤ bound.toNat - 1 := by
  have hvalue := value.isLt
  have hbound := bound.isLt
  rw [enforceU32LessThan, uint32ToFp_eq, clear_sub (by rw [scalarOrder]; omega) (by rw [scalarOrder]; omega)]
  omega

/-- `enforce_u32_gte` accepts the values from the bound on. -/
theorem enforceU32Gte_iff : enforceU32Gte gadget value bound ↔ bound.toNat ≤ value.toNat := by
  have hvalue := value.isLt
  have hbound := bound.isLt
  rw [enforceU32Gte, uint32ToFp_eq, clear_sub (by rw [scalarOrder]; omega) (by rw [scalarOrder]; omega)]
  omega

/-- `enforce_u32_gt` accepts the values from the bound plus one on, or the largest value. -/
theorem enforceU32Gt_iff : enforceU32Gt gadget value bound ↔ U32.saturatingAdd bound.toNat 1 ≤ value.toNat := by
  have hfits : U32.saturatingAdd bound.toNat 1 < 2 ^ 32 := (min_le_right _ _).trans_lt (by decide)
  rw [enforceU32Gt, enforceU32Gte_iff, BitVec.toNat_ofNat, Nat.mod_eq_of_lt hfits]

/-- The four gadgets accept a value exactly when it is in the order that they are named after. -/
structure ComparisonsExact (gadget : BitGadget) (value bound : BitVec 32) : Prop where
  lessThan : enforceU32LessThan gadget value bound ↔ value.toNat < bound.toNat
  gte : enforceU32Gte gadget value bound ↔ bound.toNat ≤ value.toNat
  gt : enforceU32Gt gadget value bound ↔ bound.toNat < value.toNat
  gtFp : ∀ b : Fr, b = (bound.toNat : Fr) → (enforceU32GtFp gadget value b ↔ bound.toNat < value.toNat)

/-- The strict upper bound is exact away from 0. -/
theorem lessThan_exact_iff : (enforceU32LessThan gadget value bound ↔ value.toNat < bound.toNat) ↔
    ¬(value.toNat = 0 ∧ bound.toNat = 0) := by
  rw [enforceU32LessThan_iff]
  omega

/-- The strict lower bound is exact away from the largest value. -/
theorem gt_exact_iff : (enforceU32Gt gadget value bound ↔ bound.toNat < value.toNat) ↔
    ¬(value.toNat = U32.max ∧ bound.toNat = U32.max) := by
  have hvalue := value.isLt
  have hbound := bound.isLt
  rw [enforceU32Gt_iff]
  unfold U32.saturatingAdd U32.max
  omega

/-- The gadgets are exact unless the value and the bound are both 0 or both the largest value. -/
theorem comparisonsExact_iff (gadget : BitGadget) (value bound : BitVec 32) :
    ComparisonsExact gadget value bound ↔
      ¬(value.toNat = 0 ∧ bound.toNat = 0) ∧ ¬(value.toNat = U32.max ∧ bound.toNat = U32.max) := by
  constructor
  · intro hexact
    exact ⟨lessThan_exact_iff.mp hexact.lessThan, gt_exact_iff.mp hexact.gt⟩
  · rintro ⟨hzero, hlargest⟩
    constructor
    case lessThan => exact lessThan_exact_iff.mpr hzero
    case gte => exact enforceU32Gte_iff
    case gt => exact gt_exact_iff.mpr hlargest
    case gtFp =>
      rintro b rfl
      exact enforceU32GtFp_iff

/-- `enforce_u32_less_than` accepts 0 as below 0, and `enforce_u32_gt` the largest value as above itself. -/
theorem not_comparisonsExact_ends :
    ¬ComparisonsExact .canonical 0 0 ∧ ¬ComparisonsExact .canonical 4294967295 4294967295 :=
  ⟨fun h => absurd (lessThan_exact_iff.mp h.lessThan) (by decide),
    fun h => absurd (gt_exact_iff.mp h.gt) (by decide)⟩

end StellarDidCredit.Circuit
