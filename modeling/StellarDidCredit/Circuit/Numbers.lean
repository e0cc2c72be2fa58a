import StellarDidCredit.Circuit.ScoreCircuit

/-!
# The constraints as relations between numbers

No constraint wraps around the field: each holds exactly when a relation between the numbers
that the variables hold does.
-/

namespace StellarDidCredit.Circuit

variable {gadget : BitGadget} {a : Assignment}

/-- The repayment rate score: the remainder may equal the number of repayments. -/
def Rated (onTimeCount totalCount rate : ℕ) : Prop :=
  rate < 2 ^ 7 ∧ rate * totalCount ≤ onTimeCount * 100 ∧ onTimeCount * 100 ≤ (rate + 1) * totalCount

/-- The weighted sum of the three component scores. -/
def weightedSum (raw : RawInputs) (vcScore txScore repayScore : ℕ) : ℕ :=
  vcScore * raw.vcWeight.toNat + txScore * raw.txWeight.toNat + repayScore * raw.repaymentWeight.toNat

/-- A composite and a score that the last two constraints accept for a weighted sum. -/
def Scaled (sum composite score : ℕ) : Prop :=
  (Divided 7 100 sum composite ∧ composite < 2 ^ 7) ∧
  Divided 7 100 (composite * 550 + 30000) score ∧ score < 2 ^ 10

/-- The constraints between the numbers of an assignment, the threshold and the commitment apart. -/
structure NumberConstraints (a : Assignment) : Prop where
  vcScore : Capped 7 100 a.vcPoints.toNat a.vcScore.toNat
  volume : Divided 27 100000000 a.txVolume30d.toNat a.qVolume.toNat ∧
    Capped 7 80 a.qVolume.toNat a.volumeScore.toNat
  counterparty : Divided 3 5 a.avgCounterparties.toNat a.qCp.toNat ∧
    Capped 5 20 a.qCp.toNat a.counterpartyBonus.toNat
  txScore : Capped 7 100 (a.volumeScore.toNat + a.counterpartyBonus.toNat) a.txScore.toNat
  repaymentRate : Rated a.onTimeCount.toNat a.totalCount.toNat a.repaymentRateScore.toNat
  repaymentVolume : Divided 27 100000000 a.totalRepaid.toNat a.qRv.toNat ∧
    Capped 7 100 a.qRv.toNat a.repaymentVolumeScore.toNat
  repayScore : a.repayScore.toNat * 2 = a.repaymentRateScore.toNat + a.repaymentVolumeScore.toNat
  scaled : Scaled (weightedSum a.toRawInputs a.vcScore.toNat a.txScore.toNat a.repayScore.toNat)
    a.composite.toNat a.score.toNat

/-! ## One constraint at a time -/

/-- The credential score is the capped points. -/
theorem vcScoreConstraint_iff : VcScoreConstraint a ↔ Capped 7 100 a.vcPoints.toNat a.vcScore.toNat := by
  rw [VcScoreConstraint, uint32ToFp_eq]
  exact enforceCapped_iff (a.vcPoints.isLt.trans (by decide)) (by decide)

/-- A capped quotient of a 64-bit amount. -/
theorem cappedAmount_iff {cap : ℕ} {amount : BitVec 64} {q value : BitVec 32} (hcap : cap < 2 ^ 33) :
    enforceQuotient gadget 27 100000000 (uint64ToFp amount) (uint32ToFp q) ∧
      enforceCapped 7 cap value (uint32ToFp q) ↔
    Divided 27 100000000 amount.toNat q.toNat ∧ Capped 7 cap q.toNat value.toNat := by
  have hamount := amount.isLt
  have hq := q.isLt
  rw [uint64ToFp_eq, uint32ToFp_eq, enforceCapped_iff (hq.trans (by decide)) hcap,
    enforceQuotient_iff (by rw [scalarOrder]; omega) (by rw [scalarOrder]; omega)]

/-- The counterparty bonus is a fifth of the counterparties, capped. -/
theorem counterpartyConstraint_iff : CounterpartyConstraint gadget a ↔
    Divided 3 5 a.avgCounterparties.toNat a.qCp.toNat ∧ Capped 5 20 a.qCp.toNat a.counterpartyBonus.toNat := by
  have havg := a.avgCounterparties.isLt
  have hq := a.qCp.isLt
  rw [CounterpartyConstraint, uint32ToFp_eq, uint32ToFp_eq,
    enforceCapped_iff (hq.trans (by decide)) (by decide),
    enforceQuotient_iff (by rw [scalarOrder]; omega) (by rw [scalarOrder]; omega)]

/-- The transaction score is the capped sum of its two parts. -/
theorem txScoreConstraint_iff : TxScoreConstraint a ↔
    Capped 7 100 (a.volumeScore.toNat + a.counterpartyBonus.toNat) a.txScore.toNat := by
  have hvolume := a.volumeScore.isLt
  have hbonus := a.counterpartyBonus.isLt
  rw [TxScoreConstraint, uint32ToFp_eq, uint32ToFp_eq, ← Nat.cast_add]
  exact enforceCapped_iff (by omega) (by decide)

/-- A product of two 32-bit numbers, with room to spare. -/
theorem mul_toNat_lt (x y : BitVec 32) : x.toNat * y.toNat < 2 ^ 64 :=
  calc x.toNat * y.toNat < 2 ^ 32 * 2 ^ 32 := Nat.mul_lt_mul'' x.isLt y.isLt
    _ = 2 ^ 64 := by decide

/-- The repayment rate, up to the remainder that may equal the number of repayments. -/
theorem repaymentRateConstraint_iff : RepaymentRateConstraint gadget a ↔
    Rated a.onTimeCount.toNat a.totalCount.toNat a.repaymentRateScore.toNat := by
  have honTime := a.onTimeCount.isLt
  have htotal := a.totalCount.isLt
  have hproduct := mul_toNat_lt a.repaymentRateScore a.totalCount
  have hdiff : uint32ToFp a.onTimeCount * 100 - uint32ToFp a.repaymentRateScore * uint32ToFp a.totalCount =
      ((a.onTimeCount.toNat * 100 : ℕ) : Fr) -
        ((a.repaymentRateScore.toNat * a.totalCount.toNat : ℕ) : Fr) := by
    simp only [uint32ToFp_eq]
    push_cast
    rfl
  simp only [RepaymentRateConstraint, hdiff, clear_bitsLe, Rated, Nat.add_mul, Nat.one_mul]
  rw [uint32ToFp_eq]
  refine and_congr_right fun _ => ?_
  rw [clear_sub (by rw [scalarOrder]; omega) (by rw [scalarOrder]; omega)]
  constructor
  · rintro ⟨⟨hle, hlt⟩, hsecond⟩
    rw [← Nat.cast_sub hle, clear_sub (by rw [scalarOrder]; omega) (by rw [scalarOrder]; omega)] at hsecond
    omega
  · rintro ⟨hle, hnext⟩
    refine ⟨⟨hle, by omega⟩, ?_⟩
    rw [← Nat.cast_sub hle, clear_sub (by rw [scalarOrder]; omega) (by rw [scalarOrder]; omega)]
    omega

/-- Twice the repayment score is the sum of its two parts. -/
theorem repayScoreConstraint_iff : RepayScoreConstraint a ↔
    a.repayScore.toNat * 2 = a.repaymentRateScore.toNat + a.repaymentVolumeScore.toNat := by
  have hrepay := a.repayScore.isLt
  have hrate := a.repaymentRateScore.isLt
  have hvolume := a.repaymentVolumeScore.isLt
  have hdouble : uint32ToFp a.repayScore * ((2 : ℕ) : Fr) = ((a.repayScore.toNat * 2 : ℕ) : Fr) := by
    rw [uint32ToFp_eq, Nat.cast_mul]
  rw [RepayScoreConstraint, hdouble, uint32ToFp_eq, uint32ToFp_eq, ← Nat.cast_add,
    natCast_inj_of_lt (by rw [scalarOrder]; omega) (by rw [scalarOrder]; omega)]

/-- The composite is a hundredth of the weighted sum, in 7 bits. -/
theorem compositeConstraint_iff : CompositeConstraint gadget a ↔
    Divided 7 100 (weightedSum a.toRawInputs a.vcScore.toNat a.txScore.toNat a.repayScore.toNat)
      a.composite.toNat ∧ a.composite.toNat < 2 ^ 7 := by
  have hcomposite := a.composite.isLt
  have hvc := mul_toNat_lt a.vcScore a.vcWeight
  have htx := mul_toNat_lt a.txScore a.txWeight
  have hrepay := mul_toNat_lt a.repayScore a.repaymentWeight
  have hsum : uint32ToFp a.vcScore * uint32ToFp a.vcWeight + uint32ToFp a.txScore * uint32ToFp a.txWeight +
      uint32ToFp a.repayScore * uint32ToFp a.repaymentWeight =
      (weightedSum a.toRawInputs a.vcScore.toNat a.txScore.toNat a.repayScore.toNat : Fr) := by
    simp only [uint32ToFp_eq, weightedSum]
    push_cast
    rfl
  simp only [CompositeConstraint, hsum, clear_bitsLe]
  rw [uint32ToFp_eq, enforceQuotient_iff ?_ (by rw [scalarOrder]; omega)]
  rw [weightedSum, scalarOrder]
  omega

/-- The score is the composite on the scale from 300 on, in 10 bits. -/
theorem scoreConstraint_iff : ScoreConstraint gadget a ↔
    Divided 7 100 (a.composite.toNat * 550 + 30000) a.score.toNat ∧ a.score.toNat < 2 ^ 10 := by
  have hcomposite := a.composite.isLt
  have hscore := a.score.isLt
  have hdiff : enforceQuotient gadget 7 100 (uint32ToFp a.composite * 550) (uint32ToFp a.score - 300) ↔
      enforceQuotient gadget 7 100 ((a.composite.toNat * 550 + 30000 : ℕ) : Fr) (a.score.toNat : Fr) := by
    -- the 300 points of the start are moved to the other side
    simp only [enforceQuotient, uint32ToFp_eq]
    push_cast
    ring_nf
  rw [ScoreConstraint, hdiff, clear_bitsLe,
    enforceQuotient_iff (by rw [scalarOrder]; omega) (by rw [scalarOrder]; omega)]

/-! ## All of them -/

/-- An assignment satisfies the circuit exactly when its numbers do, the score passes the
threshold, and the commitment is the one of its fields. -/
theorem generateConstraints_iff {sha256 : List UInt8 → List UInt8} : GenerateConstraints sha256 gadget a ↔
    ThresholdConstraint gadget a ∧ NumberConstraints a ∧ CommitmentConstraint sha256 a := by
  constructor
  · rintro ⟨hthreshold, hvc, hvolume, hcounterparty, htx, hrate, hrepaid, hrepay, hcomposite, hscore,
      hcommitment⟩
    exact ⟨hthreshold,
      { vcScore := vcScoreConstraint_iff.mp hvc
        volume := (cappedAmount_iff (by decide)).mp hvolume
        counterparty := counterpartyConstraint_iff.mp hcounterparty
        txScore := txScoreConstraint_iff.mp htx
        repaymentRate := repaymentRateConstraint_iff.mp hrate
        repaymentVolume := (cappedAmount_iff (by decide)).mp hrepaid
        repayScore := repayScoreConstraint_iff.mp hrepay
        scaled := ⟨compositeConstraint_iff.mp hcomposite, scoreConstraint_iff.mp hscore⟩ },
      hcommitment⟩
  · rintro ⟨hthreshold, hnumbers, hcommitment⟩
    exact
      { threshold := hthreshold
        vcScore := vcScoreConstraint_iff.mpr hnumbers.vcScore
        volume := (cappedAmount_iff (by decide)).mpr hnumbers.volume
        counterparty := counterpartyConstraint_iff.mpr hnumbers.counterparty
        txScore := txScoreConstraint_iff.mpr hnumbers.txScore
        repaymentRate := repaymentRateConstraint_iff.mpr hnumbers.repaymentRate
        repaymentVolume := (cappedAmount_iff (by decide)).mpr hnumbers.repaymentVolume
        repayScore := repayScoreConstraint_iff.mpr hnumbers.repayScore
        composite := compositeConstraint_iff.mpr hnumbers.scaled.1
        score := scoreConstraint_iff.mpr hnumbers.scaled.2
        commitment := hcommitment }

end StellarDidCredit.Circuit
