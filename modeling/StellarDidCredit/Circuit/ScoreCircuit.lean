import StellarDidCredit.Circuit.Gadgets
import Mathlib.Data.Fin.VecNotation

/-!
# The circuit for `score > threshold`

The variables that `generate_constraints` allocates, and its constraints as a proposition
about an assignment of them. Products and sums of field variables are computed, not assigned:
their own constraints determine them.

The coefficients of the commitment are hashes; the hash function is a parameter.
-/

namespace StellarDidCredit.Circuit

/-! ## The commitment -/

/-- Number of committed scalar fields. -/
abbrev commitFields : ℕ := 8

/-- Domain separator for the circuit. -/
def circuitDomain : List UInt8 := "stellar-did-credit::score-gt-threshold::v1".toUTF8.toList

/-- A little-endian byte string, reduced modulo the order of the field. -/
def fromLeBytesModOrder (bytes : List UInt8) : Fr :=
  (bytes.foldr (fun byte acc => byte.toNat + 256 * acc) 0 : ℕ)

/-- A big-endian byte string, reduced modulo the order of the field. -/
def fromBeBytesModOrder (bytes : List UInt8) : Fr := fromLeBytesModOrder bytes.reverse

/-- The four little-endian bytes of a 32-bit number. -/
def leBytes32 (n : ℕ) : List UInt8 := (List.range 4).map fun i => UInt8.ofNat (n / 256 ^ i)

/-- The coefficient of the committed field `i`. -/
def coefficient (sha256 : List UInt8 → List UInt8) (domainSeparator : List UInt8) (i : Fin commitFields) : Fr :=
  fromLeBytesModOrder (sha256 (domainSeparator ++ "::pedersen_coeff::".toUTF8.toList ++ leBytes32 i))

/-- The sum of the fields, each with its coefficient, and the blinding. -/
def commit (sha256 : List UInt8 → List UInt8) (domainSeparator : List UInt8) (fields : Fin commitFields → Fr)
    (blinding : Fr) : Fr :=
  (List.finRange commitFields).foldl
    (fun acc i => acc + coefficient sha256 domainSeparator i * fields i) 0 + blinding

/-! ## Variables -/

/-- The raw inputs of the scoring formula, as the circuit allocates them. -/
structure RawInputs where
  vcPoints : BitVec 32
  txVolume30d : BitVec 64
  avgCounterparties : BitVec 32
  onTimeCount : BitVec 32
  totalCount : BitVec 32
  totalRepaid : BitVec 64
  vcWeight : BitVec 32
  txWeight : BitVec 32
  repaymentWeight : BitVec 32
  deriving DecidableEq

/-- An assignment of the circuit's variables: the public inputs, then the witnesses. -/
structure Assignment extends RawInputs where
  threshold : Fr
  subject : Fr
  creditOracleId : Fr
  commitment : Fr
  snapshotLedger : Fr
  domainSeparator : Fr
  score : BitVec 32
  vcCount : BitVec 32
  repaymentRate : BitVec 32
  lastUpdated : BitVec 64
  computedAtLedger : BitVec 32
  stale : Bool
  vcScore : BitVec 32
  volumeScore : BitVec 32
  counterpartyBonus : BitVec 32
  txScore : BitVec 32
  repaymentRateScore : BitVec 32
  repaymentVolumeScore : BitVec 32
  repayScore : BitVec 32
  composite : BitVec 32
  qVolume : BitVec 32
  qCp : BitVec 32
  qRv : BitVec 32
  blinding : Fr

/-! ## Constraints -/

section Constraints

variable (sha256 : List UInt8 → List UInt8) (gadget : BitGadget) (a : Assignment)

/-- Constraint 1: `score > threshold`. -/
def ThresholdConstraint : Prop := enforceU32GtFp gadget a.score a.threshold

/-- Constraint 2: `vc_score == min(vc_points, 100)`. -/
def VcScoreConstraint : Prop := enforceCapped 7 100 a.vcScore (uint32ToFp a.vcPoints)

/-- Constraint 3: `volume_score == min(tx_volume_30d / 100_000_000, 80)`. -/
def VolumeConstraint : Prop :=
  enforceQuotient gadget 27 100000000 (uint64ToFp a.txVolume30d) (uint32ToFp a.qVolume) ∧
  enforceCapped 7 80 a.volumeScore (uint32ToFp a.qVolume)

/-- Constraint 4: `counterparty_bonus == min(avg_counterparties / 5, 20)`. -/
def CounterpartyConstraint : Prop :=
  enforceQuotient gadget 3 5 (uint32ToFp a.avgCounterparties) (uint32ToFp a.qCp) ∧
  enforceCapped 5 20 a.counterpartyBonus (uint32ToFp a.qCp)

/-- Constraint 5: `tx_score == min(volume_score + counterparty_bonus, 100)`. -/
def TxScoreConstraint : Prop :=
  enforceCapped 7 100 a.txScore (uint32ToFp a.volumeScore + uint32ToFp a.counterpartyBonus)

/-- Constraint 6: `repayment_rate_score == floor(on_time_count * 100 / total_count)`. -/
def RepaymentRateConstraint : Prop :=
  let rrDiff := uint32ToFp a.onTimeCount * 100 - uint32ToFp a.repaymentRateScore * uint32ToFp a.totalCount
  Clear 7 (bitsLe a.repaymentRateScore) ∧
  Clear 32 (gadget.toBitsLe rrDiff) ∧
  -- the comment says `[1, 2^32)`, but zero passes too
  Clear 32 (gadget.toBitsLe (uint32ToFp a.totalCount - rrDiff))

/-- Constraint 7: `repayment_volume_score == min(total_repaid / 100_000_000, 100)`. -/
def RepaymentVolumeConstraint : Prop :=
  enforceQuotient gadget 27 100000000 (uint64ToFp a.totalRepaid) (uint32ToFp a.qRv) ∧
  enforceCapped 7 100 a.repaymentVolumeScore (uint32ToFp a.qRv)

/-- Constraint 8: `repay_score == (repayment_rate_score + repayment_volume_score) / 2`. -/
def RepayScoreConstraint : Prop :=
  uint32ToFp a.repayScore * ((2 : ℕ) : Fr) =
    uint32ToFp a.repaymentRateScore + uint32ToFp a.repaymentVolumeScore

/-- Constraint 9: the weighted average of the three scores. -/
def CompositeConstraint : Prop :=
  let numerator := uint32ToFp a.vcScore * uint32ToFp a.vcWeight + uint32ToFp a.txScore * uint32ToFp a.txWeight +
    uint32ToFp a.repayScore * uint32ToFp a.repaymentWeight
  enforceQuotient gadget 7 100 numerator (uint32ToFp a.composite) ∧
  Clear 7 (bitsLe a.composite)

/-- Constraint 10: `score == 300 + composite * 550 / 100`. -/
def ScoreConstraint : Prop :=
  enforceQuotient gadget 7 100 (uint32ToFp a.composite * 550) (uint32ToFp a.score - 300) ∧
  Clear 10 (bitsLe a.score)

/-- The committed fields. -/
def Assignment.fields : Fin commitFields → Fr :=
  ![uint32ToFp a.score, uint32ToFp a.vcCount, uint64ToFp a.txVolume30d, uint32ToFp a.avgCounterparties,
    uint32ToFp a.repaymentRate, uint64ToFp a.lastUpdated, uint32ToFp a.computedAtLedger, booleanToFp a.stale]

/-- The commitment to the committed fields, as the circuit adds it up. -/
def Assignment.commitmentSum : Fr :=
  (List.finRange commitFields).foldl
    (fun acc i => acc + a.fields i * coefficient sha256 circuitDomain i) 0 + a.blinding

/-- Constraint 11: the commitment is the public one. -/
def CommitmentConstraint : Prop := a.commitmentSum sha256 = a.commitment

/-- All constraints that the circuit emits. -/
structure GenerateConstraints : Prop where
  threshold : ThresholdConstraint gadget a
  vcScore : VcScoreConstraint a
  volume : VolumeConstraint gadget a
  counterparty : CounterpartyConstraint gadget a
  txScore : TxScoreConstraint a
  repaymentRate : RepaymentRateConstraint gadget a
  repaymentVolume : RepaymentVolumeConstraint gadget a
  repayScore : RepayScoreConstraint a
  composite : CompositeConstraint gadget a
  score : ScoreConstraint gadget a
  commitment : CommitmentConstraint sha256 a

instance : Decidable (GenerateConstraints sha256 gadget a) :=
  have : Decidable (ThresholdConstraint gadget a) := inferInstanceAs (Decidable (enforceU32GtFp _ _ _))
  have : Decidable (VcScoreConstraint a) := inferInstanceAs (Decidable (enforceCapped _ _ _ _))
  have : Decidable (VolumeConstraint gadget a) := inferInstanceAs (Decidable (_ ∧ _))
  have : Decidable (CounterpartyConstraint gadget a) := inferInstanceAs (Decidable (_ ∧ _))
  have : Decidable (TxScoreConstraint a) := inferInstanceAs (Decidable (enforceCapped _ _ _ _))
  have : Decidable (RepaymentRateConstraint gadget a) := inferInstanceAs (Decidable (_ ∧ _ ∧ _))
  have : Decidable (RepaymentVolumeConstraint gadget a) := inferInstanceAs (Decidable (_ ∧ _))
  have : Decidable (RepayScoreConstraint a) := inferInstanceAs (Decidable (_ = _))
  have : Decidable (CompositeConstraint gadget a) := inferInstanceAs (Decidable (_ ∧ _))
  have : Decidable (ScoreConstraint gadget a) := inferInstanceAs (Decidable (_ ∧ _))
  have : Decidable (CommitmentConstraint sha256 a) := inferInstanceAs (Decidable (_ = _))
  decidable_of_iff
    (ThresholdConstraint gadget a ∧ VcScoreConstraint a ∧ VolumeConstraint gadget a ∧
      CounterpartyConstraint gadget a ∧ TxScoreConstraint a ∧ RepaymentRateConstraint gadget a ∧
      RepaymentVolumeConstraint gadget a ∧ RepayScoreConstraint a ∧ CompositeConstraint gadget a ∧
      ScoreConstraint gadget a ∧ CommitmentConstraint sha256 a)
    ⟨fun ⟨h1, h2, h3, h4, h5, h6, h7, h8, h9, h10, h11⟩ => ⟨h1, h2, h3, h4, h5, h6, h7, h8, h9, h10, h11⟩,
      fun ⟨h1, h2, h3, h4, h5, h6, h7, h8, h9, h10, h11⟩ => ⟨h1, h2, h3, h4, h5, h6, h7, h8, h9, h10, h11⟩⟩

end Constraints

/-! ## The prover's assignment -/

/-- Public inputs for the circuit. -/
structure ScorePublicInputs where
  threshold : BitVec 32
  subject : Fr
  creditOracleId : Fr
  scoreCommitment : Fr
  snapshotLedger : BitVec 32
  domainSeparator : Fr

/-- Private witness for the circuit. -/
structure ScoreWitness where
  score : BitVec 32
  vcCount : BitVec 32
  txVolume30d : ℤ
  avgCounterparties : BitVec 32
  repaymentRate : BitVec 32
  lastUpdated : BitVec 64
  computedAtLedger : BitVec 32
  stale : Bool
  vcPoints : BitVec 32
  onTimeCount : BitVec 32
  totalCount : BitVec 32
  totalRepaid : ℤ
  vcWeight : BitVec 32
  txWeight : BitVec 32
  repaymentWeight : BitVec 32
  vcScore : BitVec 32
  volumeScore : BitVec 32
  counterpartyBonus : BitVec 32
  txScore : BitVec 32
  repaymentRateScore : BitVec 32
  repaymentVolumeScore : BitVec 32
  repayScore : BitVec 32
  composite : BitVec 32
  qVolume : BitVec 32
  qCp : BitVec 32
  qRv : BitVec 32
  totalCountIsZero : Bool
  totalCountInv : BitVec 32
  blinding : Fr

/-- An amount as a 64-bit number: zero when negative, and the low bits of a larger one. -/
def asU64 (amount : ℤ) : BitVec 64 := .ofInt 64 (max amount 0)

/-- The values that `generate_constraints` assigns; without a witness they are all zero. -/
def assign (witness : Option ScoreWitness) (publicInputs : ScorePublicInputs) : Assignment where
  threshold := (publicInputs.threshold.toNat : Fr)
  subject := publicInputs.subject
  creditOracleId := publicInputs.creditOracleId
  commitment := publicInputs.scoreCommitment
  snapshotLedger := (publicInputs.snapshotLedger.toNat : Fr)
  domainSeparator := publicInputs.domainSeparator
  score := witness.elim 0 fun w => w.score
  vcCount := witness.elim 0 fun w => w.vcCount
  txVolume30d := witness.elim 0 fun w => asU64 w.txVolume30d
  avgCounterparties := witness.elim 0 fun w => w.avgCounterparties
  repaymentRate := witness.elim 0 fun w => w.repaymentRate
  lastUpdated := witness.elim 0 fun w => w.lastUpdated
  computedAtLedger := witness.elim 0 fun w => w.computedAtLedger
  stale := witness.elim false fun w => w.stale
  vcPoints := witness.elim 0 fun w => w.vcPoints
  onTimeCount := witness.elim 0 fun w => w.onTimeCount
  totalCount := witness.elim 0 fun w => w.totalCount
  totalRepaid := witness.elim 0 fun w => asU64 w.totalRepaid
  vcWeight := witness.elim 0 fun w => w.vcWeight
  txWeight := witness.elim 0 fun w => w.txWeight
  repaymentWeight := witness.elim 0 fun w => w.repaymentWeight
  vcScore := witness.elim 0 fun w => w.vcScore
  volumeScore := witness.elim 0 fun w => w.volumeScore
  counterpartyBonus := witness.elim 0 fun w => w.counterpartyBonus
  txScore := witness.elim 0 fun w => w.txScore
  repaymentRateScore := witness.elim 0 fun w => w.repaymentRateScore
  repaymentVolumeScore := witness.elim 0 fun w => w.repaymentVolumeScore
  repayScore := witness.elim 0 fun w => w.repayScore
  composite := witness.elim 0 fun w => w.composite
  qVolume := witness.elim 0 fun w => w.qVolume
  qCp := witness.elim 0 fun w => w.qCp
  qRv := witness.elim 0 fun w => w.qRv
  blinding := witness.elim 0 fun w => w.blinding

end StellarDidCredit.Circuit
