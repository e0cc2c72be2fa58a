import StellarDidCredit.Circuit.Prover

/-!
# What the public inputs and the commitment pin down

The constraints read two of the public inputs, the threshold and the commitment. The committed
fields are those of the score record; the weights, the credential points and the repayment
counts are not among them and stay the prover's choice.
-/

namespace StellarDidCredit.Circuit

variable {sha256 : List UInt8 → List UInt8} {gadget : BitGadget} {a : Assignment} {p : ScorePublicInputs}

/-! ## Context -/

/-- The assignment under other public inputs. -/
def Assignment.withPublic (a : Assignment) (p : ScorePublicInputs) : Assignment :=
  { a with
    threshold := (p.threshold.toNat : Fr)
    subject := p.subject
    creditOracleId := p.creditOracleId
    commitment := p.scoreCommitment
    snapshotLedger := (p.snapshotLedger.toNat : Fr)
    domainSeparator := p.domainSeparator }

/-- Only the threshold and the commitment matter. -/
theorem generateConstraints_withPublic (hthreshold : a.threshold = (p.threshold.toNat : Fr))
    (hcommitment : a.commitment = p.scoreCommitment) :
    GenerateConstraints sha256 gadget (a.withPublic p) ↔ GenerateConstraints sha256 gadget a := by
  have hbound : ThresholdConstraint gadget (a.withPublic p) ↔ ThresholdConstraint gadget a := by
    rw [ThresholdConstraint, ThresholdConstraint, hthreshold]
    rfl
  have hopened : CommitmentConstraint sha256 (a.withPublic p) ↔ CommitmentConstraint sha256 a := by
    rw [commitmentConstraint_iff, commitmentConstraint_iff, hcommitment]
    rfl
  have hnumbers : NumberConstraints (a.withPublic p) ↔ NumberConstraints a :=
    ⟨fun h => { h with }, fun h => { h with }⟩
  rw [generateConstraints_iff, generateConstraints_iff, hbound, hopened, hnumbers]

/-- The witness ties the statement to one subject and one oracle. -/
def BindsContext (sha256 : List UInt8 → List UInt8) (gadget : BitGadget) (a : Assignment) : Prop :=
  ∀ p p' : ScorePublicInputs, GenerateConstraints sha256 gadget (a.withPublic p) →
    GenerateConstraints sha256 gadget (a.withPublic p') → p'.threshold = p.threshold →
    p'.scoreCommitment = p.scoreCommitment → p'.subject = p.subject ∧ p'.creditOracleId = p.creditOracleId

/-- The committed ledger is the public one. -/
def BindsSnapshot (sha256 : List UInt8 → List UInt8) (gadget : BitGadget) (a : Assignment) : Prop :=
  ∀ p : ScorePublicInputs, GenerateConstraints sha256 gadget (a.withPublic p) →
    a.computedAtLedger = p.snapshotLedger

/-- A witness that satisfies the constraints for some public inputs satisfies them for any
subject, oracle, snapshot ledger and domain separator. -/
theorem satisfied_anywhere (h : GenerateConstraints sha256 gadget (a.withPublic p))
    (subject creditOracleId domainSeparator : Fr) (snapshotLedger : BitVec 32) :
    GenerateConstraints sha256 gadget
      (a.withPublic { p with subject, creditOracleId, domainSeparator, snapshotLedger }) := by
  have hsame : GenerateConstraints sha256 gadget ((a.withPublic p).withPublic
      { p with subject, creditOracleId, domainSeparator, snapshotLedger }) ↔
      GenerateConstraints sha256 gadget (a.withPublic p) := generateConstraints_withPublic rfl rfl
  exact hsame.mpr h

/-- A witness binds its context, and its snapshot, only when it satisfies the constraints for
no public inputs at all. -/
theorem context_binding (sha256 : List UInt8 → List UInt8) (gadget : BitGadget) (a : Assignment) :
    (BindsContext sha256 gadget a ↔ ∀ p, ¬GenerateConstraints sha256 gadget (a.withPublic p)) ∧
    (BindsSnapshot sha256 gadget a ↔ ∀ p, ¬GenerateConstraints sha256 gadget (a.withPublic p)) := by
  refine ⟨⟨?_, ?_⟩, ⟨?_, ?_⟩⟩
  · intro hbinds p h
    have hother := satisfied_anywhere h (p.subject + 1) p.creditOracleId p.domainSeparator p.snapshotLedger
    have hsubject : p.subject + 1 = p.subject := (hbinds p _ h hother rfl rfl).1
    have hone : (1 : Fr) = 0 := by simpa using hsubject
    exact absurd hone (by decide)
  · intro hnone p _ h
    exact (hnone p h).elim
  · intro hbinds p h
    have hother := satisfied_anywhere h p.subject p.creditOracleId p.domainSeparator (a.computedAtLedger + 1)
    have hledger : a.computedAtLedger = a.computedAtLedger + 1 := hbinds _ hother
    have hone : (1 : BitVec 32) = 0 := by simpa using hledger.symm
    exact absurd hone (by decide)
  · intro hnone p h
    exact (hnone p h).elim

/-- One witness proves the statement for two subjects and two snapshots. -/
theorem not_context_binding : ∃ p p' : ScorePublicInputs, p'.threshold = p.threshold ∧
    p'.scoreCommitment = p.scoreCommitment ∧ p'.subject ≠ p.subject ∧ p'.snapshotLedger ≠ p.snapshotLedger ∧
    ∀ sha256 gadget, ∃ a : Assignment, GenerateConstraints sha256 gadget (a.withPublic p) ∧
      GenerateConstraints sha256 gadget (a.withPublic p') := by
  let p : ScorePublicInputs :=
    { threshold := 519, subject := 0, creditOracleId := 0, scoreCommitment := 0, snapshotLedger := 0,
      domainSeparator := 0 }
  refine ⟨p, { p with subject := 1, snapshotLedger := 1 }, rfl, rfl, by decide, by decide, ?_⟩
  intro sha256 gadget
  obtain ⟨a, h, -, hthreshold, hcommitment, -⟩ :=
    exists_assignment sampleRaw_open.1 sampleRaw_open.2.1 sampleRaw_open.2.2 sampleRaw_scaled
      (show p.threshold.toNat < 520 by decide) p.scoreCommitment
  have hsatisfied := (generateConstraints_withPublic hthreshold hcommitment).mpr h
  exact ⟨a, hsatisfied, satisfied_anywhere hsatisfied 1 0 0 1⟩

/-! ## Raw inputs -/

/-- The committed fields of an assignment. -/
structure CommittedRecord where
  score : BitVec 32
  vcCount : BitVec 32
  txVolume30d : BitVec 64
  avgCounterparties : BitVec 32
  repaymentRate : BitVec 32
  lastUpdated : BitVec 64
  computedAtLedger : BitVec 32
  stale : Bool

def Assignment.record (a : Assignment) : CommittedRecord where
  score := a.score
  vcCount := a.vcCount
  txVolume30d := a.txVolume30d
  avgCounterparties := a.avgCounterparties
  repaymentRate := a.repaymentRate
  lastUpdated := a.lastUpdated
  computedAtLedger := a.computedAtLedger
  stale := a.stale

/-- The weights sum to 100. -/
def WeightsBound (a : Assignment) : Prop :=
  a.vcWeight.toNat + a.txWeight.toNat + a.repaymentWeight.toNat = 100

/-- The committed rate is the one of the repayment counts. -/
def RateBound (a : Assignment) : Prop := a.repaymentRate.toNat = rateBps a.onTimeCount a.totalCount

/-- The credential score is within what the committed count allows. -/
def VcScoreBound (a : Assignment) : Prop := a.vcScore.toNat ≤ min (20 * a.vcCount.toNat) 100

/-- The records with a satisfying assignment: the score passes the threshold and is one of a
composite of seven bits, and the volume has a quotient of 32 bits. -/
def Provable (gadget : BitGadget) (record : CommittedRecord) (threshold : Fr) : Prop :=
  enforceU32GtFp gadget record.score threshold ∧ record.score.toNat < 2 ^ 10 ∧
  (∃ composite < 2 ^ 7, Divided 7 100 (composite * 550 + 30000) record.score.toNat) ∧
  ∃ q, OpenQuotient 27 100000000 record.txVolume30d.toNat q

/-- Every satisfying assignment has such a record. -/
theorem provable_of_satisfied (h : GenerateConstraints sha256 gadget a) :
    Provable gadget a.record a.threshold := by
  obtain ⟨hthreshold, hnumbers, -⟩ := generateConstraints_iff.mp h
  refine ⟨hthreshold, hnumbers.scaled.2.2, ⟨_, hnumbers.scaled.1.2, hnumbers.scaled.2.1⟩, ?_⟩
  exact ⟨_, (openQuotient_iff (by decide) (by decide)).mpr hnumbers.volume.1⟩

/-- Repayment counts whose rate is not the committed one, with a rate score of zero. -/
def otherCounts (repaymentRate : BitVec 32) : BitVec 32 × BitVec 32 :=
  if repaymentRate = 0 then (1, 10000) else (0, 0)

/-- The counts never give the rate that they stand in for. -/
theorem rateBps_otherCounts (repaymentRate : BitVec 32) :
    repaymentRate.toNat ≠ rateBps (otherCounts repaymentRate).1 (otherCounts repaymentRate).2 := by
  unfold otherCounts
  split
  case isTrue hzero =>
    rw [hzero]
    decide
  case isFalse hzero =>
    have hrate : rateBps 0 0 = 0 := by decide
    rw [hrate]
    intro hsame
    exact hzero (BitVec.eq_of_toNat_eq hsame)

/-- Raw inputs that go with any committed record: a credential score beyond its cap that has no
weight, a full transaction score with the composite as its weight, and a repayment score of
zero with a weight of 101. -/
def looseInputs (record : CommittedRecord) (composite : BitVec 32) : RawInputs where
  vcPoints := 127
  txVolume30d := record.txVolume30d
  avgCounterparties := record.avgCounterparties
  onTimeCount := (otherCounts record.repaymentRate).1
  totalCount := (otherCounts record.repaymentRate).2
  totalRepaid := 0
  vcWeight := 0
  txWeight := composite
  repaymentWeight := 101

/-- A record that can be proved can be proved with raw inputs that it does not allow. -/
theorem exists_loose {record : CommittedRecord} {threshold : Fr} (h : Provable gadget record threshold) :
    ∃ a : Assignment, a.record = record ∧ a.threshold = threshold ∧ GenerateConstraints sha256 gadget a ∧
      ¬WeightsBound a ∧ ¬RateBound a ∧ ¬VcScoreBound a := by
  obtain ⟨hthreshold, hscore, ⟨composite, hcomposite, hdivided⟩, q, hq⟩ := h
  obtain ⟨composite, rfl⟩ := exists_toNat_eq (hcomposite.trans (by decide))
  have hvc : OpenVcScore (looseInputs record composite) 127 := ⟨by decide, Or.inl rfl⟩
  have htx : OpenTxScore (looseInputs record composite) 100 :=
    ⟨q, 80, record.avgCounterparties.toNat / 5, 20, hq, ⟨by decide, Or.inr rfl⟩,
      ⟨(Nat.div_le_self _ _).trans_lt record.avgCounterparties.isLt, Or.inl rfl⟩, ⟨by decide, Or.inr rfl⟩,
      ⟨by decide, Or.inr rfl⟩⟩
  have hrate :
      Rated (otherCounts record.repaymentRate).1.toNat (otherCounts record.repaymentRate).2.toNat 0 := by
    unfold otherCounts
    split <;> exact ⟨by decide, by decide, by decide⟩
  have hrepay : OpenRepayScore (looseInputs record composite) 0 :=
    ⟨0, 0, 0, hrate, ⟨by decide, Or.inl (Nat.zero_div _).symm⟩, ⟨by decide, Or.inl rfl⟩, rfl⟩
  have hsum : weightedSum (looseInputs record composite) 127 100 0 = 100 * composite.toNat := by
    change 127 * 0 + 100 * composite.toNat + 0 * 101 = 100 * composite.toNat
    omega
  have hscaled : Scaled (weightedSum (looseInputs record composite) 127 100 0) composite.toNat
      record.score.toNat := by
    rw [hsum]
    exact ⟨⟨⟨by omega, by omega⟩, hcomposite⟩, hdivided, hscore⟩
  let base : Assignment :=
    { blank 0 with
      threshold
      vcCount := record.vcCount
      repaymentRate := record.repaymentRate
      lastUpdated := record.lastUpdated
      computedAtLedger := record.computedAtLedger
      stale := record.stale }
  obtain ⟨i, hnumbers, hvcScore, hsame⟩ := exists_choice hvc htx hrepay hscaled base
  have hclaimed : i.score = record.score := BitVec.eq_of_toNat_eq hsame
  refine ⟨(base.choose (looseInputs record composite) i).openTo sha256 0, ?_, rfl, ?_, ?_, ?_, ?_⟩
  · simp only [Assignment.record, Assignment.openTo, Assignment.choose, looseInputs, hclaimed, base]
  · refine generateConstraints_iff.mpr ⟨?_, hnumbers.openTo 0, commitmentConstraint_openTo 0⟩
    rw [← hclaimed] at hthreshold
    exact hthreshold
  · change ¬0 + composite.toNat + 101 = 100
    omega
  · exact rateBps_otherCounts record.repaymentRate
  · change ¬i.vcScore.toNat ≤ _
    rw [hvcScore]
    omega

/-- The raw inputs are pinned by the committed record only where it has no satisfying
assignment; elsewhere none of the three bounds holds. -/
theorem raw_input_binding (sha256 : List UInt8 → List UInt8) (gadget : BitGadget) (record : CommittedRecord)
    (threshold : Fr) :
    ((∀ a : Assignment, a.record = record → a.threshold = threshold → GenerateConstraints sha256 gadget a →
      WeightsBound a ∧ RateBound a ∧ VcScoreBound a) ↔ ¬Provable gadget record threshold) ∧
    (Provable gadget record threshold → ∃ a : Assignment, a.record = record ∧ a.threshold = threshold ∧
      GenerateConstraints sha256 gadget a ∧ ¬WeightsBound a ∧ ¬RateBound a ∧ ¬VcScoreBound a) := by
  refine ⟨⟨?_, ?_⟩, exists_loose⟩
  · intro hbound hprovable
    obtain ⟨a, hrecord, hthreshold, hsatisfied, hweights, -⟩ := exists_loose hprovable
    exact hweights (hbound a hrecord hthreshold hsatisfied).1
  · rintro hnot a rfl rfl hsatisfied
    exact (hnot (provable_of_satisfied hsatisfied)).elim

/-- A record of the highest score without credentials and repayments, for the threshold 849. -/
theorem not_raw_input_binding : ∃ record : CommittedRecord, record.score = 850 ∧ record.vcCount = 0 ∧
    ∀ sha256 gadget, ∃ a : Assignment, a.record = record ∧ a.threshold = 849 ∧
      GenerateConstraints sha256 gadget a ∧ ¬WeightsBound a ∧ ¬RateBound a ∧ ¬VcScoreBound a := by
  let record : CommittedRecord :=
    { score := 850, vcCount := 0, txVolume30d := 0, avgCounterparties := 0, repaymentRate := 0,
      lastUpdated := 0, computedAtLedger := 0, stale := false }
  refine ⟨record, rfl, rfl, fun sha256 gadget => exists_loose ⟨?_, by decide, ?_, ?_⟩⟩
  · have habove : enforceU32GtFp gadget 850 ((849 : BitVec 32).toNat : Fr) := enforceU32GtFp_iff.mpr (by decide)
    exact habove
  · exact ⟨100, by decide, by decide, by decide⟩
  · exact ⟨0, by decide, Or.inl (Nat.zero_div _).symm⟩

end StellarDidCredit.Circuit
