import StellarDidCredit.Circuit.Soundness
import StellarDidCredit.Lib.MachineInt

/-!
# The prover's witness

What the wasm prover builds from its arguments before it runs Groth16: the witness, its
commitment and the public inputs. The two amounts arrive as floating-point numbers; here they
are the integers they convert to.
-/

namespace StellarDidCredit.Circuit

/-- The arguments of `generate_score_proof`. -/
structure ProofRequest where
  vcPoints : BitVec 32
  txVolume30d : ℤ
  avgCounterparties : BitVec 32
  onTimeCount : BitVec 32
  totalCount : BitVec 32
  totalRepaid : ℤ
  vcWeight : BitVec 32
  txWeight : BitVec 32
  repaymentWeight : BitVec 32
  vcCount : BitVec 32
  lastUpdated : BitVec 64
  computedAtLedger : BitVec 32
  stale : Bool
  blinding : BitVec 32
  threshold : BitVec 32
  subject : List UInt8
  creditOracleId : List UInt8
  snapshotLedger : BitVec 32
  domainSeparator : List UInt8

/-- `(amount / 100_000_000).max(0) as u32`: the conversion keeps the low 32 bits. -/
def wholeUnits (amount : ℤ) : BitVec 32 := .ofInt 32 (max (amount.tdiv 100000000) 0)

/-- `on_time_count * 10000 / total_count` in 64 bits, zero without any repayment. -/
def rateBps (onTimeCount totalCount : BitVec 32) : ℕ :=
  if 0 < totalCount.toNat then onTimeCount.toNat * 10000 / totalCount.toNat else 0

/-- The witness of a request; the 32-bit operators trap when a result does not fit. -/
def scoreWitness (r : ProofRequest) : Option ScoreWitness := do
  let vcScore := min r.vcPoints.toNat 100
  let qVolume := wholeUnits r.txVolume30d
  let volumeScore := min qVolume.toNat 80
  let qCp := r.avgCounterparties.toNat / 5
  let counterpartyBonus := min qCp 20
  let txScore := min (volumeScore + counterpartyBonus) 100
  let repaymentRateScore : BitVec 32 := .ofNat 32 (rateBps r.onTimeCount r.totalCount / 100)
  let repaymentRate : BitVec 32 := .ofNat 32 (rateBps r.onTimeCount r.totalCount)
  let qRv := wholeUnits r.totalRepaid
  let repaymentVolumeScore := min qRv.toNat 100
  let repaySum ← U32.checkedAdd repaymentRateScore.toNat repaymentVolumeScore
  let repayScore := repaySum / 2
  let vcTerm ← U32.checkedMul vcScore r.vcWeight.toNat
  let txTerm ← U32.checkedMul txScore r.txWeight.toNat
  let repayTerm ← U32.checkedMul repayScore r.repaymentWeight.toNat
  let partialSum ← U32.checkedAdd vcTerm txTerm
  let sum ← U32.checkedAdd partialSum repayTerm
  let composite := sum / 100
  let points ← U32.checkedMul composite 550
  let unclamped ← U32.checkedAdd 300 (points / 100)
  let score := max (min unclamped 850) 300
  some {
    score := .ofNat 32 score
    vcCount := r.vcCount
    txVolume30d := r.txVolume30d
    avgCounterparties := r.avgCounterparties
    repaymentRate
    lastUpdated := r.lastUpdated
    computedAtLedger := r.computedAtLedger
    stale := r.stale
    vcPoints := r.vcPoints
    onTimeCount := r.onTimeCount
    totalCount := r.totalCount
    totalRepaid := r.totalRepaid
    vcWeight := r.vcWeight
    txWeight := r.txWeight
    repaymentWeight := r.repaymentWeight
    vcScore := .ofNat 32 vcScore
    volumeScore := .ofNat 32 volumeScore
    counterpartyBonus := .ofNat 32 counterpartyBonus
    txScore := .ofNat 32 txScore
    repaymentRateScore
    repaymentVolumeScore := .ofNat 32 repaymentVolumeScore
    repayScore := .ofNat 32 repayScore
    composite := .ofNat 32 composite
    qVolume
    qCp := .ofNat 32 qCp
    qRv
    totalCountIsZero := r.totalCount == 0
    totalCountInv := if r.totalCount == 0 then 0 else 1
    blinding := (r.blinding.toNat : Fr) }

/-- The commitment to the committed fields of a witness. -/
def scoreCommitment (sha256 : List UInt8 → List UInt8) (w : ScoreWitness) : Fr :=
  commit sha256 circuitDomain
    ![(w.score.toNat : Fr), (w.vcCount.toNat : Fr), ((asU64 w.txVolume30d).toNat : Fr),
      (w.avgCounterparties.toNat : Fr), (w.repaymentRate.toNat : Fr), (w.lastUpdated.toNat : Fr),
      (w.computedAtLedger.toNat : Fr), (w.stale.toNat : Fr)] w.blinding

/-- The first 32 bytes; the slice panics when there are fewer. -/
def bytes32 (bytes : List UInt8) : Option (List UInt8) :=
  if 32 ≤ bytes.length then some (bytes.take 32) else none

/-- The public inputs of a request for its witness. -/
def publicInputs (sha256 : List UInt8 → List UInt8) (r : ProofRequest) (w : ScoreWitness) :
    Option ScorePublicInputs := do
  let subject ← bytes32 r.subject
  let creditOracleId ← bytes32 r.creditOracleId
  let domainSeparator ← bytes32 r.domainSeparator
  some {
    threshold := r.threshold
    subject := fromBeBytesModOrder subject
    creditOracleId := fromBeBytesModOrder creditOracleId
    scoreCommitment := scoreCommitment sha256 w
    snapshotLedger := r.snapshotLedger
    domainSeparator := fromBeBytesModOrder domainSeparator }

/-- The witness and the public inputs that the prover is run on. -/
def generateScoreProof (sha256 : List UInt8 → List UInt8) (r : ProofRequest) :
    Option (ScoreWitness × ScorePublicInputs) := do
  let w ← scoreWitness r
  let p ← publicInputs sha256 r w
  some (w, p)

end StellarDidCredit.Circuit
