import StellarDidCredit.Lib.BinaryFloat
import StellarDidCredit.CreditOracle.Model
import StellarDidCredit.ScoreRangeVerifier.Model

/-!
# Score proofs in the SDK

`generateScoreProof` reads a subject's record and score inputs from the credit oracle, calls the
wasm prover, and appends a trailer with the public inputs that `verifyScoreProof` takes apart
again for the contract.

Every number passes through a double. The hash function, the text form of an address and the
prover that turns a witness into proof bytes are parameters.
-/

namespace StellarDidCredit.Sdk

open Circuit (ProofRequest ScoreWitness ScorePublicInputs)
open CreditOracle (ScoreRecord TxStats RepaymentRecord StoredRepayment)
open ScoreRangeVerifier (ScoreRangePublicInputs Submission)

/-! ## Numbers -/

/-- `Number(value)` of an integer. -/
def toNumber (value : ℤ) : ℤ := BinaryFloat.roundInt 53 value

/-- `value as i128` of a double, which stops at the bounds. -/
def asI128 (value : ℤ) : ℤ := max I128.min (min value I128.max)

/-- A number where 32 unsigned bits are expected: the low ones are kept. -/
def toUint32 (value : ℤ) : BitVec 32 := .ofInt 32 value

/-- The buffer of a typed array with one element of the given number of bytes, least
significant byte first. -/
def typedArrayBuffer {w : ℕ} (bytes : ℕ) (element : BitVec w) : List UInt8 :=
  (bytesBe bytes element.toNat).reverse

/-! ## What is read from the credit oracle -/

/-- The record as the SDK holds it; its time has more bits than a double keeps. -/
def parseScoreRecord (record : ScoreRecord) : ScoreRecord :=
  { record with lastUpdated := BinaryFloat.roundNat 53 record.lastUpdated }

/-- A record in the old layout has no repaid amount. -/
def parseRepaymentRecord : StoredRepayment → RepaymentRecord
  | .v1 record =>
    { onTimeCount := record.onTimeCount, totalCount := record.totalCount, totalRepaid := 0 }
  | .v2 record => record

/-- The repayment record, zero for a subject without one. -/
def repaymentOf (s : CreditOracle.State) (subject : Address) : RepaymentRecord :=
  ((s.repaymentRecord subject).map parseRepaymentRecord).getD
    { onTimeCount := 0, totalCount := 0, totalRepaid := 0 }

/-- What `generateScoreProof` fetches. -/
structure ScoreInputs where
  scoreRecord : ScoreRecord
  txStats : TxStats
  repaymentRecord : RepaymentRecord
  weights : ScoringWeights

/-- The four reads; a missing record or missing weights are errors, the other two have defaults. -/
def fetchScoreInputs {κ : Type} (host : CreditOracle.Host κ) (env : Env) (world : κ)
    (s : CreditOracle.State) (subject : Address) : Option ScoreInputs := do
  let record ← CreditOracle.getScore host env world s subject
  let weights ← s.config
  some {
    scoreRecord := parseScoreRecord record
    txStats := (s.txStats subject).getD { volume30d := 0, txCount30d := 0, avgCounterparties := 0 }
    repaymentRecord := repaymentOf s subject
    weights }

/-! ## Generation -/

/-- What `.address().toXDR()` gives: the address without the tag of a value. -/
def scAddressXdr : Address → List UInt8
  | .account key => toBeBytes 0 ++ toBeBytes 0 ++ BytesN.toBytes key
  | .contract hash => toBeBytes 1 ++ BytesN.toBytes hash

/-- The hash of the text that binds a proof to its circuit. -/
def domainHash (sha256 : List UInt8 → BytesN 32) : BytesN 32 :=
  sha256 "stellar-did-credit::score-gt-threshold::v1".toUTF8.toList

/-- Points of the counted credentials, `Math.min(100, vcCount * 20)`. -/
def vcPoints (vcCount : ℕ) : ℕ := min 100 (vcCount * 20)

/-- The arguments of the prover. -/
def proofRequest (sha256 : List UInt8 → BytesN 32) (creditOracleId : Address) (inputs : ScoreInputs)
    (subject : Address) (threshold blinding : ℤ) : ProofRequest where
  vcPoints := toUint32 (vcPoints inputs.scoreRecord.vcCount)
  txVolume30d := asI128 (toNumber inputs.txStats.volume30d)
  avgCounterparties := toUint32 inputs.txStats.avgCounterparties
  onTimeCount := toUint32 inputs.repaymentRecord.onTimeCount
  totalCount := toUint32 inputs.repaymentRecord.totalCount
  totalRepaid := asI128 (toNumber inputs.repaymentRecord.totalRepaid)
  vcWeight := toUint32 inputs.weights.vcWeight
  txWeight := toUint32 inputs.weights.txWeight
  repaymentWeight := toUint32 inputs.weights.repaymentWeight
  vcCount := toUint32 inputs.scoreRecord.vcCount
  lastUpdated := .ofNat 64 inputs.scoreRecord.lastUpdated
  computedAtLedger := toUint32 inputs.scoreRecord.computedAtLedger
  stale := inputs.scoreRecord.stale
  blinding := toUint32 blinding
  threshold := toUint32 threshold
  subject := BytesN.toBytes (sha256 (scAddressXdr subject))
  creditOracleId := BytesN.toBytes (sha256 (scAddressXdr creditOracleId))
  snapshotLedger := toUint32 inputs.scoreRecord.computedAtLedger
  domainSeparator := BytesN.toBytes (domainHash sha256)

/-- The commitment of the trailer: the hash of five fields, each most significant byte first. -/
def trailerCommitment (sha256 : List UInt8 → BytesN 32) (record : ScoreRecord) (blinding : ℤ) : BytesN 32 :=
  sha256 ((typedArrayBuffer 4 (toUint32 record.score)).reverse ++
    (typedArrayBuffer 4 (toUint32 record.vcCount)).reverse ++
    (typedArrayBuffer 8 (BitVec.ofNat 64 record.lastUpdated)).reverse ++
    (typedArrayBuffer 4 (toUint32 record.computedAtLedger)).reverse ++
    (typedArrayBuffer 4 (toUint32 blinding)).reverse)

/-- The public inputs that follow the proof bytes. -/
def trailer (sha256 : List UInt8 → BytesN 32) (record : ScoreRecord) (blinding : ℤ) : List UInt8 :=
  BytesN.toBytes (trailerCommitment sha256 record blinding) ++ toBeBytes (toUint32 record.computedAtLedger) ++
    BytesN.toBytes (domainHash sha256)

/-- The witness and the public inputs that the prover runs on. -/
def provedStatement (sha256 : List UInt8 → BytesN 32) (creditOracleId : Address) (inputs : ScoreInputs)
    (subject : Address) (threshold blinding : ℤ) : Option (ScoreWitness × ScorePublicInputs) :=
  Circuit.generateScoreProof (fun bytes => BytesN.toBytes (sha256 bytes))
    (proofRequest sha256 creditOracleId inputs subject threshold blinding)

/-- The payload: the bytes of the proof and the trailer. -/
def generateScoreProof (sha256 : List UInt8 → BytesN 32)
    (prove : ScoreWitness → ScorePublicInputs → Option (List UInt8)) (creditOracleId : Address)
    (inputs : ScoreInputs) (subject : Address) (threshold blinding : ℤ) : Option (List UInt8) := do
  let (witness, publicInputs) ← provedStatement sha256 creditOracleId inputs subject threshold blinding
  let proofBytes ← prove witness publicInputs
  some (proofBytes ++ trailer sha256 inputs.scoreRecord blinding)

/-! ## Verification -/

/-- Length of the trailer. -/
def trailerSize : ℕ := 68

/-- The parts of a payload. -/
structure ScoreProofPayload where
  rawProof : List UInt8
  scoreCommitment : BytesN 32
  snapshotLedger : BitVec 32
  domainSeparator : BytesN 32

/-- Take a payload apart, unless it is too short. -/
def splitPayload (proof : List UInt8) : Option ScoreProofPayload :=
  if proof.length < trailerSize then none
  else
    let proofLen := proof.length - trailerSize
    some {
      rawProof := proof.extract 0 proofLen
      scoreCommitment := .fromArray (proof.extract proofLen (proofLen + 32))
      snapshotLedger := .ofNat 32 (bigEndian (proof.extract (proofLen + 32) (proofLen + 36)))
      domainSeparator := .fromArray (proof.extract (proofLen + 36) (proofLen + 68)) }

/-- The public inputs that `verifyScoreProof` submits. -/
def submittedInputs (creditOracleId subject : Address) (threshold : BitVec 32) (payload : ScoreProofPayload) :
    ScoreRangePublicInputs where
  threshold
  subject
  creditOracleId
  scoreCommitment := payload.scoreCommitment
  snapshotLedger := payload.snapshotLedger
  domainSeparator := payload.domainSeparator

/-- The submission, with the nonce that the SDK derives from the proof, the subject and the threshold. -/
def proofSubmission (sha256 : List UInt8 → BytesN 32) (strKey : Address → List UInt8)
    (creditOracleId subject : Address) (threshold : BitVec 32) (payload : ScoreProofPayload) : Submission where
  proof := payload.rawProof
  publicInputs := submittedInputs creditOracleId subject threshold payload
  nonce := sha256 (payload.rawProof ++ strKey subject ++ toBeBytes threshold)

/-! ## The payload round trip -/

/-- A part of a concatenation, by where it starts and ends. -/
theorem extract_part {α : Type} {start stop : ℕ} (front part rest : List α) (hstart : front.length = start)
    (hstop : start + part.length = stop) : (front ++ (part ++ rest)).extract start stop = part := by
  subst hstart hstop
  rw [List.extract_eq_take_drop, List.drop_left, Nat.add_sub_cancel_left, List.take_left]

/-- What was appended to the proof bytes is split off again. -/
theorem splitPayload_append (rawProof : List UInt8) (scoreCommitment domainSeparator : BytesN 32)
    (snapshotLedger : BitVec 32) :
    splitPayload (rawProof ++ (BytesN.toBytes scoreCommitment ++ toBeBytes snapshotLedger ++
      BytesN.toBytes domainSeparator)) =
      some { rawProof, scoreCommitment, snapshotLedger, domainSeparator } := by
  have hledger : (toBeBytes snapshotLedger).length = 4 := length_bytesBe 4 _
  have hcommitment : (BytesN.toBytes scoreCommitment).length = 32 := BytesN.length_toBytes _
  have hdomain : (BytesN.toBytes domainSeparator).length = 32 := BytesN.length_toBytes _
  generalize hpayload : rawProof ++ (BytesN.toBytes scoreCommitment ++ toBeBytes snapshotLedger ++
    BytesN.toBytes domainSeparator) = payload
  have hlength : payload.length = rawProof.length + trailerSize := by
    simp only [← hpayload, List.length_append, hcommitment, hledger, hdomain, trailerSize]
  have hproof : payload.extract 0 rawProof.length = rawProof := by
    rw [← hpayload]
    exact extract_part [] rawProof _ rfl (Nat.zero_add _)
  have hfirst : payload.extract rawProof.length (rawProof.length + 32) = BytesN.toBytes scoreCommitment := by
    rw [← hpayload, List.append_assoc]
    exact extract_part rawProof _ _ rfl (by rw [hcommitment])
  have hsecond : payload.extract (rawProof.length + 32) (rawProof.length + 36) = toBeBytes snapshotLedger := by
    rw [← hpayload, List.append_assoc, ← List.append_assoc rawProof]
    exact extract_part _ _ _ (by rw [List.length_append, hcommitment]) (by rw [hledger])
  have hthird : payload.extract (rawProof.length + 36) (rawProof.length + 68) =
      BytesN.toBytes domainSeparator := by
    have hfront : (rawProof ++ (BytesN.toBytes scoreCommitment ++ toBeBytes snapshotLedger)).length =
        rawProof.length + 36 := by
      simp only [List.length_append, hcommitment, hledger]
    have hend : rawProof.length + 36 + (BytesN.toBytes domainSeparator).length = rawProof.length + 68 := by
      rw [hdomain]
    have hlast := extract_part _ _ [] hfront hend
    rwa [List.append_nil, List.append_assoc, hpayload] at hlast
  rw [splitPayload, if_neg (by omega), hlength, Nat.add_sub_cancel]
  dsimp only
  rw [hproof, hfirst, hsecond, hthird, BytesN.fromArray_toBytes, BytesN.fromArray_toBytes,
    ofNat_bigEndian_toBeBytes]

end StellarDidCredit.Sdk
