import StellarDidCredit.Lib.Sha256
import StellarDidCredit.Sdk.ProvedScore

/-!
# The hand-off of a proof

The payload of `generateScoreProof` carries the public inputs to `verifyScoreProof`. Its trailer
is read back as it was written, and the ledger, the domain and the threshold reach the contract
as the prover saw them. The commitment of the trailer is another one than the prover's: a hash
of five fields instead of the sum over eight. The addresses are hashed from other bytes: the SDK
leaves out the tag of the value that the contract serializes.
-/

namespace StellarDidCredit.Sdk

open Circuit (Fr ScoreWitness ScorePublicInputs)
open ScoreRangeVerifier (frFromBytes fromBeBytesModOrder_toBytes proverInputs)

variable {sha256 : List UInt8 → BytesN 32} {prove : ScoreWitness → ScorePublicInputs → Option (List UInt8)}
  {creditOracleId subject : Address} {inputs : ScoreInputs} {threshold blinding : ℤ}

/-- The prover's own commitment for the given inputs, over the eight fields of its witness. -/
def provedCommitment (sha256 : List UInt8 → BytesN 32) (creditOracleId : Address) (inputs : ScoreInputs)
    (subject : Address) (threshold blinding : ℤ) : Option Fr :=
  (Circuit.scoreWitness (proofRequest sha256 creditOracleId inputs subject threshold blinding)).map
    (Circuit.scoreCommitment fun bytes => BytesN.toBytes (sha256 bytes))

/-- The public inputs of the prover, read as scalars. -/
theorem provedStatement_spec {w : ScoreWitness} {p : ScorePublicInputs}
    (h : provedStatement sha256 creditOracleId inputs subject threshold blinding = some (w, p)) :
    provedCommitment sha256 creditOracleId inputs subject threshold blinding = some p.scoreCommitment ∧
      p = { threshold := toUint32 threshold
            subject := frFromBytes (sha256 (scAddressXdr subject))
            creditOracleId := frFromBytes (sha256 (scAddressXdr creditOracleId))
            scoreCommitment := p.scoreCommitment
            snapshotLedger := toUint32 inputs.scoreRecord.computedAtLedger
            domainSeparator := frFromBytes (domainHash sha256) } := by
  have htake (bytes : BytesN 32) : Circuit.bytes32 (BytesN.toBytes bytes) = some (BytesN.toBytes bytes) := by
    rw [Circuit.bytes32, if_pos (BytesN.length_toBytes bytes).ge,
      List.take_of_length_le (BytesN.length_toBytes bytes).le]
  simp only [provedStatement, Circuit.generateScoreProof, Circuit.publicInputs, proofRequest, htake,
    fromBeBytesModOrder_toBytes, Option.bind_eq_bind, Option.bind_some, Option.bind_eq_some_iff,
    Option.some.injEq, Prod.mk.injEq] at h
  obtain ⟨w', hw, _, rfl, rfl, rfl⟩ := h
  refine ⟨?_, rfl⟩
  simp only [provedCommitment, proofRequest, hw, Option.map_some]

/-- What two hashes and two commitments would have to be for the two sides to agree. -/
structure Coincides (sha256 : List UInt8 → BytesN 32) (creditOracleId : Address) (inputs : ScoreInputs)
    (subject : Address) (threshold blinding : ℤ) : Prop where
  commitment : provedCommitment sha256 creditOracleId inputs subject threshold blinding =
    some (frFromBytes (trailerCommitment sha256 inputs.scoreRecord blinding))
  subject : frFromBytes (sha256 subject.toXdr) = frFromBytes (sha256 (scAddressXdr subject))
  creditOracle : frFromBytes (sha256 creditOracleId.toXdr) = frFromBytes (sha256 (scAddressXdr creditOracleId))

/-- The public inputs that the contract is given denote those of the proof. -/
def HandsOver (sha256 : List UInt8 → BytesN 32) (creditOracleId : Address) (inputs : ScoreInputs)
    (subject : Address) (threshold blinding : ℤ) (payload : List UInt8) : Prop :=
  ∃ w p parts, provedStatement sha256 creditOracleId inputs subject threshold blinding = some (w, p) ∧
    splitPayload payload = some parts ∧
    proverInputs sha256 (submittedInputs creditOracleId subject (toUint32 threshold) parts) = p

/-- The parts of a payload with the given proof bytes. -/
def generatedParts (sha256 : List UInt8 → BytesN 32) (inputs : ScoreInputs) (blinding : ℤ)
    (rawProof : List UInt8) : ScoreProofPayload where
  rawProof
  scoreCommitment := trailerCommitment sha256 inputs.scoreRecord blinding
  snapshotLedger := toUint32 inputs.scoreRecord.computedAtLedger
  domainSeparator := domainHash sha256

/-- A generated payload is taken apart into them. -/
theorem splitPayload_generated {payload : List UInt8}
    (h : generateScoreProof sha256 prove creditOracleId inputs subject threshold blinding = some payload) :
    ∃ w p rawProof, provedStatement sha256 creditOracleId inputs subject threshold blinding = some (w, p) ∧
      prove w p = some rawProof ∧
      splitPayload payload = some (generatedParts sha256 inputs blinding rawProof) := by
  simp only [generateScoreProof, Option.bind_eq_bind, Option.bind_eq_some_iff, Option.some.injEq] at h
  obtain ⟨⟨w, p⟩, hproved, rawProof, hprove, rfl⟩ := h
  exact ⟨w, p, rawProof, hproved, hprove, splitPayload_append _ _ _ _⟩

/-- What the contract is given, read as scalars. -/
theorem proverInputs_submitted (rawProof : List UInt8) :
    proverInputs sha256 (submittedInputs creditOracleId subject (toUint32 threshold)
      (generatedParts sha256 inputs blinding rawProof)) =
      { threshold := toUint32 threshold
        subject := frFromBytes (sha256 subject.toXdr)
        creditOracleId := frFromBytes (sha256 creditOracleId.toXdr)
        scoreCommitment := frFromBytes (trailerCommitment sha256 inputs.scoreRecord blinding)
        snapshotLedger := toUint32 inputs.scoreRecord.computedAtLedger
        domainSeparator := frFromBytes (domainHash sha256) } := by
  simp only [proverInputs, submittedInputs, generatedParts, fromBeBytesModOrder_toBytes]

/-- A payload that hands the public inputs over needs all three coincidences. -/
theorem HandsOver.coincides {payload : List UInt8}
    (h : generateScoreProof sha256 prove creditOracleId inputs subject threshold blinding = some payload)
    (hands : HandsOver sha256 creditOracleId inputs subject threshold blinding payload) :
    Coincides sha256 creditOracleId inputs subject threshold blinding := by
  obtain ⟨w, p, rawProof, hproved, -, hsplit⟩ := splitPayload_generated h
  obtain ⟨hcommitment, hp⟩ := provedStatement_spec hproved
  obtain ⟨w', p', parts, hproved', hsplit', hagree⟩ := hands
  cases hproved'.symm.trans hproved
  cases hsplit'.symm.trans hsplit
  rw [proverInputs_submitted, hp, ScorePublicInputs.mk.injEq] at hagree
  obtain ⟨-, hsubject, horacle, hsame, -, -⟩ := hagree
  exact ⟨by rw [hcommitment, hsame], hsubject, horacle⟩

/-- For every payload that is generated, the public inputs that reach the contract are those of
the proof exactly when the two commitments and the two hashes of each address coincide. -/
theorem hand_off_iff {payload : List UInt8}
    (h : generateScoreProof sha256 prove creditOracleId inputs subject threshold blinding = some payload) :
    HandsOver sha256 creditOracleId inputs subject threshold blinding payload ↔
      Coincides sha256 creditOracleId inputs subject threshold blinding := by
  refine ⟨HandsOver.coincides h, fun hcoincides => ?_⟩
  obtain ⟨w, p, rawProof, hproved, -, hsplit⟩ := splitPayload_generated h
  obtain ⟨hcommitment, hp⟩ := provedStatement_spec hproved
  have hsame : p.scoreCommitment = frFromBytes (trailerCommitment sha256 inputs.scoreRecord blinding) :=
    Option.some.inj (hcommitment.symm.trans hcoincides.commitment)
  refine ⟨w, p, _, hproved, hsplit, ?_⟩
  rw [proverInputs_submitted, hp, hcoincides.subject, hcoincides.creditOracle, hsame]

/-- A subject with two credentials and nothing else. -/
def sampleInputs : ScoreInputs where
  scoreRecord :=
    { score := 388, lastUpdated := 1700000000, vcCount := 2, repaymentRate := 0, txVolume30d := 0
      previousScore := none, computedAtLedger := 5, stale := false }
  txStats := ⟨0, 0, 0⟩
  repaymentRecord := ⟨0, 0, 0⟩
  weights := ⟨40, 30, 30⟩

/-- The prover runs on them, and holds their score. -/
theorem provedStatement_sample (sha256 : List UInt8 → BytesN 32) : ∃ w p,
    provedStatement sha256 (.contract 11) sampleInputs (.account 3) 350 12345 = some (w, p) ∧
      w.score.toNat = 388 := by
  have horder : sampleInputs.InOrder := ⟨by decide, by decide, by decide, by decide⟩
  obtain ⟨w, p, hproved, hscore⟩ := provedStatement_score horder (show AmountsFit _ _ by decide)
  exact ⟨w, p, hproved, hscore.trans (by decide)⟩

/-- The two serializations of the subject have different digests. -/
theorem subject_digests_differ : frFromBytes (Sha256.hash (Address.toXdr (.account 3))) ≠
    frFromBytes (Sha256.hash (scAddressXdr (.account 3))) := by
  rw [frFromBytes, frFromBytes, Ne, ZMod.natCast_eq_natCast_iff']
  decide +kernel

/-- A prover that returns the given bytes makes a payload of them. -/
theorem generateScoreProof_sample {rawProof : List UInt8} (hprove : ∀ w p, prove w p = some rawProof) :
    generateScoreProof sha256 prove (.contract 11) sampleInputs (.account 3) 350 12345 =
      some (rawProof ++ trailer sha256 sampleInputs.scoreRecord 12345) := by
  obtain ⟨w, p, hproved, -⟩ := provedStatement_sample sha256
  simp only [generateScoreProof, hproved, hprove, Option.bind_eq_bind, Option.bind_some]

/-- The payload of the sample is not handed over: the digests of the subject differ. -/
theorem hand_off_sample : ∃ payload : List UInt8, payload.length = 452 ∧
    ¬HandsOver Sha256.hash (.contract 11) sampleInputs (.account 3) 350 12345 payload := by
  have hgenerated : generateScoreProof Sha256.hash (fun _ _ => some (List.replicate 384 0)) (.contract 11)
      sampleInputs (.account 3) 350 12345 = some _ := generateScoreProof_sample fun _ _ => rfl
  refine ⟨_, ?_, fun hands => subject_digests_differ ((hand_off_iff hgenerated).mp hands).subject⟩
  simp only [trailer, List.length_append, List.length_replicate, BytesN.length_toBytes, toBeBytes,
    length_bytesBe]

/-- Whatever the bytes of the proof are, the contract is given another subject than the prover. -/
theorem not_hand_off : 350 < sampleInputs.scoreRecord.score ∧ ∀ prove rawProof,
    (∀ w p, prove w p = some rawProof) → ∃ payload,
      generateScoreProof Sha256.hash prove (.contract 11) sampleInputs (.account 3) 350 12345 =
        some payload ∧
      ¬HandsOver Sha256.hash (.contract 11) sampleInputs (.account 3) 350 12345 payload := by
  refine ⟨by decide, fun prove rawProof hprove => ?_⟩
  have hgenerated : generateScoreProof Sha256.hash _ _ _ _ _ _ = _ := generateScoreProof_sample hprove
  exact ⟨_, hgenerated, fun hands => subject_digests_differ (hands.coincides hgenerated).subject⟩

end StellarDidCredit.Sdk
