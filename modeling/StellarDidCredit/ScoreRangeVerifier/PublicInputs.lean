import StellarDidCredit.Circuit.Prover
import StellarDidCredit.Soroban.Xdr

/-!
# The public inputs on chain and at the prover

The contract turns its public inputs into six 32-byte strings and reads each as a scalar,
most significant byte first. The prover builds the same six scalars itself. The two agree on
the hashes, the commitment and the domain separator. The two 32-bit numbers are written least
significant byte first, so that only zero survives.

The hash function is a parameter.
-/

namespace StellarDidCredit.ScoreRangeVerifier

open Circuit (Fr scalarOrder ScorePublicInputs fromBeBytesModOrder)

/-- Public inputs for the score-range proof. -/
structure ScoreRangePublicInputs where
  /-- Minimum score the prover claims to exceed. -/
  threshold : BitVec 32
  /-- Stellar account bound to the proof. -/
  subject : Address
  /-- Source credit-oracle contract. -/
  creditOracleId : Address
  /-- Pedersen commitment to the score record. -/
  scoreCommitment : BytesN 32
  /-- Ledger sequence at computation time. -/
  snapshotLedger : BitVec 32
  /-- Protocol version binding. -/
  domainSeparator : BytesN 32
  deriving DecidableEq

/-! ## The contract -/

/-- `value as u8`. -/
def asU8 (value : BitVec 32) : UInt8 := UInt8.ofNat value.toNat

/-- Encode a u32 as a 32-byte little-endian field element. -/
def u32ToField (value : BitVec 32) : BytesN 32 :=
  .fromArray ([asU8 (value &&& 0xFF), asU8 ((value >>> 8) &&& 0xFF), asU8 ((value >>> 16) &&& 0xFF),
    asU8 ((value >>> 24) &&& 0xFF)] ++ List.replicate 28 0)

/-- Encode an address as a 32-byte field element via the hash of its XDR bytes. -/
def addressToField (sha256 : List UInt8 → BytesN 32) (addr : Address) : BytesN 32 := sha256 addr.toXdr

/-- The ordered list of field elements expected by the Groth16 verifier. -/
def publicInputsToFields (sha256 : List UInt8 → BytesN 32) (inputs : ScoreRangePublicInputs) :
    List (BytesN 32) :=
  [u32ToField inputs.threshold, addressToField sha256 inputs.subject,
    addressToField sha256 inputs.creditOracleId, inputs.scoreCommitment, u32ToField inputs.snapshotLedger,
    inputs.domainSeparator]

/-- `Fr::from_bytes`: big-endian, reduced modulo the order of the group. -/
def frFromBytes (bytes : BytesN 32) : Fr := (bytes.toNat : Fr)

/-- The scalars that the contract multiplies the points of the verification key with. -/
def scalars (sha256 : List UInt8 → BytesN 32) (inputs : ScoreRangePublicInputs) : List Fr :=
  (publicInputsToFields sha256 inputs).map frFromBytes

/-! ## The prover -/

/-- The public inputs of the prover for the same values. -/
def proverInputs (sha256 : List UInt8 → BytesN 32) (inputs : ScoreRangePublicInputs) : ScorePublicInputs where
  threshold := inputs.threshold
  subject := fromBeBytesModOrder (BytesN.toBytes (sha256 inputs.subject.toXdr))
  creditOracleId := fromBeBytesModOrder (BytesN.toBytes (sha256 inputs.creditOracleId.toXdr))
  scoreCommitment := fromBeBytesModOrder (BytesN.toBytes inputs.scoreCommitment)
  snapshotLedger := inputs.snapshotLedger
  domainSeparator := fromBeBytesModOrder (BytesN.toBytes inputs.domainSeparator)

/-- The public input vector of `verify_proof`. -/
def publicInputsVec (p : ScorePublicInputs) : List Fr :=
  [(p.threshold.toNat : Fr), p.subject, p.creditOracleId, p.scoreCommitment, (p.snapshotLedger.toNat : Fr),
    p.domainSeparator]

/-! ## Agreement -/

/-- Both sides read 32 bytes in the same way. -/
theorem fromBeBytesModOrder_toBytes (bytes : BytesN 32) :
    fromBeBytesModOrder (BytesN.toBytes bytes) = frFromBytes bytes := by
  have hfold : (BytesN.toBytes bytes).reverse.foldr (fun byte acc => byte.toNat + 256 * acc) 0 =
      bigEndian (BytesN.toBytes bytes) := by
    rw [List.foldr_reverse, bigEndian]
    simp only [Nat.add_comm]
  rw [fromBeBytesModOrder, Circuit.fromLeBytesModOrder, hfold, BytesN.bigEndian_toBytes, frFromBytes]

/-- The low byte after a shift. -/
theorem asU8_shift (value : BitVec 32) (k : ℕ) :
    (asU8 ((value >>> k) &&& 0xFF)).toNat = value.toNat / 2 ^ k % 256 := by
  have hmask : ((value >>> k) &&& 0xFF : BitVec 32).toNat = value.toNat / 2 ^ k % 2 ^ 8 := by
    rw [BitVec.toNat_and, BitVec.toNat_ushiftRight, Nat.shiftRight_eq_div_pow]
    exact Nat.and_two_pow_sub_one_eq_mod _ 8
  rw [asU8, UInt8.toNat_ofNat', hmask]
  exact Nat.mod_mod _ (2 ^ 8)

/-- The number of the 32 bytes: the four bytes of the value, in reverse, at the top. -/
theorem u32ToField_toNat (value : BitVec 32) : (u32ToField value).toNat =
    (256 * (256 * (256 * (value.toNat % 256) + value.toNat / 2 ^ 8 % 256) + value.toNat / 2 ^ 16 % 256) +
      value.toNat / 2 ^ 24 % 256) * 256 ^ 28 := by
  have hlow : (asU8 (value &&& 0xFF)).toNat = value.toNat % 256 := by
    have hshift := asU8_shift value 0
    rwa [BitVec.ushiftRight_zero, pow_zero, Nat.div_one] at hshift
  have hbytes : bigEndian [asU8 (value &&& 0xFF), asU8 ((value >>> 8) &&& 0xFF),
      asU8 ((value >>> 16) &&& 0xFF), asU8 ((value >>> 24) &&& 0xFF)] =
      256 * (256 * (256 * (value.toNat % 256) + value.toNat / 2 ^ 8 % 256) + value.toNat / 2 ^ 16 % 256) +
        value.toNat / 2 ^ 24 % 256 := by
    rw [← hlow, ← asU8_shift, ← asU8_shift, ← asU8_shift]
    simp only [bigEndian, List.foldl_cons, List.foldl_nil, Nat.mul_zero, Nat.zero_add]
  rw [u32ToField, BytesN.fromArray, BitVec.toNat_ofNat, bigEndian_append_zeros, hbytes, Nat.mod_eq_of_lt]
  omega

/-- A 32-bit number comes out as itself only when it is zero. -/
theorem frFromBytes_u32ToField (value : BitVec 32) :
    frFromBytes (u32ToField value) = (value.toNat : Fr) ↔ value = 0 := by
  constructor
  · intro h
    rw [frFromBytes, ZMod.natCast_eq_natCast_iff', u32ToField_toNat] at h
    have hlt := value.isLt
    unfold scalarOrder at h
    -- at most two multiples of the order fit below the number, and none of them leaves a
    -- difference of 32 bits
    have hzero : value.toNat = 0 := by omega
    exact BitVec.eq_of_toNat_eq hzero
  · rintro rfl
    rfl

/-- The scalars of the contract are those of the prover exactly for the threshold zero and the
ledger zero; the hashes, the commitment and the domain separator always agree. -/
theorem public_inputs_agree (sha256 : List UInt8 → BytesN 32) (inputs : ScoreRangePublicInputs) :
    (scalars sha256 inputs = publicInputsVec (proverInputs sha256 inputs) ↔
      inputs.threshold = 0 ∧ inputs.snapshotLedger = 0) ∧
    (∀ i, i ≠ 0 → i ≠ 4 →
      (scalars sha256 inputs)[i]? = (publicInputsVec (proverInputs sha256 inputs))[i]?) := by
  have hvec : publicInputsVec (proverInputs sha256 inputs) =
      [(inputs.threshold.toNat : Fr), frFromBytes (addressToField sha256 inputs.subject),
        frFromBytes (addressToField sha256 inputs.creditOracleId), frFromBytes inputs.scoreCommitment,
        (inputs.snapshotLedger.toNat : Fr), frFromBytes inputs.domainSeparator] := by
    simp only [publicInputsVec, proverInputs, fromBeBytesModOrder_toBytes, addressToField]
  rw [hvec]
  simp only [scalars, publicInputsToFields, List.map_cons, List.map_nil]
  constructor
  · simp only [List.cons.injEq, and_true, true_and, frFromBytes_u32ToField]
  · intro i hfirst hfifth
    rcases i with _ | _ | _ | _ | _ | _ | i
    · exact (hfirst rfl).elim
    · simp only [List.getElem?_cons_succ, List.getElem?_cons_zero]
    · simp only [List.getElem?_cons_succ, List.getElem?_cons_zero]
    · simp only [List.getElem?_cons_succ, List.getElem?_cons_zero]
    · exact (hfifth rfl).elim
    · simp only [List.getElem?_cons_succ, List.getElem?_cons_zero]
    · simp only [List.getElem?_cons_succ]

/-- The values of the contract's own test, with other addresses. -/
theorem not_public_inputs_agree : ∃ inputs : ScoreRangePublicInputs, inputs.threshold = 700 ∧
    inputs.snapshotLedger = 12345 ∧ ∀ sha256,
      (scalars sha256 inputs)[0]? ≠ (publicInputsVec (proverInputs sha256 inputs))[0]? ∧
      (scalars sha256 inputs)[4]? ≠ (publicInputsVec (proverInputs sha256 inputs))[4]? := by
  refine ⟨⟨700, .account 1, .contract 2, 0x11, 12345, 0x22⟩, rfl, rfl, fun sha256 => ⟨?_, ?_⟩⟩
  · intro h
    exact absurd ((frFromBytes_u32ToField 700).mp (Option.some.inj h)) (by decide)
  · intro h
    exact absurd ((frFromBytes_u32ToField 12345).mp (Option.some.inj h)) (by decide)

end StellarDidCredit.ScoreRangeVerifier
