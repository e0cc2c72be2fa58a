import StellarDidCredit.Lib.Bytes
import StellarDidCredit.Soroban.Host

/-!
# Byte strings of host values

The bytes of a fixed-length byte string, and the serialized form of an address. Both kinds of
address start with their tags, so that the form delimits itself although accounts take four
bytes more than contracts.
-/

namespace StellarDidCredit

namespace BytesN

variable {n : ℕ}

/-- The bytes of a byte string of fixed length. -/
def toBytes (bytes : BytesN n) : List UInt8 := bytesBe n bytes.toNat

/-- The byte string of an array, `BytesN::from_array`. -/
def fromArray (array : List UInt8) : BytesN n := .ofNat (8 * n) (bigEndian array)

/-- A hash of `n` bytes is written in `n` bytes. -/
@[simp] theorem length_toBytes (bytes : BytesN n) : (toBytes bytes).length = n :=
  length_bytesBe n bytes.toNat

/-- The number fits in the bytes. -/
theorem toNat_lt (bytes : BytesN n) : bytes.toNat < 256 ^ n := by
  have hpow : (2 : ℕ) ^ (8 * n) = 256 ^ n := pow_mul 2 8 n
  rw [← hpow]
  exact bytes.isLt

/-- The bytes denote the number that the byte string is read as. -/
theorem bigEndian_toBytes (bytes : BytesN n) : bigEndian (toBytes bytes) = bytes.toNat := by
  rw [toBytes, bigEndian_bytesBe, Nat.mod_eq_of_lt (toNat_lt bytes)]

/-- A byte string is read back from its bytes. -/
theorem fromArray_toBytes (bytes : BytesN n) : fromArray (toBytes bytes) = bytes := by
  rw [fromArray, bigEndian_toBytes, BitVec.ofNat_toNat, BitVec.setWidth_eq]

/-- Byte strings of one length are self-delimiting. -/
theorem selfDelimiting_toBytes : SelfDelimiting (toBytes (n := n)) := by
  refine selfDelimiting_of_length length_toBytes fun a b hbytes => ?_
  exact BitVec.eq_of_toNat_eq (bytesBe_inj (toNat_lt a) (toNat_lt b) hbytes)

end BytesN

/-- `to_be_bytes` of a 32-bit number. -/
def toBeBytes (value : BitVec 32) : List UInt8 := bytesBe 4 value.toNat

/-- A 32-bit number is read back from its bytes. -/
theorem ofNat_bigEndian_toBeBytes (value : BitVec 32) : BitVec.ofNat 32 (bigEndian (toBeBytes value)) = value :=
  BytesN.fromArray_toBytes (n := 4) value

/-- A number of fixed width needs no delimiter. -/
theorem selfDelimiting_toBeBytes : SelfDelimiting toBeBytes := BytesN.selfDelimiting_toBytes (n := 4)

namespace Address

/-- The XDR of an address value: the tags of the value, of the kind of address and, for an
account, of the kind of key, and the 32 bytes. -/
def toXdr : Address → List UInt8
  | account key => toBeBytes 18 ++ toBeBytes 0 ++ toBeBytes 0 ++ BytesN.toBytes key
  | contract hash => toBeBytes 18 ++ toBeBytes 1 ++ BytesN.toBytes hash

/-- Addresses are self-delimiting: the second tag tells the two kinds apart. -/
theorem selfDelimiting_toXdr : SelfDelimiting toXdr := by
  intro a b rest rest' h
  cases a <;> cases b <;> simp only [toXdr, List.append_assoc] at h
  all_goals obtain ⟨-, h⟩ := selfDelimiting_toBeBytes _ _ _ _ h
  all_goals obtain ⟨htag, h⟩ := selfDelimiting_toBeBytes _ _ _ _ h
  case account.account key key' =>
    obtain ⟨-, h⟩ := selfDelimiting_toBeBytes _ _ _ _ h
    obtain ⟨rfl, rfl⟩ := BytesN.selfDelimiting_toBytes _ _ _ _ h
    exact ⟨rfl, rfl⟩
  case account.contract => exact absurd htag (by decide)
  case contract.account => exact absurd htag (by decide)
  case contract.contract hash hash' =>
    obtain ⟨rfl, rfl⟩ := BytesN.selfDelimiting_toBytes _ _ _ _ h
    exact ⟨rfl, rfl⟩

end Address

end StellarDidCredit
