import Mathlib.Data.Nat.ModEq
import Mathlib.Tactic.Ring

/-!
# Big-endian byte strings

Fixed-width byte strings of a number, and the number a byte string denotes. An encoding is
self-delimiting when it can be split off the front of any longer string; then a concatenation
of encodings is read back in one way only.
-/

namespace StellarDidCredit

/-- The number that the bytes denote, the most significant byte first. -/
def bigEndian (bytes : List UInt8) : ℕ := bytes.foldl (fun acc byte => 256 * acc + byte.toNat) 0

/-- The lowest `w` bytes of a number, the most significant first. -/
def bytesBe : ℕ → ℕ → List UInt8
  | 0, _ => []
  | w + 1, n => bytesBe w (n / 256) ++ [UInt8.ofNat n]

/-- A number takes as many bytes as it is given. -/
@[simp] theorem length_bytesBe (w n : ℕ) : (bytesBe w n).length = w := by
  induction w generalizing n with
  | zero => rfl
  | succ w ih => rw [bytesBe, List.length_append, ih, List.length_singleton]

/-- The last byte counts once, the ones before it 256 times. -/
theorem bigEndian_concat (bytes : List UInt8) (byte : UInt8) :
    bigEndian (bytes ++ [byte]) = 256 * bigEndian bytes + byte.toNat := by
  rw [bigEndian, List.foldl_append]
  rfl

/-- Zeros at the end shift the number. -/
theorem bigEndian_append_zeros (bytes : List UInt8) (k : ℕ) :
    bigEndian (bytes ++ List.replicate k 0) = bigEndian bytes * 256 ^ k := by
  induction k with
  | zero => rw [List.replicate_zero, List.append_nil, pow_zero, mul_one]
  | succ k ih =>
    rw [List.replicate_succ', ← List.append_assoc, bigEndian_concat, ih, pow_succ']
    change 256 * (bigEndian bytes * 256 ^ k) + 0 = _
    ring

/-- The lowest bytes denote the remainder. -/
theorem bigEndian_bytesBe (w n : ℕ) : bigEndian (bytesBe w n) = n % 256 ^ w := by
  induction w generalizing n with
  | zero => rw [bytesBe, pow_zero, Nat.mod_one]; rfl
  | succ w ih =>
    have hsplit : n % 256 ^ (w + 1) = n % 256 + 256 * (n / 256 % 256 ^ w) := by
      rw [pow_succ', Nat.mod_mul]
    rw [bytesBe, bigEndian_concat, ih, UInt8.toNat_ofNat', hsplit]
    exact Nat.add_comm _ _

/-- A number below `256 ^ w` is determined by its `w` bytes. -/
theorem bytesBe_inj {w m n : ℕ} (hm : m < 256 ^ w) (hn : n < 256 ^ w) (h : bytesBe w m = bytesBe w n) :
    m = n := by
  have hvalue := congrArg bigEndian h
  rwa [bigEndian_bytesBe, bigEndian_bytesBe, Nat.mod_eq_of_lt hm, Nat.mod_eq_of_lt hn] at hvalue

/-! ## Self-delimiting encodings -/

section SelfDelimiting

variable {α β : Type}

/-- What was encoded, and what follows it, can be told from the concatenation. -/
def SelfDelimiting (encode : α → List β) : Prop :=
  ∀ a b rest rest', encode a ++ rest = encode b ++ rest' → a = b ∧ rest = rest'

/-- A self-delimiting encoding is injective. -/
theorem SelfDelimiting.injective {encode : α → List β} (h : SelfDelimiting encode) :
    Function.Injective encode := by
  intro a b hab
  exact (h a b [] [] (by rw [hab])).1

/-- An injective encoding of one length is self-delimiting. -/
theorem selfDelimiting_of_length {encode : α → List β} {w : ℕ} (hlength : ∀ a, (encode a).length = w)
    (hinjective : Function.Injective encode) : SelfDelimiting encode := by
  intro a b rest rest' h
  obtain ⟨hencode, hrest⟩ := List.append_inj h ((hlength a).trans (hlength b).symm)
  exact ⟨hinjective hencode, hrest⟩

end SelfDelimiting

end StellarDidCredit
