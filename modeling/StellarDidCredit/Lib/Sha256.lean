import StellarDidCredit.Lib.Bytes

/-!
# SHA-256

The hash function on byte strings, block by block. It is executable, so that the digest of a
concrete string can be evaluated.
-/

namespace StellarDidCredit.Sha256

/-- A 32-bit word. -/
abbrev Word := BitVec 32

/-- The round constants. -/
def roundConstants : List Word :=
  [0x428A2F98, 0x71374491, 0xB5C0FBCF, 0xE9B5DBA5, 0x3956C25B, 0x59F111F1, 0x923F82A4, 0xAB1C5ED5,
   0xD807AA98, 0x12835B01, 0x243185BE, 0x550C7DC3, 0x72BE5D74, 0x80DEB1FE, 0x9BDC06A7, 0xC19BF174,
   0xE49B69C1, 0xEFBE4786, 0x0FC19DC6, 0x240CA1CC, 0x2DE92C6F, 0x4A7484AA, 0x5CB0A9DC, 0x76F988DA,
   0x983E5152, 0xA831C66D, 0xB00327C8, 0xBF597FC7, 0xC6E00BF3, 0xD5A79147, 0x06CA6351, 0x14292967,
   0x27B70A85, 0x2E1B2138, 0x4D2C6DFC, 0x53380D13, 0x650A7354, 0x766A0ABB, 0x81C2C92E, 0x92722C85,
   0xA2BFE8A1, 0xA81A664B, 0xC24B8B70, 0xC76C51A3, 0xD192E819, 0xD6990624, 0xF40E3585, 0x106AA070,
   0x19A4C116, 0x1E376C08, 0x2748774C, 0x34B0BCB5, 0x391C0CB3, 0x4ED8AA4A, 0x5B9CCA4F, 0x682E6FF3,
   0x748F82EE, 0x78A5636F, 0x84C87814, 0x8CC70208, 0x90BEFFFA, 0xA4506CEB, 0xBEF9A3F7, 0xC67178F2]

/-- The eight working words. -/
structure Chain where
  a : Word
  b : Word
  c : Word
  d : Word
  e : Word
  f : Word
  g : Word
  h : Word

/-- The chain before the first block. -/
def initialChain : Chain :=
  ⟨0x6A09E667, 0xBB67AE85, 0x3C6EF372, 0xA54FF53A, 0x510E527F, 0x9B05688C, 0x1F83D9AB, 0x5BE0CD19⟩

/-- The words of a message schedule, the newest first, and `n` more. -/
def extendSchedule : ℕ → List Word → List Word
  | 0, words => words
  | n + 1, words =>
    let w2 := words.getD 1 0
    let w15 := words.getD 14 0
    let sigma0 := w15.rotateRight 7 ^^^ w15.rotateRight 18 ^^^ (w15 >>> 3)
    let sigma1 := w2.rotateRight 17 ^^^ w2.rotateRight 19 ^^^ (w2 >>> 10)
    extendSchedule n ((sigma1 + words.getD 6 0 + sigma0 + words.getD 15 0) :: words)

/-- One round with its constant and its word of the schedule. -/
def round (s : Chain) (constant word : Word) : Chain :=
  let sum1 := s.e.rotateRight 6 ^^^ s.e.rotateRight 11 ^^^ s.e.rotateRight 25
  let choice := (s.e &&& s.f) ^^^ (~~~s.e &&& s.g)
  let temp1 := s.h + sum1 + choice + constant + word
  let sum0 := s.a.rotateRight 2 ^^^ s.a.rotateRight 13 ^^^ s.a.rotateRight 22
  let majority := (s.a &&& s.b) ^^^ (s.a &&& s.c) ^^^ (s.b &&& s.c)
  ⟨temp1 + (sum0 + majority), s.a, s.b, s.c, s.d + temp1, s.e, s.f, s.g⟩

/-- The words of a byte string, four bytes each. -/
def toWords (bytes : List UInt8) : List Word :=
  (List.range (bytes.length / 4)).map fun i => .ofNat 32 (bigEndian (bytes.extract (4 * i) (4 * i + 4)))

/-- Sixty-four rounds over a block of sixteen words. -/
def compress (s : Chain) (block : List Word) : Chain :=
  let schedule := (extendSchedule 48 block.reverse).reverse
  let t := (roundConstants.zip schedule).foldl (fun t (constant, word) => round t constant word) s
  ⟨s.a + t.a, s.b + t.b, s.c + t.c, s.d + t.d, s.e + t.e, s.f + t.f, s.g + t.g, s.h + t.h⟩

/-- The message, a one bit, zeros, and the length in bits: a whole number of blocks. -/
def pad (message : List UInt8) : List UInt8 :=
  message ++ 0x80 :: List.replicate ((119 - message.length % 64) % 64) 0 ++ bytesBe 8 (8 * message.length)

/-- The digest of a byte string. -/
def hash (message : List UInt8) : BitVec 256 :=
  let words := toWords (pad message)
  let s := (List.range (words.length / 16)).foldl
    (fun s i => compress s (words.extract (16 * i) (16 * i + 16))) initialChain
  s.a ++ s.b ++ s.c ++ s.d ++ s.e ++ s.f ++ s.g ++ s.h

/-- The standard's own example. -/
example : hash [0x61, 0x62, 0x63] =
    0xBA7816BF8F01CFEA414140DE5DAE2223B00361A396177A9CB410FF61F20015AD := by decide +kernel

end StellarDidCredit.Sha256
