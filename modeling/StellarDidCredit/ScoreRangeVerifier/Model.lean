import StellarDidCredit.ScoreRangeVerifier.PublicInputs
import StellarDidCredit.Lib.Outcome
import StellarDidCredit.Lib.Run
import StellarDidCredit.Lib.Storage

/-!
# The score-range verifier

The contract checks a Groth16 proof against the embedded verification key, and with
`verify_and_consume` also records the hash of the proof, its public inputs and a nonce, so
that the same three are accepted once.

The cryptography of the host is a parameter. Its functions fail on points that are not on the
curve or not in the subgroup, and the invocation then traps.
-/

namespace StellarDidCredit.ScoreRangeVerifier

open Circuit (Fr)

/-- The typed errors of the contract. -/
inductive Error where
  | alreadyInitialized
  | notAuthorized
  | notInitialized
  | invalidProofSize
  | circuitVersionMismatch
  | proofAlreadyConsumed
  deriving DecidableEq, Repr

/-- Size of a proof: A (96 bytes), B (192 bytes) and C (96 bytes). -/
def proofSize : ℕ := 384

/-- Circuit version, bumped on any breaking circuit change. -/
def circuitVersion : BitVec 32 := 1

/-- The cryptographic functions of the host; the curve operations fail on invalid points. -/
structure Host where
  sha256 : List UInt8 → BytesN 32
  g1Neg : BytesN 96 → Option (BytesN 96)
  g1Mul : BytesN 96 → Fr → Option (BytesN 96)
  g1Add : BytesN 96 → BytesN 96 → Option (BytesN 96)
  pairingCheck : List (BytesN 96) → List (BytesN 192) → Option Bool

/-! ## The verification key -/

/-- Groth16 verification key for BLS12-381. -/
structure VerificationKey where
  alpha : BytesN 96
  beta : BytesN 192
  gamma : BytesN 192
  delta : BytesN 192
  gammaAbc : List (BytesN 96)

/-- A byte string written in rows of 16 bytes. -/
def ofRows {n : ℕ} (rows : List (BytesN 16)) : BytesN n :=
  .fromArray (rows.flatMap BytesN.toBytes)

/-- The embedded verification key, a placeholder until the trusted setup of the circuit. -/
def embeddedVerificationKey : VerificationKey where
  alpha := ofRows
    [0x01FB00F767E99B6A7757538D1D99B694, 0x31C07840EF2483FDE5548445DE60916E,
     0x5AF8C285D946838CB5728165F98A2155, 0x16C7B99845D2D7748E422CFFEE6D102A,
     0xF5EE6C5534B5C97732AB1E18ACD41A42, 0x7E230A8E47767B6DB422088C0E26C7E9]
  beta := ofRows
    [0x0FE9F34C586E465BB8EBCCB100829D7A, 0x54710ED30F9446168171803B660DA280,
     0xC30C128CAF5B787B02B670A0F6D8BCE7, 0x0C869C1BCE0B97186FCFD522FBAF43B1,
     0x0CB652E2389E3697BB98879F4F38EC97, 0xDA8C8E74EE5C05BB191191F495FB58ED,
     0x11171B5C91419EAF77143D86CEB2D150, 0x1961802C23FEF3077B95883D8A9AB4EB,
     0x9DDE5BE4E26F6466BDEE4A6BF2A0247F, 0x096B0DD173C1DDD28352FFC20BEE8B9B,
     0xA391CE1407883418E3C4BD9889CBFB1C, 0x89AC5F1D700ABE3398EB80BFAFD8EA8C]
  gamma := ofRows
    [0x0E9281C87F390F556702A747DE722591, 0x1FCAFC222963C4C2021828B36D48C145,
     0xF173DF8789AE900D0AE18B9FCD8C3ED8, 0x049754EE8D1AFC22A260BB47E69D251F,
     0x18B0FD1A6529AD4C203A35D6B60D4F27, 0x664C235856909D7D67D49E0339858DD6,
     0x107520302AA748C67EE78F554AA382CD, 0xDAD133E342DC2B0450ED429E3AC9B181,
     0xC4AE33F1B00A102FA6DD838F52411BBE, 0x1221F4066FAC5131C562539A6972F892,
     0xE42B2BAEC1EAC7109E38E45EA6529FC4, 0x7C0B90CA9DE17B5AE989F588935D028F]
  delta := ofRows
    [0x15196C13D3478DDF2164404F53115C6B, 0x2256932CE57094635DC374BEF7B4CAF2,
     0x6262BC2FE3F07BDE59BCA098C4A68F72, 0x11A1DEC42AE4E8973E960EEA0F5B53F4,
     0x7A62CC8486378E8915B03993C4883059, 0x0DAE624F91E3A0BB21567F28032C7CC2,
     0x0238D46A9746297D811DA637F359A126, 0xDFB56EE74965A74BDD5D8E2198300600,
     0x8F2CACEF592CE038B7C3CA9576002441, 0x040C86222FD511276D95A163255515D3,
     0x7BCE59BB36DD2E02056239B0DBA0BAAE, 0xDD58061486FB80DAC2AC017CF539B65A]
  gammaAbc := [
    ofRows
      [0x06E94060EA72A3B9FCCA0D40D607E888, 0x36662E6C239883243441D0370F783BBB,
       0xDB2588A255EE118E72472BD6D03047FE, 0x06EE1271A068B40748F6EC21B64E613F,
       0x3BC41A767A3CCE02AE6D75DE471B10CC, 0x091EFE32B8323C5440478BBBB17623E1],
    ofRows
      [0x07B4BCFCC3E8F897E6AB3DED1EA2044C, 0x24BF3B7C39A10DAC2EE5D2ACA42827C5,
       0x92F6516BD18049EB54C1F3AFE614CB40, 0x0CECCE5DA88D8D8359E142743E102675,
       0x67C8A47E1A93936446CE02C567CA0FDA, 0xDF7A598442FACE16B8BE2EE043DA32C9],
    ofRows
      [0x090DAB3FBACFF926873E5C4C283FA93F, 0xC46D8260C68B6AFBFB7560B2CE116565,
       0xFB511A634A31FD443C54DF1D84CEF09F, 0x17994AA920EDBAF4814DD0EBAC957664,
       0x18E58FF199E61EBFBCF7DA1A9030D057, 0x1E6989A75F6D99C2460A968D9FC1F56A],
    ofRows
      [0x02DA87F61FC412F1A78984E352AAD58F, 0x3E2A0771163907DD7CCBA58CB67B61EE,
       0xB210BCE88A093DD4A4591A12D0007908, 0x068DF0E738931AD8B21C93ED9DA44428,
       0x8C38118CA4F76F90FA98DA01E973C473, 0x07459BA13150C85AA58A2F65172C07D3],
    ofRows
      [0x15087CEF4C197A7065E4DD5FC54BA39E, 0xA11C2353B7E8B9E7A8CA6AE7452E6A7A,
       0x5E078316DE361FCBC78FBF92A78C1F9F, 0x18F6D194965D4F6D5715509E197D8996,
       0xF09B771B1C25B5219D53F92BE5CFC8C5, 0x7CA9DD9CA38DF98BE376CB8906748D7D],
    ofRows
      [0x157209BB028C1E3B42B77F68BD9926C1, 0x5E6AD6A41F799D7C509D02F173C09F70,
       0x0C022EE7BBBEA0E50782B4F893192CFC, 0x19921498DFF3F58B9DAFF2D1C2F05AD6,
       0xB5E437C787BF4FF2668705A13AE6529A, 0xFBB4F7E15F4298BE65AA6C48D8AC058C],
    ofRows
      [0x13828C8620A29FD5C681286B4613A6DA, 0x65050EB85B1E2BB176A8F4106034D9BD,
       0xABAC625DABB9CB19CFF081C7B713A161, 0x140BE6C275827A6C80101EBF486852BE,
       0xA2027FA6101FC407460CA1A7DD59ECA9, 0x049BD12BD3DE8972E5DA5BEE3672D9F9]]

/-! ## The pairing check -/

/-- `sum_i public_input_i * gamma_abc[i+1] + gamma_abc[0]`. -/
def computePublicInputsCombined (host : Host) (vk : VerificationKey) (publicInputs : List (BytesN 32)) :
    Outcome Error (BytesN 96) := do
  let start ← .okOr vk.gammaAbc[0]? .trap
  publicInputs.zipIdx.foldlM (fun combined (input, i) => do
    let icPoint ← .okOr vk.gammaAbc[i + 1]? .trap
    let term ← .okOr (host.g1Mul icPoint (frFromBytes input)) .trap
    .okOr (host.g1Add combined term) .trap) start

/-- Run the Groth16 pairing check for a proof against the embedded key:
`e(-A, B) * e(alpha, beta) * e(combined, gamma) * e(C, delta) == 1`. -/
def groth16Verify (host : Host) (proof : List UInt8) (publicInputs : ScoreRangePublicInputs) :
    Outcome Error Bool :=
  if proof.length ≠ proofSize then .ok false
  else do
    let vk := embeddedVerificationKey
    let a : BytesN 96 := .fromArray (proof.extract 0 96)
    let b : BytesN 192 := .fromArray (proof.extract 96 288)
    let c : BytesN 96 := .fromArray (proof.extract 288 384)
    let combined ← computePublicInputsCombined host vk (publicInputsToFields host.sha256 publicInputs)
    let negA ← .okOr (host.g1Neg a) .trap
    .okOr (host.pairingCheck [negA, vk.alpha, combined, c] [b, vk.beta, vk.gamma, vk.delta]) .trap

/-! ## State -/

/-- The stored entries, one field for each key. -/
structure State where
  admin : Option Address := none
  vkHash : Option (BytesN 32) := none
  circuitVersion : Option (BitVec 32) := none
  /-- Replay-protection store. -/
  consumedProof : Storage (BytesN 32) Bool := Storage.empty

/-- What a consumer submits. -/
structure Submission where
  proof : List UInt8
  publicInputs : ScoreRangePublicInputs
  nonce : BytesN 32
  deriving DecidableEq

/-- The string whose hash identifies a submission. -/
def Submission.preimage (submission : Submission) : List UInt8 :=
  submission.proof ++ toBeBytes submission.publicInputs.threshold ++ submission.publicInputs.subject.toXdr ++
    submission.publicInputs.creditOracleId.toXdr ++ BytesN.toBytes submission.publicInputs.scoreCommitment ++
    toBeBytes submission.publicInputs.snapshotLedger ++
    BytesN.toBytes submission.publicInputs.domainSeparator ++ BytesN.toBytes submission.nonce

/-! ## Entry points -/

/-- One-time setup: store the admin, the hash of the verification key and the circuit version. -/
def initializeContract (env : Env) (admin : Address) (vkHash : BytesN 32) (version : BitVec 32) (s : State) :
    Outcome Error State := do
  .require (s.admin = none) (.error .alreadyInitialized)
  requireAuth env admin
  .ok { s with admin := some admin, vkHash := some vkHash, circuitVersion := some version }

/-- Verify a proof without changing the state. -/
def verifyScoreRange (host : Host) (proof : List UInt8) (publicInputs : ScoreRangePublicInputs) (s : State) :
    Outcome Error Bool :=
  if proof.length ≠ proofSize then .ok false
  else if s.admin = none then .ok false
  else if s.circuitVersion.getD 0 ≠ circuitVersion then .ok false
  else groth16Verify host proof publicInputs

/-- Verify a proof and record it, unless the same submission was recorded before. -/
def verifyAndConsume (host : Host) (env : Env) (consumer : Address) (submission : Submission) (s : State) :
    Outcome Error (Bool × State) := do
  requireAuth env consumer
  .require (s.admin ≠ none) (.error .notInitialized)
  .require (submission.proof.length = proofSize) (.error .invalidProofSize)
  let proofHash := host.sha256 submission.preimage
  .require (s.consumedProof proofHash = none) (.error .proofAlreadyConsumed)
  let valid ← groth16Verify host submission.proof submission.publicInputs
  if valid then .ok (true, { s with consumedProof := s.consumedProof.set proofHash true })
  else .ok (false, s)

/-! ## Invocations -/

/-- The entry points, the getters aside. -/
inductive Call where
  | initializeContract (admin : Address) (vkHash : BytesN 32) (version : BitVec 32)
  | verifyScoreRange (proof : List UInt8) (publicInputs : ScoreRangePublicInputs)
  | verifyAndConsume (consumer : Address) (submission : Submission)
  deriving DecidableEq

/-- Run one entry point; `initialize` has no verdict to return. -/
def exec (host : Host) (env : Env) (call : Call) (s : State) : Outcome Error (Option Bool × State) :=
  match call with
  | .initializeContract admin vkHash version => do
    let s ← initializeContract env admin vkHash version s
    .ok (none, s)
  | .verifyScoreRange proof publicInputs => do
    let valid ← verifyScoreRange host proof publicInputs s
    .ok (some valid, s)
  | .verifyAndConsume consumer submission => do
    let (valid, s) ← verifyAndConsume host env consumer submission s
    .ok (some valid, s)

/-- A call together with its environment. -/
abbrev Invocation := Env × Call

/-- What the caller gets back. -/
def reply (host : Host) (s : State) (invocation : Invocation) : Outcome Error (Option Bool) :=
  (exec host invocation.1 invocation.2 s).map Prod.fst

/-- The state after an invocation; a failed one is rolled back. -/
def next (host : Host) (s : State) (invocation : Invocation) : State :=
  match exec host invocation.1 invocation.2 s with
  | .ok (_, s') => s'
  | .error _ => s

end StellarDidCredit.ScoreRangeVerifier
