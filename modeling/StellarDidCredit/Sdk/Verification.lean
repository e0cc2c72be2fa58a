import StellarDidCredit.Lib.Sha256
import StellarDidCredit.ScoreRangeVerifier.Consumption
import StellarDidCredit.Sdk.ScoreProof

/-!
# The verdict of the SDK on a proof

`verifyScoreProof` submits the payload to `verify_and_consume` and waits until the transaction is
confirmed. A confirmation says that the contract returned, not what it returned: the verdict is
right for every behaviour of the network exactly when the contract does not answer no.

The server is the list of its answers. A call that is still waiting has no result. The arguments
of the invocation reach the contract as the values that the SDK encodes.
-/

namespace StellarDidCredit.Sdk

open ScoreRangeVerifier (State Submission Error verifyAndConsume groth16Verify proofSize)

/-! ## The server -/

/-- How a request to the server fails. -/
inductive RpcError where
  | retryable
  | permanent
  /-- No answer before the deadline, where there is one. -/
  | timeout
  deriving DecidableEq

/-- The errors that `verifyScoreProof` rejects with. -/
inductive SdkError where
  | invalidPayload
  | outOfRange
  | rpc (error : RpcError)
  | simulationFailed
  | unexpectedSimulation
  | submissionFailed
  | transactionTimeout
  | transactionFailed
  | unexpectedStatus
  deriving DecidableEq

/-- The response to a simulation. -/
inductive Simulation where
  | success
  | error
  | other
  deriving DecidableEq

/-- The status of a submission. -/
inductive SendStatus where
  | pending
  | duplicate
  | tryAgainLater
  | error
  deriving DecidableEq

/-- The status of a transaction. -/
inductive TransactionStatus where
  | success
  | failed
  | notFound
  | pending
  | other
  deriving DecidableEq

/-- One request for the status, with the clock before and after it. -/
structure Poll where
  start : ℕ
  answer : Except RpcError TransactionStatus
  finish : ℕ

/-- What the server answers during one call of `verifyScoreProof`. -/
structure Exchange where
  account : Except RpcError Unit
  simulation : Except RpcError Simulation
  sends : List (Except RpcError SendStatus)
  polls : List Poll
  /-- When the confirmation is given up. -/
  deadline : ℕ

/-! ## The client -/

/-- A call that rejects, resolves, or is still waiting. -/
abbrev Pending (α : Type) := ExceptT SdkError Option α

/-- An answer of the server. -/
def await {α : Type} (answer : Except RpcError α) : Pending α :=
  match answer with
  | .ok value => pure value
  | .error error => throw (.rpc error)

/-- Submit until the server takes the transaction, it is refused, or the attempts are used up. -/
def sendTransactionWithRetry (retries : ℕ) : ℕ → List (Except RpcError SendStatus) → Pending Unit
  | _, [] => ExceptT.mk none
  | attempt, answer :: rest =>
    match answer with
    | .error error =>
      if error ≠ .retryable ∨ retries ≤ attempt then throw (.rpc error)
      else sendTransactionWithRetry retries (attempt + 1) rest
    | .ok status =>
      if status = .pending ∨ status = .duplicate then pure ()
      else if status ≠ .tryAgainLater ∨ retries ≤ attempt then throw .submissionFailed
      else sendTransactionWithRetry retries (attempt + 1) rest

/-- Poll until the transaction is final or the deadline has passed. -/
def waitForTransactionConfirmation (deadline : ℕ) : List Poll → Pending Unit
  | [] => ExceptT.mk none
  | poll :: rest =>
    if deadline ≤ poll.start then throw .transactionTimeout
    else
      match poll.answer with
      | .error .timeout => throw .transactionTimeout
      | .error .permanent => throw (.rpc .permanent)
      | .ok .success => pure ()
      | .ok .failed => throw .transactionFailed
      | .ok .other => throw .unexpectedStatus
      | .error .retryable | .ok .notFound | .ok .pending =>
        if deadline ≤ poll.finish then throw .transactionTimeout
        else waitForTransactionConfirmation deadline rest

/-- A threshold that can be written as a 32-bit number; the write throws for any other. -/
def thresholdField (threshold : ℤ) : Option (BitVec 32) :=
  if 0 ≤ threshold ∧ threshold < 2 ^ 32 then some (toUint32 threshold) else none

/-- Split the payload, submit its parts, and resolve to true once the transaction is confirmed. -/
def verifyScoreProof (sha256 : List UInt8 → BytesN 32) (strKey : Address → List UInt8) (maxRetries : ℕ)
    (creditOracleId subject : Address) (threshold : ℤ) (proof : List UInt8) (server : Submission → Exchange) :
    Pending Bool :=
  match splitPayload proof with
  | none => throw .invalidPayload
  | some payload =>
    match thresholdField threshold with
    | none => throw .outOfRange
    | some field => do
      let exchange := server (proofSubmission sha256 strKey creditOracleId subject field payload)
      await exchange.account
      match ← await exchange.simulation with
      | .error => throw .simulationFailed
      | .other => throw .unexpectedSimulation
      | .success => do
        sendTransactionWithRetry maxRetries 0 exchange.sends
        waitForTransactionConfirmation exchange.deadline exchange.polls
        return true

/-- The submission of a call that gets as far as building one. -/
def submissionOf (sha256 : List UInt8 → BytesN 32) (strKey : Address → List UInt8)
    (creditOracleId subject : Address) (threshold : ℤ) (proof : List UInt8) : Option Submission := do
  let payload ← splitPayload proof
  let field ← thresholdField threshold
  some (proofSubmission sha256 strKey creditOracleId subject field payload)

/-! ## What a call that resolves has seen -/

/-- The call resolves to the value. -/
def Resolves {α : Type} (call : Pending α) (value : α) : Prop := call.run = some (.ok value)

/-- A sequence resolves when both of its parts do. -/
@[simp] theorem resolves_bind {α β : Type} {x : Pending α} {f : α → Pending β} {b : β} :
    Resolves (x >>= f) b ↔ ∃ a, Resolves x a ∧ Resolves (f a) b := by
  unfold Resolves
  rw [ExceptT.run_bind]
  rcases hx : x.run with _ | _ | a
  · simp
  · simp
  · simp

/-- A value resolves to itself. -/
@[simp] theorem resolves_pure {α : Type} {a b : α} : Resolves (pure a : Pending α) b ↔ a = b := by
  simp [Resolves]

/-- An error does not resolve. -/
@[simp] theorem not_resolves_throw {α : Type} {error : SdkError} {b : α} :
    ¬Resolves (throw error : Pending α) b := by
  simp [Resolves]

/-- An answer that is awaited successfully is that value. -/
@[simp] theorem resolves_await {α : Type} {answer : Except RpcError α} {value : α} :
    Resolves (await answer) value ↔ answer = .ok value := by
  cases answer <;> simp [await]

/-- Waiting ends well only with an answer of success. -/
theorem waitForTransactionConfirmation_success {deadline : ℕ} {polls : List Poll}
    (h : Resolves (waitForTransactionConfirmation deadline polls) ()) :
    ∃ poll ∈ polls, poll.answer = .ok .success := by
  induction polls with
  | nil => cases h
  | cons poll rest ih =>
    have hlater (hrest : Resolves (waitForTransactionConfirmation deadline rest) ()) :
        ∃ other ∈ poll :: rest, other.answer = .ok .success := by
      obtain ⟨other, hother, hanswer⟩ := ih hrest
      exact ⟨other, List.mem_cons_of_mem _ hother, hanswer⟩
    rw [waitForTransactionConfirmation] at h
    split at h
    case isTrue => exact absurd h not_resolves_throw
    case isFalse =>
      split at h
      case h_3 hsuccess => exact ⟨poll, List.mem_cons_self, hsuccess⟩
      case h_6 | h_7 | h_8 =>
        split at h
        · exact absurd h not_resolves_throw
        · exact hlater h
      all_goals exact absurd h not_resolves_throw

variable {sha256 : List UInt8 → BytesN 32} {strKey : Address → List UInt8} {maxRetries : ℕ}
  {creditOracleId subject : Address} {threshold : ℤ} {proof : List UInt8} {server : Submission → Exchange}

/-- A call that resolves has submitted the parts of its payload, and was told that the transaction
succeeded. -/
theorem verifyScoreProof_confirmed {verdict : Bool} (h : Resolves (verifyScoreProof sha256 strKey maxRetries
    creditOracleId subject threshold proof server) verdict) :
    ∃ submission, submissionOf sha256 strKey creditOracleId subject threshold proof = some submission ∧
      ∃ poll ∈ (server submission).polls, poll.answer = .ok .success := by
  unfold verifyScoreProof at h
  split at h
  case h_1 => exact absurd h not_resolves_throw
  case h_2 payload hpayload =>
    split at h
    case h_1 => exact absurd h not_resolves_throw
    case h_2 field hfield =>
      simp only [resolves_bind, resolves_await] at h
      obtain ⟨_, -, simulation, -, h⟩ := h
      cases simulation with
      | success =>
        simp only [resolves_bind] at h
        obtain ⟨_, -, _, hconfirmed, -⟩ := h
        refine ⟨_, ?_, waitForTransactionConfirmation_success hconfirmed⟩
        rw [submissionOf, hpayload, hfield]
        rfl
      | error => exact absurd h not_resolves_throw
      | other => exact absurd h not_resolves_throw

/-- The answers of a server that takes the transaction and reports the given status at once. -/
def promptExchange (status : TransactionStatus) : Exchange where
  account := .ok ()
  simulation := .ok .success
  sends := [.ok .pending]
  polls := [{ start := 0, answer := .ok status, finish := 0 }]
  deadline := 1

/-- When it reports a success, the call resolves to true. -/
theorem verifyScoreProof_prompt {submission : Submission}
    (hsubmission : submissionOf sha256 strKey creditOracleId subject threshold proof = some submission)
    (hserver : server submission = promptExchange .success) :
    Resolves (verifyScoreProof sha256 strKey maxRetries creditOracleId subject threshold proof server) true := by
  simp only [submissionOf, Option.bind_eq_bind, Option.bind_eq_some_iff, Option.some.injEq] at hsubmission
  obtain ⟨payload, hpayload, field, hfield, hsubmission⟩ := hsubmission
  rw [verifyScoreProof, hpayload]
  dsimp only
  rw [hfield]
  dsimp only
  rw [hsubmission, hserver]
  rfl

/-! ## The contract's answer -/

section Contract

variable {host : ScoreRangeVerifier.Host} {env : Env} {payer : Address} {s s' : State}
  {submission : Submission}

/-- The submission passes every gate of the contract but the pairing check, which says no. -/
structure AnswersNo (host : ScoreRangeVerifier.Host) (env : Env) (payer : Address) (s : State)
    (submission : Submission) : Prop where
  authorized : env.Authorized payer
  initialized : s.admin ≠ none
  size : submission.proof.length = proofSize
  fresh : s.consumedProof (host.sha256 submission.preimage) = none
  pairing : groth16Verify host submission.proof submission.publicInputs = .ok false

/-- That is when the contract returns false instead of an error. -/
theorem verifyAndConsume_false_iff :
    (∃ s', verifyAndConsume host env payer submission s = .ok (false, s')) ↔
      AnswersNo host env payer s submission := by
  simp only [verifyAndConsume, Outcome.bind_eq_ok, Outcome.require_eq_ok, requireAuth_eq_ok]
  constructor
  · rintro ⟨s', _, hauth, _, hadmin, _, hsize, _, hfresh, valid, hpairing, h⟩
    cases valid with
    | true => cases h
    | false => exact ⟨hauth, hadmin, hsize, hfresh, hpairing⟩
  · intro h
    exact ⟨s, (), h.authorized, (), h.initialized, (), h.size, (), h.fresh, false, h.pairing, rfl⟩

/-- The contract found the submission valid and recorded its hash. -/
def Accepts (host : ScoreRangeVerifier.Host) (env : Env) (payer : Address) (s : State)
    (submission : Submission) : Prop :=
  ∃ s', verifyAndConsume host env payer submission s = .ok (true, s') ∧
    s'.consumedProof (host.sha256 submission.preimage) = some true

/-- A submission that returns true is accepted. -/
theorem accepts_of_true (h : verifyAndConsume host env payer submission s = .ok (true, s')) :
    Accepts host env payer s submission := by
  obtain ⟨-, -, hafter⟩ := ScoreRangeVerifier.verifyAndConsume_spec h
  refine ⟨s', h, ?_⟩
  rw [hafter, if_pos rfl]
  exact Storage.set_self _ _ _

/-- A transaction is reported as successful only if the contract returned a value, with the
transaction applied in the given state. -/
def Honest (host : ScoreRangeVerifier.Host) (env : Env) (payer : Address) (s : State)
    (server : Submission → Exchange) : Prop :=
  ∀ submission, ∀ poll ∈ (server submission).polls, poll.answer = .ok .success →
    ∃ returned, verifyAndConsume host env payer submission s = .ok returned

/-- A server that reports at once whether the contract returned a value. -/
def promptServer (host : ScoreRangeVerifier.Host) (env : Env) (payer : Address) (s : State)
    (submission : Submission) : Exchange :=
  match verifyAndConsume host env payer submission s with
  | .ok _ => promptExchange .success
  | .error _ => promptExchange .failed

/-- It is honest. -/
theorem honest_promptServer : Honest host env payer s (promptServer host env payer s) := by
  intro submission poll hpoll hsuccess
  unfold promptServer at hpoll
  split at hpoll
  case h_1 returned hreturned => exact ⟨returned, hreturned⟩
  case h_2 =>
    obtain rfl := List.mem_singleton.mp hpoll
    cases hsuccess

/-- For every payload and every state of the contract: the SDK resolves to true only for accepted
submissions, however the network behaves, exactly when the contract does not answer no. -/
theorem verdict_sound_iff (host : ScoreRangeVerifier.Host) (env : Env) (payer : Address) (s : State)
    (strKey : Address → List UInt8) (maxRetries : ℕ) (creditOracleId subject : Address) (threshold : ℤ)
    (proof : List UInt8) :
    (∀ server, Honest host env payer s server →
      Resolves (verifyScoreProof host.sha256 strKey maxRetries creditOracleId subject threshold proof server)
        true →
      ∃ submission, submissionOf host.sha256 strKey creditOracleId subject threshold proof = some submission ∧
        Accepts host env payer s submission) ↔
    ∀ submission, submissionOf host.sha256 strKey creditOracleId subject threshold proof = some submission →
      ¬AnswersNo host env payer s submission := by
  constructor
  · intro hsound submission hsubmission hno
    obtain ⟨after, hfalse⟩ := verifyAndConsume_false_iff.mpr hno
    have hserver : promptServer host env payer s submission = promptExchange .success := by
      rw [promptServer, hfalse]
    obtain ⟨submission', hsubmission', s', htrue, -⟩ := hsound _ honest_promptServer
      (verifyScoreProof_prompt hsubmission hserver)
    cases hsubmission'.symm.trans hsubmission
    cases htrue.symm.trans hfalse
  · intro hnever server hhonest hresolves
    obtain ⟨submission, hsubmission, poll, hpoll, hsuccess⟩ := verifyScoreProof_confirmed hresolves
    obtain ⟨⟨valid, after⟩, hreturned⟩ := hhonest submission poll hpoll hsuccess
    refine ⟨submission, hsubmission, ?_⟩
    cases valid with
    | true => exact accepts_of_true hreturned
    | false => exact absurd (verifyAndConsume_false_iff.mp ⟨after, hreturned⟩) (hnever submission hsubmission)

end Contract

/-! ## A proof of something else -/

/-- A payload whose proof is three points that are no proof: the encodings of the points at infinity,
with the trailer of some record. -/
def infinityPayload : List UInt8 :=
  0x40 :: List.replicate 95 0 ++ 0x40 :: List.replicate 191 0 ++ 0x40 :: List.replicate 95 0 ++
    List.replicate 68 0

/-- A host whose pairing check fails, as it does on such points. -/
def rejectingHost : ScoreRangeVerifier.Host where
  sha256 := Sha256.hash
  g1Neg := some
  g1Mul point _ := some point
  g1Add point _ := some point
  pairingCheck _ _ := some false

/-- Its pairing check says no to every proof of the right length. -/
theorem groth16Verify_rejecting {proof : List UInt8} (hsize : proof.length = proofSize)
    (publicInputs : ScoreRangeVerifier.ScoreRangePublicInputs) :
    groth16Verify rejectingHost proof publicInputs = .ok false := by
  rw [groth16Verify, if_neg (not_not.mpr hsize)]
  rfl

/-- A verifier that has been set up, and no more. -/
def initializedVerifier : State := { admin := some (.account 1), vkHash := some 7, circuitVersion := some 1 }

/-- The network confirms the rejected proof, and the SDK reports it as verified. -/
theorem not_verdict_sound :
    ¬∃ strKey : Address → List UInt8,
      ∀ (host : ScoreRangeVerifier.Host) (env : Env) (payer : Address) (s : State) (maxRetries : ℕ)
        (creditOracleId subject : Address) (threshold : ℤ) (proof : List UInt8) (server : Submission → Exchange),
      Honest host env payer s server →
      Resolves (verifyScoreProof host.sha256 strKey maxRetries creditOracleId subject threshold proof server)
        true →
      ∃ submission, submissionOf host.sha256 strKey creditOracleId subject threshold proof = some submission ∧
        Accepts host env payer s submission := by
  intro hsound
  obtain ⟨strKey, hsound⟩ := hsound
  let env := Env.signedBy (.numbered 100) (.contract 9) [.account 2]
  have hsplit : (splitPayload infinityPayload).map (·.rawProof.length) = some proofSize := by decide +kernel
  obtain ⟨payload, hpayload, hsize⟩ := Option.map_eq_some_iff.mp hsplit
  have hsubmission : submissionOf rejectingHost.sha256 strKey (.contract 11) (.account 3) 350 infinityPayload =
      some (proofSubmission rejectingHost.sha256 strKey (.contract 11) (.account 3) 350 payload) := by
    rw [submissionOf, hpayload]
    rfl
  have hno : AnswersNo rejectingHost env (.account 2) initializedVerifier
      (proofSubmission rejectingHost.sha256 strKey (.contract 11) (.account 3) 350 payload) := by
    constructor
    case authorized => decide
    case initialized => decide
    case size => exact hsize
    case fresh => rfl
    case pairing => exact groth16Verify_rejecting hsize _
  obtain ⟨after, hfalse⟩ := verifyAndConsume_false_iff.mpr hno
  have hresolves : Resolves (verifyScoreProof rejectingHost.sha256 strKey 3 (.contract 11) (.account 3) 350
      infinityPayload (promptServer rejectingHost env (.account 2) initializedVerifier)) true := by
    apply verifyScoreProof_prompt hsubmission
    rw [promptServer, hfalse]
  obtain ⟨submission, hsame, haccepts⟩ := hsound rejectingHost env (.account 2) initializedVerifier 3
    (.contract 11) (.account 3) 350 infinityPayload _ honest_promptServer hresolves
  obtain rfl := Option.some.inj (hsubmission.symm.trans hsame)
  obtain ⟨accepted, htrue, -⟩ := haccepts
  rw [hfalse] at htrue
  exact absurd (congrArg Prod.fst (Except.ok.inj htrue)) Bool.false_ne_true

end StellarDidCredit.Sdk
