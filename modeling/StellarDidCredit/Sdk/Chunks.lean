import StellarDidCredit.Sdk.ContractErrors
import StellarDidCredit.Sdk.Verification

/-!
# Chunks of a batch

A batch submits one transaction for each of its chunks. What the server answers to one chunk are the
answers of an `Exchange`, with the texts that the errors of the SDK carry.
-/

namespace StellarDidCredit.Sdk

/-! ## Errors -/

inductive SDKErrorCode where
  | invalidVcHash
  | missingRevocationRegistry
  | notRegisteredIssuer
  | transactionFailed
  | transactionTimeout
  | cooldownActive
  deriving DecidableEq, Repr

/-- An error of the SDK, with whatever caused it. -/
structure SDKError (Cause : Type) where
  code : SDKErrorCode
  message : String
  cause : Option Cause := none
  transactionHash : Option String := none
  resultXdr : Option String := none

/-- What is thrown, or passed on as the details of an error. -/
inductive Raised where
  | contractError (error : ContractError)
  | sdkError (error : SDKError Raised)
  | error (message : String)
  /-- No error, as `JSON.stringify` renders it. -/
  | value (json : String)

/-- Whether a text includes another one, without regard to case. -/
def includes (text literal : String) : Bool :=
  (Text.firstMatch (afterLiteral literal.toList) text.toList).isSome

def getErrorMessage : Raised → String
  | .contractError error => error.message
  | .sdkError error => error.message
  | .error message => message
  | .value json => json

/-- `/error\(contract,\s*#3\)/i` at one place. -/
def mismatchHere (text : List Char) : Option (List Char) := do
  let rest ← afterLiteral ['e', 'r', 'r', 'o', 'r', '(', 'c', 'o', 'n', 't', 'r', 'a', 'c', 't', ','] text
  afterLiteral ['#', '3', ')'] (rest.dropWhile isSpace)

def containsIssuerMismatch (value : Raised) : Bool :=
  let ofContract : Bool :=
    match value with
    | .contractError error =>
      (error.contractName = .revocationRegistry ∨ error.contractName = .identityOracle) ∧ error.code = 3
    | _ => false
  let text := getErrorMessage value
  ofContract || includes text "issuermismatch" || includes text "issuer mismatch" ||
    (Text.firstMatch mismatchHere text.toList).isSome

/-- Its callers give a failed transaction a cause; a timeout has none. -/
def createRevokeError (message : String) (details : Raised) : SDKError Raised :=
  let mismatch : SDKError Raised :=
    { code := .notRegisteredIssuer, message := "The issuer is not registered for this VC hash"
      cause := some details }
  if containsIssuerMismatch details then mismatch
  else
    match details with
    | .sdkError error =>
      let kept := { error with message, cause := some details }
      match error.code with
      | .transactionTimeout => kept
      | .transactionFailed =>
        if error.cause.any containsIssuerMismatch then
          { mismatch with transactionHash := error.transactionHash, resultXdr := error.resultXdr }
        else kept
      | _ => { code := .transactionFailed, message, cause := some details }
    | _ => { code := .transactionFailed, message, cause := some details }

/-! ## One chunk -/

/-- A value of a response, as a template prints it and as `JSON.stringify` renders it. -/
structure Rendered where
  printed : String
  json : String

/-- What the server answers while one chunk is submitted. -/
structure ChunkAnswers where
  exchange : Exchange
  /-- The message of what a failed request throws. -/
  requestError : String
  simulationError : String
  errorResult : Option Rendered
  transactionHash : String
  /-- The response that reports a failed transaction. -/
  finalResponse : Rendered
  resultXdr : Option String
  otherStatus : String

/-- A call that throws what the SDK throws, or is still waiting. -/
abbrev Submitting (α : Type) := ExceptT Raised Option α

/-- The errors of a call, with their texts. -/
def raising {α : Type} (raised : SdkError → Raised) (call : Pending α) : Submitting α :=
  ExceptT.adapt raised call

def throwTransactionTimeout (operationName txHash : String) : SDKError Raised where
  code := .transactionTimeout
  message := s!"Timed out waiting for {operationName} transaction confirmation: {txHash}"

/-- What waiting for the confirmation throws. -/
def raisedByWait (operationName : String) (answers : ChunkAnswers) : SdkError → Raised
  | .transactionTimeout => .sdkError (throwTransactionTimeout operationName answers.transactionHash)
  | .transactionFailed => .sdkError
    { code := .transactionFailed
      message := s!"{operationName} transaction failed for {answers.transactionHash}; resultXdr: " ++
        answers.resultXdr.getD "unknown"
      cause := some (.value answers.finalResponse.json)
      transactionHash := some answers.transactionHash
      resultXdr := answers.resultXdr }
  | .unexpectedStatus =>
    .error s!"Unexpected transaction status for {answers.transactionHash}: {answers.otherStatus}"
  | _ => .error answers.requestError

/-- What submitting throws: a refusal goes through the factory. -/
def raisedBySend (errorFactory : Option Rendered → Raised) (answers : ChunkAnswers) : SdkError → Raised
  | .submissionFailed => errorFactory answers.errorResult
  | _ => .error answers.requestError

/-- Build, simulate, submit and confirm the transaction of one chunk. The errors of the confirmation
go through `rethrow`. -/
def submitChunk (contractName : ContractName) (operationName : String) (errorFactory : Option Rendered → Raised)
    (rethrow : Raised → Raised) (maxRetries : ℕ) (answers : ChunkAnswers) : Submitting String := do
  raising (fun _ => .error answers.requestError) (await answers.exchange.account)
  match ← raising (fun _ => .error answers.requestError) (await answers.exchange.simulation) with
  | .error => throw (.contractError (throwContractError answers.simulationError contractName))
  | .other =>
    throw (.sdkError { code := .transactionFailed
                       message := s!"{operationName} simulation returned an unexpected response" })
  | .success => do
    raising (raisedBySend errorFactory answers) (sendTransactionWithRetry maxRetries 0 answers.exchange.sends)
    tryCatch (raising (raisedByWait operationName answers)
      (waitForTransactionConfirmation answers.exchange.deadline answers.exchange.polls))
      fun error => throw (rethrow error)
    return answers.transactionHash

/-- A refusal without a result makes `createRevokeError` fail itself. -/
def submitBatchRevokeChunk : ℕ → ChunkAnswers → Submitting String :=
  submitChunk .revocationRegistry "batchRevokeVC"
    (fun errorResult =>
      match errorResult with
      | none => .error "Cannot read properties of undefined (reading 'toLowerCase')"
      | some result => .sdkError
        (createRevokeError s!"batchRevokeVC submission failed: {result.printed}" (.value result.json)))
    (fun error => .sdkError
      (createRevokeError s!"batchRevokeVC failed; this chunk rolled back: {getErrorMessage error}" error))

def submitBatchAnchorChunk : ℕ → ChunkAnswers → Submitting String :=
  submitChunk .identityOracle "batchAnchorVCs"
    (fun errorResult => .sdkError
      { code := .transactionFailed
        message := "batchAnchorVCs submission failed: " ++ (errorResult.map (·.printed)).getD "undefined" })
    id

/-! ## A chunk that succeeds -/

/-- A sequence succeeds when both of its parts do. -/
theorem run_bind_eq_ok {α β : Type} {x : Submitting α} {f : α → Submitting β} {b : β} :
    (x >>= f).run = some (.ok b) ↔ ∃ a, x.run = some (.ok a) ∧ (f a).run = some (.ok b) := by
  rw [ExceptT.run_bind]
  rcases x.run with _ | _ | a
  · simp
  · simp
  · simp

/-- The texts of its errors do not matter to a call that resolves. -/
theorem run_raising_eq_ok {α : Type} {raised : SdkError → Raised} {call : Pending α} {value : α} :
    (raising raised call).run = some (.ok value) ↔ Resolves call value := by
  unfold raising Resolves
  rw [ExceptT.run_adapt]
  rcases call.run with _ | _ | a
  · simp
  · simp [Except.mapError]
  · simp [Except.mapError]

/-- A handler that throws again leaves what succeeds. -/
theorem run_tryCatch_eq_ok {α : Type} {x : Submitting α} {rethrow : Raised → Raised} {value : α}
    (h : (tryCatch x fun error => throw (rethrow error)).run = some (.ok value)) : x.run = some (.ok value) := by
  rw [ExceptT.run_tryCatch] at h
  rcases hx : x.run with _ | error | a
  · rw [hx] at h
    cases h
  · rw [hx] at h
    cases h
  · rw [hx] at h
    exact h

/-- A chunk that succeeds was told so. -/
theorem submitChunk_confirmed {contractName : ContractName} {operationName transactionHash : String}
    {errorFactory : Option Rendered → Raised} {rethrow : Raised → Raised} {maxRetries : ℕ} {answers : ChunkAnswers}
    (h : (submitChunk contractName operationName errorFactory rethrow maxRetries answers).run =
      some (.ok transactionHash)) : ∃ poll ∈ answers.exchange.polls, poll.answer = .ok .success := by
  simp only [submitChunk, run_bind_eq_ok] at h
  obtain ⟨_, -, simulation, -, h⟩ := h
  cases simulation with
  | error => cases h
  | other => cases h
  | success =>
    simp only [run_bind_eq_ok] at h
    obtain ⟨_, -, _, hconfirmed, -⟩ := h
    exact waitForTransactionConfirmation_success (run_raising_eq_ok.mp (run_tryCatch_eq_ok hconfirmed))

/-! ## Answers at once -/

/-- Answers with nothing to tell about errors but a failed simulation. -/
def promptAnswers (exchange : Exchange) (simulationError transactionHash : String) : ChunkAnswers where
  exchange
  requestError := ""
  simulationError
  errorResult := none
  transactionHash
  finalResponse := ⟨"", ""⟩
  resultXdr := none
  otherStatus := ""

/-- What a server answers whose simulation fails: nothing is sent. -/
def refusingExchange : Exchange :=
  { promptExchange .success with simulation := .ok .error, sends := [], polls := [] }

/-- A chunk that is applied at once succeeds. -/
theorem submitBatchRevokeChunk_applied (maxRetries : ℕ) (txHash : String) :
    (submitBatchRevokeChunk maxRetries (promptAnswers (promptExchange .success) "" txHash)).run =
      some (.ok txHash) := rfl

/-- A chunk whose simulation fails is thrown as the error of the registry. -/
theorem submitBatchRevokeChunk_refused (maxRetries : ℕ) (simulationError : String) :
    (submitBatchRevokeChunk maxRetries (promptAnswers refusingExchange simulationError "")).run =
      some (.error (.contractError (throwContractError simulationError .revocationRegistry))) := rfl

end StellarDidCredit.Sdk
