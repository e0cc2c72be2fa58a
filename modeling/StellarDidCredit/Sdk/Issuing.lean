import StellarDidCredit.Sdk.GovernanceClient

/-!
# Single credentials of the SDK

`verifyVC` asks the identity oracle whether a credential is active, and `issueVC` anchors one. The server
answers each of the two as it likes: with a verdict, with an error, or not at all. Some errors of a
simulation count as the answer no.
-/

namespace StellarDidCredit.Sdk

/-! ## Errors that mean no -/

/-- `/error\(contract,\s*#8\)/i` at one place. -/
def pausedHere (text : List Char) : Option (List Char) := do
  let rest ← afterLiteral ['e', 'r', 'r', 'o', 'r', '(', 'c', 'o', 'n', 't', 'r', 'a', 'c', 't', ','] text
  afterLiteral ['#', '8', ')'] (rest.dropWhile isSpace)

/-- `String.prototype.toLowerCase` beyond the Latin capitals, which `includes` lowers itself: only the Kelvin
sign becomes one of the characters that are looked for. -/
def lowerOthers (text : String) : String :=
  String.ofList (text.toList.map fun c => if c.toNat = 0x212A then 'k' else c)

def isVerifyVCNegativeSimulationError (error : Raised) : Bool :=
  let text := lowerOthers (getErrorMessage error)
  let ofText : Bool :=
    includes text "contractpaused" || includes text "contract paused" ||
      (Text.firstMatch pausedHere text.toList).isSome || includes text "vcnotfound" ||
      includes text "unknown subject" || includes text "not found"
  match error with
  | .contractError error =>
    if error.contractName = .identityOracle then error.code = 7 ∨ error.code = 8 else ofText
  | _ => ofText

/-! ## The calls -/

/-- The server as the two calls meet it, with a state of its own. It is asked with the arguments of the call,
the subject as the caller writes it. -/
structure IdentityServer (Subject σ : Type) where
  /-- The response to the simulation of `verify_vc`, if one ever comes. The value is missing where it is not
  a boolean. -/
  verifyVc : Subject → List UInt8 → σ → Option (ReadResponse (Option Bool) × σ)
  /-- What is answered while `anchor_vc`, or `anchor_vc_typed` with a type, is submitted. -/
  anchorVc : Subject → List UInt8 → Option String → σ → ChunkAnswers × σ

/-- What a response to `verify_vc` says. The text of a failed simulation is examined as the message of an
error is. -/
def verdictOf : ReadResponse (Option Bool) → Except Raised Bool
  | .requestFailed message => .error (.error message)
  | .simulationError text =>
    if isVerifyVCNegativeSimulationError (.error text) then .ok false
    else .error (.contractError (throwContractError text .identityOracle))
  | .unexpected => .error (.error "Simulation returned unexpected response")
  | .noReturnValue => .error (.error "No return value in simulation result")
  | .returned none => .error (.error "verify_vc returned a non-boolean result")
  | .returned (some verdict) => .ok verdict

/-- Only the contract says yes. -/
theorem verdictOf_eq_true {response : ReadResponse (Option Bool)} :
    verdictOf response = .ok true ↔ response = .returned (some true) := by
  cases response with
  | simulationError text =>
    rw [verdictOf]
    split <;> simp
  | returned verdict => cases verdict <;> simp [verdictOf]
  | _ => simp [verdictOf]

section Calls

variable {Subject σ : Type} (toAddress : Subject → Except String Address) (server : IdentityServer Subject σ)

/-- The subject's address is built before anything is sent. -/
def verifyVC (subjectAddress : Subject) (vcHash : List UInt8) (s : σ) : Option (Except Raised Bool × σ) :=
  if vcHash.length ≠ 32 then some (.error (.error "vcHash must be exactly 32 bytes"), s)
  else
    match toAddress subjectAddress with
    | .error message => some (.error (.error message), s)
    | .ok _ => do
      let (response, s) ← server.verifyVc subjectAddress vcHash s
      some (verdictOf response, s)

/-- Build, simulate, submit and confirm the transaction. The subject's address is built when the account is
known. -/
def submitIssueVC (maxRetries : ℕ) (subject : Except String Address) (answers : ChunkAnswers) :
    Submitting String := do
  raising (fun _ => .error answers.requestError) (await answers.exchange.account)
  match subject with
  | .error message => throw (.error message)
  | .ok _ =>
    match ← raising (fun _ => .error answers.requestError) (await answers.exchange.simulation) with
    | .error => throw (.contractError (throwContractError answers.simulationError .identityOracle))
    | .other => throw (.error "Simulation returned unexpected response")
    | .success => do
      let errorFactory (errorResult : Option Rendered) : Raised :=
        .error ("Transaction submission failed: " ++ (errorResult.map (·.printed)).getD "undefined")
      raising (raisedBySend errorFactory answers) (sendTransactionWithRetry maxRetries 0 answers.exchange.sends)
      raising (raisedByWait "issueVC" answers)
        (waitForTransactionConfirmation answers.exchange.deadline answers.exchange.polls)
      return answers.transactionHash

/-- Anchor one credential. Nothing means that the call is still waiting. -/
def issueVC (maxRetries : ℕ) (subjectAddress : Subject) (vcHash : List UInt8) (type : Option String) (s : σ) :
    Option (Except Raised String × σ) :=
  if vcHash.length ≠ 32 then some (.error (.error "vcHash must be exactly 32 bytes"), s)
  else do
    let (answers, s) := server.anchorVc subjectAddress vcHash type s
    let answer ← (submitIssueVC maxRetries (toAddress subjectAddress) answers).run
    some (answer, s)

end Calls

/-! ## What they have seen -/

section Seen

variable {Subject σ : Type} {toAddress : Subject → Except String Address} {server : IdentityServer Subject σ}
  {subjectAddress : Subject} {subject : Address} {vcHash : List UInt8} {maxRetries : ℕ} {s s' : σ}

/-- A subject and a hash that can be sent are sent. -/
theorem verifyVC_sent (hlength : vcHash.length = 32) (haddress : toAddress subjectAddress = .ok subject) (s : σ) :
    verifyVC toAddress server subjectAddress vcHash s =
      (server.verifyVc subjectAddress vcHash s).map fun answered => (verdictOf answered.1, answered.2) := by
  rw [verifyVC, if_neg (not_not.mpr hlength), haddress]
  cases server.verifyVc subjectAddress vcHash s <;> rfl

/-- A transaction that is reported with its hash has been confirmed. -/
theorem submitIssueVC_confirmed {answers : ChunkAnswers} {conversion : Except String Address} {txHash : String}
    (h : (submitIssueVC maxRetries conversion answers).run = some (.ok txHash)) :
    ∃ poll ∈ answers.exchange.polls, poll.answer = .ok .success := by
  simp only [submitIssueVC, run_bind_eq_ok] at h
  obtain ⟨_, -, h⟩ := h
  cases conversion with
  | error message => cases h
  | ok subject =>
    simp only [run_bind_eq_ok] at h
    obtain ⟨simulation, -, h⟩ := h
    cases simulation with
    | error => cases h
    | other => cases h
    | success =>
      simp only [run_bind_eq_ok] at h
      obtain ⟨_, -, _, hconfirmed, -⟩ := h
      exact waitForTransactionConfirmation_success (run_raising_eq_ok.mp hconfirmed)

/-- A call that ends has had its answers. -/
theorem issueVC_sent (hlength : vcHash.length = 32) {type : Option String} {answer : Except Raised String}
    (h : issueVC toAddress server maxRetries subjectAddress vcHash type s = some (answer, s')) :
    s' = (server.anchorVc subjectAddress vcHash type s).2 ∧
      (submitIssueVC maxRetries (toAddress subjectAddress) (server.anchorVc subjectAddress vcHash type s).1).run =
        some answer := by
  rw [issueVC, if_neg (not_not.mpr hlength)] at h
  obtain ⟨_, hanswer, h⟩ := Option.bind_eq_some_iff.mp h
  obtain ⟨rfl, rfl⟩ := Prod.mk.inj (Option.some.inj h)
  exact ⟨rfl, hanswer⟩

end Seen

/-! ## A server that answers at once -/

/-- The answers of a server that applies the transaction. -/
def appliedAnswers (txHash : String) : ChunkAnswers := promptAnswers (promptExchange .success) "" txHash

/-- The answers of a server whose simulation fails. -/
def refusedAnswers (simulationError : String) : ChunkAnswers := promptAnswers refusingExchange simulationError ""

section Prompt

variable {Subject σ : Type} {toAddress : Subject → Except String Address} {server : IdentityServer Subject σ}
  {subjectAddress : Subject} {subject : Address} {vcHash : List UInt8}

/-- A credential that is anchored at once succeeds. -/
theorem issueVC_applied (hlength : vcHash.length = 32) (haddress : toAddress subjectAddress = .ok subject)
    {type : Option String} {s : σ} {txHash : String}
    (hanswers : (server.anchorVc subjectAddress vcHash type s).1 = appliedAnswers txHash) (maxRetries : ℕ) :
    issueVC toAddress server maxRetries subjectAddress vcHash type s =
      some (.ok txHash, (server.anchorVc subjectAddress vcHash type s).2) := by
  rw [issueVC, if_neg (not_not.mpr hlength), haddress]
  dsimp only
  rw [hanswers]
  rfl

/-- One whose simulation fails is thrown as the error of the contract. -/
theorem issueVC_refused (hlength : vcHash.length = 32) (haddress : toAddress subjectAddress = .ok subject)
    {type : Option String} {s : σ} {simulationError : String}
    (hanswers : (server.anchorVc subjectAddress vcHash type s).1 = refusedAnswers simulationError)
    (maxRetries : ℕ) :
    issueVC toAddress server maxRetries subjectAddress vcHash type s =
      some (.error (.contractError (throwContractError simulationError .identityOracle)),
        (server.anchorVc subjectAddress vcHash type s).2) := by
  rw [issueVC, if_neg (not_not.mpr hlength), haddress]
  dsimp only
  rw [hanswers]
  rfl

end Prompt

end StellarDidCredit.Sdk
