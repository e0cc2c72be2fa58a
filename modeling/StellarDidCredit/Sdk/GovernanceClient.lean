import Mathlib.Data.Rat.Defs
import StellarDidCredit.Governance.Model
import StellarDidCredit.Lib.Sweep
import StellarDidCredit.Sdk.Chunks

/-!
# The governance client

`GovernanceClient.listProposals` reads the counter from the contract's instance entry and then one
proposal after the other, each with a request of its own. The entry may be unreadable, and the client
then goes on as if nothing had been created yet.
-/

namespace StellarDidCredit.Sdk

open Governance (GovernanceProposal)

/-! ## Arguments -/

/-- A number of the language, finite or not. -/
inductive JsNumber where
  | finite (value : ℚ)
  | nonFinite

def JsNumber.isInteger : JsNumber → Bool
  | .finite value => value.den = 1
  | .nonFinite => false

/-- The integer of a number that is one. -/
def JsNumber.toInt : JsNumber → ℤ
  | .finite value => value.num
  | .nonFinite => 0

def MAX_SAFE_INTEGER : ℕ := 2 ^ 53 - 1

def JsNumber.isSafeInteger (value : JsNumber) : Bool :=
  value.isInteger && value.toInt.natAbs ≤ MAX_SAFE_INTEGER

inductive GovernanceInteger where
  | number (value : JsNumber)
  | bigint (value : ℤ)

def assertSafeInteger : GovernanceInteger → Except Raised Unit
  | .number value =>
    if value.isSafeInteger then .ok ()
    else .error (.error "number values must be safe integers; use bigint instead")
  | .bigint _ => .ok ()

/-- `BigInt` of a value that is an integer. -/
def GovernanceInteger.toInt : GovernanceInteger → ℤ
  | .number value => value.toInt
  | .bigint value => value

def toUnsignedBigInt (value : GovernanceInteger) : Except Raised ℕ := do
  assertSafeInteger value
  let result := value.toInt
  if result < 0 then .error (.error "integer values must be non-negative") else .ok result.toNat

/-- The limit, if it is a number of proposals. -/
def limitOf : Option JsNumber → Except Raised (Option ℕ)
  | none => .ok none
  | some limit =>
    if limit.isInteger = false ∨ limit.toInt < 0 then .error (.error "limit must be a non-negative integer")
    else .ok (some limit.toInt.toNat)

/-- The first id, one if none is given. -/
def startOf : Option GovernanceInteger → Except Raised ℕ
  | none => .ok 1
  | some value => toUnsignedBigInt value

/-! ## Requests -/

/-- The configuration that the clients use, and the message of what is thrown for an argument that cannot be
encoded. -/
structure GovernanceClientConfig where
  governanceId : String
  unencodable : String

def requireGovernanceId (config : GovernanceClientConfig) : Except Raised Unit :=
  if config.governanceId.toList.all isSpace then
    .error (.error "governanceId is required to use the governance client")
  else .ok ()

/-- The response to the simulation of a query. -/
inductive ReadResponse (α : Type) where
  | requestFailed (message : String)
  | simulationError (text : String)
  | unexpected
  | noReturnValue
  | returned (value : α)

def simulateRead {α : Type} : ReadResponse α → Except Raised α
  | .requestFailed message => .error (.error message)
  | .simulationError text => .error (.contractError (throwContractError text .governance))
  | .unexpected => .error (.error "Simulation returned unexpected response")
  | .noReturnValue => .error (.error "No return value in simulation result")
  | .returned value => .ok value

/-- Only a response with a value is read. -/
theorem simulateRead_eq_ok {α : Type} {response : ReadResponse α} {value : α} :
    simulateRead response = .ok value ↔ response = .returned value := by
  cases response <;> simp [simulateRead]

/-- The key of an entry, as `scValToNative` gives it. -/
inductive NativeKey where
  | text (name : String)
  | array (items : List String)
  | record (fields : List String)
  | other

def NativeKey.isNextProposalId : NativeKey → Bool
  | .text name => name = "NextProposalId"
  | .array items => items.head? = some "NextProposalId"
  | .record fields => fields.contains "NextProposalId"
  | .other => false

/-- The counter among the entries, where its value is an integer. -/
def findNextProposalId (storage : List (NativeKey × Option ℕ)) : Option ℕ :=
  (storage.find? fun entry => entry.1.isNextProposalId).bind (·.2)

/-- A server that the client asks, with a state of its own. The storage of the instance is missing where
the request fails or has no such entry. -/
structure GovernanceServer (σ : Type) where
  instanceStorage : σ → Option (List (NativeKey × Option ℕ)) × σ
  getProposal : ℕ → σ → ReadResponse (Option GovernanceProposal) × σ

section Client

variable {σ : Type}

/-- The counter. Whatever goes wrong in reading it, the answer is one. -/
def getNextProposalId (config : GovernanceClientConfig) (server : GovernanceServer σ) (s : σ) :
    Except Raised ℕ × σ :=
  match requireGovernanceId config with
  | .error error => (.error error, s)
  | .ok () =>
    let (storage, s) := server.instanceStorage s
    (.ok ((storage.bind findNextProposalId).getD 1), s)

/-- Read one proposal by its id, which the query takes as a 64-bit number. -/
def getProposal (config : GovernanceClientConfig) (server : GovernanceServer σ) (id : ℕ) (s : σ) :
    Except Raised (Option GovernanceProposal) × σ :=
  match requireGovernanceId config with
  | .error error => (.error error, s)
  | .ok () =>
    if U64.max < id then (.error (.error config.unencodable), s)
    else
      let (response, s) := server.getProposal id s
      (simulateRead response, s)

/-- Where the scan ends. -/
def endOf (startId nextProposalId : ℕ) : Option ℕ → ℕ
  | some limit =>
    let targetEnd := startId + limit
    if startId < nextProposalId then if targetEnd < nextProposalId then targetEnd else nextProposalId
    else targetEnd
  | none => if startId < nextProposalId then nextProposalId else startId

/-- Scan the ids from `first` on. -/
def listProposals (config : GovernanceClientConfig) (server : GovernanceServer σ)
    (first : Option GovernanceInteger) (limit : Option JsNumber) (s : σ) :
    Except Raised (List GovernanceProposal) × σ :=
  match limitOf limit with
  | .error error => (.error error, s)
  | .ok limit =>
    if limit = some 0 then (.ok [], s)
    else
      match startOf first with
      | .error error => (.error error, s)
      | .ok startId =>
        match getNextProposalId config server s with
        | (.error error, s) => (.error error, s)
        | (.ok nextProposalId, s) =>
          sweep (getProposal config server) (List.range' startId (endOf startId nextProposalId limit - startId)) s

end Client

end StellarDidCredit.Sdk
