import StellarDidCredit.Lib.Run
import StellarDidCredit.RevocationRegistry.Effects
import StellarDidCredit.IdentityOracle.Subjects
import StellarDidCredit.CreditOracle.Effects
import StellarDidCredit.Governance.Effects

/-!
# The four contracts on one ledger

A deployment of the contracts of this repository, any number of each, at addresses of their
own. A transaction invokes one of them; the calls it makes run inside the others and the
whole either succeeds or is rolled back. The host refuses to enter a contract that is already
being executed, so the addresses on the call stack are passed along as `busy`.

An account authorises by signing. One of these contracts authorises only the calls it makes
itself, so it is never among the signers; any other address may be.
-/

namespace StellarDidCredit.Network

/-- A deployed contract with its storage. -/
inductive Contract where
  | creditOracle (s : CreditOracle.State)
  | identityOracle (s : IdentityOracle.State)
  | revocationRegistry (s : RevocationRegistry.State)
  | governance (s : Governance.State)

/-- The contracts of the ledger, by address. -/
abbrev Contracts := Storage Address Contract

/-! ## Calls between contracts -/

section Calls

variable {α : Type} (busy : List Address) (contracts : Contracts) (callee : Address)

/-- The contract at an address, unless it is being executed. -/
def callable : Option Contract := if callee ∈ busy then none else contracts callee

/-- Call into an identity oracle. -/
def onIdentity (f : IdentityOracle.State → Option α) : Option α :=
  match callable busy contracts callee with
  | some (.identityOracle s) => f s
  | _ => none

/-- Call into a revocation registry. -/
def onRegistry (f : RevocationRegistry.State → Option α) : Option α :=
  match callable busy contracts callee with
  | some (.revocationRegistry s) => f s
  | _ => none

/-- Call into a credit oracle. -/
def onCredit (f : CreditOracle.State → Option α) : Option α :=
  match callable busy contracts callee with
  | some (.creditOracle s) => f s
  | _ => none

/-- Call into a governance contract. -/
def onGovernance (f : Governance.State → Option α) : Option α :=
  match callable busy contracts callee with
  | some (.governance s) => f s
  | _ => none

/-- Call into an identity oracle and store what the call leaves. -/
def updateIdentity (f : IdentityOracle.State → Outcome IdentityOracle.Error IdentityOracle.State) :
    Outcome IdentityOracle.Error Contracts :=
  match callable busy contracts callee with
  | some (.identityOracle s) => do
    let s ← f s
    .ok (contracts.set callee (.identityOracle s))
  | _ => .error .trap

/-- Call into a credit oracle and store what the call leaves. -/
def updateCredit (f : CreditOracle.State → Outcome CreditOracleError CreditOracle.State) :
    Outcome CreditOracleError Contracts :=
  match callable busy contracts callee with
  | some (.creditOracle s) => do
    let s ← f s
    .ok (contracts.set callee (.creditOracle s))
  | _ => .error .trap

end Calls

/-- What an identity oracle reaches: the registries. -/
def identityHost (env : Env) (busy : List Address) : IdentityOracle.Host Contracts where
  isRevoked contracts registryId vcHash :=
    onRegistry busy contracts registryId fun s => some (RevocationRegistry.isRevoked s vcHash)
  setIdentityOracle contracts registryId identityOracleId :=
    onRegistry busy contracts registryId fun s => do
      let s ← (RevocationRegistry.setIdentityOracle (env.enter registryId) identityOracleId s).toOption
      some (contracts.set registryId (.revocationRegistry s))

/-- What a registry reaches: the identity oracles. -/
def registryHost (env : Env) (busy : List Address) : RevocationRegistry.Host Contracts where
  markVcRevoked contracts identityOracleId issuer subject vcHash :=
    updateIdentity busy contracts identityOracleId fun s =>
      IdentityOracle.markVcRevoked (identityHost (env.enter identityOracleId) (identityOracleId :: busy))
        (env.enter identityOracleId) issuer subject vcHash s contracts

/-- What a credit oracle reaches: the identity oracles, and through them the registries. -/
def creditHost (env : Env) (busy : List Address) : CreditOracle.Host Contracts where
  isDeactivated contracts identityOracleId subject :=
    onIdentity busy contracts identityOracleId fun s => some (IdentityOracle.isDeactivated s subject)
  getVcDetails contracts identityOracleId subject :=
    onIdentity busy contracts identityOracleId fun s =>
      (IdentityOracle.getVcDetails (identityHost (env.enter identityOracleId) (identityOracleId :: busy))
        contracts s subject).toOption
  verifyVc contracts identityOracleId subject vcHash :=
    onIdentity busy contracts identityOracleId fun s =>
      (IdentityOracle.verifyVc (identityHost (env.enter identityOracleId) (identityOracleId :: busy))
        contracts s subject vcHash).toOption
  getVcCredentialType contracts identityOracleId subject vcHash :=
    onIdentity busy contracts identityOracleId fun s =>
      some (IdentityOracle.getVcCredentialType s subject vcHash)
  getActiveVcCount contracts identityOracleId subject :=
    onIdentity busy contracts identityOracleId fun s => do
      let (count, s) ← (IdentityOracle.getActiveVcCount
        (identityHost (env.enter identityOracleId) (identityOracleId :: busy)) subject s contracts).toOption
      some (count, contracts.set identityOracleId (.identityOracle s))
  getLastStateChangeLedger contracts identityOracleId subject :=
    onIdentity busy contracts identityOracleId fun s =>
      some (IdentityOracle.getLastStateChangeLedger s subject)

/-- What a governance contract reaches: the credit oracles. -/
def governanceHost (env : Env) (busy : List Address) : Governance.Host Contracts where
  proposeWeights contracts creditOracle weights :=
    updateCredit busy contracts creditOracle (CreditOracle.proposeWeights (env.enter creditOracle) weights)
  applyWeights contracts creditOracle :=
    updateCredit busy contracts creditOracle (CreditOracle.applyWeights (env.enter creditOracle))
  acceptAdmin contracts creditOracle newAdmin :=
    updateCredit busy contracts creditOracle (CreditOracle.acceptAdmin (env.enter creditOracle) newAdmin)

/-! ## Transactions -/

/-- A call of one of the contracts. -/
inductive Call where
  | creditOracle (call : CreditOracle.Call)
  | identityOracle (call : IdentityOracle.Call)
  | revocationRegistry (call : RevocationRegistry.Call)
  | governance (call : Governance.Call)
  deriving DecidableEq, Repr

/-- Invoke the contract that the environment names. -/
def invoke (env : Env) (call : Call) (contracts : Contracts) : Option Contracts :=
  let callee := env.currentContract
  match call with
  | .creditOracle call =>
    onCredit [] contracts callee fun s => do
      let (s, contracts) ← (CreditOracle.exec (creditHost env [callee]) env call s contracts).toOption
      some (contracts.set callee (.creditOracle s))
  | .identityOracle call =>
    onIdentity [] contracts callee fun s => do
      let (s, contracts) ← (IdentityOracle.exec (identityHost env [callee]) env call s contracts).toOption
      some (contracts.set callee (.identityOracle s))
  | .revocationRegistry call =>
    onRegistry [] contracts callee fun s => do
      let (s, contracts) ← (RevocationRegistry.exec (registryHost env [callee]) env call s contracts).toOption
      some (contracts.set callee (.revocationRegistry s))
  | .governance call =>
    onGovernance [] contracts callee fun s => do
      let (s, contracts) ← (Governance.exec (governanceHost env [callee]) env call s contracts).toOption
      some (contracts.set callee (.governance s))

/-- The contract codes of the repository. -/
inductive Code where
  | creditOracle
  | identityOracle
  | revocationRegistry
  | governance
  deriving DecidableEq, Repr

/-- A contract right after its deployment. -/
def Code.fresh : Code → Contract
  | .creditOracle => .creditOracle {}
  | .identityOracle => .identityOracle {}
  | .revocationRegistry => .revocationRegistry {}
  | .governance => .governance {}

/-- The contracts and the ledger of the last transaction. -/
structure World where
  contracts : Contracts
  ledger : Ledger

/-- The ledger before any of the contracts is deployed. -/
def World.genesis (ledger : Ledger) : World := { contracts := Storage.empty, ledger }

/-- Nothing is deployed at first. -/
@[simp]
theorem World.genesis_contracts (ledger : Ledger) (a : Address) : (genesis ledger).contracts a = none := rfl

inductive Event where
  | deploy (ledger : Ledger) (address : Address) (code : Code)
  | invoke (ledger : Ledger) (signers : List Address) (callee : Address) (call : Call)

/-- A successful transaction in the current or a later ledger. A failed one is rolled back. -/
def World.next (w : World) : Event → Option World
  | .deploy ledger address code => do
    guard (w.ledger.NotAfter ledger)
    guard (address.isContract = true ∧ (w.contracts address).isNone = true)
    some { contracts := w.contracts.set address code.fresh, ledger }
  | .invoke ledger signers callee call => do
    guard (w.ledger.NotAfter ledger)
    guard (∀ signer ∈ signers, (w.contracts signer).isNone = true)
    let contracts ← Network.invoke (.signedBy ledger callee signers) call w.contracts
    some { contracts, ledger }

/-- A step of the network. -/
abbrev Step := StepOf World.next

/-- One step of a history of the network. -/
abbrev Move := Transition World Event

end StellarDidCredit.Network
