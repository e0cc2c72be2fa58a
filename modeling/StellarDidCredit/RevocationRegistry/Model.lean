import StellarDidCredit.IdentityOracle.Model

/-!
# The revocation registry

A global list of revoked credential hashes. The first address that revokes a hash becomes
its registered issuer, and only that address may revoke it again. `revoke` also tells the
linked identity oracle, under a re-entrancy lock; `batch_revoke` does not.

The rest of the ledger is the type `κ`, threaded through the one call that leaves the
contract, so that the same definitions run alone and inside the whole network.
-/

namespace StellarDidCredit.RevocationRegistry

/-- The typed errors of the contract. -/
inductive Error where
  | alreadyInitialized
  | notAuthorized
  | issuerMismatch
  | noPendingAdmin
  | batchTooLarge
  | contractPaused
  | reentrancyDetected
  | invalidBatchLimit
  deriving DecidableEq, Repr

/-- Hard safety cap for batch revoke operations. -/
def maxBatchSize : ℕ := 100

/-- The stored entries, one field for each key. -/
structure State where
  admin : Option Address := none
  paused : Option Bool := none
  pendingAdmin : Option Address := none
  identityOracleId : Option Address := none
  batchLimit : Option ℕ := none
  registeredVCIssuer : Storage (BytesN 32) Address := Storage.empty
  status : Storage (BytesN 32) Bool := Storage.empty
  issuerOfVC : Storage (BytesN 32) Address := Storage.empty
  issuerRevokedList : Storage Address (List (BytesN 32)) := Storage.empty
  /-- Temporary entry, present only while `revoke` is calling out. -/
  reentrancyLock : Option Bool := none

/-- The call that leaves the contract: `mark_vc_revoked(issuer, subject, vc_hash)` on the
linked identity oracle. -/
structure Host (κ : Type) where
  markVcRevoked : κ → Address → Address → Address → BytesN 32 → Outcome IdentityOracle.Error κ

/-! ## Guards -/

/-- Load the stored admin address and require its authorisation. -/
def requireAdmin (env : Env) (s : State) : Outcome Error Address := do
  let admin ← .okOr s.admin .trap
  requireAuth env admin
  .ok admin

def ensureNotPaused (s : State) : Outcome Error Unit :=
  .require (s.paused.getD false = false) (.error .contractPaused)

def enterGuard (s : State) : Outcome Error State := do
  .require (s.reentrancyLock = none) (.error .reentrancyDetected)
  .ok { s with reentrancyLock := some true }

def exitGuard (s : State) : State := { s with reentrancyLock := none }

/-! ## Reads -/

def isRevoked (s : State) (vcHash : BytesN 32) : Bool := (s.status vcHash).getD false

def getRevocationRecord (s : State) (vcHash : BytesN 32) : Option Address := s.issuerOfVC vcHash

def listRevokedForIssuer (s : State) (issuer : Address) : List (BytesN 32) :=
  (s.issuerRevokedList issuer).getD []

def getBatchLimit (s : State) : ℕ := s.batchLimit.getD maxBatchSize

/-- The hashes from `cursor` on, at most `limit` of them. The sum of the two is checked. -/
def listRevoked (s : State) (issuer : Address) (cursor limit : ℕ) : Outcome Error (List (BytesN 32)) :=
  let list := listRevokedForIssuer s issuer
  if list.length ≤ cursor ∨ limit = 0 then .ok []
  else do
    let sum ← .okOr (U32.checkedAdd cursor limit) .trap
    let stop := min sum list.length
    (List.range' cursor (stop - cursor)).mapM fun i => .okOr list[i]? .trap

/-! ## Administration -/

def initializeContract (env : Env) (admin : Address) (s : State) : Outcome Error State := do
  .require (s.admin = none) (.error .alreadyInitialized)
  requireAuth env admin
  .ok { s with admin := some admin, batchLimit := some maxBatchSize }

/-- `pause` and `unpause`. -/
def setPaused (value : Bool) (env : Env) (s : State) : Outcome Error State := do
  let _ ← requireAdmin env s
  .ok { s with paused := some value }

def pause : Env → State → Outcome Error State := setPaused true

def unpause : Env → State → Outcome Error State := setPaused false

def setBatchLimit (env : Env) (admin : Address) (limit : ℕ) (s : State) : Outcome Error State := do
  ensureNotPaused s
  let storedAdmin ← requireAdmin env s
  .require (admin = storedAdmin) (.error .notAuthorized)
  .require (limit ≠ 0 ∧ limit ≤ maxBatchSize) (.error .invalidBatchLimit)
  .ok { s with batchLimit := some limit }

def setIdentityOracle (env : Env) (identityOracleId : Address) (s : State) : Outcome Error State := do
  ensureNotPaused s
  let _ ← requireAdmin env s
  .ok { s with identityOracleId := some identityOracleId }

def proposeNewAdmin (env : Env) (newAdmin : Address) (s : State) : Outcome Error State := do
  let _ ← requireAdmin env s
  .ok { s with pendingAdmin := some newAdmin }

def acceptAdmin (env : Env) (newAdmin : Address) (s : State) : Outcome Error State := do
  ensureNotPaused s
  let pending ← .okOr s.pendingAdmin (.error .noPendingAdmin)
  .require (pending = newAdmin) (.error .notAuthorized)
  requireAuth env newAdmin
  .ok { s with admin := some newAdmin, pendingAdmin := none }

/-- Only entry lifetimes change. -/
def maintainStorage (env : Env) (s : State) : Outcome Error State := do
  ensureNotPaused s
  let _ ← requireAdmin env s
  .ok s

/-! ## Revocation -/

/-- The check both revocation entry points make for a hash: a registered hash belongs to its
first issuer, a new one is registered to the caller. -/
def claimVcIssuer (issuer : Address) (vcHash : BytesN 32) (s : State) : Outcome Error State :=
  match s.registeredVCIssuer vcHash with
  | some existing => do
    .require (existing = issuer) (.error .issuerMismatch)
    .ok s
  | none => .ok { s with registeredVCIssuer := s.registeredVCIssuer.set vcHash issuer }

/-- Set the global flag of a hash and the issuer that revoked it. -/
def markRevoked (issuer : Address) (vcHash : BytesN 32) (s : State) : State :=
  { s with
    status := s.status.set vcHash true
    issuerOfVC := s.issuerOfVC.set vcHash issuer }

/-- Tell the linked identity oracle, under the re-entrancy lock. Its failure is not handled. -/
def forwardRevocation {κ : Type} (host : Host κ) (issuer subject : Address) (vcHash : BytesN 32)
    (s : State) (world : κ) : Outcome Error (State × κ) :=
  match s.identityOracleId with
  | some identityOracleId => do
    let s ← enterGuard s
    let world ← .passOn IdentityOracle.Error.code
      (host.markVcRevoked world identityOracleId issuer subject vcHash)
    .ok (exitGuard s, world)
  | none => .ok (s, world)

/-- Add a hash to the issuer's list, once. -/
def listRevocation (issuer : Address) (vcHash : BytesN 32) (s : State) : State :=
  let list := listRevokedForIssuer s issuer
  if vcHash ∈ list then s
  else { s with issuerRevokedList := s.issuerRevokedList.set issuer (list ++ [vcHash]) }

def revoke {κ : Type} (host : Host κ) (env : Env) (issuer subject : Address) (vcHash : BytesN 32)
    (s : State) (world : κ) : Outcome Error (State × κ) := do
  ensureNotPaused s
  requireAuth env issuer
  let s ← claimVcIssuer issuer vcHash s
  let (s, world) ← forwardRevocation host issuer subject vcHash (markRevoked issuer vcHash s) world
  .ok (listRevocation issuer vcHash s, world)

/-- The loop of `batch_revoke`, carrying the state, the issuer's list and whether the list
was modified. -/
def batchLoop (issuer : Address) :
    List (BytesN 32) → State × List (BytesN 32) × Bool → Outcome Error (State × List (BytesN 32) × Bool)
  | [], acc => .ok acc
  | vcHash :: rest, (s, list, listModified) => do
    let s ← claimVcIssuer issuer vcHash s
    let s := markRevoked issuer vcHash s
    if vcHash ∈ list then batchLoop issuer rest (s, list, listModified)
    else batchLoop issuer rest (s, list ++ [vcHash], true)

def batchRevoke (env : Env) (issuer : Address) (vcHashes : List (BytesN 32)) (s : State) :
    Outcome Error State := do
  ensureNotPaused s
  requireAuth env issuer
  .require (vcHashes.length ≤ s.batchLimit.getD maxBatchSize) (.error .batchTooLarge)
  let (s, list, listModified) ← batchLoop issuer vcHashes (s, listRevokedForIssuer s issuer, false)
  if listModified then .ok { s with issuerRevokedList := s.issuerRevokedList.set issuer list }
  else .ok s

/-! ## Entry points -/

/-- The state-changing entry points, `upgrade` aside. -/
inductive Call where
  | initializeContract (admin : Address)
  | pause
  | unpause
  | setBatchLimit (admin : Address) (limit : ℕ)
  | setIdentityOracle (identityOracleId : Address)
  | proposeNewAdmin (newAdmin : Address)
  | acceptAdmin (newAdmin : Address)
  | revoke (issuer subject : Address) (vcHash : BytesN 32)
  | batchRevoke (issuer : Address) (vcHashes : List (BytesN 32))
  | maintainStorage
  deriving DecidableEq, Repr

/-- Run an entry point that stays inside the contract. -/
def alone {κ : Type} (result : Outcome Error State) (world : κ) : Outcome Error (State × κ) := do
  let s ← result
  .ok (s, world)

/-- Run one entry point. -/
def exec {κ : Type} (host : Host κ) (env : Env) (call : Call) (s : State) (world : κ) :
    Outcome Error (State × κ) :=
  match call with
  | .initializeContract admin => alone (initializeContract env admin s) world
  | .pause => alone (pause env s) world
  | .unpause => alone (unpause env s) world
  | .setBatchLimit admin limit => alone (setBatchLimit env admin limit s) world
  | .setIdentityOracle identityOracleId => alone (setIdentityOracle env identityOracleId s) world
  | .proposeNewAdmin newAdmin => alone (proposeNewAdmin env newAdmin s) world
  | .acceptAdmin newAdmin => alone (acceptAdmin env newAdmin s) world
  | .revoke issuer subject vcHash => revoke host env issuer subject vcHash s world
  | .batchRevoke issuer vcHashes => alone (batchRevoke env issuer vcHashes s) world
  | .maintainStorage => alone (maintainStorage env s) world

end StellarDidCredit.RevocationRegistry
