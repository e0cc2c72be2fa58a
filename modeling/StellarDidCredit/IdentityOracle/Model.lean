import StellarDidCredit.Scoring.Types

/-!
# The identity oracle

Trusted issuers, DID documents and the life cycle of verifiable credentials. A record is
revoked when its own flag is set or when the linked revocation registry lists its hash; the
number of active records is cached per subject and patched by the operations that change it.

The registry is reached through `Host`, whose functions return nothing when the invocation
fails. `κ` is the rest of the ledger.
-/

namespace StellarDidCredit.IdentityOracle

/-- The typed errors of the contract. -/
inductive Error where
  | alreadyInitialized
  | notAuthorized
  | issuerNotRegistered
  | invalidCID
  | noPendingAdmin
  | duplicateVC
  | vcNotFound
  | contractPaused
  | invalidRevocationRegistry
  | vcLimitReached
  | invalidIssuerTier
  deriving DecidableEq, Repr

/-- The number that the contract declares for an error. -/
def Error.code : Error → ℕ
  | .alreadyInitialized => 1
  | .notAuthorized => 2
  | .issuerNotRegistered => 3
  | .invalidCID => 4
  | .noPendingAdmin => 5
  | .duplicateVC => 6
  | .vcNotFound => 7
  | .contractPaused => 8
  | .invalidRevocationRegistry => 9
  | .vcLimitReached => 10
  | .invalidIssuerTier => 11

/-- Maximum number of active credentials a subject can have anchored. -/
def maxVcsPerSubject : ℕ := 100

def maxIssuerTierBps : ℕ := 300

/-- Maximum allowed CID length in bytes. -/
def maxCidLength : ℕ := 128

/-- Aggregate protocol-level counters. -/
structure ProtocolStats where
  totalDidsAnchored : ℕ := 0
  totalVcsAnchored : ℕ := 0
  totalVcsRevoked : ℕ := 0
  deriving DecidableEq, Repr

/-- The stored entries, one field for each key. -/
structure State where
  admin : Option Address := none
  paused : Option Bool := none
  pendingAdmin : Option Address := none
  storageVersion : Option ℕ := none
  issuersIndex : Option (List Address) := none
  trustedIssuer : Storage Address Bool := Storage.empty
  didDocument : Storage Address HostString := Storage.empty
  vcAnchors : Storage Address (List IdentityVCRecord) := Storage.empty
  activeVCCount : Storage Address ℕ := Storage.empty
  revocationRegistryId : Option Address := none
  issuerTier : Storage Address ℕ := Storage.empty
  vcCredentialType : Storage (Address × BytesN 32) CredentialType := Storage.empty
  protocolStats : ProtocolStats := {}
  deactivated : Storage Address Bool := Storage.empty
  lastStateChange : Storage Address ℕ := Storage.empty

/-- The calls that leave the contract: `is_revoked` and `set_identity_oracle` on a registry. -/
structure Host (κ : Type) where
  isRevoked : κ → Address → BytesN 32 → Option Bool
  setIdentityOracle : κ → Address → Address → Option κ

variable {κ : Type}

/-! ## Guards -/

/-- Load the stored admin address and require its authorisation. -/
def requireAdmin (env : Env) (s : State) : Outcome Error Address := do
  let admin ← .okOr s.admin .trap
  requireAuth env admin
  .ok admin

def ensureNotPaused (s : State) : Outcome Error Unit :=
  .require (s.paused.getD false = false) (.error .contractPaused)

/-- The probe of a registry reference: its `is_revoked` must answer for the zero hash. -/
def validateRevocationRegistryRef (host : Host κ) (registryId : Address) (world : κ) : Bool :=
  (host.isRevoked world registryId 0).isSome

/-! ## Protocol counters -/

def incrementDidsAnchored (s : State) : Outcome Error State := do
  let total ← .okOr (U64.checkedAdd s.protocolStats.totalDidsAnchored 1) .trap
  .ok { s with protocolStats := { s.protocolStats with totalDidsAnchored := total } }

def incrementVcsAnchored (s : State) : Outcome Error State := do
  let total ← .okOr (U64.checkedAdd s.protocolStats.totalVcsAnchored 1) .trap
  .ok { s with protocolStats := { s.protocolStats with totalVcsAnchored := total } }

def incrementVcsRevoked (count : ℕ) (s : State) : Outcome Error State := do
  let total ← .okOr (U64.checkedAdd s.protocolStats.totalVcsRevoked count) .trap
  .ok { s with protocolStats := { s.protocolStats with totalVcsRevoked := total } }

/-! ## Credential status -/

def genericCredentialType : CredentialType := "generic"

/-- The anchored records of a subject, none before the first anchoring. -/
def anchorsOf (s : State) (subject : Address) : List IdentityVCRecord := (s.vcAnchors subject).getD []

/-- A record is revoked locally or, with a registry linked, by its hash. -/
def isRecordRevoked (host : Host κ) (world : κ) (s : State) (record : IdentityVCRecord) :
    Outcome Error Bool :=
  if record.revoked then .ok true
  else
    match s.revocationRegistryId with
    | some registryId => .okOr (host.isRevoked world registryId record.vcHash) .trap
    | none => .ok false

/-- The loop shared by every read of active records: keep those that are not revoked. -/
def activeRecords (host : Host κ) (world : κ) (s : State) (records : List IdentityVCRecord) :
    Outcome Error (List IdentityVCRecord) :=
  Outcome.filterE (fun record => do
    let revoked ← isRecordRevoked host world s record
    .ok !revoked) records

def computeActiveVcCount (host : Host κ) (world : κ) (s : State) (subject : Address) :
    Outcome Error ℕ := do
  let active ← activeRecords host world s (anchorsOf s subject)
  .ok active.length

/-- Compute the number of active records and cache it. -/
def seedActiveVcCount (host : Host κ) (world : κ) (subject : Address) (s : State) :
    Outcome Error (ℕ × State) := do
  let count ← computeActiveVcCount host world s subject
  .ok (count, { s with activeVCCount := s.activeVCCount.set subject count })

/-- Note the current ledger as the subject's last identity-state change. -/
def recordLastStateChange (env : Env) (subject : Address) (s : State) : State :=
  { s with lastStateChange := s.lastStateChange.set subject env.ledger.sequence }

/-! ## Reads -/

def isDeactivated (s : State) (subject : Address) : Bool := (s.deactivated subject).getD false

def getTotalVcCount (s : State) (subject : Address) : ℕ := (anchorsOf s subject).length

def getVcDetails (host : Host κ) (world : κ) (s : State) (subject : Address) :
    Outcome Error (List IdentityVCRecord) :=
  activeRecords host world s (anchorsOf s subject)

/-- Whether some record with this hash is not revoked, asking only until one is found. -/
def verifyVc (host : Host κ) (world : κ) (s : State) (subject : Address) (vcHash : BytesN 32) :
    Outcome Error Bool :=
  Outcome.anyE (fun record =>
    if record.vcHash = vcHash then do
      let revoked ← isRecordRevoked host world s record
      .ok !revoked
    else .ok false) (anchorsOf s subject)

def isVerified (host : Host κ) (world : κ) (s : State) (subject : Address) : Outcome Error Bool :=
  if isDeactivated s subject then .ok false
  else
    Outcome.anyE (fun record => do
      let revoked ← isRecordRevoked host world s record
      .ok !revoked) (anchorsOf s subject)

def listRevokedForSubject (host : Host κ) (world : κ) (s : State) (subject : Address) :
    Outcome Error (List (BytesN 32)) := do
  let revoked ← Outcome.filterE (isRecordRevoked host world s) (anchorsOf s subject)
  .ok (revoked.map (·.vcHash))

def getVcCredentialType (s : State) (subject : Address) (vcHash : BytesN 32) : CredentialType :=
  (s.vcCredentialType (subject, vcHash)).getD genericCredentialType

def getLastStateChangeLedger (s : State) (subject : Address) : Option ℕ := s.lastStateChange subject

/-- The cached count, computed and cached at the first read. -/
def getActiveVcCount (host : Host κ) (subject : Address) (s : State) (world : κ) :
    Outcome Error (ℕ × State) :=
  match s.activeVCCount subject with
  | some count => .ok (count, s)
  | none => seedActiveVcCount host world subject s

def isTrustedIssuer (s : State) (issuer : Address) : Bool := (s.trustedIssuer issuer).getD false

/-- The trusted entries of the issuer index, in order. -/
def listIssuers (s : State) : List Address := (s.issuersIndex.getD []).filter (isTrustedIssuer s)

/-! ## Administration -/

def initializeContract (env : Env) (admin : Address) (s : State) : Outcome Error State := do
  .require (s.admin = none) (.error .alreadyInitialized)
  requireAuth env admin
  .ok { s with admin := some admin, storageVersion := some 2 }

/-- `pause` and `unpause`. -/
def setPaused (value : Bool) (env : Env) (s : State) : Outcome Error State := do
  let _ ← requireAdmin env s
  .ok { s with paused := some value }

def pause : Env → State → Outcome Error State := setPaused true

def unpause : Env → State → Outcome Error State := setPaused false

def migrate (env : Env) (s : State) : Outcome Error State := do
  let _ ← requireAdmin env s
  if 2 ≤ s.storageVersion.getD 1 then .ok s else .ok { s with storageVersion := some 2 }

/-- Link a registry, which must accept this contract as its identity oracle first. -/
def setRevocationRegistry (host : Host κ) (env : Env) (registryId : Address) (s : State) (world : κ) :
    Outcome Error (State × κ) := do
  ensureNotPaused s
  let _ ← requireAdmin env s
  .require (validateRevocationRegistryRef host registryId world) (.error .invalidRevocationRegistry)
  let world ← .okOr (host.setIdentityOracle world registryId env.currentContract)
    (.error .invalidRevocationRegistry)
  .ok ({ s with revocationRegistryId := some registryId }, world)

def registerIssuer (env : Env) (issuer : Address) (s : State) : Outcome Error State := do
  let _ ← requireAdmin env s
  let s :=
    if isTrustedIssuer s issuer then s
    else { s with issuersIndex := some (s.issuersIndex.getD [] ++ [issuer]) }
  .ok { s with trustedIssuer := s.trustedIssuer.set issuer true }

/-- Tombstone the issuer and compact the index to the entries that are still trusted. -/
def deregisterIssuer (env : Env) (issuer : Address) (s : State) : Outcome Error State := do
  let _ ← requireAdmin env s
  let s := { s with trustedIssuer := s.trustedIssuer.set issuer false }
  .ok { s with issuersIndex := some (listIssuers s) }

def setIssuerTier (env : Env) (admin issuer : Address) (weightBps : ℕ) (s : State) :
    Outcome Error State := do
  ensureNotPaused s
  let stored ← requireAdmin env s
  .require (admin = stored) (.error .notAuthorized)
  .require (weightBps ≠ 0 ∧ weightBps ≤ maxIssuerTierBps) (.error .invalidIssuerTier)
  .ok { s with issuerTier := s.issuerTier.set issuer weightBps }

def proposeNewAdmin (env : Env) (newAdmin : Address) (s : State) : Outcome Error State := do
  ensureNotPaused s
  let _ ← requireAdmin env s
  .ok { s with pendingAdmin := some newAdmin }

def acceptAdmin (env : Env) (newAdmin : Address) (s : State) : Outcome Error State := do
  ensureNotPaused s
  let pending ← .okOr s.pendingAdmin (.error .noPendingAdmin)
  .require (pending = newAdmin) (.error .notAuthorized)
  requireAuth env newAdmin
  .ok { s with admin := some newAdmin, pendingAdmin := none }

/-- Only entry lifetimes change. -/
def maintainStorage (env : Env) (s : State) : Outcome Error State := do
  ensureNotPaused s
  let _ ← requireAdmin env s
  .ok s

/-! ## DID documents -/

/-- The accepted CID prefixes `ipfs://`, `bafy` and `Qm`, as bytes. -/
def cidPrefixes : List HostString :=
  [[105, 112, 102, 115, 58, 47, 47], [98, 97, 102, 121], [81, 109]]

def anchorDid (env : Env) (subject : Address) (didDocCid : HostString) (s : State) :
    Outcome Error State := do
  ensureNotPaused s
  requireAuth env subject
  .require (7 ≤ didDocCid.length ∧ didDocCid.length ≤ maxCidLength) (.error .invalidCID)
  .require (cidPrefixes.any (·.isPrefixOf didDocCid)) (.error .invalidCID)
  let s := { s with didDocument := s.didDocument.set subject didDocCid }
  incrementDidsAnchored (recordLastStateChange env subject s)

/-! ## Credentials -/

/-- Count a new record in the cache, unless it is already revoked; compute the count when it
was never cached. -/
def addActiveVcCount (host : Host κ) (world : κ) (subject : Address) (revoked : Bool) (s : State) :
    Outcome Error State :=
  match s.activeVCCount subject with
  | some activeCount =>
    if revoked then .ok { s with activeVCCount := s.activeVCCount.set subject activeCount }
    else do
      let activeCount ← .okOr (U32.checkedAdd activeCount 1) .trap
      .ok { s with activeVCCount := s.activeVCCount.set subject activeCount }
  | none => do
    let (_, s) ← seedActiveVcCount host world subject s
    .ok s

/-- Whether the record was anchored by this issuer under this hash. -/
def IsAnchor (issuer : Address) (vcHash : BytesN 32) (record : IdentityVCRecord) : Prop :=
  record.vcHash = vcHash ∧ record.issuer = issuer

instance (issuer : Address) (vcHash : BytesN 32) (record : IdentityVCRecord) :
    Decidable (IsAnchor issuer vcHash record) := inferInstanceAs (Decidable (_ ∧ _))

def anchorVcTyped (host : Host κ) (env : Env) (issuer subject : Address) (vcHash : BytesN 32)
    (credentialType : CredentialType) (s : State) (world : κ) : Outcome Error State := do
  ensureNotPaused s
  requireAuth env issuer
  .require (isTrustedIssuer s issuer) (.error .issuerNotRegistered)
  let anchors := anchorsOf s subject
  -- the same issuer anchoring the same hash again is a no-op
  if anchors.any (fun record => IsAnchor issuer vcHash record) then .ok s
  else do
    let active ← activeRecords host world s anchors
    .require (active.length < maxVcsPerSubject) (.error .vcLimitReached)
    let record : IdentityVCRecord :=
      { vcHash, issuer, anchoredAt := env.ledger.timestamp, revoked := false }
    let revoked ← isRecordRevoked host world s record
    let s := { s with
      vcCredentialType := s.vcCredentialType.set (subject, vcHash) credentialType
      vcAnchors := s.vcAnchors.set subject (anchors ++ [record]) }
    let s ← addActiveVcCount host world subject revoked (recordLastStateChange env subject s)
    incrementVcsAnchored s

def anchorVc (host : Host κ) (env : Env) (issuer subject : Address) (vcHash : BytesN 32)
    (s : State) (world : κ) : Outcome Error State :=
  anchorVcTyped host env issuer subject vcHash genericCredentialType s world

/-- The records after the issuer revokes the hash. -/
def markRecords (issuer : Address) (vcHash : BytesN 32) (records : List IdentityVCRecord) :
    List IdentityVCRecord :=
  records.map fun record =>
    if IsAnchor issuer vcHash record then { record with revoked := true } else record

/-- Take one from the cached count, or compute it when it was never cached. -/
def dropActiveVcCount (host : Host κ) (world : κ) (subject : Address) (s : State) :
    Outcome Error State :=
  match s.activeVCCount subject with
  | some activeCount => do
    let activeCount ← .okOr (U32.checkedSub activeCount 1) .trap
    .ok { s with activeVCCount := s.activeVCCount.set subject activeCount }
  | none => do
    let (_, s) ← seedActiveVcCount host world subject s
    .ok s

def markVcRevoked (host : Host κ) (env : Env) (issuer subject : Address) (vcHash : BytesN 32)
    (s : State) (world : κ) : Outcome Error State := do
  ensureNotPaused s
  requireAuth env issuer
  let anchors := anchorsOf s subject
  let found := anchors.any (fun record => IsAnchor issuer vcHash record)
  let transitionedToRevoked :=
    anchors.any (fun record => IsAnchor issuer vcHash record ∧ record.revoked = false)
  .require (found = true) (.error .vcNotFound)
  let s := { s with vcAnchors := s.vcAnchors.set subject (markRecords issuer vcHash anchors) }
  if transitionedToRevoked then do
    let s ← incrementVcsRevoked 1 (recordLastStateChange env subject s)
    dropActiveVcCount host world subject s
  else if (s.activeVCCount subject).isNone then do
    let (_, s) ← seedActiveVcCount host world subject s
    .ok s
  else .ok s

/-! ## Deactivation -/

/-- The stored records of a subject, all with their own flag set. -/
def revokeAllRecords (subject : Address) (s : State) : State :=
  let anchors := anchorsOf s subject
  if anchors.isEmpty then s
  else { s with
    vcAnchors := s.vcAnchors.set subject (anchors.map fun record => { record with revoked := true }) }

/-- Count revocations, when there are any. -/
def countRevocations (count : ℕ) (s : State) : Outcome Error State :=
  if 0 < count then incrementVcsRevoked count s else .ok s

/-- The shared core of the two deactivations; returns how many records were still active
locally. -/
def deactivateCore (env : Env) (subject : Address) (s : State) : Outcome Error (ℕ × State) := do
  let revokedCount := (anchorsOf s subject).countP fun record => !record.revoked
  let s := revokeAllRecords subject { s with deactivated := s.deactivated.set subject true }
  let s ← countRevocations revokedCount s
  let s := { s with activeVCCount := s.activeVCCount.set subject 0 }
  .ok (revokedCount, recordLastStateChange env subject s)

def deactivateDid (env : Env) (subject : Address) (s : State) : Outcome Error State := do
  requireAuth env subject
  let (_, s) ← deactivateCore env subject s
  .ok { s with didDocument := s.didDocument.remove subject }

def deactivateIdentity (env : Env) (subject : Address) (s : State) : Outcome Error (ℕ × State) := do
  requireAuth env subject
  deactivateCore env subject s

def reactivateIdentity (env : Env) (subject : Address) (s : State) : Outcome Error State := do
  requireAuth env subject
  .ok (recordLastStateChange env subject { s with deactivated := s.deactivated.remove subject })

/-! ## Entry points -/

/-- The entry points that can change the state, `upgrade` aside. Reading the active count is
among them: it caches the count. -/
inductive Call where
  | initializeContract (admin : Address)
  | pause
  | unpause
  | migrate
  | setRevocationRegistry (registryId : Address)
  | registerIssuer (issuer : Address)
  | deregisterIssuer (issuer : Address)
  | setIssuerTier (admin issuer : Address) (weightBps : ℕ)
  | proposeNewAdmin (newAdmin : Address)
  | acceptAdmin (newAdmin : Address)
  | maintainStorage
  | anchorDid (subject : Address) (didDocCid : HostString)
  | anchorVc (issuer subject : Address) (vcHash : BytesN 32)
  | anchorVcTyped (issuer subject : Address) (vcHash : BytesN 32) (credentialType : CredentialType)
  | markVcRevoked (issuer subject : Address) (vcHash : BytesN 32)
  | deactivateDid (subject : Address)
  | deactivateIdentity (subject : Address)
  | reactivateIdentity (subject : Address)
  | getActiveVcCount (subject : Address)
  deriving DecidableEq, Repr

/-- Run an entry point that leaves the rest of the ledger alone. -/
def alone (result : Outcome Error State) (world : κ) : Outcome Error (State × κ) := do
  let s ← result
  .ok (s, world)

/-- Run one entry point. -/
def exec (host : Host κ) (env : Env) (call : Call) (s : State) (world : κ) :
    Outcome Error (State × κ) :=
  match call with
  | .initializeContract admin => alone (initializeContract env admin s) world
  | .pause => alone (pause env s) world
  | .unpause => alone (unpause env s) world
  | .migrate => alone (migrate env s) world
  | .setRevocationRegistry registryId => setRevocationRegistry host env registryId s world
  | .registerIssuer issuer => alone (registerIssuer env issuer s) world
  | .deregisterIssuer issuer => alone (deregisterIssuer env issuer s) world
  | .setIssuerTier admin issuer weightBps => alone (setIssuerTier env admin issuer weightBps s) world
  | .proposeNewAdmin newAdmin => alone (proposeNewAdmin env newAdmin s) world
  | .acceptAdmin newAdmin => alone (acceptAdmin env newAdmin s) world
  | .maintainStorage => alone (maintainStorage env s) world
  | .anchorDid subject didDocCid => alone (anchorDid env subject didDocCid s) world
  | .anchorVc issuer subject vcHash => alone (anchorVc host env issuer subject vcHash s world) world
  | .anchorVcTyped issuer subject vcHash credentialType =>
    alone (anchorVcTyped host env issuer subject vcHash credentialType s world) world
  | .markVcRevoked issuer subject vcHash =>
    alone (markVcRevoked host env issuer subject vcHash s world) world
  | .deactivateDid subject => alone (deactivateDid env subject s) world
  | .deactivateIdentity subject => alone ((deactivateIdentity env subject s).map (·.2)) world
  | .reactivateIdentity subject => alone (reactivateIdentity env subject s) world
  | .getActiveVcCount subject => alone ((getActiveVcCount host subject s world).map (·.2)) world

end StellarDidCredit.IdentityOracle
