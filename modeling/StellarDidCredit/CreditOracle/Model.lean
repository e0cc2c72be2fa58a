import StellarDidCredit.Scoring.Types
import StellarDidCredit.Scoring.Formula

/-!
# The credit oracle

Feeders and lenders write a subject's score inputs, anyone asks for a computation, and the
admin changes the scoring weights through a timelock. With an identity oracle linked, the
credentials are read from it at every computation and a stored score is reported stale when
the identity changed after it.

The identity oracle is reached through `Host`, whose functions return nothing when the
invocation fails. `κ` is the rest of the ledger.
-/

namespace StellarDidCredit.CreditOracle

/-- Number of ledgers after which a score is considered stale. -/
def staleLedgerAge : ℕ := 86400

/-- Approximately 24 hours. -/
def timelockLedgers : ℕ := 17280

def defaultComputeCooldownLedgers : ℕ := 1

/-- Longest supported compute-score cooldown. -/
def maxComputeCooldownLedgers : ℕ := 86400

def defaultDecayBpsPerDay : ℕ := 5

def defaultMinRecencyBps : ℕ := 5000

/-- Weight of a credential type without a registered weight. -/
def defaultVcTypeWeight : ℕ := 100

/-! ## Stored data -/

/-- Aggregate protocol-level counters. -/
structure ProtocolStats where
  totalSubjectsScored : ℕ := 0
  totalRepaymentsRecorded : ℕ := 0
  deriving DecidableEq, Repr

/-- Recency decay configuration of the credential component. -/
structure RecencyDecayConfig where
  enabled : Bool
  decayBpsPerDay : ℕ
  minRecencyBps : ℕ
  deriving DecidableEq, Repr

/-- Credit score record with metadata. -/
structure ScoreRecord where
  score : ℕ
  lastUpdated : ℕ
  vcCount : ℕ
  /-- Basis points. -/
  repaymentRate : ℕ
  txVolume30d : ℤ
  previousScore : Option ℕ
  computedAtLedger : ℕ
  /-- Computed at read time in `getScore`. -/
  stale : Bool
  deriving DecidableEq, Repr

/-- Transaction statistics for a user. -/
structure TxStats where
  volume30d : ℤ
  txCount30d : ℕ
  avgCounterparties : ℕ
  deriving DecidableEq, Repr

/-- Repayment counters for a subject. -/
structure RepaymentRecord where
  onTimeCount : ℕ
  totalCount : ℕ
  totalRepaid : ℤ
  deriving DecidableEq, Repr

/-- Legacy repayment counters stored by V1 of the contract. -/
structure RepaymentRecordV1 where
  onTimeCount : ℕ
  totalCount : ℕ
  deriving DecidableEq, Repr

/-- A stored repayment entry. The layouts have different numbers of fields, so reading one
as the other fails to decode. -/
inductive StoredRepayment where
  | v1 (record : RepaymentRecordV1)
  | v2 (record : RepaymentRecord)
  deriving DecidableEq, Repr

/-- A credential entry stored per user with an optional type tag. -/
structure VcEntry where
  vcId : BytesN 32
  vcType : Option Symbol
  deriving DecidableEq, Repr

/-- Status of a score input dispute. -/
inductive DisputeStatus where
  | pending
  | resolved
  | rejected
  deriving DecidableEq, Repr

/-- A subject's record disputing a specific score input. -/
structure DisputeRecord where
  subject : Address
  inputKey : Symbol
  reason : HostString
  filedAtLedger : ℕ
  status : DisputeStatus
  deriving DecidableEq, Repr

/-- The stored entries, one field for each key. -/
structure State where
  admin : Option Address := none
  pendingAdmin : Option Address := none
  storageVersion : Option ℕ := none
  config : Option ScoringWeights := none
  vcWeight : Storage CredentialType ℕ := Storage.empty
  trustedFeeder : Storage Address Bool := Storage.empty
  trustedLender : Storage Address Bool := Storage.empty
  txStats : Storage Address TxStats := Storage.empty
  repaymentRecord : Storage Address StoredRepayment := Storage.empty
  score : Storage Address ScoreRecord := Storage.empty
  vcCount : Storage Address ℕ := Storage.empty
  vcList : Storage Address (List VcEntry) := Storage.empty
  pendingWeights : Option ScoringWeights := none
  pendingWeightsEffectiveLedger : Option ℕ := none
  identityOracleId : Option Address := none
  computeCooldownLedgers : Option ℕ := none
  protocolStats : ProtocolStats := {}
  feedersIndex : Option (List Address) := none
  lendersIndex : Option (List Address) := none
  dispute : Storage (Address × Symbol) DisputeRecord := Storage.empty
  disputeIndex : Storage Address (List Symbol) := Storage.empty
  paused : Option Bool := none
  recencyDecayEnabled : Option Bool := none
  decayBpsPerDay : Option ℕ := none
  minRecencyBps : Option ℕ := none
  governanceId : Option Address := none

/-- The calls that leave the contract, all to an identity oracle. Only `get_active_vc_count`
can change it: the first read of a subject caches the count. -/
structure Host (κ : Type) where
  isDeactivated : κ → Address → Address → Option Bool
  getVcDetails : κ → Address → Address → Option (List IdentityVCRecord)
  verifyVc : κ → Address → Address → BytesN 32 → Option Bool
  getVcCredentialType : κ → Address → Address → BytesN 32 → Option CredentialType
  getActiveVcCount : κ → Address → Address → Option (ℕ × κ)
  getLastStateChangeLedger : κ → Address → Address → Option (Option ℕ)

variable {κ : Type}

/-! ## Guards -/

def ensureNotPaused (s : State) : Outcome CreditOracleError Unit :=
  .require (s.paused.getD false = false) (.error .contractPaused)

/-- The stored admin, compared with the argument and asked for its authorisation. A missing
admin traps here; `pause` and `unpause` report it as `NotAuthorized`. -/
def requireNamedAdmin (missing : Fault CreditOracleError) (env : Env) (admin : Address) (s : State) :
    Outcome CreditOracleError Unit := do
  let storedAdmin ← .okOr s.admin missing
  .require (admin = storedAdmin) (.error .notAuthorized)
  requireAuth env admin

/-- The stored admin, asked for its authorisation. -/
def requireStoredAdmin (missing : Fault CreditOracleError) (env : Env) (s : State) :
    Outcome CreditOracleError Unit := do
  let storedAdmin ← .okOr s.admin missing
  requireAuth env storedAdmin

/-! ## Protocol counters -/

def incrementSubjectsScored (s : State) : Outcome CreditOracleError State := do
  let total ← .okOr (U64.checkedAdd s.protocolStats.totalSubjectsScored 1) .trap
  .ok { s with protocolStats := { s.protocolStats with totalSubjectsScored := total } }

def incrementRepaymentsRecorded (s : State) : Outcome CreditOracleError State := do
  let total ← .okOr (U64.checkedAdd s.protocolStats.totalRepaymentsRecorded 1) .trap
  .ok { s with protocolStats := { s.protocolStats with totalRepaymentsRecorded := total } }

/-! ## Reads -/

def loadRecencyConfig (s : State) : RecencyDecayConfig where
  enabled := s.recencyDecayEnabled.getD false
  decayBpsPerDay := s.decayBpsPerDay.getD defaultDecayBpsPerDay
  minRecencyBps := s.minRecencyBps.getD defaultMinRecencyBps

def getVcTypeWeight (s : State) (typeName : CredentialType) : ℕ :=
  (s.vcWeight typeName).getD defaultVcTypeWeight

def getVcList (s : State) (user : Address) : List VcEntry := (s.vcList user).getD []

/-- The contract that holds the admin role, if an accepted admin is one. -/
def getGovernance (s : State) : Option Address := s.governanceId

def isTrustedFeeder (s : State) (feeder : Address) : Bool := (s.trustedFeeder feeder).getD false

def isTrustedLender (s : State) (lender : Address) : Bool := (s.trustedLender lender).getD false

/-- The trusted entries of the append-only feeder index. -/
def listFeeders (s : State) : List Address := (s.feedersIndex.getD []).filter (isTrustedFeeder s)

/-- The trusted entries of the append-only lender index. -/
def listLenders (s : State) : List Address := (s.lendersIndex.getD []).filter (isTrustedLender s)

def getDispute (s : State) (subject : Address) (inputKey : Symbol) : Option DisputeRecord :=
  s.dispute (subject, inputKey)

def listDisputes (s : State) (subject : Address) : List DisputeRecord :=
  ((s.disputeIndex subject).getD []).filterMap fun key => s.dispute (subject, key)

/-- Whether the linked identity oracle reports a change after the given ledger. A failing
call counts as no change. -/
def changedSince (host : Host κ) (world : κ) (s : State) (subject : Address) (computedAtLedger : ℕ) :
    Bool :=
  match s.identityOracleId with
  | some identityOracleId =>
    match (host.getLastStateChangeLedger world identityOracleId subject).join with
    | some changeLedger => decide (computedAtLedger < changeLedger)
    | none => false
  | none => false

/-- The stored score with its staleness at the current ledger. -/
def getScore (host : Host κ) (env : Env) (world : κ) (s : State) (subject : Address) :
    Option ScoreRecord :=
  (s.score subject).map fun record =>
    { record with
      stale := decide (staleLedgerAge < env.ledger.sequence - record.computedAtLedger) ||
        changedSince host world s subject record.computedAtLedger }

/-! ## Administration -/

def initializeContract (env : Env) (admin : Address) (s : State) : Outcome CreditOracleError State := do
  .require (s.admin = none) (.error .alreadyInitialized)
  requireAuth env admin
  .ok { s with
    admin := some admin
    config := some { vcWeight := 40, txWeight := 30, repaymentWeight := 30 }
    computeCooldownLedgers := some defaultComputeCooldownLedgers
    storageVersion := some 2 }

def setComputeCooldownLedgers (env : Env) (admin : Address) (ledgers : ℕ) (s : State) :
    Outcome CreditOracleError State := do
  let storedAdmin ← .okOr s.admin .trap
  .require (admin = storedAdmin) (.error .notAuthorized)
  .require (ledgers ≠ 0 ∧ ledgers ≤ maxComputeCooldownLedgers) (.error .invalidComputeCooldown)
  requireAuth env admin
  .ok { s with computeCooldownLedgers := some ledgers }

/-- Append to an index unless the entry is there. -/
def indexAdd {α : Type} [DecidableEq α] (index : Option (List α)) (entry : α) : Option (List α) :=
  if entry ∈ index.getD [] then index else some (index.getD [] ++ [entry])

def registerFeeder (env : Env) (admin feeder : Address) (s : State) : Outcome CreditOracleError State := do
  requireNamedAdmin .trap env admin s
  .ok { s with
    feedersIndex := indexAdd s.feedersIndex feeder
    trustedFeeder := s.trustedFeeder.set feeder true }

/-- The flag becomes a tombstone and the index keeps the entry. -/
def deregisterFeeder (env : Env) (admin feeder : Address) (s : State) :
    Outcome CreditOracleError State := do
  requireNamedAdmin .trap env admin s
  .ok { s with trustedFeeder := s.trustedFeeder.set feeder false }

def registerLender (env : Env) (admin lender : Address) (s : State) : Outcome CreditOracleError State := do
  requireNamedAdmin .trap env admin s
  .ok { s with
    lendersIndex := indexAdd s.lendersIndex lender
    trustedLender := s.trustedLender.set lender true }

/-- The flag becomes a tombstone and the index keeps the entry. -/
def deregisterLender (env : Env) (admin lender : Address) (s : State) :
    Outcome CreditOracleError State := do
  requireNamedAdmin .trap env admin s
  .ok { s with trustedLender := s.trustedLender.set lender false }

/-- `pause` and `unpause`. -/
def setPaused (value : Bool) (env : Env) (admin : Address) (s : State) :
    Outcome CreditOracleError State := do
  requireNamedAdmin (.error .notAuthorized) env admin s
  .ok { s with paused := some value }

def pause : Env → Address → State → Outcome CreditOracleError State := setPaused true

def unpause : Env → Address → State → Outcome CreditOracleError State := setPaused false

def setVcTypeWeight (env : Env) (admin : Address) (typeName : CredentialType) (weight : ℕ) (s : State) :
    Outcome CreditOracleError State := do
  requireNamedAdmin .trap env admin s
  .ok { s with vcWeight := s.vcWeight.set typeName weight }

def setRecencyDecay (env : Env) (admin : Address) (enabled : Bool) (decayBpsPerDay minRecencyBps : ℕ)
    (s : State) : Outcome CreditOracleError State := do
  requireNamedAdmin .trap env admin s
  .require (minRecencyBps ≤ bpsDenominator) (.error .invalidRecencyConfig)
  .ok { s with
    recencyDecayEnabled := some enabled
    decayBpsPerDay := some decayBpsPerDay
    minRecencyBps := some minRecencyBps }

/-- Link an identity oracle, which must answer `get_active_vc_count` for this contract's own
address first. -/
def setIdentityOracle (host : Host κ) (env : Env) (admin identityOracleId : Address) (s : State)
    (world : κ) : Outcome CreditOracleError (State × κ) := do
  requireNamedAdmin .trap env admin s
  let (_, world) ← .okOr (host.getActiveVcCount world identityOracleId env.currentContract)
    (.error .invalidIdentityOracle)
  .ok ({ s with identityOracleId := some identityOracleId }, world)

def proposeNewAdmin (env : Env) (newAdmin : Address) (s : State) : Outcome CreditOracleError State := do
  requireStoredAdmin .trap env s
  .ok { s with pendingAdmin := some newAdmin }

/-- A contract that takes the admin role is recorded as the governance contract. -/
def acceptAdmin (env : Env) (newAdmin : Address) (s : State) : Outcome CreditOracleError State := do
  requireAuth env newAdmin
  let pendingAdmin ← .okOr s.pendingAdmin .trap
  .require (newAdmin = pendingAdmin) (.error .notAuthorized)
  .ok { s with
    admin := some newAdmin
    pendingAdmin := none
    governanceId := if newAdmin.isContract then some newAdmin else none }

/-! ## Scoring weights -/

def proposeWeights (env : Env) (weights : ScoringWeights) (s : State) :
    Outcome CreditOracleError State := do
  let valid ← weights.isValid
  .require (valid = true) (.error .invalidWeights)
  requireStoredAdmin .trap env s
  let effectiveLedger ← .okOr (U32.checkedAdd env.ledger.sequence timelockLedgers) .trap
  .ok { s with
    pendingWeights := some weights
    pendingWeightsEffectiveLedger := some effectiveLedger }

def applyWeights (env : Env) (s : State) : Outcome CreditOracleError State := do
  ensureNotPaused s
  let effectiveLedger ← .okOr s.pendingWeightsEffectiveLedger (.error .noPendingWeights)
  .require (effectiveLedger ≤ env.ledger.sequence) (.error .timelockNotExpired)
  let weights ← .okOr s.pendingWeights (.error .noPendingWeights)
  .ok { s with
    config := some weights
    pendingWeights := none
    pendingWeightsEffectiveLedger := none }

/-! ## Score inputs -/

/-- The checks every feeder operation starts with. -/
def requireFeeder (env : Env) (feeder : Address) (s : State) : Outcome CreditOracleError Unit := do
  ensureNotPaused s
  requireAuth env feeder
  .require (isTrustedFeeder s feeder = true) (.error .feederNotRegistered)

def updateTxStats (env : Env) (feeder subject : Address) (stats : TxStats) (s : State) :
    Outcome CreditOracleError State := do
  requireFeeder env feeder s
  .ok { s with txStats := s.txStats.set subject stats }

def setVcCount (env : Env) (feeder subject : Address) (count : ℕ) (s : State) :
    Outcome CreditOracleError State := do
  requireFeeder env feeder s
  .ok { s with vcCount := s.vcCount.set subject count }

/-- A hash that is already in the user's list is ignored. -/
def anchorVc (env : Env) (feeder user : Address) (vcId : BytesN 32) (vcType : Option Symbol) (s : State) :
    Outcome CreditOracleError State := do
  requireFeeder env feeder s
  let list := getVcList s user
  if list.any (fun entry => entry.vcId = vcId) then .ok s
  else .ok { s with vcList := s.vcList.set user (list ++ [{ vcId, vcType }]) }

/-- Read a repayment entry in the V1 layout. -/
def loadRepaymentV1 (s : State) (subject : Address) : Outcome CreditOracleError RepaymentRecordV1 :=
  match s.repaymentRecord subject with
  | none => .ok { onTimeCount := 0, totalCount := 0 }
  | some (.v1 record) => .ok record
  | some (.v2 _) => .error .trap

/-- Read a repayment entry in the V2 layout. -/
def loadRepayment (s : State) (subject : Address) : Outcome CreditOracleError RepaymentRecord :=
  match s.repaymentRecord subject with
  | none => .ok { onTimeCount := 0, totalCount := 0, totalRepaid := 0 }
  | some (.v2 record) => .ok record
  | some (.v1 _) => .error .trap

/-- The subject's entry with one more repayment. The layout that is in force decides how the
entry is read and written back. -/
def addRepayment (subject : Address) (amount : ℤ) (onTime : Bool) (s : State) :
    Outcome CreditOracleError StoredRepayment :=
  let onTimeAfter (onTimeCount : ℕ) := if onTime then U32.saturatingAdd onTimeCount 1 else onTimeCount
  if s.storageVersion.getD 1 < 2 then do
    let record ← loadRepaymentV1 s subject
    .ok (.v1
      { onTimeCount := onTimeAfter record.onTimeCount
        totalCount := U32.saturatingAdd record.totalCount 1 })
  else do
    let record ← loadRepayment s subject
    .ok (.v2
      { onTimeCount := onTimeAfter record.onTimeCount
        totalCount := U32.saturatingAdd record.totalCount 1
        totalRepaid := I128.saturatingAdd record.totalRepaid amount })

def recordRepayment (env : Env) (lender subject : Address) (amount : ℤ) (onTime : Bool) (s : State) :
    Outcome CreditOracleError State := do
  .require (0 < amount) (.error .invalidAmount)
  ensureNotPaused s
  requireAuth env lender
  .require (isTrustedLender s lender = true) (.error .lenderNotRegistered)
  let entry ← addRepayment subject amount onTime s
  incrementRepaymentsRecorded { s with repaymentRecord := s.repaymentRecord.set subject entry }

/-- The loop of `migrate`: every present entry is read as V1 and written back as V2. -/
def migrateLoop : List Address → Storage Address StoredRepayment →
    Outcome CreditOracleError (Storage Address StoredRepayment)
  | [], entries => .ok entries
  | subject :: rest, entries =>
    match entries subject with
    | none => migrateLoop rest entries
    | some (.v1 record) =>
      migrateLoop rest (entries.set subject (.v2
        { onTimeCount := record.onTimeCount, totalCount := record.totalCount, totalRepaid := 0 }))
    | some (.v2 _) => .error .trap

def migrate (env : Env) (subjects : List Address) (s : State) : Outcome CreditOracleError State := do
  requireStoredAdmin (.error .notInitialized) env s
  let entries ← migrateLoop subjects s.repaymentRecord
  .ok { s with repaymentRecord := entries, storageVersion := some 2 }

/-! ## Disputes -/

/-- The recognised score inputs. -/
def inputKeys : List Symbol := ["tx_stats", "repayment", "vc_count"]

def flagScoreInput (env : Env) (subject : Address) (inputKey : Symbol) (reason : HostString) (s : State) :
    Outcome CreditOracleError State := do
  requireAuth env subject
  .require (inputKey ∈ inputKeys) (.error .invalidInputKey)
  .require ((s.dispute (subject, inputKey)).all (fun existing => existing.status ≠ .pending))
    (.error .disputeAlreadyPending)
  let record : DisputeRecord :=
    { subject, inputKey, reason, filedAtLedger := env.ledger.sequence, status := .pending }
  let disputedKeys := (s.disputeIndex subject).getD []
  let s := { s with dispute := s.dispute.set (subject, inputKey) record }
  if inputKey ∈ disputedKeys then .ok s
  else .ok { s with disputeIndex := s.disputeIndex.set subject (disputedKeys ++ [inputKey]) }

def resolveDispute (env : Env) (subject : Address) (inputKey : Symbol) (accepted : Bool) (s : State) :
    Outcome CreditOracleError State := do
  requireStoredAdmin .trap env s
  let record ← .okOr (s.dispute (subject, inputKey)) (.error .disputeNotFound)
  .require (record.status = .pending) (.error .disputeNotFound)
  let status := if accepted then DisputeStatus.resolved else .rejected
  .ok { s with dispute := s.dispute.set (subject, inputKey) { record with status } }

/-! ## Score computation -/

/-- Reject if the last computation was within the cooldown window. -/
def checkComputeCooldown (env : Env) (s : State) (subject : Address) : Outcome CreditOracleError Unit :=
  let cooldown := s.computeCooldownLedgers.getD 0
  match s.score subject with
  | none => .ok ()
  | some record =>
    .require (¬(0 < cooldown ∧ env.ledger.sequence - record.computedAtLedger < cooldown))
      (.error .computeCooldownActive)

def loadTxStats (s : State) (subject : Address) : TxStats :=
  (s.txStats subject).getD { volume30d := 0, txCount30d := 0, avgCounterparties := 0 }

/-- The repayment counters in the layout that is in force. -/
def loadRepaymentForScore (s : State) (subject : Address) : Outcome CreditOracleError RepaymentRecord :=
  if s.storageVersion.getD 1 < 2 then do
    let v1 ← loadRepaymentV1 s subject
    .ok { onTimeCount := v1.onTimeCount, totalCount := v1.totalCount, totalRepaid := 0 }
  else loadRepayment s subject

/-- `20 * weight / 100` with a saturating product. -/
def typePoints (weight : ℕ) : ℕ := U32.saturatingMul 20 weight / 100

/-- Points of one verified record: its type weight, decayed by age when decay is enabled. -/
def recordPoints (env : Env) (s : State) (vcType : CredentialType) (record : IdentityVCRecord) : ℕ :=
  let config := loadRecencyConfig s
  let points := typePoints (getVcTypeWeight s vcType)
  if config.enabled then
    applyRecencyBps points (recencyMultiplierBps record.anchoredAt env.ledger.timestamp
      config.decayBpsPerDay config.minRecencyBps)
  else points

/-- The loop over the identity oracle's records: points and count of those it verifies. -/
def linkedVcLoop (host : Host κ) (env : Env) (world : κ) (s : State) (identityOracleId subject : Address) :
    List IdentityVCRecord → ℕ × ℕ → Outcome CreditOracleError (ℕ × ℕ)
  | [], acc => .ok acc
  | record :: rest, (vcPoints, vcCount) => do
    let isVerified ← .okOr (host.verifyVc world identityOracleId subject record.vcHash) .trap
    if isVerified then do
      let vcCount ← .okOr (U32.checkedAdd vcCount 1) .trap
      let vcType ← .okOr (host.getVcCredentialType world identityOracleId subject record.vcHash) .trap
      let points := recordPoints env s vcType record
      linkedVcLoop host env world s identityOracleId subject rest
        (U32.saturatingAdd vcPoints points, vcCount)
    else linkedVcLoop host env world s identityOracleId subject rest (vcPoints, vcCount)

/-- Points and count without an identity oracle: the stored list, or else the cached count. -/
def localVcPoints (s : State) (subject : Address) : ℕ × ℕ :=
  match getVcList s subject with
  | [] =>
    let vcCount := (s.vcCount subject).getD 0
    (min (U32.saturatingMul vcCount 20) 100, vcCount)
  | list =>
    let weightOf (entry : VcEntry) := entry.vcType.elim defaultVcTypeWeight (getVcTypeWeight s)
    (list.foldl (fun vcPoints entry => U32.saturatingAdd vcPoints (typePoints (weightOf entry))) 0,
      list.length)

/-- Points and count of the subject's credentials, or nothing for a deactivated identity. -/
def resolveVcPoints (host : Host κ) (env : Env) (world : κ) (s : State) (subject : Address) :
    Outcome CreditOracleError (Option (ℕ × ℕ)) :=
  match s.identityOracleId with
  | none => .ok (some (localVcPoints s subject))
  | some identityOracleId => do
    let deactivated ← .okOr (host.isDeactivated world identityOracleId subject) .trap
    if deactivated then .ok none
    else do
      let records ← .okOr (host.getVcDetails world identityOracleId subject) .trap
      let acc ← linkedVcLoop host env world s identityOracleId subject records (0, 0)
      .ok (some acc)

/-- `on_time_count * 10_000 / total_count` in 64 bits, cut to 32. -/
def repaymentRateOf (repayment : RepaymentRecord) : ℕ :=
  if repayment.totalCount = 0 then 0
  else repayment.onTimeCount * 10000 / repayment.totalCount % 4294967296

/-- Store a computed score, unless the stored one has the same four inputs. -/
def storeScore (env : Env) (subject : Address) (score vcCount repaymentRate : ℕ) (txVolume30d : ℤ)
    (s : State) : Outcome CreditOracleError State :=
  let record (previousScore : Option ℕ) : ScoreRecord :=
    { score, lastUpdated := env.ledger.timestamp, vcCount, repaymentRate, txVolume30d, previousScore
      computedAtLedger := env.ledger.sequence, stale := false }
  match s.score subject with
  | none => do
    let s ← incrementSubjectsScored s
    .ok { s with score := s.score.set subject (record none) }
  | some prev =>
    if prev.score = score ∧ prev.vcCount = vcCount ∧ prev.repaymentRate = repaymentRate ∧
        prev.txVolume30d = txVolume30d then .ok s
    else .ok { s with score := s.score.set subject (record (some prev.score)) }

/-- Compute and store the credit score of a user. -/
def computeScore (host : Host κ) (env : Env) (subject : Address) (s : State) (world : κ) :
    Outcome CreditOracleError (ℕ × State) := do
  ensureNotPaused s
  checkComputeCooldown env s subject
  let txStats := loadTxStats s subject
  let repayment ← loadRepaymentForScore s subject
  match ← resolveVcPoints host env world s subject with
  | none => .ok (minScore, s)
  | some (vcPoints, vcCount) => do
    let weights ← .okOr s.config (.error .notInitialized)
    let score := computeScorePure (min vcPoints 100) txStats.volume30d txStats.avgCounterparties
      repayment.onTimeCount repayment.totalCount repayment.totalRepaid
      weights.vcWeight weights.txWeight weights.repaymentWeight
    let s ← storeScore env subject score vcCount (repaymentRateOf repayment) txStats.volume30d s
    .ok (score, s)

/-! ## Entry points -/

/-- The state-changing entry points, `upgrade` aside. -/
inductive Call where
  | initializeContract (admin : Address)
  | setComputeCooldownLedgers (admin : Address) (ledgers : ℕ)
  | registerFeeder (admin feeder : Address)
  | deregisterFeeder (admin feeder : Address)
  | registerLender (admin lender : Address)
  | deregisterLender (admin lender : Address)
  | pause (admin : Address)
  | unpause (admin : Address)
  | updateTxStats (feeder subject : Address) (stats : TxStats)
  | recordRepayment (lender subject : Address) (amount : ℤ) (onTime : Bool)
  | migrate (subjects : List Address)
  | setVcCount (feeder subject : Address) (count : ℕ)
  | setVcTypeWeight (admin : Address) (typeName : CredentialType) (weight : ℕ)
  | setRecencyDecay (admin : Address) (enabled : Bool) (decayBpsPerDay minRecencyBps : ℕ)
  | anchorVc (feeder user : Address) (vcId : BytesN 32) (vcType : Option Symbol)
  | computeScore (subject : Address)
  | proposeWeights (weights : ScoringWeights)
  | applyWeights
  | setIdentityOracle (admin identityOracleId : Address)
  | proposeNewAdmin (newAdmin : Address)
  | acceptAdmin (newAdmin : Address)
  | flagScoreInput (subject : Address) (inputKey : Symbol) (reason : HostString)
  | resolveDispute (subject : Address) (inputKey : Symbol) (accepted : Bool)
  deriving DecidableEq, Repr

/-- Run an entry point that leaves the rest of the ledger alone. -/
def alone (result : Outcome CreditOracleError State) (world : κ) :
    Outcome CreditOracleError (State × κ) := do
  let s ← result
  .ok (s, world)

/-- Run one entry point. -/
def exec (host : Host κ) (env : Env) (call : Call) (s : State) (world : κ) :
    Outcome CreditOracleError (State × κ) :=
  match call with
  | .initializeContract admin => alone (initializeContract env admin s) world
  | .setComputeCooldownLedgers admin ledgers =>
    alone (setComputeCooldownLedgers env admin ledgers s) world
  | .registerFeeder admin feeder => alone (registerFeeder env admin feeder s) world
  | .deregisterFeeder admin feeder => alone (deregisterFeeder env admin feeder s) world
  | .registerLender admin lender => alone (registerLender env admin lender s) world
  | .deregisterLender admin lender => alone (deregisterLender env admin lender s) world
  | .pause admin => alone (pause env admin s) world
  | .unpause admin => alone (unpause env admin s) world
  | .updateTxStats feeder subject stats => alone (updateTxStats env feeder subject stats s) world
  | .recordRepayment lender subject amount onTime =>
    alone (recordRepayment env lender subject amount onTime s) world
  | .migrate subjects => alone (migrate env subjects s) world
  | .setVcCount feeder subject count => alone (setVcCount env feeder subject count s) world
  | .setVcTypeWeight admin typeName weight => alone (setVcTypeWeight env admin typeName weight s) world
  | .setRecencyDecay admin enabled decayBpsPerDay minRecencyBps =>
    alone (setRecencyDecay env admin enabled decayBpsPerDay minRecencyBps s) world
  | .anchorVc feeder user vcId vcType => alone (anchorVc env feeder user vcId vcType s) world
  | .computeScore subject => alone ((computeScore host env subject s world).map (·.2)) world
  | .proposeWeights weights => alone (proposeWeights env weights s) world
  | .applyWeights => alone (applyWeights env s) world
  | .setIdentityOracle admin identityOracleId => setIdentityOracle host env admin identityOracleId s world
  | .proposeNewAdmin newAdmin => alone (proposeNewAdmin env newAdmin s) world
  | .acceptAdmin newAdmin => alone (acceptAdmin env newAdmin s) world
  | .flagScoreInput subject inputKey reason => alone (flagScoreInput env subject inputKey reason s) world
  | .resolveDispute subject inputKey accepted => alone (resolveDispute env subject inputKey accepted s) world

end StellarDidCredit.CreditOracle
