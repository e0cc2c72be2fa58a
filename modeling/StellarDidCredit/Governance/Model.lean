import StellarDidCredit.Scoring.Types

/-!
# The governance contract

Proposals for new scoring weights, weighted votes on them, and their execution: an executed
proposal queues its weights in the credit oracle, where the timelock starts. The quorum is
fixed at creation, the weight a voter spent on a proposal is kept under a key of its own.

The credit oracle is reached through `Host`, whose functions return nothing when the
invocation fails. `κ` is the rest of the ledger.
-/

namespace StellarDidCredit.Governance

/-- The typed errors of the contract. -/
inductive GovernanceError where
  | alreadyInitialized
  | notAuthorized
  | proposalNotFound
  | proposalExpired
  | proposalNotExpired
  | proposalAlreadyExecuted
  | invalidWeights
  | invalidQuorum
  | invalidVoteWeight
  | quorumNotMet
  | timelockNotExpired
  | voterNotRegistered
  | insufficientVoteWeight
  | proposalAlreadyCancelled
  | noPendingWeights
  | contractPaused
  | voteTallyOverflow
  | proposalRejected
  | invalidVotingPeriod
  deriving DecidableEq, Repr

def firstProposalId : ℕ := 1

/-- A proposal for updating the credit oracle's scoring weights. -/
structure GovernanceProposal where
  id : ℕ
  proposer : Address
  proposedWeights : ScoringWeights
  votesFor : ℤ
  votesAgainst : ℤ
  /-- Ledger after which voting ends. -/
  expiryLedger : ℕ
  /-- Ledgers after the expiry that must pass before the execution. -/
  executionDelayLedgers : ℕ
  executed : Bool
  cancelled : Bool
  /-- The quorum, as it was at the creation. -/
  quorumRequired : ℤ
  deriving DecidableEq, Repr

/-- The stored entries, one field for each key. -/
structure State where
  admin : Option Address := none
  creditOracle : Option Address := none
  nextProposalId : Option ℕ := none
  quorumRequired : Option ℤ := none
  quorumPercent : Option ℕ := none
  proposal : Storage ℕ GovernanceProposal := Storage.empty
  proposer : Storage ℕ Address := Storage.empty
  voterWeight : Storage Address ℤ := Storage.empty
  voteWeightUsed : Storage (ℕ × Address) ℤ := Storage.empty
  totalRegisteredWeight : Option ℤ := none

/-- The calls that leave the contract, all to a credit oracle. Only the failures of `apply_weights`
are handled: its typed errors are translated, and any other failure is read as `NoPendingWeights`. -/
structure Host (κ : Type) where
  proposeWeights : κ → Address → ScoringWeights → Outcome CreditOracleError κ
  applyWeights : κ → Address → Outcome CreditOracleError κ
  acceptAdmin : κ → Address → Address → Outcome CreditOracleError κ

variable {κ : Type}

/-! ## Reads -/

def getQuorum (s : State) : ℤ := s.quorumRequired.getD 0

def getTotalRegisteredWeight (s : State) : ℤ := s.totalRegisteredWeight.getD 0

def getVoteWeightUsed (s : State) (proposalId : ℕ) (voter : Address) : ℤ :=
  (s.voteWeightUsed (proposalId, voter)).getD 0

/-- Registered weight minus used weight; the subtraction traps when it does not fit. -/
def getAvailableVoteWeight (s : State) (proposalId : ℕ) (voter : Address) :
    Outcome GovernanceError ℤ :=
  .okOr (I128.checkedSub ((s.voterWeight voter).getD 0) (getVoteWeightUsed s proposalId voter)) .trap

/-- The id the next proposal gets. -/
def nextId (s : State) : ℕ := s.nextProposalId.getD firstProposalId

/-- Proposals from `fromId` on, at most twenty ids. -/
def listProposals (s : State) (fromId limit : ℕ) (includeInactive : Bool) : List GovernanceProposal :=
  let cap := min limit 20
  if cap = 0 ∨ nextId s ≤ fromId then []
  else
    let endId := min (min (fromId + cap) U64.max) (nextId s)
    (List.range' fromId (endId - fromId)).filterMap fun id =>
      (s.proposal id).filter fun proposal => includeInactive || (!proposal.executed && !proposal.cancelled)

/-! ## Administration -/

/-- The stored admin, compared with the argument. -/
def requireAdminArg (admin : Address) (s : State) : Outcome GovernanceError Unit := do
  let storedAdmin ← .okOr s.admin (.error .notAuthorized)
  .require (admin = storedAdmin) (.error .notAuthorized)

def initializeContract (env : Env) (admin creditOracle : Address) (quorumRequired : ℤ) (s : State) :
    Outcome GovernanceError State := do
  .require (s.admin = none) (.error .alreadyInitialized)
  .require (0 < quorumRequired) (.error .invalidQuorum)
  requireAuth env admin
  .ok { s with
    admin := some admin
    creditOracle := some creditOracle
    nextProposalId := some firstProposalId
    quorumRequired := some quorumRequired }

def setQuorum (env : Env) (admin : Address) (quorumRequired : ℤ) (s : State) :
    Outcome GovernanceError State := do
  .require (0 < quorumRequired) (.error .invalidQuorum)
  requireAdminArg admin s
  requireAuth env admin
  .require (quorumRequired ≤ getTotalRegisteredWeight s) (.error .invalidQuorum)
  .ok { s with quorumRequired := some quorumRequired, quorumPercent := none }

def setQuorumPercent (env : Env) (admin : Address) (percent : ℕ) (s : State) :
    Outcome GovernanceError State := do
  .require (percent ≠ 0 ∧ percent ≤ 100) (.error .invalidQuorum)
  requireAdminArg admin s
  requireAuth env admin
  .ok { s with quorumPercent := some percent }

/-! ## Proposals -/

/-- The quorum a proposal created now gets. -/
def currentQuorum (s : State) : Outcome GovernanceError ℤ :=
  match s.quorumPercent with
  | some percent => do
    let product ← .okOr (I128.checkedMul (getTotalRegisteredWeight s) percent) (.error .invalidQuorum)
    .ok (product.tdiv 100)
  | none => .ok (getQuorum s)

/-- A proposal as it is first stored. -/
def freshProposal (id : ℕ) (proposer : Address) (weights : ScoringWeights)
    (expiryLedger executionDelayLedgers : ℕ) (quorumRequired : ℤ) : GovernanceProposal where
  id
  proposer
  proposedWeights := weights
  votesFor := 0
  votesAgainst := 0
  expiryLedger
  executionDelayLedgers
  executed := false
  cancelled := false
  quorumRequired

/-- Create a proposal; returns its id. -/
def createProposal (env : Env) (proposer : Address) (weights : ScoringWeights)
    (votingPeriodLedgers executionDelayLedgers : ℕ) (s : State) : Outcome GovernanceError (ℕ × State) := do
  requireAuth env proposer
  let valid ← weights.isValid
  .require (valid = true) (.error .invalidWeights)
  .require (votingPeriodLedgers ≠ 0) (.error .invalidVotingPeriod)
  let id := nextId s
  let expiryLedger ← .okOr (U32.checkedAdd env.ledger.sequence votingPeriodLedgers) .trap
  let quorumRequired ← currentQuorum s
  let proposal := freshProposal id proposer weights expiryLedger executionDelayLedgers quorumRequired
  let nextProposalId ← .okOr (U64.checkedAdd id 1) .trap
  .ok (id, { s with
    proposal := s.proposal.set id proposal
    proposer := s.proposer.set id proposer
    nextProposalId := some nextProposalId })

/-- The proposal with a vote added to one of its tallies. -/
def addVote (proposal : GovernanceProposal) (voteFor : Bool) (voteWeight : ℤ) :
    Outcome GovernanceError GovernanceProposal :=
  if voteFor then do
    let votesFor ← .okOr (I128.checkedAdd proposal.votesFor voteWeight) (.error .voteTallyOverflow)
    .ok { proposal with votesFor }
  else do
    let votesAgainst ← .okOr (I128.checkedAdd proposal.votesAgainst voteWeight) (.error .voteTallyOverflow)
    .ok { proposal with votesAgainst }

def vote (env : Env) (voter : Address) (proposalId : ℕ) (voteFor : Bool) (voteWeight : ℤ) (s : State) :
    Outcome GovernanceError State := do
  requireAuth env voter
  .require (0 < voteWeight) (.error .invalidVoteWeight)
  let totalWeight ← .okOr (s.voterWeight voter) (.error .voterNotRegistered)
  let usedWeight := getVoteWeightUsed s proposalId voter
  let availableWeight ← .okOr (I128.checkedSub totalWeight usedWeight) .trap
  .require (voteWeight ≤ availableWeight) (.error .insufficientVoteWeight)
  let proposal ← .okOr (s.proposal proposalId) (.error .proposalNotFound)
  .require (env.ledger.sequence ≤ proposal.expiryLedger) (.error .proposalExpired)
  .require (proposal.executed = false) (.error .proposalAlreadyExecuted)
  .require (proposal.cancelled = false) (.error .proposalAlreadyCancelled)
  let proposal ← addVote proposal voteFor voteWeight
  let newUsedWeight ← .okOr (I128.checkedAdd usedWeight voteWeight) .trap
  .ok { s with
    voteWeightUsed := s.voteWeightUsed.set (proposalId, voter) newUsedWeight
    proposal := s.proposal.set proposalId proposal }

/-- Queue the weights of a proposal that passed, once its delay is over. -/
def execute (host : Host κ) (proposalId : ℕ) (env : Env) (s : State) (world : κ) :
    Outcome GovernanceError (State × κ) := do
  let proposal ← .okOr (s.proposal proposalId) (.error .proposalNotFound)
  .require (proposal.expiryLedger < env.ledger.sequence) (.error .proposalNotExpired)
  let executableAt := U32.saturatingAdd proposal.expiryLedger proposal.executionDelayLedgers
  .require (executableAt < env.ledger.sequence) (.error .timelockNotExpired)
  .require (proposal.executed = false) (.error .proposalAlreadyExecuted)
  .require (proposal.cancelled = false) (.error .proposalAlreadyCancelled)
  .require (proposal.votesAgainst < proposal.votesFor) (.error .proposalRejected)
  let votes ← .okOr (I128.checkedAdd proposal.votesFor proposal.votesAgainst) .trap
  .require (proposal.quorumRequired ≤ votes) (.error .quorumNotMet)
  let creditOracle ← .okOr s.creditOracle .trap
  let world ← .passOn CreditOracleError.code
    (host.proposeWeights world creditOracle proposal.proposedWeights)
  .ok ({ s with proposal := s.proposal.set proposalId { proposal with executed := true } }, world)

/-- The entries that are left when some voters' used weights of a proposal are deleted. -/
def removeVoteWeights (proposalId : ℕ) (voters : List Address) (used : Storage (ℕ × Address) ℤ) :
    Storage (ℕ × Address) ℤ :=
  voters.foldl (fun used voter => used.remove (proposalId, voter)) used

/-- Delete used weights of an executed proposal; of any other, do nothing. -/
def cleanupProposalVotes (env : Env) (admin : Address) (proposalId : ℕ) (voters : List Address)
    (s : State) : Outcome GovernanceError State := do
  requireAdminArg admin s
  requireAuth env admin
  let proposal ← .okOr (s.proposal proposalId) (.error .proposalNotFound)
  if proposal.executed then
    .ok { s with voteWeightUsed := removeVoteWeights proposalId voters s.voteWeightUsed }
  else .ok s

def cancelProposal (env : Env) (canceller : Address) (proposalId : ℕ) (s : State) :
    Outcome GovernanceError State := do
  requireAuth env canceller
  let proposal ← .okOr (s.proposal proposalId) (.error .proposalNotFound)
  .require (proposal.executed = false) (.error .proposalAlreadyExecuted)
  .require (proposal.cancelled = false) (.error .proposalAlreadyCancelled)
  let storedAdmin ← .okOr s.admin (.error .notAuthorized)
  let storedProposer ← .okOr (s.proposer proposalId) (.error .notAuthorized)
  .require (canceller = storedAdmin ∨ canceller = storedProposer) (.error .notAuthorized)
  .ok { s with proposal := s.proposal.set proposalId { proposal with cancelled := true } }

/-! ## The credit oracle -/

/-- The governance error that reports a credit oracle's failure to apply weights. -/
def applyWeightsError : Fault CreditOracleError → GovernanceError
  | .error .timelockNotExpired => .timelockNotExpired
  | .error .noPendingWeights => .noPendingWeights
  | .error .contractPaused => .contractPaused
  | .error _ => .notAuthorized
  | .callee _ => .noPendingWeights
  | .trap => .noPendingWeights

def applyWeights (host : Host κ) (s : State) (world : κ) : Outcome GovernanceError (State × κ) := do
  let creditOracle ← .okOr s.creditOracle (.error .notAuthorized)
  match host.applyWeights world creditOracle with
  | .ok world => .ok (s, world)
  | .error fault => .error (.error (applyWeightsError fault))

def acceptOracleAdmin (host : Host κ) (env : Env) (s : State) (world : κ) :
    Outcome GovernanceError (State × κ) := do
  let admin ← .okOr s.admin (.error .notAuthorized)
  requireAuth env admin
  let creditOracle ← .okOr s.creditOracle (.error .notAuthorized)
  let world ← .passOn CreditOracleError.code
    (host.acceptAdmin world creditOracle env.currentContract)
  .ok (s, world)

/-! ## Voters -/

/-- The total after a voter's weight is replaced; each of the two operations can trap. -/
def replaceInTotal (s : State) (oldWeight newWeight : ℤ) : Outcome GovernanceError ℤ := do
  let rest ← .okOr (I128.checkedSub (getTotalRegisteredWeight s) oldWeight) .trap
  .okOr (I128.checkedAdd rest newWeight) .trap

def registerVoter (env : Env) (admin voter : Address) (weight : ℤ) (s : State) :
    Outcome GovernanceError State := do
  requireAdminArg admin s
  .require (0 < weight) (.error .invalidVoteWeight)
  requireAuth env admin
  let total ← replaceInTotal s ((s.voterWeight voter).getD 0) weight
  .ok { s with voterWeight := s.voterWeight.set voter weight, totalRegisteredWeight := some total }

/-- A weight of zero removes the registration. -/
def updateVoterWeight (env : Env) (admin voter : Address) (weight : ℤ) (s : State) :
    Outcome GovernanceError State := do
  requireAdminArg admin s
  .require (0 ≤ weight) (.error .invalidVoteWeight)
  requireAuth env admin
  let total ← replaceInTotal s ((s.voterWeight voter).getD 0) weight
  .ok { s with
    voterWeight := if weight = 0 then s.voterWeight.remove voter else s.voterWeight.set voter weight
    totalRegisteredWeight := some total }

def deregisterVoter (env : Env) (admin voter : Address) (s : State) : Outcome GovernanceError State := do
  requireAdminArg admin s
  requireAuth env admin
  let total ← .okOr
    (I128.checkedSub (getTotalRegisteredWeight s) ((s.voterWeight voter).getD 0)) .trap
  .ok { s with voterWeight := s.voterWeight.remove voter, totalRegisteredWeight := some total }

/-! ## Entry points -/

/-- The state-changing entry points. -/
inductive Call where
  | initializeContract (admin creditOracle : Address) (quorumRequired : ℤ)
  | setQuorum (admin : Address) (quorumRequired : ℤ)
  | setQuorumPercent (admin : Address) (percent : ℕ)
  | createProposal (proposer : Address) (weights : ScoringWeights)
      (votingPeriodLedgers executionDelayLedgers : ℕ)
  | vote (voter : Address) (proposalId : ℕ) (voteFor : Bool) (voteWeight : ℤ)
  | execute (proposalId : ℕ)
  | cleanupProposalVotes (admin : Address) (proposalId : ℕ) (voters : List Address)
  | cancelProposal (canceller : Address) (proposalId : ℕ)
  | applyWeights
  | acceptOracleAdmin
  | registerVoter (admin voter : Address) (weight : ℤ)
  | updateVoterWeight (admin voter : Address) (weight : ℤ)
  | deregisterVoter (admin voter : Address)
  deriving DecidableEq, Repr

/-- Run an entry point that leaves the rest of the ledger alone. -/
def alone (result : Outcome GovernanceError State) (world : κ) :
    Outcome GovernanceError (State × κ) := do
  let s ← result
  .ok (s, world)

/-- Run one entry point. -/
def exec (host : Host κ) (env : Env) (call : Call) (s : State) (world : κ) :
    Outcome GovernanceError (State × κ) :=
  match call with
  | .initializeContract admin creditOracle quorumRequired =>
    alone (initializeContract env admin creditOracle quorumRequired s) world
  | .setQuorum admin quorumRequired => alone (setQuorum env admin quorumRequired s) world
  | .setQuorumPercent admin percent => alone (setQuorumPercent env admin percent s) world
  | .createProposal proposer weights votingPeriodLedgers executionDelayLedgers =>
    alone ((createProposal env proposer weights votingPeriodLedgers executionDelayLedgers s).map (·.2)) world
  | .vote voter proposalId voteFor voteWeight =>
    alone (vote env voter proposalId voteFor voteWeight s) world
  | .execute proposalId => execute host proposalId env s world
  | .cleanupProposalVotes admin proposalId voters =>
    alone (cleanupProposalVotes env admin proposalId voters s) world
  | .cancelProposal canceller proposalId => alone (cancelProposal env canceller proposalId s) world
  | .applyWeights => applyWeights host s world
  | .acceptOracleAdmin => acceptOracleAdmin host env s world
  | .registerVoter admin voter weight => alone (registerVoter env admin voter weight s) world
  | .updateVoterWeight admin voter weight => alone (updateVoterWeight env admin voter weight s) world
  | .deregisterVoter admin voter => alone (deregisterVoter env admin voter s) world

end StellarDidCredit.Governance
