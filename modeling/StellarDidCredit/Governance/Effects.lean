import StellarDidCredit.Governance.Model

/-!
# What a governance call can do

The entry points of the contract are inverted here, once. A successful call leaves the
record of a proposal alone unless it creates, votes on, executes or cancels that proposal;
each of the four is described by the record before and after it and by the gates it passed.
The last section does the same for the weights that votes have used.
-/

namespace StellarDidCredit.Governance

variable {κ : Type} {host : Host κ} {env : Env} {call : Call} {s s' : State} {world world' : κ} {p : ℕ}

/-- The stored admin matched the argument. -/
@[simp] theorem requireAdminArg_eq_ok {admin : Address} {u : Unit} :
    requireAdminArg admin s = .ok u ↔ s.admin = some admin := by
  simp only [requireAdminArg, Outcome.bind_eq_ok, Outcome.okOr_eq_ok, Outcome.require_eq_ok]
  constructor
  · rintro ⟨storedAdmin, hstored, rfl⟩
    exact hstored
  · intro hstored
    exact ⟨admin, hstored, rfl⟩

/-- A call that stays inside the contract leaves the rest of the ledger alone. -/
@[simp] theorem alone_eq_ok {result : Outcome GovernanceError State} :
    alone result world = .ok (s', world') ↔ result = .ok s' ∧ world' = world :=
  Outcome.bind_pair_eq_ok

/-! ## The entry points, one by one -/

section EntryPoints

variable {admin voter proposer canceller creditOracle : Address} {weight quorum : ℤ}

/-- An uninitialised contract takes its admin and starts to count proposals. -/
theorem initializeContract_spec (h : initializeContract env admin creditOracle quorum s = .ok s') :
    s.admin = none ∧ s' = { s with
      admin := some admin
      creditOracle := some creditOracle
      nextProposalId := some firstProposalId
      quorumRequired := some quorum } := by
  simp only [initializeContract, Outcome.bind_eq_ok, Outcome.require_eq_ok, requireAuth_eq_ok,
    Except.ok.injEq] at h
  obtain ⟨_, hadmin, _, _, _, _, rfl⟩ := h
  exact ⟨hadmin, rfl⟩

/-- A positive quorum replaces a percentage. -/
theorem setQuorum_spec (h : setQuorum env admin quorum s = .ok s') :
    0 < quorum ∧ s' = { s with quorumRequired := some quorum, quorumPercent := none } := by
  simp only [setQuorum, Outcome.bind_eq_ok, Outcome.require_eq_ok, requireAuth_eq_ok,
    Except.ok.injEq] at h
  obtain ⟨_, hpositive, _, _, _, _, _, _, rfl⟩ := h
  exact ⟨hpositive, rfl⟩

/-- A percentage is stored beside the quorum. -/
theorem setQuorumPercent_spec {percent : ℕ} (h : setQuorumPercent env admin percent s = .ok s') :
    s' = { s with quorumPercent := some percent } := by
  simp only [setQuorumPercent, Outcome.bind_eq_ok, Outcome.require_eq_ok, requireAuth_eq_ok,
    Except.ok.injEq] at h
  obtain ⟨_, _, _, _, _, _, rfl⟩ := h
  rfl

/-- A proposal of valid weights is stored under the next id, with the quorum of the moment. -/
theorem createProposal_spec {weights : ScoringWeights} {period delay id : ℕ}
    (h : createProposal env proposer weights period delay s = .ok (id, s')) :
    id = nextId s ∧ env.Authorized proposer ∧ weights.Valid ∧ period ≠ 0 ∧
      ∃ quorum, currentQuorum s = .ok quorum ∧ s' = { s with
        proposal := s.proposal.set (nextId s) (freshProposal (nextId s) proposer weights
          (env.ledger.sequence + period) delay quorum)
        proposer := s.proposer.set (nextId s) proposer
        nextProposalId := some (nextId s + 1) } := by
  simp only [createProposal, Outcome.bind_eq_ok, Outcome.require_eq_ok, requireAuth_eq_ok,
    Outcome.okOr_eq_ok, U32.checkedAdd_eq_some, U64.checkedAdd_eq_some, Except.ok.injEq,
    Prod.mk.injEq] at h
  obtain ⟨_, hauth, valid, hvalid, _, rfl, _, hperiod, _, ⟨_, rfl⟩, quorum, hquorum, _, ⟨_, rfl⟩, rfl,
    rfl⟩ := h
  exact ⟨rfl, hauth, ScoringWeights.isValid_eq_true.mp hvalid, hperiod, quorum, hquorum, rfl⟩

/-- A vote within the registered weight is added to a proposal that is open and not expired. -/
theorem vote_spec {voteFor : Bool} (h : vote env voter p voteFor weight s = .ok s') :
    env.Authorized voter ∧ 0 < weight ∧ ∃ registered old new, s.voterWeight voter = some registered ∧
      getVoteWeightUsed s p voter + weight ≤ registered ∧ s.proposal p = some old ∧
      env.ledger.sequence ≤ old.expiryLedger ∧ old.executed = false ∧ old.cancelled = false ∧
      addVote old voteFor weight = .ok new ∧
      s' = { s with
        voteWeightUsed := s.voteWeightUsed.set (p, voter) (getVoteWeightUsed s p voter + weight)
        proposal := s.proposal.set p new } := by
  simp only [vote, Outcome.bind_eq_ok, Outcome.require_eq_ok, requireAuth_eq_ok, Outcome.okOr_eq_ok,
    I128.checkedSub_eq_some, I128.checkedAdd_eq_some, Except.ok.injEq] at h
  obtain ⟨_, hauth, _, hpositive, registered, hregistered, _, ⟨_, rfl⟩, _, havailable, old, hold, _,
    hexpiry, _, hexecuted, _, hcancelled, new, hnew, _, ⟨_, rfl⟩, rfl⟩ := h
  have hbound : getVoteWeightUsed s p voter + weight ≤ registered := by omega
  exact ⟨hauth, hpositive, registered, old, new, hregistered, hbound, hold, hexpiry, hexecuted,
    hcancelled, hnew, rfl⟩

/-- The gates of `execute`. The comparison with the saturated sum implies the one with the
true sum, because a ledger number never exceeds the bound. -/
theorem execute_spec (h : execute host p env s world = .ok (s', world')) :
    ∃ old oracle, s.proposal p = some old ∧ s.creditOracle = some oracle ∧
      old.expiryLedger + old.executionDelayLedgers < env.ledger.sequence ∧ old.executed = false ∧
      old.cancelled = false ∧ old.votesAgainst < old.votesFor ∧
      old.quorumRequired ≤ old.votesFor + old.votesAgainst ∧
      host.proposeWeights world oracle old.proposedWeights = .ok world' ∧
      s' = { s with proposal := s.proposal.set p { old with executed := true } } := by
  simp only [execute, Outcome.bind_eq_ok, Outcome.require_eq_ok, Outcome.okOr_eq_ok, Outcome.passOn_eq_ok,
    I128.checkedAdd_eq_some, Except.ok.injEq, Prod.mk.injEq] at h
  obtain ⟨old, hold, _, _, _, hdelay, _, hexecuted, _, hcancelled, _, hpassed, _, ⟨_, rfl⟩, _, hquorum,
    oracle, horacle, _, hqueue, rfl, rfl⟩ := h
  have htrue : old.expiryLedger + old.executionDelayLedgers < env.ledger.sequence := by
    have hle := env.ledger.sequence_le
    simp only [U32.saturatingAdd] at hdelay
    omega
  exact ⟨old, oracle, hold, horacle, htrue, hexecuted, hcancelled, hpassed, hquorum, hqueue, rfl⟩

/-- A cleanup deletes used weights or does nothing. -/
theorem cleanupProposalVotes_spec {voters : List Address}
    (h : cleanupProposalVotes env admin p voters s = .ok s') :
    s' = s ∨ s' = { s with voteWeightUsed := removeVoteWeights p voters s.voteWeightUsed } := by
  simp only [cleanupProposalVotes, Outcome.bind_eq_ok, requireAdminArg_eq_ok, requireAuth_eq_ok,
    Outcome.okOr_eq_ok] at h
  obtain ⟨_, _, _, _, proposal, _, h⟩ := h
  split at h
  · exact Or.inr (Except.ok.inj h).symm
  · exact Or.inl (Except.ok.inj h).symm

/-- An open proposal is marked as cancelled. -/
theorem cancelProposal_spec (h : cancelProposal env canceller p s = .ok s') :
    ∃ old, s.proposal p = some old ∧ old.executed = false ∧ old.cancelled = false ∧
      s' = { s with proposal := s.proposal.set p { old with cancelled := true } } := by
  simp only [cancelProposal, Outcome.bind_eq_ok, Outcome.require_eq_ok, requireAuth_eq_ok,
    Outcome.okOr_eq_ok, Except.ok.injEq] at h
  obtain ⟨_, _, old, hold, _, hexecuted, _, hcancelled, _, _, _, _, _, _, rfl⟩ := h
  exact ⟨old, hold, hexecuted, hcancelled, rfl⟩

/-- The linked credit oracle applies its pending weights. -/
theorem applyWeights_spec (h : applyWeights host s world = .ok (s', world')) :
    s' = s ∧ ∃ oracle, s.creditOracle = some oracle ∧ host.applyWeights world oracle = .ok world' := by
  simp only [applyWeights, Outcome.bind_eq_ok, Outcome.okOr_eq_ok] at h
  obtain ⟨oracle, horacle, h⟩ := h
  split at h
  case h_1 after happly =>
    obtain ⟨rfl, rfl⟩ := Prod.mk.inj (Except.ok.inj h)
    exact ⟨rfl, oracle, horacle, happly⟩
  case h_2 => cases h

/-- The contract becomes the admin of the linked credit oracle. -/
theorem acceptOracleAdmin_spec (h : acceptOracleAdmin host env s world = .ok (s', world')) :
    s' = s ∧ ∃ oracle, s.creditOracle = some oracle ∧
      host.acceptAdmin world oracle env.currentContract = .ok world' := by
  simp only [acceptOracleAdmin, Outcome.bind_eq_ok, Outcome.okOr_eq_ok, Outcome.passOn_eq_ok, requireAuth_eq_ok,
    Except.ok.injEq, Prod.mk.injEq] at h
  obtain ⟨_, _, _, _, oracle, horacle, _, haccept, rfl, rfl⟩ := h
  exact ⟨rfl, oracle, horacle, haccept⟩

/-- The replaced total is exact and fits. -/
theorem replaceInTotal_spec {oldWeight newWeight total : ℤ}
    (h : replaceInTotal s oldWeight newWeight = .ok total) :
    total = getTotalRegisteredWeight s - oldWeight + newWeight ∧ I128.min ≤ total ∧ total ≤ I128.max := by
  simp only [replaceInTotal, Outcome.bind_eq_ok, Outcome.okOr_eq_ok, I128.checkedSub_eq_some,
    I128.checkedAdd_eq_some] at h
  obtain ⟨_, ⟨_, rfl⟩, hfits, rfl⟩ := h
  exact ⟨rfl, hfits⟩

/-- The admin registers a positive weight, and the total follows. -/
theorem registerVoter_spec (h : registerVoter env admin voter weight s = .ok s') :
    s.admin = some admin ∧ env.Authorized admin ∧ 0 < weight ∧ ∃ total,
      replaceInTotal s ((s.voterWeight voter).getD 0) weight = .ok total ∧ s' = { s with
        voterWeight := s.voterWeight.set voter weight
        totalRegisteredWeight := some total } := by
  simp only [registerVoter, Outcome.bind_eq_ok, Outcome.require_eq_ok, requireAdminArg_eq_ok,
    requireAuth_eq_ok, Except.ok.injEq] at h
  obtain ⟨_, hadmin, _, hpositive, _, hauth, total, htotal, rfl⟩ := h
  exact ⟨hadmin, hauth, hpositive, total, htotal, rfl⟩

/-- The admin changes a weight, and a weight of zero is removed. -/
theorem updateVoterWeight_spec (h : updateVoterWeight env admin voter weight s = .ok s') :
    s.admin = some admin ∧ env.Authorized admin ∧ 0 ≤ weight ∧ ∃ total,
      replaceInTotal s ((s.voterWeight voter).getD 0) weight = .ok total ∧ s' = { s with
        voterWeight := if weight = 0 then s.voterWeight.remove voter else s.voterWeight.set voter weight
        totalRegisteredWeight := some total } := by
  simp only [updateVoterWeight, Outcome.bind_eq_ok, Outcome.require_eq_ok, requireAdminArg_eq_ok,
    requireAuth_eq_ok, Except.ok.injEq] at h
  obtain ⟨_, hadmin, _, hnonneg, _, hauth, total, htotal, rfl⟩ := h
  exact ⟨hadmin, hauth, hnonneg, total, htotal, rfl⟩

/-- The admin removes a weight, and takes it from the total. -/
theorem deregisterVoter_spec (h : deregisterVoter env admin voter s = .ok s') :
    s.admin = some admin ∧ env.Authorized admin ∧ ∃ total,
      total = getTotalRegisteredWeight s - (s.voterWeight voter).getD 0 ∧
      (I128.min ≤ total ∧ total ≤ I128.max) ∧ s' = { s with
        voterWeight := s.voterWeight.remove voter
        totalRegisteredWeight := some total } := by
  simp only [deregisterVoter, Outcome.bind_eq_ok, requireAdminArg_eq_ok, requireAuth_eq_ok,
    Outcome.okOr_eq_ok, I128.checkedSub_eq_some, Except.ok.injEq] at h
  obtain ⟨_, hadmin, _, hauth, _, ⟨hfits, rfl⟩, rfl⟩ := h
  exact ⟨hadmin, hauth, _, rfl, hfits, rfl⟩

end EntryPoints

/-! ## One call -/

/-- The calls that write no proposal and, when they delete no entry, no used weight. -/
def Call.Administers : Call → Prop
  | .setQuorum _ _ | .setQuorumPercent _ _ | .cleanupProposalVotes _ _ _ => True
  | .applyWeights | .acceptOracleAdmin => True
  | .registerVoter _ _ _ | .updateVoterWeight _ _ _ | .deregisterVoter _ _ => True
  | _ => False

/-- What these calls write, with what they check of it. -/
inductive Administered (s : State) : Call → State → Prop
  | quorumSet {admin : Address} {quorum : ℤ} (hpositive : 0 < quorum) :
      Administered s (.setQuorum admin quorum) { s with quorumRequired := some quorum, quorumPercent := none }
  | percentSet {admin : Address} {percent : ℕ} :
      Administered s (.setQuorumPercent admin percent) { s with quorumPercent := some percent }
  | cleaned {admin : Address} {p : ℕ} {voters : List Address} :
      Administered s (.cleanupProposalVotes admin p voters)
        { s with voteWeightUsed := removeVoteWeights p voters s.voteWeightUsed }
  | uncleaned {admin : Address} {p : ℕ} {voters : List Address} :
      Administered s (.cleanupProposalVotes admin p voters) s
  | weightsApplied : Administered s .applyWeights s
  | roleAccepted : Administered s .acceptOracleAdmin s
  | registered {admin voter : Address} {weight total : ℤ} (hadmin : s.admin = some admin)
      (hpositive : 0 < weight) (htotal : replaceInTotal s ((s.voterWeight voter).getD 0) weight = .ok total) :
      Administered s (.registerVoter admin voter weight) { s with
        voterWeight := s.voterWeight.set voter weight
        totalRegisteredWeight := some total }
  | updated {admin voter : Address} {weight total : ℤ} (hadmin : s.admin = some admin)
      (hnonneg : 0 ≤ weight) (htotal : replaceInTotal s ((s.voterWeight voter).getD 0) weight = .ok total) :
      Administered s (.updateVoterWeight admin voter weight) { s with
        voterWeight := if weight = 0 then s.voterWeight.remove voter else s.voterWeight.set voter weight
        totalRegisteredWeight := some total }
  | deregistered {admin voter : Address} {total : ℤ} (hadmin : s.admin = some admin)
      (htotal : total = getTotalRegisteredWeight s - (s.voterWeight voter).getD 0)
      (hfits : I128.min ≤ total ∧ total ≤ I128.max) :
      Administered s (.deregisterVoter admin voter) { s with
        voterWeight := s.voterWeight.remove voter
        totalRegisteredWeight := some total }

/-- A successful call of these is one of the writes. -/
theorem exec_administered (h : exec host env call s world = .ok (s', world')) (hcall : call.Administers) :
    Administered s call s' := by
  cases call <;> simp only [exec, alone_eq_ok, Outcome.map_snd_eq_ok] at h
  case setQuorum admin quorumRequired =>
    obtain ⟨hpositive, rfl⟩ := setQuorum_spec h.1
    exact .quorumSet hpositive
  case setQuorumPercent admin percent =>
    obtain rfl := setQuorumPercent_spec h.1
    exact .percentSet
  case cleanupProposalVotes admin p voters =>
    rcases cleanupProposalVotes_spec h.1 with rfl | rfl
    · exact .uncleaned
    · exact .cleaned
  case applyWeights =>
    obtain ⟨rfl, -⟩ := applyWeights_spec h
    exact .weightsApplied
  case acceptOracleAdmin =>
    obtain ⟨rfl, -⟩ := acceptOracleAdmin_spec h
    exact .roleAccepted
  case registerVoter admin voter weight =>
    obtain ⟨hadmin, -, hpositive, total, htotal, rfl⟩ := registerVoter_spec h.1
    exact .registered hadmin hpositive htotal
  case updateVoterWeight admin voter weight =>
    obtain ⟨hadmin, -, hnonneg, total, htotal, rfl⟩ := updateVoterWeight_spec h.1
    exact .updated hadmin hnonneg htotal
  case deregisterVoter admin voter =>
    obtain ⟨hadmin, -, total, htotal, hfits, rfl⟩ := deregisterVoter_spec h.1
    exact .deregistered hadmin htotal hfits
  all_goals exact hcall.elim

/-- The call creates a proposal. -/
def Call.IsCreation (call : Call) : Prop :=
  ∃ proposer weights period delay, call = .createProposal proposer weights period delay

/-- What a successful call does to the state, with the gates it passed. -/
inductive Effect (env : Env) (s : State) : Call → State → Prop
  | initialized {admin creditOracle : Address} {quorum : ℤ} (hadmin : s.admin = none) :
      Effect env s (.initializeContract admin creditOracle quorum) { s with
        admin := some admin
        creditOracle := some creditOracle
        nextProposalId := some firstProposalId
        quorumRequired := some quorum }
  | created {proposer : Address} {weights : ScoringWeights} {period delay : ℕ} {quorum : ℤ}
      (hvalid : weights.Valid) (hquorum : currentQuorum s = .ok quorum) :
      Effect env s (.createProposal proposer weights period delay) { s with
        proposal := s.proposal.set (nextId s) (freshProposal (nextId s) proposer weights
          (env.ledger.sequence + period) delay quorum)
        proposer := s.proposer.set (nextId s) proposer
        nextProposalId := some (nextId s + 1) }
  | voted {voter : Address} {p : ℕ} {voteFor : Bool} {weight registered : ℤ}
      {old new : GovernanceProposal} (hregistered : s.voterWeight voter = some registered)
      (hbound : getVoteWeightUsed s p voter + weight ≤ registered) (hold : s.proposal p = some old)
      (hexecuted : old.executed = false) (hcancelled : old.cancelled = false)
      (hnew : addVote old voteFor weight = .ok new) :
      Effect env s (.vote voter p voteFor weight) { s with
        voteWeightUsed := s.voteWeightUsed.set (p, voter) (getVoteWeightUsed s p voter + weight)
        proposal := s.proposal.set p new }
  | executed {p : ℕ} {old : GovernanceProposal} (hold : s.proposal p = some old)
      (hdelay : old.expiryLedger + old.executionDelayLedgers < env.ledger.sequence)
      (hexecuted : old.executed = false) (hcancelled : old.cancelled = false)
      (hpassed : old.votesAgainst < old.votesFor)
      (hquorum : old.quorumRequired ≤ old.votesFor + old.votesAgainst) :
      Effect env s (.execute p) { s with proposal := s.proposal.set p { old with executed := true } }
  | cancelled {canceller : Address} {p : ℕ} {old : GovernanceProposal} (hold : s.proposal p = some old)
      (hexecuted : old.executed = false) (hcancelled : old.cancelled = false) :
      Effect env s (.cancelProposal canceller p)
        { s with proposal := s.proposal.set p { old with cancelled := true } }
  | cleaned {admin : Address} {p : ℕ} {voters : List Address} :
      Effect env s (.cleanupProposalVotes admin p voters)
        { s with voteWeightUsed := removeVoteWeights p voters s.voteWeightUsed }
  | administered {call : Call} (hcall : call.Administers) (quorumRequired : Option ℤ)
      (quorumPercent : Option ℕ) (voterWeight : Storage Address ℤ) (total : Option ℤ) :
      Effect env s call { s with
        quorumRequired
        quorumPercent
        voterWeight
        totalRegisteredWeight := total }

/-- A successful call has one of these effects. -/
theorem exec_effect (h : exec host env call s world = .ok (s', world')) : Effect env s call s' := by
  by_cases hcall : call.Administers
  case pos =>
    cases exec_administered h hcall with
    | cleaned => exact .cleaned
    | _ => exact .administered hcall _ _ _ _
  cases call <;> simp only [exec, alone_eq_ok, Outcome.map_snd_eq_ok] at h
  case initializeContract admin creditOracle quorumRequired =>
    obtain ⟨hadmin, rfl⟩ := initializeContract_spec h.1
    exact .initialized hadmin
  case createProposal proposer weights period delay =>
    obtain ⟨⟨id, h⟩, -⟩ := h
    obtain ⟨-, -, hvalid, -, quorum, hquorum, rfl⟩ := createProposal_spec h
    exact .created hvalid hquorum
  case vote voter p voteFor weight =>
    obtain ⟨-, -, registered, old, new, hregistered, hbound, hold, -, hexecuted, hcancelled, hnew, rfl⟩ :=
      vote_spec h.1
    exact .voted hregistered hbound hold hexecuted hcancelled hnew
  case execute p =>
    obtain ⟨old, oracle, hold, -, hdelay, hexecuted, hcancelled, hpassed, hquorum, -, rfl⟩ :=
      execute_spec h
    exact .executed hold hdelay hexecuted hcancelled hpassed hquorum
  case cancelProposal canceller p =>
    obtain ⟨old, hold, hexecuted, hcancelled, rfl⟩ := cancelProposal_spec h.1
    exact .cancelled hold hexecuted hcancelled
  all_goals exact (hcall trivial).elim

/-- The calls that reach the credit oracle. -/
def Call.Reaches : Call → Prop
  | .execute _ | .applyWeights | .acceptOracleAdmin => True
  | _ => False

/-- What a call does outside the contract: `execute` queues the weights of the proposal it
executes, and two relays reach the credit oracle; nothing else leaves. -/
theorem exec_world (h : exec host env call s world = .ok (s', world')) :
    (world' = world ∧ ¬call.Reaches) ∨ ∃ oracle, s.creditOracle = some oracle ∧
      ((∃ p proposal, call = .execute p ∧ s.proposal p = some proposal ∧
        host.proposeWeights world oracle proposal.proposedWeights = .ok world') ∨
      (call = .applyWeights ∧ host.applyWeights world oracle = .ok world') ∨
      (call = .acceptOracleAdmin ∧ host.acceptAdmin world oracle env.currentContract = .ok world')) := by
  cases call <;> simp only [exec, alone_eq_ok] at h
  case execute p =>
    obtain ⟨proposal, oracle, hproposal, horacle, -, -, -, -, -, hqueue, -⟩ := execute_spec h
    exact Or.inr ⟨oracle, horacle, Or.inl ⟨p, proposal, rfl, hproposal, hqueue⟩⟩
  case applyWeights =>
    obtain ⟨-, oracle, horacle, happly⟩ := applyWeights_spec h
    exact Or.inr ⟨oracle, horacle, Or.inr (Or.inl ⟨rfl, happly⟩)⟩
  case acceptOracleAdmin =>
    obtain ⟨-, oracle, horacle, haccept⟩ := acceptOracleAdmin_spec h
    exact Or.inr ⟨oracle, horacle, Or.inr (Or.inr ⟨rfl, haccept⟩)⟩
  all_goals exact Or.inl ⟨h.2, id⟩

/-! ## The record of one proposal -/

/-- The calls that write the record under the id `p`. -/
def Concerns (s : State) (p : ℕ) : Call → Prop
  | .createProposal _ _ _ _ => nextId s = p
  | .vote _ proposalId _ _ => proposalId = p
  | .execute proposalId => proposalId = p
  | .cancelProposal _ proposalId => proposalId = p
  | _ => False

/-- A call that administers writes no record. -/
theorem Call.Administers.not_concerns (h : call.Administers) : ¬Concerns s p call := by
  cases call <;> first | exact id | exact h.elim

/-- What a successful call leaves under the id `p`. -/
inductive ProposalEffect (env : Env) (s : State) (p : ℕ) : Call → Option GovernanceProposal → Prop
  | created {proposer : Address} {weights : ScoringWeights} {period delay : ℕ} {quorum : ℤ}
      (hid : nextId s = p) (hquorum : currentQuorum s = .ok quorum) :
      ProposalEffect env s p (.createProposal proposer weights period delay)
        (some (freshProposal p proposer weights (env.ledger.sequence + period) delay quorum))
  | voted {voter : Address} {voteFor : Bool} {weight : ℤ} {old new : GovernanceProposal}
      (hold : s.proposal p = some old) (hnew : addVote old voteFor weight = .ok new) :
      ProposalEffect env s p (.vote voter p voteFor weight) (some new)
  | executed {old : GovernanceProposal} (hold : s.proposal p = some old) :
      ProposalEffect env s p (.execute p) (some { old with executed := true })
  | cancelled {canceller : Address} {old : GovernanceProposal} (hold : s.proposal p = some old) :
      ProposalEffect env s p (.cancelProposal canceller p) (some { old with cancelled := true })
  | kept {call : Call} (h : ¬Concerns s p call) : ProposalEffect env s p call (s.proposal p)

/-- A call touches the record of one proposal at most. -/
theorem Effect.proposal (h : Effect env s call s') (p : ℕ) :
    ProposalEffect env s p call (s'.proposal p) := by
  cases h with
  | initialized hadmin => exact .kept id
  | @created proposer weights period delay quorum hvalid hquorum =>
    by_cases hp : nextId s = p
    · subst hp
      simp only [Storage.set_self]
      exact .created rfl hquorum
    · simp only [Storage.set_of_ne _ _ (Ne.symm hp)]
      exact .kept hp
  | @voted voter q voteFor weight registered old new hregistered hbound hold hexecuted hcancelled hnew =>
    by_cases hp : q = p
    · subst hp
      simp only [Storage.set_self]
      exact .voted hold hnew
    · simp only [Storage.set_of_ne _ _ (Ne.symm hp)]
      exact .kept hp
  | @executed q old hold hdelay hexecuted hcancelled hpassed hquorum =>
    by_cases hp : q = p
    · subst hp
      simp only [Storage.set_self]
      exact .executed hold
    · simp only [Storage.set_of_ne _ _ (Ne.symm hp)]
      exact .kept hp
  | @cancelled canceller q old hold hexecuted hcancelled =>
    by_cases hp : q = p
    · subst hp
      simp only [Storage.set_self]
      exact .cancelled hold
    · simp only [Storage.set_of_ne _ _ (Ne.symm hp)]
      exact .kept hp
  | cleaned => exact .kept id
  | administered hcall => exact .kept hcall.not_concerns

/-- A record, once stored, is never deleted. -/
theorem Effect.proposal_isSome (h : Effect env s call s') (hsome : (s.proposal p).isSome) :
    (s'.proposal p).isSome := by
  have heffect := h.proposal p
  generalize s'.proposal p = after at heffect
  cases heffect with
  | kept => exact hsome
  | _ => rfl

/-- A record that is there after a call was there before it, or the call created it. -/
theorem Effect.proposal_cases (h : Effect env s call s') (hsome : (s'.proposal p).isSome) :
    (s.proposal p).isSome ∨ (call.IsCreation ∧ nextId s = p) := by
  have heffect := h.proposal p
  generalize s'.proposal p = after at heffect hsome
  cases heffect with
  | created hid => exact Or.inr ⟨⟨_, _, _, _, rfl⟩, hid⟩
  | kept => exact Or.inl hsome
  | voted hold | executed hold | cancelled hold => exact Or.inl (Option.isSome_of_eq_some hold)

/-- The admin is set once, by the initialisation, which also sets the counter; otherwise
the counter moves with every creation. -/
theorem Effect.counter (h : Effect env s call s') :
    (s.admin = none ∧ s'.admin.isSome ∧ nextId s' = firstProposalId) ∨
    (s'.admin = s.admin ∧ call.IsCreation ∧ nextId s' = nextId s + 1) ∨
    (s'.admin = s.admin ∧ ¬call.IsCreation ∧ nextId s' = nextId s) := by
  cases h with
  | initialized hadmin => exact Or.inl ⟨hadmin, rfl, rfl⟩
  | created => exact Or.inr (Or.inl ⟨rfl, ⟨_, _, _, _, rfl⟩, rfl⟩)
  | administered hcall =>
    refine Or.inr (Or.inr ⟨rfl, ?_, rfl⟩)
    rintro ⟨_, _, _, _, rfl⟩
    exact hcall
  | _ =>
    refine Or.inr (Or.inr ⟨rfl, ?_, rfl⟩)
    rintro ⟨_, _, _, _, hcall⟩
    cases hcall

/-- Deleting entries of one proposal keeps those of the others. -/
theorem removeVoteWeights_of_ne {proposalId : ℕ} (voters : List Address)
    (used : Storage (ℕ × Address) ℤ) {voter : Address} (h : p ≠ proposalId) :
    removeVoteWeights proposalId voters used (p, voter) = used (p, voter) := by
  induction voters generalizing used with
  | nil => rfl
  | cons first rest ih =>
    have hkey : (p, voter) ≠ (proposalId, first) := fun heq => h (Prod.mk.inj heq).1
    simp only [removeVoteWeights, List.foldl_cons] at ih ⊢
    rw [ih, Storage.remove_of_ne used hkey]

end StellarDidCredit.Governance
