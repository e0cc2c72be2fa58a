import StellarDidCredit.Lib.Journal
import StellarDidCredit.Governance.Availability

/-!
# The events of the governance contract

What the entry points publish, and what a reader of the events knows about the contract. Reading
the whole log in order gives the admin, the next id, the registered weights with their total, and
of every proposal its proposer, its expiry, its tallies and whether it was executed or cancelled;
the proposed weights and the quorums are not told.

The log can be checked while it is read: every event is one that the contract could publish in
what was read before it, and the tallies of an execution are the sums of the votes.
-/

namespace StellarDidCredit.Governance

variable {κ : Type} {host : Host κ} {env : Env} {call : Call} {s s' : State} {world world' : κ} {p : ℕ}
  {voter : Address}

/-- An event that the contract publishes. -/
inductive Notice where
  | initialized (admin creditOracle : Address)
  | proposalCreated (id : ℕ) (proposer : Address) (expiryLedger : ℕ)
  | voted (proposalId : ℕ) (voter : Address) (voteFor : Bool) (voteWeight : ℤ)
  | proposalExecuted (proposalId : ℕ) (votesFor votesAgainst : ℤ)
  | votesCleaned (proposalId : ℕ) (count : ℕ)
  | weightsApplied (sequence : ℕ)
  | voterRegistered (voter : Address) (weight : ℤ)
  | voterUpdated (voter : Address) (weight : ℤ)
  | voterDeregistered (voter : Address)
  | proposalCancelled (proposalId : ℕ) (canceller : Address)
  deriving DecidableEq, Repr

/-- What a successful call publishes. A cleanup of a proposal that is not executed does nothing. -/
def Call.notices (env : Env) (s : State) : Call → List Notice
  | .initializeContract admin creditOracle _ => [.initialized admin creditOracle]
  | .setQuorum _ _ => []
  | .setQuorumPercent _ _ => []
  | .createProposal proposer _ votingPeriodLedgers _ =>
    [.proposalCreated (nextId s) proposer (env.ledger.sequence + votingPeriodLedgers)]
  | .vote voter proposalId voteFor voteWeight => [.voted proposalId voter voteFor voteWeight]
  | .execute proposalId =>
    (s.proposal proposalId).elim [] fun proposal =>
      [.proposalExecuted proposalId proposal.votesFor proposal.votesAgainst]
  | .cleanupProposalVotes _ proposalId voters =>
    if (s.proposal proposalId).any (·.executed) then [.votesCleaned proposalId voters.length] else []
  | .cancelProposal canceller proposalId => [.proposalCancelled proposalId canceller]
  | .applyWeights => [.weightsApplied env.ledger.sequence]
  | .acceptOracleAdmin => []
  | .registerVoter _ voter weight => [.voterRegistered voter weight]
  | .updateVoterWeight _ voter weight => [.voterUpdated voter weight]
  | .deregisterVoter _ voter => [.voterDeregistered voter]

/-- The events of a history, in order. -/
def noticesOf (history : List Move) : List Notice := journal (fun c e => e.call.notices e.env c.state) history

/-! ## Reading them -/

/-- What the events tell of a proposal. -/
structure Ballot where
  proposer : Address
  expiryLedger : ℕ
  votesFor : ℤ := 0
  votesAgainst : ℤ := 0
  executed : Bool := false
  cancelled : Bool := false
  deriving DecidableEq, Repr

/-- The same of a record. -/
def GovernanceProposal.ballot (record : GovernanceProposal) : Ballot where
  proposer := record.proposer
  expiryLedger := record.expiryLedger
  votesFor := record.votesFor
  votesAgainst := record.votesAgainst
  executed := record.executed
  cancelled := record.cancelled

/-- One more vote. -/
def Ballot.count (ballot : Ballot) (voteFor : Bool) (voteWeight : ℤ) : Ballot :=
  if voteFor then { ballot with votesFor := ballot.votesFor + voteWeight }
  else { ballot with votesAgainst := ballot.votesAgainst + voteWeight }

/-- Neither executed nor cancelled. -/
def Ballot.Open (ballot : Ballot) : Prop := ballot.executed = false ∧ ballot.cancelled = false

/-- What a reader of the events knows. -/
structure View where
  admin : Option Address := none
  creditOracle : Option Address := none
  nextId : ℕ := firstProposalId
  ballots : Storage ℕ Ballot := Storage.empty
  voterWeight : Storage Address ℤ := Storage.empty
  totalRegisteredWeight : ℤ := 0

/-- The same of the stored entries. -/
def State.view (s : State) : View where
  admin := s.admin
  creditOracle := s.creditOracle
  nextId := Governance.nextId s
  ballots := s.proposal.mapValues (·.ballot)
  voterWeight := s.voterWeight
  totalRegisteredWeight := getTotalRegisteredWeight s

/-- Rewrite what is known of a proposal. -/
def View.amend (v : View) (proposalId : ℕ) (f : Ballot → Ballot) : View :=
  (v.ballots proposalId).elim v fun ballot => { v with ballots := v.ballots.set proposalId (f ballot) }

/-- Replace the weight of a voter; zero deletes it. -/
def View.reweigh (v : View) (voter : Address) (weight : ℤ) : View :=
  { v with
    voterWeight := setWeight v.voterWeight voter weight
    totalRegisteredWeight := v.totalRegisteredWeight - (v.voterWeight voter).getD 0 + weight }

/-- One more event. -/
def View.read (v : View) : Notice → View
  | .initialized admin creditOracle =>
    { v with admin := some admin, creditOracle := some creditOracle, nextId := firstProposalId }
  | .proposalCreated id proposer expiryLedger =>
    { v with nextId := id + 1, ballots := v.ballots.set id { proposer, expiryLedger } }
  | .voted proposalId _ voteFor voteWeight => v.amend proposalId (·.count voteFor voteWeight)
  | .proposalExecuted proposalId _ _ => v.amend proposalId fun ballot => { ballot with executed := true }
  | .votesCleaned _ _ => v
  | .weightsApplied _ => v
  | .voterRegistered voter weight => v.reweigh voter weight
  | .voterUpdated voter weight => v.reweigh voter weight
  | .voterDeregistered voter => v.reweigh voter 0
  | .proposalCancelled proposalId _ => v.amend proposalId fun ballot => { ballot with cancelled := true }

/-- The event is one that the contract could publish in what was read before it. -/
def View.Allows (v : View) : Notice → Prop
  | .initialized _ _ => v.admin = none
  | .proposalCreated id _ _ => id = v.nextId
  | .voted proposalId voter _ voteWeight =>
    0 < voteWeight ∧ voteWeight ≤ (v.voterWeight voter).getD 0 ∧ ∃ ballot, v.ballots proposalId = some ballot ∧
      ballot.Open
  | .proposalExecuted proposalId votesFor votesAgainst =>
    v.creditOracle.isSome ∧ ∃ ballot, v.ballots proposalId = some ballot ∧ ballot.Open ∧
      ballot.votesFor = votesFor ∧ ballot.votesAgainst = votesAgainst ∧ votesAgainst < votesFor
  | .votesCleaned proposalId _ => v.admin.isSome ∧ ∃ ballot, v.ballots proposalId = some ballot ∧ ballot.executed
  | .weightsApplied _ => v.creditOracle.isSome
  | .voterRegistered _ weight => v.admin.isSome ∧ 0 < weight
  | .voterUpdated _ weight => v.admin.isSome ∧ 0 ≤ weight
  | .voterDeregistered _ => v.admin.isSome
  | .proposalCancelled proposalId canceller =>
    ∃ ballot, v.ballots proposalId = some ballot ∧ ballot.Open ∧
      (v.admin = some canceller ∨ ballot.proposer = canceller)

/-! ## One call -/

/-- What is known of a proposal with a record. -/
theorem ballots_of_proposal {record : GovernanceProposal} (h : s.proposal p = some record) :
    s.view.ballots p = some record.ballot := by
  change (s.proposal p).map _ = _
  rw [h, Option.map_some]

/-- A record that is replaced amends what is known of it. -/
theorem amend_view {old new : GovernanceProposal} {f : Ballot → Ballot} (hold : s.proposal p = some old)
    (hnew : new.ballot = f old.ballot) :
    { s.view with ballots := (s.proposal.set p new).mapValues (·.ballot) } = s.view.amend p f := by
  rw [View.amend, ballots_of_proposal hold, Storage.mapValues_set, hnew]
  rfl

/-- A vote counts in one of the tallies. -/
theorem ballot_addVote {old new : GovernanceProposal} {voteFor : Bool} {weight : ℤ}
    (h : addVote old voteFor weight = .ok new) : new.ballot = old.ballot.count voteFor weight := by
  cases voteFor with
  | true =>
    simp only [addVote, if_true, Outcome.bind_eq_ok, Outcome.okOr_eq_ok, I128.checkedAdd_eq_some,
      Except.ok.injEq] at h
    obtain ⟨_, ⟨-, rfl⟩, rfl⟩ := h
    rfl
  | false =>
    simp only [addVote, Bool.false_eq_true, if_false, Outcome.bind_eq_ok, Outcome.okOr_eq_ok,
      I128.checkedAdd_eq_some, Except.ok.injEq] at h
    obtain ⟨_, ⟨-, rfl⟩, rfl⟩ := h
    rfl

/-- A replaced weight moves the view. -/
theorem Reweighed.view {weight : ℤ} (h : Reweighed s s' voter weight)
    (hrest : s'.view = { s.view with
      voterWeight := s'.voterWeight
      totalRegisteredWeight := getTotalRegisteredWeight s' }) : s'.view = s.view.reweigh voter weight := by
  rw [hrest, h.voterWeight, h.total]
  rfl

/-- A successful call moves the view as its events do. -/
theorem view_of_exec (h : exec host env call s world = .ok (s', world')) :
    s'.view = (call.notices env s).foldl View.read s.view := by
  have hweights := exec_weights h
  by_cases hcall : call.Administers
  · cases exec_administered h hcall with
    | registered | updated | deregistered =>
      obtain ⟨voter, weight, hreweighs, hreweighed⟩ | ⟨hnone, -⟩ := hweights
      · obtain ⟨rfl, rfl⟩ := Prod.mk.inj (Option.some.inj hreweighs)
        exact hreweighed.view rfl
      · cases hnone
    | cleaned | uncleaned =>
      rw [Call.notices]
      split <;> rfl
    | _ => rfl
  · cases exec_effect h with
    | initialized => rfl
    | created =>
      simp only [State.view, Storage.mapValues_set]
      rfl
    | voted hregistered hbound hold hexecuted hcancelled hnew => exact amend_view hold (ballot_addVote hnew)
    | @executed p old hold =>
      rw [Call.notices, hold]
      exact amend_view hold rfl
    | cancelled hold => exact amend_view hold rfl
    | cleaned => exact absurd trivial hcall
    | administered hadministers => exact absurd hadministers hcall

/-! ## The check -/

/-- The proposer of every record is stored beside it, and no used weight is negative. -/
structure NoticesOk (s : State) : Prop where
  proposers : ∀ p record, s.proposal p = some record → s.proposer p = some record.proposer
  used : ∀ p voter, 0 ≤ getVoteWeightUsed s p voter

/-- A fresh contract is in order. -/
theorem noticesOk_start : NoticesOk {} where
  proposers _ _ h := by cases h
  used _ _ := le_rfl

/-- A record that is replaced keeps its proposer. -/
theorem proposers_set {old new : GovernanceProposal}
    (h : ∀ p record, s.proposal p = some record → s.proposer p = some record.proposer)
    (hold : s.proposal p = some old) (hsame : new.proposer = old.proposer) (q : ℕ) (record : GovernanceProposal)
    (hrecord : s.proposal.set p new q = some record) : s.proposer q = some record.proposer := by
  rw [Storage.set_apply] at hrecord
  split at hrecord
  case isTrue hq =>
    obtain rfl := Option.some.inj hrecord
    rw [hq, hsame]
    exact h p old hold
  case isFalse => exact h q record hrecord

/-- A call keeps it in order. -/
theorem NoticesOk.step (h : NoticesOk s) (hexec : exec host env call s world = .ok (s', world')) :
    NoticesOk s' := by
  refine ⟨?_, used_nonneg_step h.used hexec⟩
  cases exec_effect hexec with
  | created =>
    intro q record hrecord
    simp only [Storage.set_apply] at hrecord ⊢
    split at hrecord
    case isTrue hq =>
      obtain rfl := Option.some.inj hrecord
      rw [if_pos hq]
      rfl
    case isFalse hq =>
      rw [if_neg hq]
      exact h.proposers q record hrecord
  | voted hregistered hbound hold hexecuted hcancelled hnew =>
    obtain ⟨votesFor, votesAgainst, rfl⟩ := addVote_fields hnew
    exact proposers_set h.proposers hold rfl
  | executed hold | cancelled hold => exact proposers_set h.proposers hold rfl
  | _ => exact h.proposers

/-- A proposal is cancelled by the admin or by its proposer. -/
theorem cancelProposal_by {canceller : Address} (h : cancelProposal env canceller p s = .ok s') :
    ∃ old, s.proposal p = some old ∧ old.ballot.Open ∧
      (s.admin = some canceller ∨ s.proposer p = some canceller) := by
  simp only [cancelProposal, Outcome.bind_eq_ok, Outcome.require_eq_ok, requireAuth_eq_ok, Outcome.okOr_eq_ok,
    Except.ok.injEq] at h
  obtain ⟨_, -, old, hold, _, hexecuted, _, hcancelled, admin, hadmin, proposer, hproposer, _, hby, -⟩ := h
  refine ⟨old, hold, ⟨hexecuted, hcancelled⟩, ?_⟩
  rcases hby with rfl | rfl
  · exact Or.inl hadmin
  · exact Or.inr hproposer

/-- What a successful call publishes is allowed. -/
theorem NoticesOk.allows (h : NoticesOk s) (hexec : exec host env call s world = .ok (s', world')) :
    Checked View.read View.Allows s.view (call.notices env s) := by
  cases call <;> simp only [exec, alone_eq_ok, Outcome.map_snd_eq_ok] at hexec
  case initializeContract admin creditOracle quorum => exact ⟨(initializeContract_spec hexec.1).1, trivial⟩
  case setQuorum | setQuorumPercent => trivial
  case createProposal proposer weights period delay => exact ⟨rfl, trivial⟩
  case vote voter p voteFor weight =>
    obtain ⟨-, hpositive, registered, old, new, hregistered, hbound, hold, -, hexecuted, hcancelled, -⟩ :=
      vote_spec hexec.1
    have hused := h.used p voter
    have hweight : weight ≤ (s.voterWeight voter).getD 0 := by
      rw [hregistered, Option.getD_some]
      omega
    exact ⟨⟨hpositive, hweight, _, ballots_of_proposal hold, hexecuted, hcancelled⟩, trivial⟩
  case execute p =>
    obtain ⟨old, oracle, hold, horacle, -, hexecuted, hcancelled, hpassed, -⟩ := execute_spec hexec
    rw [Call.notices, hold]
    exact ⟨⟨Option.isSome_of_eq_some horacle, _, ballots_of_proposal hold, ⟨hexecuted, hcancelled⟩, rfl, rfl,
      hpassed⟩, trivial⟩
  case cleanupProposalVotes admin p voters =>
    rw [Call.notices]
    split
    case isTrue hany =>
      obtain ⟨record, hrecord, hexecuted⟩ := (Option.any_eq_true _ _).mp hany
      simp only [cleanupProposalVotes, Outcome.bind_eq_ok, requireAdminArg_eq_ok] at hexec
      obtain ⟨⟨_, hadmin, -⟩, -⟩ := hexec
      exact ⟨⟨Option.isSome_of_eq_some hadmin, _, ballots_of_proposal hrecord, hexecuted⟩, trivial⟩
    case isFalse => trivial
  case cancelProposal canceller p =>
    obtain ⟨old, hold, hopen, hby⟩ := cancelProposal_by hexec.1
    rw [h.proposers p old hold] at hby
    exact ⟨⟨_, ballots_of_proposal hold, hopen, hby.imp_right fun hproposer => Option.some.inj hproposer⟩, trivial⟩
  case applyWeights =>
    obtain ⟨-, oracle, horacle, -⟩ := applyWeights_spec hexec
    exact ⟨Option.isSome_of_eq_some horacle, trivial⟩
  case acceptOracleAdmin => trivial
  case registerVoter admin voter weight =>
    obtain ⟨hadmin, -, hpositive, -⟩ := registerVoter_spec hexec.1
    exact ⟨⟨Option.isSome_of_eq_some hadmin, hpositive⟩, trivial⟩
  case updateVoterWeight admin voter weight =>
    obtain ⟨hadmin, -, hnonneg, -⟩ := updateVoterWeight_spec hexec.1
    exact ⟨⟨Option.isSome_of_eq_some hadmin, hnonneg⟩, trivial⟩
  case deregisterVoter admin voter =>
    obtain ⟨hadmin, -⟩ := deregisterVoter_spec hexec.1
    exact ⟨Option.isSome_of_eq_some hadmin, trivial⟩

/-- The events of a successful call lead from the view before it to the one after it. -/
theorem NoticesOk.reads (h : NoticesOk s) (hexec : exec host env call s world = .ok (s', world')) :
    Reads View.read View.Allows s.view (call.notices env s) s'.view :=
  ⟨view_of_exec hexec, h.allows hexec⟩

/-! ## Used weights -/

/-- The weight that the event says a voter put on a proposal. -/
def Notice.cast (p : ℕ) (voter : Address) : Notice → ℤ
  | .voted proposalId x _ voteWeight => if (p, voter) = (proposalId, x) then voteWeight else 0
  | _ => 0

/-- The weight that the events say a voter put on a proposal. -/
def castBy (notices : List Notice) (p : ℕ) (voter : Address) : ℤ := (notices.map (·.cast p voter)).sum

/-- No event says that used weights of a proposal were deleted. -/
def Uncleaned (notices : List Notice) (p : ℕ) : Prop := ∀ count, .votesCleaned p count ∉ notices

/-- A deletion of other entries leaves an entry alone. -/
theorem getVoteWeightUsed_cleaned {admin : Address} {q : ℕ} {voters : List Address}
    (h : cleanupProposalVotes env admin q voters s = .ok s') (p : ℕ) (voter : Address) :
    getVoteWeightUsed s' p voter = getVoteWeightUsed s p voter ∨
      (getVoteWeightUsed s' p voter = 0 ∧
        ¬Uncleaned ((Call.cleanupProposalVotes admin q voters).notices env s) p) := by
  simp only [cleanupProposalVotes, Outcome.bind_eq_ok, Outcome.okOr_eq_ok] at h
  obtain ⟨_, -, _, -, record, hrecord, h⟩ := h
  split at h
  case isTrue hexecuted =>
    obtain rfl := Except.ok.inj h
    have hnotices : (Call.cleanupProposalVotes admin q voters).notices env s = [.votesCleaned q voters.length] := by
      simp [Call.notices, hrecord, hexecuted]
    by_cases hq : p = q
    · rcases removeVoteWeights_cases q voters s.voteWeightUsed (p, voter) with hsame | hnone
      · exact Or.inl (congrArg (·.getD 0) hsame)
      · refine Or.inr ⟨congrArg (·.getD 0) hnone, fun huncleaned => huncleaned voters.length ?_⟩
        rw [hnotices, hq]
        exact List.mem_singleton_self _
    · exact Or.inl (congrArg (·.getD 0) (removeVoteWeights_of_ne voters _ hq))
  case isFalse =>
    obtain rfl := Except.ok.inj h
    exact Or.inl rfl

/-- A successful call uses the weight that its events say, or its events say that it deletes used weights. -/
theorem used_of_notices (h : exec host env call s world = .ok (s', world')) (p : ℕ) (voter : Address) :
    getVoteWeightUsed s' p voter = getVoteWeightUsed s p voter + castBy (call.notices env s) p voter ∨
      (getVoteWeightUsed s' p voter = 0 ∧ castBy (call.notices env s) p voter = 0 ∧
        ¬Uncleaned (call.notices env s) p) := by
  cases call
  case vote x q voteFor weight =>
    simp only [exec, alone_eq_ok] at h
    obtain ⟨-, -, registered, old, new, -, -, -, -, -, -, -, rfl⟩ := vote_spec h.1
    refine Or.inl ?_
    simp only [getVoteWeightUsed, Storage.set_apply, castBy, Call.notices, List.map_singleton, Notice.cast,
      List.sum_singleton]
    split
    case isTrue hkey => rw [Option.getD_some, (Prod.mk.inj hkey).1, (Prod.mk.inj hkey).2]
    case isFalse => rw [add_zero]
  case cleanupProposalVotes admin q voters =>
    simp only [exec, alone_eq_ok] at h
    have hnone : castBy ((Call.cleanupProposalVotes admin q voters).notices env s) p voter = 0 := by
      rw [Call.notices]
      split <;> rfl
    rw [hnone, add_zero]
    refine (getVoteWeightUsed_cleaned h.1 p voter).imp_right fun hgone => ?_
    exact ⟨hgone.1, rfl, hgone.2⟩
  case execute q =>
    have hnone : castBy ((Call.execute q).notices env s) p voter = 0 := by
      rw [Call.notices]
      cases s.proposal q <;> rfl
    rw [hnone, add_zero]
    cases exec_effect h <;> exact Or.inl rfl
  all_goals cases exec_effect h <;> exact Or.inl (add_zero _).symm

/-- What was used is at most what the events say, and as much where nothing was deleted. -/
def UsedTold (notices : List Notice) (s : State) : Prop :=
  ∀ p voter, getVoteWeightUsed s p voter ≤ castBy notices p voter ∧
    (Uncleaned notices p → getVoteWeightUsed s p voter = castBy notices p voter)

/-- What is told of used weights stays true with one more call. -/
theorem UsedTold.step {notices : List Notice} (h : UsedTold notices s) (hok : NoticesOk s)
    (hexec : exec host env call s world = .ok (s', world')) : UsedTold (notices ++ call.notices env s) s' := by
  intro p voter
  obtain ⟨hle, heq⟩ := h p voter
  have hused := hok.used p voter
  have hcast : castBy (notices ++ call.notices env s) p voter =
      castBy notices p voter + castBy (call.notices env s) p voter := by
    rw [castBy, List.map_append, List.sum_append]
    rfl
  have huncleaned : Uncleaned (notices ++ call.notices env s) p →
      Uncleaned notices p ∧ Uncleaned (call.notices env s) p := fun hall =>
    ⟨fun count hmem => hall count (List.mem_append_left _ hmem),
      fun count hmem => hall count (List.mem_append_right _ hmem)⟩
  rw [hcast]
  rcases used_of_notices hexec p voter with hadds | ⟨hzero, hnone, hcleaned⟩
  · rw [hadds]
    exact ⟨by omega, fun hall => by rw [heq (huncleaned hall).1]⟩
  · exact ⟨by omega, fun hall => absurd (huncleaned hall).2 hcleaned⟩

/-! ## The whole log -/

/-- A reader of all events of a governance contract knows the admin, the next id, the registered weights
with their total and the tallies and flags of every proposal; every event is one that the contract could
publish in what was read before it; and of the weight that the votes of a voter put on a proposal all is
stored as used, unless an event says that used weights of the proposal were deleted. -/
theorem governance_notices_tell {ledger : Ledger} {history : List Move} {final : Config}
    (hrun : Run (StepOf Config.next) (.fresh ledger) history final) :
    (noticesOf history).foldl View.read {} = final.state.view ∧
    Checked View.read View.Allows {} (noticesOf history) ∧
    ∀ p voter, getVoteWeightUsed final.state p voter ≤ castBy (noticesOf history) p voter ∧
      (Uncleaned (noticesOf history) p →
        getVoteWeightUsed final.state p voter = castBy (noticesOf history) p voter) := by
  have hkeep : ∀ c e c', NoticesOk c.state → StepOf Config.next c e c' → NoticesOk c'.state :=
    fun _ _ _ hok hstep => hok.step (Config.exec_of_next hstep).2.2
  have hreads : ∀ c (e : Event) c', NoticesOk c.state → StepOf Config.next c e c' →
      Reads View.read View.Allows c.state.view (e.call.notices e.env c.state) c'.state.view :=
    fun _ _ _ hok hstep => hok.reads (Config.exec_of_next hstep).2.2
  have hused : ∀ c (e : Event) c' notices, NoticesOk c.state → StepOf Config.next c e c' →
      UsedTold notices c.state → UsedTold (notices ++ e.call.notices e.env c.state) c'.state :=
    fun _ _ _ _ hok hstep htold => htold.step hok (Config.exec_of_next hstep).2.2
  have htold : Reads View.read View.Allows {} (noticesOf history) final.state.view :=
    hrun.reads_journal (fun c => c.state.view) _ hkeep hreads noticesOk_start
  let Told (notices : List Notice) (c : Config) : Prop := UsedTold notices c.state
  exact ⟨htold.view.symm, htold.checked,
    hrun.journal_invariant (P := Told) _ hkeep hused noticesOk_start fun _ _ => ⟨le_rfl, fun _ => rfl⟩⟩

/-- The events of a proposal that passes and is executed. -/
theorem governance_notices_tell_lifecycle : ∃ history final,
    Run (StepOf Config.next) (.fresh (.numbered 0)) history final ∧
    noticesOf history = [.initialized (.account 1) (.contract 11), .voterRegistered (.account 2) 10,
      .proposalCreated 1 (.account 3) 101, .voted 1 (.account 2) true 10, .proposalExecuted 1 10 0] ∧
    (noticesOf history).foldl View.read {} = final.state.view := by
  obtain ⟨history, final, hrun, hobserved⟩ := Run.exists_of_replay
    (show (replay Config.next (.fresh (.numbered 0)) sampleLifecycle).map (fun r => noticesOf r.1) =
      some [.initialized (.account 1) (.contract 11), .voterRegistered (.account 2) 10,
        .proposalCreated 1 (.account 3) 101, .voted 1 (.account 2) true 10, .proposalExecuted 1 10 0] from rfl)
  exact ⟨history, final, hrun, hobserved, (governance_notices_tell hrun).1⟩

end StellarDidCredit.Governance
