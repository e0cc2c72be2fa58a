import StellarDidCredit.Governance.Tallies

/-!
# Available vote weight

The view subtracts the weight that a voter has used on a proposal from the weight it is registered
with, and `vote` compares with the same difference. A used weight outlives the registration it was
spent from: once the admin lowers or removes a weight that has been spent, the view is negative.
-/

namespace StellarDidCredit.Governance

variable {κ : Type} {host : Host κ} {env : Env} {call : Call} {s s' : State} {world world' : κ} {p : ℕ}
  {voter : Address} {ledger : Ledger} {history : List Move} {final : Config}

/-! ## The weights of a state -/

/-- Used weights are not negative, registered ones are neither negative nor too large. -/
structure WeightsOk (s : State) : Prop where
  used_nonneg : ∀ p voter, 0 ≤ getVoteWeightUsed s p voter
  registered_nonneg : ∀ voter, 0 ≤ weightOf s voter
  registered_le : ∀ voter, weightOf s voter ≤ I128.max

/-- The voter has used no more on the proposal than it is registered with. -/
def Covered (s : State) (p : ℕ) (voter : Address) : Prop := getVoteWeightUsed s p voter ≤ weightOf s voter

/-- The view is the difference, where it fits. -/
theorem available_eq_ok_iff {available : ℤ} :
    getAvailableVoteWeight s p voter = .ok available ↔
      (I128.min ≤ available ∧ available ≤ I128.max) ∧
        available = weightOf s voter - getVoteWeightUsed s p voter := by
  simp only [getAvailableVoteWeight, Outcome.okOr_eq_ok, I128.checkedSub_eq_some, weightOf]
  constructor
  · rintro ⟨hfits, rfl⟩
    exact ⟨hfits, rfl⟩
  · rintro ⟨hfits, rfl⟩
    exact ⟨hfits, rfl⟩

/-- A covered use leaves the difference available. -/
theorem WeightsOk.available_eq (h : WeightsOk s) (hcovered : Covered s p voter) :
    getAvailableVoteWeight s p voter = .ok (weightOf s voter - getVoteWeightUsed s p voter) := by
  have hused := h.used_nonneg p voter
  have hregistered := h.registered_le voter
  have hmin : I128.min ≤ 0 := by decide
  unfold Covered at hcovered
  exact available_eq_ok_iff.mpr ⟨⟨by omega, by omega⟩, rfl⟩

/-! ## Voting -/

/-- The proposal takes votes in the ledger. -/
structure TakesVotes (env : Env) (record : GovernanceProposal) : Prop where
  notExpired : env.ledger.sequence ≤ record.expiryLedger
  notExecuted : record.executed = false
  notCancelled : record.cancelled = false

/-- The tally that a vote adds to. -/
def tallyFor (record : GovernanceProposal) (voteFor : Bool) : ℤ :=
  if voteFor then record.votesFor else record.votesAgainst

/-- A weight that fits in its tally can be added to it. -/
theorem addVote_succeeds {record : GovernanceProposal} {voteFor : Bool} {weight : ℤ}
    (hnonneg : TalliesNonneg record) (hweight : 0 < weight)
    (hroom : tallyFor record voteFor + weight ≤ I128.max) :
    ∃ record', addVote record voteFor weight = .ok record' := by
  obtain ⟨hfor, hagainst⟩ := hnonneg
  have hmin : I128.min ≤ 0 := by decide
  cases voteFor with
  | true =>
    have hfits : I128.min ≤ record.votesFor + weight ∧ record.votesFor + weight ≤ I128.max :=
      ⟨by omega, hroom⟩
    refine ⟨{ record with votesFor := record.votesFor + weight }, ?_⟩
    simp only [addVote, if_true, I128.checkedAdd, I128.checked, if_pos hfits]
    rfl
  | false =>
    have hfits : I128.min ≤ record.votesAgainst + weight ∧ record.votesAgainst + weight ≤ I128.max :=
      ⟨by omega, hroom⟩
    refine ⟨{ record with votesAgainst := record.votesAgainst + weight }, ?_⟩
    simp only [addVote, Bool.false_eq_true, if_false, I128.checkedAdd, I128.checked, if_pos hfits]
    rfl

/-- With room in the tally an authorised voter casts exactly the positive weights up to the
difference. -/
theorem WeightsOk.vote_succeeds_iff (h : WeightsOk s)
    {record : GovernanceProposal} {voteFor : Bool} {weight : ℤ} (hauth : env.Authorized voter)
    (hrecord : s.proposal p = some record) (htakes : TakesVotes env record)
    (hnonneg : TalliesNonneg record)
    (hroom : tallyFor record voteFor + (weightOf s voter - getVoteWeightUsed s p voter) ≤ I128.max) :
    (∃ s', vote env voter p voteFor weight s = .ok s') ↔
      0 < weight ∧ weight ≤ weightOf s voter - getVoteWeightUsed s p voter := by
  constructor
  · rintro ⟨s', hvote⟩
    obtain ⟨-, hpositive, registered, _, _, hregistered, hbound, -⟩ := vote_spec hvote
    have hweight : weightOf s voter = registered := by rw [weightOf, hregistered, Option.getD_some]
    exact ⟨hpositive, by omega⟩
  · rintro ⟨hpositive, hle⟩
    have hused := h.used_nonneg p voter
    have hregistered := h.registered_le voter
    have hmin : I128.min ≤ 0 := by decide
    -- a voter without a registration has nothing to cast
    obtain ⟨registered, hsome⟩ : ∃ registered, s.voterWeight voter = some registered := by
      refine Option.ne_none_iff_exists'.mp fun hnone => ?_
      have hzero : weightOf s voter = 0 := by rw [weightOf, hnone, Option.getD_none]
      omega
    have hweight : weightOf s voter = registered := by rw [weightOf, hsome, Option.getD_some]
    have hroom : tallyFor record voteFor + weight ≤ I128.max := by omega
    obtain ⟨record', hadd⟩ := addVote_succeeds hnonneg hpositive hroom
    refine ⟨{ s with
      voteWeightUsed := s.voteWeightUsed.set (p, voter) (getVoteWeightUsed s p voter + weight)
      proposal := s.proposal.set p record' }, ?_⟩
    simp only [vote, Outcome.bind_eq_ok, Outcome.require_eq_ok, requireAuth_eq_ok, Outcome.okOr_eq_ok,
      I128.checkedSub_eq_some, I128.checkedAdd_eq_some]
    exact ⟨(), hauth, (), hpositive, registered, hsome, _, ⟨⟨by omega, by omega⟩, rfl⟩, (), by omega,
      record, hrecord, (), htakes.notExpired, (), htakes.notExecuted, (), htakes.notCancelled, record',
      hadd, _, ⟨⟨by omega, by omega⟩, rfl⟩, rfl⟩

/-- A vote lowers the view by the weight that it casts. -/
theorem WeightsOk.available_after_vote (h : WeightsOk s) {voteFor : Bool} {weight : ℤ}
    (hvote : vote env voter p voteFor weight s = .ok s') :
    getAvailableVoteWeight s' p voter = .ok (weightOf s voter - getVoteWeightUsed s p voter - weight) := by
  obtain ⟨-, hpositive, registered, _, _, hregistered, hbound, -, -, -, -, -, rfl⟩ := vote_spec hvote
  have hused := h.used_nonneg p voter
  have hle := h.registered_le voter
  have hmin : I128.min ≤ 0 := by decide
  have hweight : weightOf s voter = registered := by rw [weightOf, hregistered, Option.getD_some]
  rw [available_eq_ok_iff]
  simp only [getVoteWeightUsed, Storage.set_self, Option.getD_some] at hused hbound ⊢
  refine ⟨⟨by omega, by omega⟩, ?_⟩
  rw [sub_sub]
  rfl

/-! ## The property -/

/-- The view of a state is what its votes accept: it is defined and not negative, zero for an address
without a registration, and on a proposal that takes votes, with room in the tally, an authorised voter
casts exactly the positive weights up to the view, which then drops by the weight cast. -/
def AvailabilityExact (s : State) : Prop :=
  ∀ p voter, ∃ available, getAvailableVoteWeight s p voter = .ok available ∧ 0 ≤ available ∧
    (s.voterWeight voter = none → available = 0) ∧
    ∀ env record voteFor weight, env.Authorized voter → s.proposal p = some record →
      TakesVotes env record → tallyFor record voteFor + available ≤ I128.max →
      ((∃ s', vote env voter p voteFor weight s = .ok s') ↔ 0 < weight ∧ weight ≤ available) ∧
      ∀ s', vote env voter p voteFor weight s = .ok s' →
        getAvailableVoteWeight s' p voter = .ok (available - weight)

/-- The view is exact where every use is covered by the registered weight. -/
theorem availabilityExact_iff (h : WeightsOk s) (htallies : TalliesOk s) :
    AvailabilityExact s ↔ ∀ p voter, Covered s p voter := by
  constructor
  · intro hexact p voter
    obtain ⟨available, hview, hnonneg, -⟩ := hexact p voter
    have hdifference := (available_eq_ok_iff.mp hview).2
    unfold Covered
    omega
  · intro hcovered p voter
    have hused := h.used_nonneg p voter
    have hle : getVoteWeightUsed s p voter ≤ weightOf s voter := hcovered p voter
    refine ⟨weightOf s voter - getVoteWeightUsed s p voter, h.available_eq (hcovered p voter), by omega, ?_, ?_⟩
    · intro hnone
      have hzero : weightOf s voter = 0 := by rw [weightOf, hnone, Option.getD_none]
      omega
    · intro env record voteFor weight hauth hrecord htakes hroom
      have htally := htallies.nonneg p record hrecord
      exact ⟨h.vote_succeeds_iff hauth hrecord htakes htally hroom, fun s' hvote => h.available_after_vote hvote⟩

/-! ## Steps -/

/-- A weight is written under what has been used of it on no proposal. -/
def CoversUsed (s : State) (call : Call) : Prop :=
  ∀ voter weight, call.reweighs = some (voter, weight) → ∀ p, getVoteWeightUsed s p voter ≤ weight

/-- A deletion leaves an entry alone or takes it away. -/
theorem removeVoteWeights_cases (proposalId : ℕ) (voters : List Address) (used : Storage (ℕ × Address) ℤ)
    (key : ℕ × Address) :
    removeVoteWeights proposalId voters used key = used key ∨
      removeVoteWeights proposalId voters used key = none := by
  induction voters generalizing used with
  | nil => exact Or.inl rfl
  | cons first rest ih =>
    rw [removeVoteWeights, List.foldl_cons]
    rcases ih (used.remove (proposalId, first)) with hsame | hnone
    · rw [removeVoteWeights] at hsame
      rw [hsame, Storage.remove_apply]
      split
      · exact Or.inr rfl
      · exact Or.inl rfl
    · exact Or.inr hnone

/-- What a successful call does to the weight that a voter has used: a vote raises it within the
registered weight, a cleanup takes it away, and no other call touches it. -/
theorem exec_used (h : exec host env call s world = .ok (s', world')) (p : ℕ) (voter : Address) :
    (getVoteWeightUsed s p voter < getVoteWeightUsed s' p voter ∧
      getVoteWeightUsed s' p voter ≤ weightOf s voter ∧ s'.voterWeight = s.voterWeight) ∨
    getVoteWeightUsed s' p voter = 0 ∨ getVoteWeightUsed s' p voter = getVoteWeightUsed s p voter := by
  cases exec_effect h with
  | @voted voter' q voteFor weight registered old new hregistered hbound =>
    simp only [exec, alone_eq_ok] at h
    have hpositive := (vote_spec h.1).2.1
    by_cases hkey : (p, voter) = (q, voter')
    · obtain ⟨rfl, rfl⟩ := Prod.mk.inj hkey
      have hweight : weightOf s voter = registered := by rw [weightOf, hregistered, Option.getD_some]
      refine Or.inl ⟨?_, ?_, rfl⟩
      · simp only [getVoteWeightUsed, Storage.set_self, Option.getD_some]
        omega
      · rw [hweight]
        simpa only [getVoteWeightUsed, Storage.set_self, Option.getD_some] using hbound
    · refine Or.inr (Or.inr ?_)
      simp only [getVoteWeightUsed, Storage.set_of_ne _ _ hkey]
  | @cleaned admin q voters =>
    refine Or.inr ?_
    rcases removeVoteWeights_cases q voters s.voteWeightUsed (p, voter) with hsame | hnone
    · exact Or.inr (congrArg (·.getD 0) hsame)
    · exact Or.inl (congrArg (·.getD 0) hnone)
  | _ => exact Or.inr (Or.inr rfl)

/-- Writing a weight uses none. -/
theorem used_of_reweighs (h : exec host env call s world = .ok (s', world')) (hcall : call.reweighs ≠ none) :
    getVoteWeightUsed s' p voter = getVoteWeightUsed s p voter := by
  cases exec_effect h with
  | administered => rfl
  | _ => exact absurd rfl hcall

/-- A successful call leaves no used weight negative. -/
theorem used_nonneg_step (h : ∀ p voter, 0 ≤ getVoteWeightUsed s p voter)
    (hexec : exec host env call s world = .ok (s', world')) (p : ℕ) (voter : Address) :
    0 ≤ getVoteWeightUsed s' p voter := by
  have hbefore := h p voter
  rcases exec_used hexec p voter with ⟨hgrown, -⟩ | hzero | hsame
  · omega
  · omega
  · omega

/-- A successful call that writes no weight under its uses keeps every use covered. -/
theorem covered_step (h : ∀ p voter, Covered s p voter) (hok : WeightsOk s')
    (hexec : exec host env call s world = .ok (s', world')) (hcovers : CoversUsed s call) (p : ℕ)
    (voter : Address) : Covered s' p voter := by
  have hbefore : getVoteWeightUsed s p voter ≤ weightOf s voter := h p voter
  have hnonneg := hok.registered_nonneg voter
  unfold Covered
  rcases exec_used hexec p voter with ⟨-, hbound, hweights⟩ | hzero | hsame
  · have hweight : weightOf s' voter = weightOf s voter := by rw [weightOf, weightOf, hweights]
    omega
  · omega
  · rw [hsame]
    rcases exec_weights hexec with ⟨other, weight, hcall, hre⟩ | ⟨-, hweights, -⟩
    · rw [hre.weightOf_eq]
      split
      case isTrue heq =>
        subst heq
        exact hcovers voter weight hcall p
      case isFalse => exact hbefore
    · have hweight : weightOf s' voter = weightOf s voter := by rw [weightOf, weightOf, hweights]
      omega

/-! ## Runs -/

/-- The weights are not negative. -/
theorem WeightsExact.weightOf_nonneg (h : WeightsExact s) (voter : Address) : 0 ≤ weightOf s voter := by
  unfold weightOf
  cases hentry : s.voterWeight voter with
  | none => exact le_rfl
  | some weight => exact (h.positive voter weight hentry).le

/-- None of them exceeds their total. -/
theorem WeightsExact.weightOf_le (h : WeightsExact s) (voter : Address) :
    weightOf s voter ≤ getTotalRegisteredWeight s := by
  rw [h.sum]
  exact single_le_finsum voter h.finite h.weightOf_nonneg

/-- The registered weights add up to a total that fits, and no used weight is negative. -/
structure Accounted (s : State) : Prop where
  exact : WeightsExact s
  fits : getTotalRegisteredWeight s ≤ I128.max
  used_nonneg : ∀ p voter, 0 ≤ getVoteWeightUsed s p voter

/-- Accounted weights are well formed. -/
theorem Accounted.weightsOk (h : Accounted s) : WeightsOk s where
  used_nonneg := h.used_nonneg
  registered_nonneg := h.exact.weightOf_nonneg
  registered_le voter := (h.exact.weightOf_le voter).trans h.fits

/-- A successful call keeps the accounts. -/
theorem Accounted.step (h : Accounted s) (hexec : exec host env call s world = .ok (s', world')) :
    Accounted s' := by
  refine ⟨(h.exact.step hexec).1, ?_, used_nonneg_step h.used_nonneg hexec⟩
  rcases exec_weights hexec with ⟨_, _, -, hre⟩ | ⟨-, -, htotal⟩
  · exact hre.fits.2
  · have hsame : getTotalRegisteredWeight s' = getTotalRegisteredWeight s := congrArg (·.getD 0) htotal
    rw [hsame]
    exact h.fits

/-- The accounts are kept around every step of a run. -/
theorem accounted_around (hrun : Run (StepOf Config.next) (.fresh ledger) history final) {t : Move}
    (ht : t ∈ history) : Accounted t.before.state ∧ Accounted t.after.state := by
  refine hrun.invariant_where_of_mem (fun c => Accounted c.state) (fun _ => True) ?_ ?_
    (fun _ _ => trivial) ht
  · intro c e c' haccounted hstep _
    exact haccounted.step (Config.exec_of_next hstep).2.2
  · exact ⟨weightsExact_fresh, I128.zero_le_max, fun _ _ => le_rfl⟩

/-- In every run the view is what votes accept in all states exactly if no weight is ever lowered under
what its voter has used of it on some proposal. -/
theorem available_weight_iff (hrun : Run (StepOf Config.next) (.fresh ledger) history final) :
    (∀ t ∈ history, AvailabilityExact t.after.state) ↔
      ∀ t ∈ history, CoversUsed t.before.state t.event.call := by
  constructor
  · intro hexact t ht voter weight hcall p
    have hexec := (Config.exec_of_next (hrun.step_of_mem ht)).2.2
    have hok := (accounted_around hrun ht).2.weightsOk
    have hcovered : getVoteWeightUsed t.after.state p voter ≤ weightOf t.after.state voter :=
      (availabilityExact_iff hok (talliesOk_around hrun ht).2).mp (hexact t ht) p voter
    rcases exec_weights hexec with ⟨_, _, hfound, hre⟩ | ⟨hnone, -, -⟩
    · obtain ⟨rfl, rfl⟩ := Prod.mk.inj (Option.some.inj (hcall.symm.trans hfound))
      rw [hre.weightOf_eq, if_pos rfl, used_of_reweighs hexec (by simp [hcall])] at hcovered
      exact hcovered
    · cases hcall.symm.trans hnone
  · intro hcovers t ht
    have hok := (accounted_around hrun ht).2.weightsOk
    rw [availabilityExact_iff hok (talliesOk_around hrun ht).2]
    have hinvariant := hrun.invariant_where_of_mem
      (fun c => Accounted c.state ∧ ∀ p voter, Covered c.state p voter)
      (fun t => CoversUsed t.before.state t.event.call) ?_ ?_ hcovers ht
    · exact hinvariant.2.2
    · rintro c e c' ⟨haccounted, hcovered⟩ hstep hcover
      have hexec := (Config.exec_of_next hstep).2.2
      have hafter := haccounted.step hexec
      exact ⟨hafter, covered_step hcovered hafter.weightsOk hexec hcover⟩
    · exact ⟨⟨weightsExact_fresh, I128.zero_le_max, fun _ _ => le_rfl⟩, fun _ _ => le_rfl⟩

/-- The one weight of the sample is written before it is used. -/
theorem available_weight_iff_lifecycle :
    ∃ history final, Run (StepOf Config.next) (.fresh (.numbered 0)) history final ∧ history.length = 5 ∧
      ∀ t ∈ history, AvailabilityExact t.after.state := by
  obtain ⟨history, final, hrun, hobserved⟩ := Run.exists_of_replay
    (show (replay Config.next (.fresh (.numbered 0)) sampleLifecycle).map
      (fun r => r.1.map fun t => (t.event.call, t.before.state.voteWeightUsed)) =
        some [(.initializeContract (.account 1) (.contract 11) 5, Storage.empty),
          (.registerVoter (.account 1) (.account 2) 10, Storage.empty),
          (.createProposal (.account 3) ⟨50, 20, 30⟩ 100 7, Storage.empty),
          (.vote (.account 2) 1 true 10, Storage.empty),
          (.execute 1, Storage.empty.set (1, .account 2) 10)] from rfl)
  have hlength : history.length = 5 := by
    rw [← List.length_map (f := fun t => (t.event.call, t.before.state.voteWeightUsed)), hobserved]
    rfl
  refine ⟨history, final, hrun, hlength, (available_weight_iff hrun).mpr ?_⟩
  intro t ht voter weight hcall p
  have hmem := List.mem_map_of_mem (f := fun t => (t.event.call, t.before.state.voteWeightUsed)) ht
  rw [hobserved] at hmem
  simp only [List.mem_cons, Prod.mk.injEq, List.not_mem_nil, or_false] at hmem
  rcases hmem with ⟨heq, -⟩ | ⟨heq, hused⟩ | ⟨heq, -⟩ | ⟨heq, -⟩ | ⟨heq, -⟩ <;> rw [heq] at hcall
  · cases hcall
  · obtain ⟨-, rfl⟩ := Prod.mk.inj (Option.some.inj hcall)
    rw [getVoteWeightUsed, hused]
    exact (by decide : (0 : ℤ) ≤ 10)
  · cases hcall
  · cases hcall
  · cases hcall

/-- A voter uses six of ten and loses its registration. -/
def sampleDeregistration : List Event :=
  [ sampleEvent 0 (.account 1) (.initializeContract (.account 1) (.contract 11) 5),
    sampleEvent 0 (.account 1) (.registerVoter (.account 1) (.account 2) 10),
    sampleEvent 1 (.account 3) (.createProposal (.account 3) ⟨50, 20, 30⟩ 100 7),
    sampleEvent 1 (.account 2) (.vote (.account 2) 1 true 6),
    sampleEvent 2 (.account 1) (.deregisterVoter (.account 1) (.account 2)) ]

/-- The view of the address without a registration is then minus six. -/
theorem not_availabilityExact :
    ∃ history final, Run (StepOf Config.next) (.fresh (.numbered 0)) history final ∧
      final.state.voterWeight (.account 2) = none ∧
      getAvailableVoteWeight final.state 1 (.account 2) = .ok (-6) ∧ ¬AvailabilityExact final.state := by
  obtain ⟨history, final, hrun, hobserved⟩ := Run.exists_of_replay
    (show (replay Config.next (.fresh (.numbered 0)) sampleDeregistration).map (fun r =>
      (r.2.state.voterWeight (.account 2), getAvailableVoteWeight r.2.state 1 (.account 2))) =
        some (none, .ok (-6)) from rfl)
  obtain ⟨hnone, hview⟩ := Prod.mk.inj hobserved
  refine ⟨history, final, hrun, hnone, hview, fun hexact => ?_⟩
  obtain ⟨available, hsame, hnonneg, -⟩ := hexact 1 (.account 2)
  obtain rfl := Except.ok.inj (hview.symm.trans hsame)
  omega

end StellarDidCredit.Governance
