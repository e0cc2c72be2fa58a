import StellarDidCredit.Governance.Proposals

/-!
# Vote conservation

The tallies of a proposal add up to the weights its voters have used on it. A vote moves
both by the same amount; only a deletion of used weights, or a creation that takes an id
whose record has votes, can separate them. The latter needs a proposal from before the
initialisation, which starts the counter again at one.
-/

namespace StellarDidCredit.Governance

/-- All votes cast on a proposal, none before its creation. -/
def tally (s : State) (p : ℕ) : ℤ := (s.proposal p).elim 0 fun record => record.votesFor + record.votesAgainst

/-- The votes on a proposal are the finitely many weights used on it. -/
structure Conserved (s : State) (p : ℕ) : Prop where
  finite : (Function.support fun voter => getVoteWeightUsed s p voter).Finite
  sum : tally s p = ∑ᶠ voter, getVoteWeightUsed s p voter

/-- No votes have been cast under the id. -/
def Unvoted (s : State) (p : ℕ) : Prop :=
  ∀ record, s.proposal p = some record → record.votesFor = 0 ∧ record.votesAgainst = 0

/-- The call, if it creates a proposal, takes an id without votes. -/
def TakesUnvotedId (s : State) (call : Call) : Prop := call.IsCreation → Unvoted s (nextId s)

/-- An id without votes has an empty tally. -/
theorem tally_eq_zero {s : State} {p : ℕ} (h : Unvoted s p) : tally s p = 0 := by
  unfold tally
  cases hrecord : s.proposal p with
  | none => rfl
  | some record =>
    obtain ⟨hfor, hagainst⟩ := h record hrecord
    simp [hfor, hagainst]

/-- A record that is replaced with the same votes leaves every tally alone. -/
theorem tally_replaced {s s' : State} {q : ℕ} {old new : GovernanceProposal}
    (hold : s.proposal q = some old) (hset : s'.proposal = s.proposal.set q new)
    (hsame : new.votesFor + new.votesAgainst = old.votesFor + old.votesAgainst) (p : ℕ) :
    tally s' p = tally s p := by
  unfold tally
  rw [hset]
  by_cases hp : p = q
  · rw [hp, Storage.set_self, hold]
    exact hsame
  · rw [Storage.set_of_ne _ _ hp]

/-- A vote adds its weight to the tally. -/
theorem addVote_tally {old new : GovernanceProposal} {voteFor : Bool} {weight : ℤ}
    (h : addVote old voteFor weight = .ok new) :
    new.votesFor + new.votesAgainst = old.votesFor + old.votesAgainst + weight := by
  unfold addVote at h
  split at h
  all_goals
    simp only [Outcome.bind_eq_ok, Outcome.okOr_eq_ok, I128.checkedAdd_eq_some, Except.ok.injEq] at h
    obtain ⟨_, ⟨_, rfl⟩, rfl⟩ := h
    simp only
    omega

variable {env : Env} {call : Call} {s s' : State} {p : ℕ}

/-- Conservation speaks about the tally and the used weights only. -/
theorem Conserved.congr (h : Conserved s p) (htally : tally s' p = tally s p)
    (hused : ∀ voter, s'.voteWeightUsed (p, voter) = s.voteWeightUsed (p, voter)) : Conserved s' p := by
  have hsame : (fun voter => getVoteWeightUsed s' p voter) = fun voter => getVoteWeightUsed s p voter := by
    funext voter
    simp only [getVoteWeightUsed, hused voter]
  constructor
  case finite =>
    rw [hsame]
    exact h.finite
  case sum => rw [htally, hsame, h.sum]

/-- A call keeps the votes conserved unless it deletes used weights or reuses an id. -/
theorem Conserved.step (h : Conserved s p) (heffect : Effect env s call s')
    (hcreate : TakesUnvotedId s call)
    (hcleanup : ∀ admin voters, call = .cleanupProposalVotes admin p voters →
      ∀ voter, s'.voteWeightUsed (p, voter) = s.voteWeightUsed (p, voter)) : Conserved s' p := by
  cases heffect with
  | initialized hadmin => exact h.congr rfl fun _ => rfl
  | @created proposer weights period delay quorum hvalid hquorum =>
    refine h.congr ?_ fun _ => rfl
    by_cases hp : p = nextId s
    · subst hp
      rw [tally_eq_zero (hcreate ⟨_, _, _, _, rfl⟩)]
      simp [tally, freshProposal]
    · simp only [tally, Storage.set_of_ne _ _ hp]
  | @voted voter q voteFor weight registered old new hregistered hbound hold hexecuted hcancelled hnew =>
    by_cases hp : p = q
    · subst hp
      -- the used weight and the tally move by the same amount, at one voter
      have hkey : ∀ other, other ≠ voter → (p, other) ≠ (p, voter) := by
        intro other hother heq
        exact hother (Prod.mk.inj heq).2
      have hother : ∀ other, other ≠ voter → getVoteWeightUsed { s with
          voteWeightUsed := s.voteWeightUsed.set (p, voter) (getVoteWeightUsed s p voter + weight)
          proposal := s.proposal.set p new } p other = getVoteWeightUsed s p other := by
        intro other hother
        simp only [getVoteWeightUsed, Storage.set_of_ne _ _ (hkey other hother)]
      constructor
      case finite => exact support_finite_of_eq_off _ _ voter h.finite hother
      case sum =>
        rw [finsum_eq_add_sub _ _ voter h.finite hother, ← h.sum]
        have htally := addVote_tally hnew
        simp only [tally, getVoteWeightUsed, Storage.set_self, hold, Option.elim_some, Option.getD_some]
        omega
    · refine h.congr ?_ fun voter' => Storage.set_of_ne _ _ fun heq => hp (Prod.mk.inj heq).1
      simp only [tally, Storage.set_of_ne _ _ hp]
  | @executed q old hold =>
    refine h.congr ?_ fun _ => rfl
    apply tally_replaced hold
    · rfl
    · rfl
  | @cancelled canceller q old hold =>
    refine h.congr ?_ fun _ => rfl
    apply tally_replaced hold
    · rfl
    · rfl
  | @cleaned admin q voters =>
    refine h.congr rfl ?_
    by_cases hp : p = q
    · subst hp
      exact hcleanup admin voters rfl
    · exact fun voter => removeVoteWeights_of_ne voters _ hp
  | administered => exact h.congr rfl fun _ => rfl

/-- A call that changes a stored tally is a vote on that proposal, unless it reuses an id. -/
theorem Effect.tallies (heffect : Effect env s call s') (hcreate : TakesUnvotedId s call)
    {old new : GovernanceProposal} (hold : s.proposal p = some old) (hnew : s'.proposal p = some new)
    (hne : (new.votesFor, new.votesAgainst) ≠ (old.votesFor, old.votesAgainst)) :
    ∃ voter voteFor weight, call = .vote voter p voteFor weight := by
  have hproposal := heffect.proposal p
  rw [hnew] at hproposal
  generalize hafter : some new = after at hproposal
  cases hproposal with
  | created hid hquorum =>
    obtain rfl := Option.some.inj hafter
    obtain ⟨hfor, hagainst⟩ := hcreate ⟨_, _, _, _, rfl⟩ old (hid ▸ hold)
    exact absurd (by simp [freshProposal, hfor, hagainst]) hne
  | voted => exact ⟨_, _, _, rfl⟩
  | executed hold' =>
    rw [hold] at hold'
    cases hold'
    obtain rfl := Option.some.inj hafter
    exact absurd rfl hne
  | cancelled hold' =>
    rw [hold] at hold'
    cases hold'
    obtain rfl := Option.some.inj hafter
    exact absurd rfl hne
  | kept =>
    rw [hold] at hafter
    cases hafter
    exact absurd rfl hne

/-! ## Runs -/

/-- A cleanup in the history that deleted used weights of the proposal. -/
def CleanedUp (history : List Move) (p : ℕ) : Prop :=
  ∃ t ∈ history, ∃ admin voters, t.event.call = .cleanupProposalVotes admin p voters ∧
    ∃ voter, t.after.state.voteWeightUsed (p, voter) ≠ t.before.state.voteWeightUsed (p, voter)

/-- Vote conservation over a history that ends in the given state. -/
structure VotesConserved (history : List Move) (final : Config) : Prop where
  /-- Tallies are sums of finitely many used weights, cleanup aside. -/
  sum : ∀ p record, final.state.proposal p = some record → ¬CleanedUp history p →
    (Function.support fun voter => getVoteWeightUsed final.state p voter).Finite ∧
      record.votesFor + record.votesAgainst = ∑ᶠ voter, getVoteWeightUsed final.state p voter
  /-- No voter uses more than its registered weight. -/
  within : ∀ t ∈ history, ∀ voter p voteFor weight, t.event.call = .vote voter p voteFor weight →
    ∃ registered, t.after.state.voterWeight voter = some registered ∧
      getVoteWeightUsed t.after.state p voter ≤ registered
  /-- Only votes change tallies. -/
  only : ∀ t ∈ history, ∀ p old new, t.before.state.proposal p = some old →
    t.after.state.proposal p = some new →
    (new.votesFor, new.votesAgainst) ≠ (old.votesFor, old.votesAgainst) →
    ∃ voter voteFor weight, t.event.call = .vote voter p voteFor weight

variable {ledger : Ledger} {history : List Move} {final : Config}

/-- Every step of a run is one successful call. -/
theorem effect_of_mem {start : Config} (hrun : Run (StepOf Config.next) start history final) {t : Move}
    (ht : t ∈ history) : Effect t.event.env t.before.state t.event.call t.after.state := by
  exact Config.effect_of_next (hrun.step_of_mem ht)

/-- Conservation of one proposal over a run without a cleanup of it. -/
theorem conserved_of_run (hrun : Run (StepOf Config.next) (.fresh ledger) history final)
    (hcreate : ∀ t ∈ history, TakesUnvotedId t.before.state t.event.call) {p : ℕ}
    (hcleanup : ¬CleanedUp history p) : Conserved final.state p := by
  refine hrun.invariant_where (fun c => Conserved c.state p)
    (fun t => TakesUnvotedId t.before.state t.event.call ∧ ∀ admin voters,
      t.event.call = .cleanupProposalVotes admin p voters →
      ∀ voter, t.after.state.voteWeightUsed (p, voter) = t.before.state.voteWeightUsed (p, voter))
    ?_ ?_ ?_
  · intro c e c' hconserved hstep hcond
    exact hconserved.step (Config.effect_of_next hstep) hcond.1 hcond.2
  · have hzero : (fun voter => getVoteWeightUsed (Config.fresh ledger).state p voter) = fun _ => 0 := rfl
    constructor
    · rw [hzero, Function.support_fun_zero]
      exact Set.finite_empty
    · rw [hzero, finsum_zero]
      rfl
  · intro t ht
    refine ⟨hcreate t ht, ?_⟩
    intro admin voters hcall voter
    by_contra hne
    exact hcleanup ⟨t, ht, admin, voters, hcall, voter, hne⟩

/-- Votes are conserved in every run in which no creation takes an id that has votes. -/
theorem vote_conservation (hrun : Run (StepOf Config.next) (.fresh ledger) history final)
    (hcreate : ∀ t ∈ history, TakesUnvotedId t.before.state t.event.call) :
    VotesConserved history final := by
  constructor
  case sum =>
    intro p record hrecord hcleanup
    obtain ⟨hfinite, hsum⟩ := conserved_of_run hrun hcreate hcleanup
    rw [tally, hrecord] at hsum
    exact ⟨hfinite, hsum⟩
  case within =>
    intro t ht voter p voteFor weight hcall
    have heffect := effect_of_mem hrun ht
    rw [hcall] at heffect
    generalize t.after.state = after at heffect
    cases heffect with
    | voted hregistered hbound =>
      refine ⟨_, hregistered, ?_⟩
      simpa only [getVoteWeightUsed, Storage.set_self, Option.getD_some] using hbound
    | administered hadministers => exact hadministers.elim
  case only =>
    intro t ht p old new hold hnew hne
    exact (effect_of_mem hrun ht).tallies (hcreate t ht) hold hnew hne

/-- One voter, with its whole weight. -/
theorem vote_conservation_lifecycle :
    ∃ history final, Run (StepOf Config.next) (.fresh (.numbered 0)) history final ∧
      (final.state.proposal 1).map (·.votesFor) = some 10 ∧ VotesConserved history final := by
  obtain ⟨history, final, hrun, hobserved⟩ := Run.exists_of_replay
    (show (replay Config.next (.fresh (.numbered 0)) sampleLifecycle).map
      (fun r => (r.1.map fun t => (t.event.call, (t.before.state.proposal (nextId t.before.state)).isNone),
        (r.2.state.proposal 1).map (·.votesFor))) =
      some ([(.initializeContract (.account 1) (.contract 11) 5, true),
        (.registerVoter (.account 1) (.account 2) 10, true),
        (.createProposal (.account 3) ⟨50, 20, 30⟩ 100 7, true),
        (.vote (.account 2) 1 true 10, true), (.execute 1, true)], some 10) from rfl)
  obtain ⟨hcalls, hvotes⟩ := Prod.mk.inj hobserved
  refine ⟨history, final, hrun, hvotes, vote_conservation hrun ?_⟩
  intro t ht _ record hrecord
  have hmem := List.mem_map_of_mem
    (f := fun t => (t.event.call, (t.before.state.proposal (nextId t.before.state)).isNone)) ht
  rw [hcalls, hrecord] at hmem
  simp at hmem

/-- A proposal from before the initialisation gets ten votes, and the next one takes its id. -/
def sampleReuse : List Event :=
  [ sampleEvent 0 (.account 3) (.createProposal (.account 3) ⟨50, 20, 30⟩ 100 7),
    sampleEvent 0 (.account 1) (.initializeContract (.account 1) (.contract 11) 5),
    sampleEvent 0 (.account 1) (.registerVoter (.account 1) (.account 2) 10),
    sampleEvent 1 (.account 2) (.vote (.account 2) 1 true 10),
    sampleEvent 2 (.account 3) (.createProposal (.account 3) ⟨40, 30, 30⟩ 100 7) ]

/-- A proposal is overwritten, and what its voter has used stays. -/
theorem not_votesConserved_reuse :
    ∃ history final, Run (StepOf Config.next) (.fresh (.numbered 0)) history final ∧
      ¬VotesConserved history final := by
  obtain ⟨history, final, hrun, hobserved⟩ := Run.exists_of_replay
    (show (replay Config.next (.fresh (.numbered 0)) sampleReuse).map
      (fun r => (r.1.map (·.event.call), r.2.state.proposal 1, r.2.state.voteWeightUsed)) =
      some (sampleReuse.map (·.call), some (freshProposal 1 (.account 3) ⟨40, 30, 30⟩ 102 7 5),
        Storage.empty.set (1, .account 2) 10) from rfl)
  simp only [Prod.mk.injEq] at hobserved
  obtain ⟨hcalls, hrecord, hused⟩ := hobserved
  refine ⟨history, final, hrun, fun hconserved => ?_⟩
  have hcleanup : ¬CleanedUp history 1 := by
    rintro ⟨t, ht, admin, voters, hcall, -⟩
    have hmem := List.mem_map_of_mem (f := fun t => t.event.call) ht
    rw [hcalls, hcall] at hmem
    simp [sampleReuse, sampleEvent] at hmem
  have hsum := (hconserved.sum 1 _ hrecord hcleanup).2
  rw [finsum_eq_single _ (.account 2)] at hsum
  · rw [getVoteWeightUsed, hused, Storage.set_self] at hsum
    exact absurd hsum (by decide)
  · intro voter hne
    rw [getVoteWeightUsed, hused, Storage.set_of_ne _ _ (by simpa using hne)]
    rfl

end StellarDidCredit.Governance
