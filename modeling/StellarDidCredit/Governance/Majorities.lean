import StellarDidCredit.Governance.Mandates

/-!
# A majority of the registered weight

While no weight is registered anew, the votes on a proposal since its creation are within the registered
total. So votes in favour with more than half of it stay a majority whatever the others vote, and the sum of
the tallies fits. What is left to stop the execution is a cancellation.
-/

namespace StellarDidCredit.Governance

variable {κ : Type} {host : Host κ} {env : Env} {call : Call} {s s' : State} {world world' : κ} {p : ℕ}

/-! ## The votes of all voters -/

/-- The voter in whose name a call votes. -/
def Call.caster : Call → Option Address
  | .vote voter _ _ _ => some voter
  | _ => none

/-- What a call gives to the two sides is what it gives in the name of one voter. -/
theorem cast_eq_sum {voters : Finset Address} (hcaster : ∀ voter, call.caster = some voter → voter ∈ voters)
    (p : ℕ) :
    call.cast p true + call.cast p false = ∑ voter ∈ voters, call.castBy p voter := by
  cases call with
  | vote caster proposalId voteFor voteWeight =>
    have hmem : caster ∈ voters := hcaster caster rfl
    by_cases hp : proposalId = p
    · have hother : ∀ voter ∈ voters, voter ≠ caster →
          (Call.vote caster proposalId voteFor voteWeight).castBy p voter = 0 :=
        fun voter _ hne => if_neg fun h => hne h.1.symm
      rw [Finset.sum_eq_single_of_mem caster hmem hother]
      cases voteFor <;> simp [Call.cast, Call.castBy, hp]
    · simp [Call.cast, Call.castBy, hp]
  | _ => exact Finset.sum_const_zero.symm

/-- What some steps give to the two sides is what they give in the name of their voters. -/
theorem castIn_eq_sum {voters : Finset Address} {steps : List Stage}
    (hcaster : ∀ t ∈ steps, ∀ voter, t.call.caster = some voter → voter ∈ voters) (p : ℕ) :
    castIn p true steps + castIn p false steps = ∑ voter ∈ voters, castInBy p voter steps := by
  induction steps using List.reverseRecOn with
  | nil => exact Finset.sum_const_zero.symm
  | append_singleton steps t ih =>
    obtain ⟨hearlier, hlast⟩ := List.forall_mem_append.mp hcaster
    simp only [castIn_concat, castInBy_concat, Finset.sum_add_distrib]
    rw [← ih hearlier, ← cast_eq_sum (hlast t List.mem_cons_self) p]
    ring

/-- A voter whose registration does not change gives no more than it. -/
theorem castInBy_le {record : GovernanceProposal} {since : List Stage} (htallied : Tallied p record since)
    {voterWeight : Storage Address ℤ} (hsame : ∀ t ∈ since, t.before.voterWeight = voterWeight) {voter : Address}
    (hnonneg : 0 ≤ (voterWeight voter).getD 0) : castInBy p voter since ≤ (voterWeight voter).getD 0 := by
  -- the votes are within the weight after every step
  suffices hprefix : ∀ earlier later, since = earlier ++ later →
      castInBy p voter earlier ≤ (voterWeight voter).getD 0 from hprefix since [] (List.append_nil since).symm
  intro earlier
  induction earlier using List.reverseRecOn with
  | nil => exact fun _ _ => hnonneg
  | append_singleton earlier t ih =>
    intro later hsplit
    rw [List.append_assoc, List.singleton_append] at hsplit
    rw [castInBy_concat]
    by_cases hcasts : ∃ voteFor weight, t.call = .vote voter p voteFor weight
    · obtain ⟨voteFor, weight, hcall⟩ := hcasts
      obtain ⟨registered, hregistered, hwithin⟩ :=
        (htallied.counts earlier t later voter voteFor weight hsplit hcall).within
      have hmem : t ∈ since := hsplit ▸ List.mem_append_right _ List.mem_cons_self
      have hweight : (voterWeight voter).getD 0 = registered := by
        rw [← hsame t hmem, hregistered, Option.getD_some]
      have hgiven : t.call.castBy p voter = weight := by
        rw [hcall]
        exact if_pos ⟨rfl, rfl⟩
      omega
    · have hnone : t.call.castBy p voter = 0 := by
        generalize hcall : t.call = call at hcasts
        cases call with
        | vote caster proposalId voteFor voteWeight =>
          refine if_neg ?_
          rintro ⟨rfl, rfl⟩
          exact hcasts ⟨voteFor, voteWeight, rfl⟩
        | _ => rfl
      have hbefore := ih (t :: later) hsplit
      omega

/-- The weights of some voters are within the registered total. -/
theorem WeightsExact.sum_le (h : WeightsExact s) (voters : Finset Address) :
    ∑ voter ∈ voters, weightOf s voter ≤ getTotalRegisteredWeight s := by
  have hcovers : Function.support (weightOf s) ⊆ ↑(h.finite.toFinset ∪ voters) := by
    intro voter hvoter
    exact Finset.mem_coe.mpr (Finset.mem_union_left _ (h.finite.mem_toFinset.mpr hvoter))
  rw [h.sum, finsum_eq_sum_of_support_subset _ hcovers]
  exact Finset.sum_le_sum_of_subset_of_nonneg Finset.subset_union_right fun voter _ _ => h.weightOf_nonneg voter

/-- While no registration changes, the votes on a proposal are within the registered total. -/
theorem castIn_le {record : GovernanceProposal} {since : List Stage} (h : WeightsExact s)
    (htallied : Tallied p record since) (hsame : ∀ t ∈ since, t.before.voterWeight = s.voterWeight) :
    castIn p true since + castIn p false since ≤ getTotalRegisteredWeight s := by
  let voters : Finset Address := (since.filterMap fun t => t.call.caster).toFinset
  have hcaster : ∀ t ∈ since, ∀ voter, t.call.caster = some voter → voter ∈ voters := by
    intro t ht voter hvoter
    exact List.mem_toFinset.mpr (List.mem_filterMap.mpr ⟨t, ht, hvoter⟩)
  calc
    castIn p true since + castIn p false since = ∑ voter ∈ voters, castInBy p voter since := castIn_eq_sum hcaster p
    _ ≤ ∑ voter ∈ voters, weightOf s voter :=
      Finset.sum_le_sum fun voter _ => castInBy_le htallied hsame (h.weightOf_nonneg voter)
    _ ≤ getTotalRegisteredWeight s := h.sum_le voters

/-! ## The proposal since its creation -/

/-- The record has these terms and is neither executed nor cancelled. -/
structure Standing (terms : ScoringWeights × ℕ × ℕ × ℤ) (record : GovernanceProposal) : Prop where
  terms : record.terms = terms
  executed : record.executed = false
  cancelled : record.cancelled = false

/-- The call neither executes nor cancels the proposal, nor registers a weight. -/
structure Call.Spares (p : ℕ) (call : Call) : Prop where
  notExecuted : call ≠ .execute p
  notCancelled : ∀ canceller, call ≠ .cancelProposal canceller p
  steady : call.reweighs = none

/-- A proposal that nobody executes or cancels stays open, with its terms. -/
theorem Standing.step {terms : ScoringWeights × ℕ × ℕ × ℤ} {old : GovernanceProposal} (h : Standing terms old)
    (heffect : Effect env s call s') (hspares : call.Spares p) (hid : p < nextId s)
    (hold : s.proposal p = some old) :
    ∃ new, s'.proposal p = some new ∧ Standing terms new := by
  have hproposal := heffect.proposal p
  generalize hafter : s'.proposal p = after at hproposal
  cases hproposal with
  | created hnext => exact absurd hnext hid.ne'
  | @voted voter voteFor weight stored new hstored hnew =>
    obtain rfl := Option.some.inj (hstored.symm.trans hold)
    obtain ⟨_, _, rfl⟩ := addVote_fields hnew
    exact ⟨_, rfl, h.terms, h.executed, h.cancelled⟩
  | executed hstored => exact absurd rfl hspares.notExecuted
  | cancelled hstored => exact absurd rfl (hspares.notCancelled _)
  | kept hkept => exact ⟨old, hold, h⟩

/-- The contract is initialised and has given the id out. -/
def GivenOut (p : ℕ) (s : State) : Prop := s.admin ≠ none ∧ p < nextId s

/-- An id that was given out stays below the counter. -/
theorem GivenOut.step (h : GivenOut p s) (heffect : Effect env s call s') : GivenOut p s' := by
  obtain ⟨hadmin, hid⟩ := h
  refine ⟨heffect.admin_ne_none hadmin, ?_⟩
  rcases heffect.counter with ⟨hnone, -⟩ | ⟨-, -, hcounter⟩ | ⟨-, -, hcounter⟩
  · exact absurd hnone hadmin
  · omega
  · omega

variable {ledger : Ledger} {history : List Move} {final : Config} {creation : Move} {since : List Move}
  {proposer : Address} {weights : ScoringWeights} {period delay : ℕ}

/-- A proposal of an initialised contract that nobody executes or cancels keeps its terms. -/
theorem standing_of_run (hrun : Run (StepOf Config.next) (.fresh ledger) (history ++ creation :: since) final)
    (hcall : creation.event.call = .createProposal proposer weights period delay)
    (hadmin : creation.before.state.admin ≠ none) {p : ℕ} (hid : nextId creation.before.state = p)
    (hspares : ∀ u ∈ since, u.event.call.Spares p) :
    ∃ quorum record, currentQuorum creation.before.state = .ok quorum ∧ weights.Valid ∧
      final.state.proposal p = some record ∧
      Standing (weights, creation.event.env.ledger.sequence + period, delay, quorum) record ∧
      ∀ u ∈ since, ¬Creates p u := by
  obtain ⟨-, hstep, hrest⟩ := hrun.around
  have hexec := (Config.exec_of_next hstep).2.2
  rw [hcall] at hexec
  simp only [exec, alone_eq_ok, Outcome.map_snd_eq_ok] at hexec
  obtain ⟨⟨id, hcreated⟩, -⟩ := hexec
  obtain ⟨-, -, hvalid, -, quorum, hquorum, hafter⟩ := createProposal_spec hcreated
  have hgiven : GivenOut p creation.after.state := by
    rw [hafter, ← hid]
    exact ⟨hadmin, Nat.lt_succ_self _⟩
  have hfirst : ∃ record, creation.after.state.proposal p = some record ∧
      Standing (weights, creation.event.env.ledger.sequence + period, delay, quorum) record := by
    rw [hafter, ← hid]
    exact ⟨_, Storage.set_self _ _ _, rfl, rfl, rfl⟩
  have hlast : GivenOut p final.state ∧ ∃ record, final.state.proposal p = some record ∧
      Standing (weights, creation.event.env.ledger.sequence + period, delay, quorum) record := by
    refine hrest.invariant_where (fun c => GivenOut p c.state ∧ ∃ record, c.state.proposal p = some record ∧
      Standing (weights, creation.event.env.ledger.sequence + period, delay, quorum) record)
      (fun u => u.event.call.Spares p) ?_ ⟨hgiven, hfirst⟩ hspares
    rintro c e c' ⟨hbefore, record, hrecord, hstanding⟩ hnext hkeeps
    have heffect := Config.effect_of_next hnext
    exact ⟨hbefore.step heffect, hstanding.step heffect hkeeps hbefore.2 hrecord⟩
  obtain ⟨-, record, hrecord, hstanding⟩ := hlast
  refine ⟨quorum, record, hquorum, hvalid, hrecord, hstanding, ?_⟩
  rintro u hu ⟨-, hnext⟩
  have hbelow : GivenOut p u.before.state := hrest.invariant_of_mem (fun c => GivenOut p c.state)
    (fun _ _ _ hbefore hnext => hbefore.step (Config.effect_of_next hnext)) hgiven hu
  exact absurd hnext hbelow.2.ne'

/-- Registrations that no step changes are those of the end. -/
theorem voterWeight_of_run {start : Config} (hrun : Run (StepOf Config.next) start history final)
    (hsteady : ∀ u ∈ history, u.event.call.reweighs = none) :
    ∀ u ∈ history, u.before.state.voterWeight = final.state.voterWeight := by
  induction hrun with
  | nil => exact fun _ hnil => absurd hnil List.not_mem_nil
  | @snoc history c e c' hbefore hstep ih =>
    obtain ⟨hearlier, hlast⟩ := List.forall_mem_append.mp hsteady
    have hkept : c'.state.voterWeight = c.state.voterWeight := by
      rcases exec_weights (Config.exec_of_next hstep).2.2 with ⟨_, _, hreweighs, -⟩ | ⟨-, hsame, -⟩
      · cases (hlast _ List.mem_cons_self).symm.trans hreweighs
      · exact hsame
    rw [hkept]
    exact List.forall_mem_append.mpr ⟨ih hearlier, List.forall_mem_singleton.mpr rfl⟩

/-- Weights, votes and tallies are in order in a run. -/
theorem accounts_of_run (hrun : Run (StepOf Config.next) (.fresh ledger) history final) :
    Accounted final.state ∧ TalliesOk final.state := by
  refine hrun.invariant (fun c => Accounted c.state ∧ TalliesOk c.state) ?_ ⟨⟨weightsExact_fresh, ?_, ?_⟩, ⟨?_, ?_⟩⟩
  · rintro c e c' ⟨haccounted, htallies⟩ hstep
    have hexec := (Config.exec_of_next hstep).2.2
    exact ⟨haccounted.step hexec, htallies.step hexec⟩
  · exact I128.zero_le_max
  · exact fun _ _ => le_rfl
  · exact fun hadmin => absurd rfl hadmin
  · exact fun _ _ hrecord => by cases hrecord

/-! ## Executions -/

/-- A record that passes every gate of `execute` in a ledger. -/
structure Executable (now : ℕ) (record : GovernanceProposal) : Prop where
  due : record.expiryLedger + record.executionDelayLedgers < now
  executed : record.executed = false
  cancelled : record.cancelled = false
  passed : record.votesAgainst < record.votesFor
  fits : I128.min ≤ record.votesFor + record.votesAgainst ∧ record.votesFor + record.votesAgainst ≤ I128.max
  quorum : record.quorumRequired ≤ record.votesFor + record.votesAgainst

/-- Such a record is executed where the credit oracle takes its weights. -/
theorem Executable.execute {record : GovernanceProposal} (h : Executable env.ledger.sequence record)
    (hrecord : s.proposal p = some record) {oracle : Address} (hlinked : s.creditOracle = some oracle)
    (hqueued : host.proposeWeights world oracle record.proposedWeights = .ok world') :
    execute host p env s world =
      .ok ({ s with proposal := s.proposal.set p { record with executed := true } }, world') := by
  have hdue := h.due
  have hdelay : U32.saturatingAdd record.expiryLedger record.executionDelayLedgers < env.ledger.sequence := by
    simp only [U32.saturatingAdd]
    omega
  simp only [Governance.execute, Outcome.bind_eq_ok, Outcome.okOr_eq_ok, Outcome.passOn_eq_ok,
    Outcome.require_eq_ok, I128.checkedAdd_eq_some, Except.ok.injEq]
  exact ⟨record, hrecord, (), by omega, (), hdelay, (), h.executed, (), h.cancelled, (), h.passed, _,
    ⟨h.fits, rfl⟩, (), h.quorum, oracle, hlinked, world', hqueued, rfl⟩

/-- An application succeeds where the credit oracle's does. -/
theorem applyWeights_succeeds {oracle : Address} (hlinked : s.creditOracle = some oracle)
    (happlied : host.applyWeights world oracle = .ok world') : applyWeights host s world = .ok (s, world') := by
  simp only [applyWeights, hlinked, Outcome.bind_eq_ok, Outcome.okOr_eq_ok]
  exact ⟨oracle, rfl, by rw [happlied]⟩

/-! ## The link to the credit oracle -/

/-- The contract is initialised and linked to this credit oracle. -/
def LinkedTo (oracle : Address) (s : State) : Prop := s.admin ≠ none ∧ s.creditOracle = some oracle

/-- The link stays as it is. -/
theorem LinkedTo.step {oracle : Address} (h : LinkedTo oracle s) (heffect : Effect env s call s') :
    LinkedTo oracle s' := by
  obtain ⟨hadmin, hlinked⟩ := h
  cases heffect with
  | initialized hnone => exact absurd hnone hadmin
  | _ => exact ⟨hadmin, hlinked⟩

/-- A contract that is linked is initialised. -/
theorem linkedTo_of_run {oracle : Address} (hrun : Run (StepOf Config.next) (.fresh ledger) history final)
    (hlinked : final.state.creditOracle = some oracle) : LinkedTo oracle final.state := by
  have hinitialized : final.state.creditOracle ≠ none → final.state.admin ≠ none := by
    refine hrun.invariant (fun c => c.state.creditOracle ≠ none → c.state.admin ≠ none) ?_ (fun h => absurd rfl h)
    intro c e c' hbefore hstep
    have heffect := Config.effect_of_next hstep
    obtain ⟨env, call, answers⟩ := e
    obtain ⟨state, ledger, queue⟩ := c'
    cases heffect with
    | initialized => exact fun _ => Option.some_ne_none _
    | _ => exact hbefore
  exact ⟨hinitialized (hlinked ▸ Option.some_ne_none _), hlinked⟩

/-! ## A majority -/

/-- After its delay a proposal of an initialised contract with more than half of the registered weight behind it
is executable, unless it was executed or cancelled or a registration changed. -/
theorem executable_of_majority
    (hrun : Run (StepOf Config.next) (.fresh ledger) (history ++ creation :: since) final)
    (hcall : creation.event.call = .createProposal proposer weights period delay)
    (hadmin : creation.before.state.admin ≠ none) {p : ℕ} (hid : nextId creation.before.state = p)
    (hspares : ∀ u ∈ since, u.event.call.Spares p) {quorum : ℤ}
    (hquorum : currentQuorum creation.before.state = .ok quorum)
    (henough : quorum ≤ castIn p true (since.map .ofMove) + castIn p false (since.map .ofMove))
    (hmajority : getTotalRegisteredWeight final.state < 2 * castIn p true (since.map .ofMove))
    {now : ℕ} (hdue : creation.event.env.ledger.sequence + period + delay < now) :
    ∃ record, final.state.proposal p = some record ∧ record.proposedWeights = weights ∧ weights.Valid ∧
      Executable now record := by
  obtain ⟨quorum', record, hquorum', hvalid, hrecord, ⟨hterms, hexecuted, hcancelled⟩, hnot⟩ :=
    standing_of_run hrun hcall hadmin hid hspares
  obtain rfl := Except.ok.inj (hquorum.symm.trans hquorum')
  simp only [GovernanceProposal.terms, Prod.mk.injEq] at hterms
  obtain ⟨hweights, hexpiry, hdelay, hrequired⟩ := hterms
  obtain ⟨tallied, htallied, hcounted, -⟩ := tallied_of_run hrun ⟨⟨_, _, _, _, hcall⟩, hid⟩ hnot
  obtain rfl := Option.some.inj (htallied.symm.trans hrecord)
  obtain ⟨haccounted, htallies⟩ := accounts_of_run hrun
  have hsame : ∀ t ∈ since.map Stage.ofMove, t.before.voterWeight = final.state.voterWeight := by
    intro t ht
    obtain ⟨u, hu, rfl⟩ := List.mem_map.mp ht
    exact voterWeight_of_run hrun.around.2.2 (fun v hv => (hspares v hv).steady) u hu
  have htotal := castIn_le haccounted.exact hcounted hsame
  have hfits := haccounted.fits
  have hmin : I128.min ≤ 0 := by decide
  rw [← hcounted.votesFor] at hmajority henough htotal
  rw [← hcounted.votesAgainst] at henough htotal
  refine ⟨tallied, htallied, hweights, hvalid, ?_, hexecuted, hcancelled, by omega, ?_, ?_⟩
  · rw [hexpiry, hdelay]
    exact hdue
  · obtain ⟨hfor, hagainst⟩ := htallies.nonneg _ _ htallied
    exact ⟨by omega, by omega⟩
  · rw [hrequired]
    exact henough

end StellarDidCredit.Governance
