import StellarDidCredit.Network.Queries

/-!
# Scoring weights after the hand-over to governance

Once a governance contract is the admin of a credit oracle, only its executed proposals are
queued: nobody signs for a contract, and the governance contract calls `propose_weights` in
`execute` alone. Weights that the former admin left in the pending slot stay there, and
anyone can apply them.
-/

namespace StellarDidCredit.Network

open CreditOracle (timelockLedgers)

variable {w w' : World} {e : Event} {c g : Address} {ledger : Ledger} {history : List Move}
  {weights : ScoringWeights}

/-! ## The weights of a credit oracle -/

/-- The active weights. -/
def World.activeWeights (w : World) (c : Address) : Option ScoringWeights :=
  onCredit [] w.contracts c fun s => s.config

/-- The pending weights. -/
def World.pendingWeights (w : World) (c : Address) : Option ScoringWeights :=
  onCredit [] w.contracts c fun s => s.pendingWeights

/-- The admin of a credit oracle. -/
def World.adminOf (w : World) (c : Address) : Option Address := onCredit [] w.contracts c fun s => s.admin

/-- The active weights of a credit oracle are stored in it. -/
theorem activeWeights_eq {s : CreditOracle.State} (hs : w.contracts c = some (.creditOracle s)) :
    w.activeWeights c = s.config := by
  simp only [World.activeWeights, onCredit, callable, List.not_mem_nil, if_false, hs]

/-- The governance contract takes over the credit oracle. -/
def HandsOver (g c : Address) (t : Move) : Prop :=
  ∃ ledger signers state, t.event = .invoke ledger signers g (.governance .acceptOracleAdmin) ∧
    t.before.contracts g = some (.governance state) ∧ state.creditOracle = some c

/-- The governance contract executes a proposal with these weights for the credit oracle. -/
def Executes (g c : Address) (weights : ScoringWeights) (t : Move) : Prop :=
  ∃ ledger signers p state proposal, t.event = .invoke ledger signers g (.governance (.execute p)) ∧
    t.before.contracts g = some (.governance state) ∧ state.creditOracle = some c ∧
    state.proposal p = some proposal ∧ proposal.proposedWeights = weights

/-- Nobody signs for a deployed contract. -/
theorem not_mem_signers {now : Ledger} {signers : List Address} {callee : Address} {call : Call}
    (h : Step w (.invoke now signers callee call) w') {contract : Contract}
    (hg : w.contracts g = some contract) : g ∉ signers := by
  cases step_spec h with
  | invoked hledger hsigners hinvoked =>
    intro hmem
    cases hg.symm.trans (hsigners g hmem)

/-- What a step does to the weights of a credit oracle under governance: it queues those of an
executed proposal, applies the pending ones when they are due, or leaves both alone. -/
inductive WeightsChange (g c : Address) (t : Move) (s s' : CreditOracle.State) : Prop
  | queued {weights : ScoringWeights} (hexecutes : Executes g c weights t) (hconfig : s'.config = s.config)
      (hpending : s'.pendingWeights = some weights)
      (heffective : s'.pendingWeightsEffectiveLedger = some (t.after.ledger.sequence + timelockLedgers))
  | applied {weights : ScoringWeights} {n : ℕ} (hpending : s.pendingWeights = some weights)
      (heffective : s.pendingWeightsEffectiveLedger = some n) (htime : n ≤ t.after.ledger.sequence)
      (hconfig : s'.config = some weights) (hcleared : s'.pendingWeights = none)
  | kept (hconfig : s'.config = s.config) (hpending : s'.pendingWeights = s.pendingWeights)
      (heffective : s'.pendingWeightsEffectiveLedger = s.pendingWeightsEffectiveLedger)

/-- A call that proposes no weights changes them in one of these ways. -/
theorem weightsChange_of_effect {κ : Type} {host : CreditOracle.Host κ} {env : Env} {world : κ}
    {call : CreditOracle.Call} {s s' : CreditOracle.State} {t : Move}
    (heffect : CreditOracle.Effect host env s world call s') (hledger : env.ledger = t.after.ledger)
    (hadmin : s.admin = some g)
    (hproposes : ∀ weights, call = .proposeWeights weights → env.Authorized g → Executes g c weights t) :
    WeightsChange g c t s s' := by
  cases heffect with
  | initialized hnone => cases hadmin.symm.trans hnone
  | @weightsProposed weights admin hvalid hstored hauth =>
    obtain rfl := Option.some.inj (hstored.symm.trans hadmin)
    refine .queued (hproposes weights rfl hauth) rfl rfl ?_
    rw [← hledger]
  | weightsApplied hpending heffective htime =>
    rw [hledger] at htime
    exact .applied hpending heffective htime rfl rfl
  | adminProposed => exact .kept rfl rfl rfl
  | adminAccepted => exact .kept rfl rfl rfl
  | identityLinked => exact .kept rfl rfl rfl
  | scoreComputed hcompute =>
    have hcore := CreditOracle.computeScore_core hcompute
    exact .kept (congrArg CreditOracle.Core.config hcore) (congrArg CreditOracle.Core.pendingWeights hcore)
      (congrArg CreditOracle.Core.pendingWeightsEffectiveLedger hcore)
  | other hcall hcore =>
    exact .kept (congrArg CreditOracle.Core.config hcore) (congrArg CreditOracle.Core.pendingWeights hcore)
      (congrArg CreditOracle.Core.pendingWeightsEffectiveLedger hcore)

/-- Under governance only executed proposals are queued. -/
theorem weights_step (h : Step w e w') {s : CreditOracle.State} (hs : w.contracts c = some (.creditOracle s))
    (hadmin : s.admin = some g) {state : Governance.State} (hg : w.contracts g = some (.governance state)) :
    ∃ s', w'.contracts c = some (.creditOracle s') ∧ WeightsChange g c ⟨w, e, w'⟩ s s' := by
  obtain ⟨s', hs', hchange⟩ := credit_step h hs
  refine ⟨s', hs', ?_⟩
  cases hchange with
  | idle => exact .kept rfl rfl rfl
  | own he heffect =>
    subst he
    refine weightsChange_of_effect heffect rfl hadmin fun weights _ hauth => ?_
    exact (not_mem_signers h hg (authorized_signedBy hauth)).elim
  | @governed signers g' state' governanceCall call s' he hg' hlinked hforwards heffect =>
    subst he
    refine weightsChange_of_effect heffect rfl hadmin fun weights hcall hauth => ?_
    -- the governance contract that called is the admin itself
    rcases hauth with hsigned | hinvoker
    · exact (not_mem_signers h hg hsigned).elim
    · obtain rfl : g' = g := Option.some.inj hinvoker
      cases hforwards with
      | @execute p proposal hproposal =>
        cases hcall
        exact ⟨_, signers, p, state', proposal, rfl, hg', hlinked, hproposal, rfl⟩
      | applyWeights => cases hcall
      | acceptOracleAdmin => cases hcall

/-- A governance contract stays at its address. -/
theorem governance_step (h : Step w e w') {state : Governance.State}
    (hg : w.contracts g = some (.governance state)) :
    ∃ state', w'.contracts g = some (.governance state') := by
  rcases code_step h g with hcode | ⟨hfree, -⟩
  · rw [hg, Option.map_some] at hcode
    obtain ⟨after, hafter, hsame⟩ := Option.map_eq_some_iff.mp hcode
    cases after with
    | governance state' => exact ⟨state', hafter⟩
    | _ => cases hsame
  · cases hg.symm.trans hfree

/-! ## After the hand-over -/

/-- Where pending weights come from: they are in the slot since the start, or from a proposal
that was executed a timelock before they become effective. -/
def PendingSince (g c : Address) (start : World) (since : List Move) (weights : ScoringWeights)
    (effectiveLedger : Option ℕ) : Prop :=
  (start.pendingWeights c = some weights ∧ ∀ u ∈ since, u.after.pendingWeights c = some weights) ∨
  ∃ u ∈ since, Executes g c weights u ∧ effectiveLedger = some (u.after.ledger.sequence + timelockLedgers)

/-- The weights that are pending were so at the start, or came with an execution since. -/
theorem pending_since {start : World} {since : List Move} (hrun : Run Step start since w)
    {state : Governance.State} (hg : start.contracts g = some (.governance state))
    {s₀ : CreditOracle.State} (hs₀ : start.contracts c = some (.creditOracle s₀))
    (hadmin : ∀ t ∈ since, t.before.adminOf c = some g) :
    (∃ state, w.contracts g = some (.governance state)) ∧ ∃ s, w.contracts c = some (.creditOracle s) ∧
      ∀ weights, s.pendingWeights = some weights →
        PendingSince g c start since weights s.pendingWeightsEffectiveLedger := by
  induction hrun with
  | nil =>
    refine ⟨⟨state, hg⟩, s₀, hs₀, fun weights hpending => Or.inl ⟨?_, by simp⟩⟩
    exact onCredit_eq_some.mpr ⟨by simp, s₀, hs₀, hpending⟩
  | @snoc since w e w' hbefore h ih =>
    obtain ⟨⟨state', hg'⟩, s, hs, hslot⟩ := ih fun t ht => hadmin t (List.mem_append_left _ ht)
    refine ⟨governance_step h hg', ?_⟩
    obtain ⟨-, _, hs', hstored⟩ :=
      onCredit_eq_some.mp (hadmin _ (List.mem_append_right _ List.mem_cons_self))
    cases hs.symm.trans hs'
    obtain ⟨after, hafter, hchange⟩ := weights_step h hs hstored hg'
    refine ⟨after, hafter, fun weights hpending => ?_⟩
    cases hchange with
    | @queued proposed hexecutes hconfig hqueued heffective =>
      obtain rfl := Option.some.inj (hqueued.symm.trans hpending)
      exact Or.inr ⟨_, List.mem_append_right _ List.mem_cons_self, hexecutes, heffective⟩
    | applied _ _ _ _ hcleared => cases hcleared.symm.trans hpending
    | kept hconfig hsame heffective =>
      rw [heffective]
      rcases hslot weights (hsame ▸ hpending) with ⟨hstart, hever⟩ | ⟨u, hu, hexecutes, hledger⟩
      · refine Or.inl ⟨hstart, List.forall_mem_append.mpr ⟨hever, List.forall_mem_singleton.mpr ?_⟩⟩
        exact onCredit_eq_some.mpr ⟨by simp, after, hafter, hpending⟩
      · exact Or.inr ⟨u, List.mem_append_left _ hu, hexecutes, hledger⟩

/-- The hand-over makes the governance contract the admin. -/
theorem handOver_admin {now : Ledger} {signers : List Address}
    (h : Step w (.invoke now signers g (.governance .acceptOracleAdmin)) w') {state : Governance.State}
    (hg : w.contracts g = some (.governance state)) (hlinked : state.creditOracle = some c) :
    ∃ s, w'.contracts c = some (.creditOracle s) ∧ s.admin = some g := by
  cases step_spec h with
  | invoked hledger hsigners hinvoked =>
    cases hinvoked with
    | @governance call before after others hbefore hexec hothers =>
      replace hbefore : w.contracts g = some (.governance before) := hbefore
      cases hg.symm.trans hbefore
      rcases hothers with ⟨-, hnot⟩ | ⟨linked, t, t', hne, hcalled, -, rfl, hcases⟩
      · exact (hnot trivial).elim
      obtain rfl : c = linked := Option.some.inj (hlinked.symm.trans hcalled)
      rcases hcases with ⟨_, _, hother, -⟩ | ⟨hother, -⟩ | ⟨-, haccept⟩
      · cases hother
      · cases hother
      · obtain ⟨-, -, rfl⟩ := CreditOracle.acceptAdmin_spec haccept
        exact ⟨_, (Storage.set_of_ne _ _ hne).trans (Storage.set_self _ _ _), rfl⟩

/-- After the hand-over, and as long as the governance contract is the admin, every change of
the active weights installs weights of a proposal it executed at least a timelock before, or
the weights that were pending at the hand-over and in the slot ever since. -/
theorem governance_exclusivity {earlier since rest : List Move} {handOver t : Move}
    (hrun : Run Step (.genesis ledger) (earlier ++ handOver :: (since ++ t :: rest)) w)
    (hhandOver : HandsOver g c handOver) (hadmin : ∀ u ∈ since ++ [t], u.before.adminOf c = some g)
    (hchanged : t.after.activeWeights c ≠ t.before.activeWeights c) :
    ∃ weights, t.after.activeWeights c = some weights ∧
      ((handOver.after.pendingWeights c = some weights ∧
        ∀ u ∈ since, u.after.pendingWeights c = some weights) ∨
      ∃ u ∈ since, Executes g c weights u ∧
        u.after.ledger.sequence + timelockLedgers ≤ t.after.ledger.sequence) := by
  obtain ⟨before, event, after⟩ := handOver
  obtain ⟨-, hstep, hafter⟩ := hrun.around
  obtain ⟨hsince, hlast, -⟩ := hafter.around
  obtain ⟨now, signers, state, rfl, hg, hlinked⟩ := hhandOver
  obtain ⟨s₀, hs₀, -⟩ := handOver_admin hstep hg hlinked
  obtain ⟨state', hg'⟩ := governance_step hstep hg
  -- the slot just before the step, and what the step does with it
  obtain ⟨⟨state'', hg''⟩, s, hs, hslot⟩ :=
    pending_since hsince hg' hs₀ fun u hu => hadmin u (List.mem_append_left _ hu)
  obtain ⟨-, _, hadmins, hstored⟩ :=
    onCredit_eq_some.mp (hadmin t (List.mem_append_right _ List.mem_cons_self))
  cases hs.symm.trans hadmins
  obtain ⟨s', hs', hchange⟩ := weights_step hlast hs hstored hg''
  rw [activeWeights_eq hs', activeWeights_eq hs] at hchanged
  cases hchange with
  | queued _ hconfig => exact (hchanged hconfig).elim
  | kept hconfig => exact (hchanged hconfig).elim
  | @applied weights n hpending heffective htime hconfig =>
    refine ⟨weights, (activeWeights_eq hs').trans hconfig, ?_⟩
    rcases hslot weights hpending with hinherited | ⟨u, hu, hexecutes, hledger⟩
    · exact Or.inl hinherited
    · obtain rfl := Option.some.inj (heffective.symm.trans hledger)
      exact Or.inr ⟨u, hu, hexecutes, htime⟩

/-! ## Two hand-overs -/

/-- The first ledger of the samples. -/
def sampleStart : Ledger := .numbered 0

/-- The admin of the credit oracle at 22 queues weights, and only then names the governance
contract at 23 as the next admin. -/
def sampleSetup : List Event :=
  [ .deploy sampleStart (.contract 22) .creditOracle,
    .deploy sampleStart (.contract 23) .governance,
    .invoke sampleStart [.account 1] (.contract 22) (.creditOracle (.initializeContract (.account 1))),
    .invoke sampleStart [.account 1] (.contract 23)
      (.governance (.initializeContract (.account 1) (.contract 22) 1)),
    .invoke sampleStart [.account 1] (.contract 22) (.creditOracle (.proposeWeights ⟨50, 20, 30⟩)),
    .invoke sampleStart [.account 1] (.contract 22) (.creditOracle (.proposeNewAdmin (.contract 23))) ]

/-- The governance contract takes over. -/
def sampleHandOver : Event :=
  .invoke sampleStart [.account 1] (.contract 23) (.governance .acceptOracleAdmin)

/-- Anyone applies the pending weights. -/
def sampleApplication (ledger : Ledger) : Event :=
  .invoke ledger [] (.contract 22) (.creditOracle .applyWeights)

/-- Whether a transaction executes a proposal. -/
def Event.isExecute : Event → Bool
  | .invoke _ _ _ (.governance (.execute _)) => true
  | _ => false

/-- What can be seen of the set-up, the hand-over, the events `since` and an application: the
credit oracle that was handed over, whether governance stayed its admin, whether a proposal
was executed, the weights pending at the hand-over, and the active ones before and after the
application. -/
def sampleOutcome (since : List Event) (ledger : Ledger) :
    Option (Option Address × Bool × Bool × List (Option ScoringWeights)) := do
  let (earlier, w) ← replay World.next (.genesis sampleStart) sampleSetup
  let w' ← w.next sampleHandOver
  let (moves, v) ← replay World.next w' since
  let v' ← v.next (sampleApplication ledger)
  let governed := (v :: moves.map fun u => u.before).all fun v =>
    v.adminOf (.contract 22) == some (.contract 23)
  some (onGovernance [] w.contracts (.contract 23) fun s => s.creditOracle, governed,
    (earlier ++ moves).any fun u => u.event.isExecute,
    [w'.pendingWeights (.contract 22), v.activeWeights (.contract 22), v'.activeWeights (.contract 22)])

/-- An observed hand-over is one of a run. -/
theorem sampleOutcome_run {since : List Event} {executed : Bool} {queued old new : Option ScoringWeights}
    (h : sampleOutcome since ledger = some (some (.contract 22), true, executed, [queued, old, new])) :
    ∃ earlier moves handOver t,
      Run Step (.genesis sampleStart) (earlier ++ handOver :: (moves ++ t :: [])) t.after ∧
      HandsOver (.contract 23) (.contract 22) handOver ∧
      (∀ u ∈ moves ++ [t], u.before.adminOf (.contract 22) = some (.contract 23)) ∧
      ((earlier ++ handOver :: moves).any fun u => u.event.isExecute) = executed ∧
      handOver.after.pendingWeights (.contract 22) = queued ∧
      t.before.activeWeights (.contract 22) = old ∧ t.after.activeWeights (.contract 22) = new := by
  simp only [sampleOutcome, Option.bind_eq_bind, Option.bind_eq_some_iff, Option.some.injEq, Prod.mk.injEq,
    List.cons.injEq, and_true] at h
  obtain ⟨⟨earlier, w⟩, hearlier, w', hhandOver, ⟨moves, v⟩, hmoves, v', hlast, hlinked, hgoverned, hexecuted,
    hqueued, hold, hnew⟩ := h
  refine ⟨earlier, moves, ⟨w, sampleHandOver, w'⟩, ⟨v, sampleApplication ledger, v'⟩, ?_, ?_, ?_, ?_, hqueued,
    hold, hnew⟩
  · have hrest := Run.cons hhandOver ((Run.of_replay hmoves).snoc hlast)
    exact (Run.of_replay hearlier).append hrest
  · obtain ⟨-, state, hstate, horacle⟩ := onGovernance_eq_some.mp hlinked
    exact ⟨_, _, state, rfl, hstate, horacle⟩
  · intro u hu
    simp only [List.all_eq_true, beq_iff_eq] at hgoverned
    rcases List.mem_append.mp hu with hu | hu
    · exact hgoverned _ (List.mem_cons_of_mem _ (List.mem_map_of_mem hu))
    · rw [List.mem_singleton.mp hu]
      exact hgoverned _ List.mem_cons_self
  · rw [← hexecuted, List.any_append, List.any_append, List.any_cons]
    rfl

/-- A voter's proposal, executed two ledgers after its creation. -/
def sampleProposal : List Event :=
  [ .invoke sampleStart [.account 1] (.contract 23) (.governance (.registerVoter (.account 1) (.account 4) 1)),
    .invoke sampleStart [.account 4] (.contract 23)
      (.governance (.createProposal (.account 4) ⟨40, 40, 20⟩ 1 0)),
    .invoke sampleStart [.account 4] (.contract 23) (.governance (.vote (.account 4) 1 true 1)),
    .invoke (.numbered 2) [] (.contract 23) (.governance (.execute 1)) ]

/-- The weights of an executed proposal replace the queued ones and become active. -/
theorem governance_exclusivity_executed : ∃ (since : List Move) (t u : Move), u ∈ since ∧
    Executes (.contract 23) (.contract 22) ⟨40, 40, 20⟩ u ∧
    u.after.ledger.sequence + timelockLedgers ≤ t.after.ledger.sequence ∧
    t.after.activeWeights (.contract 22) = some ⟨40, 40, 20⟩ := by
  obtain ⟨earlier, since, handOver, t, hrun, hhandOver, hadmin, -, hqueued, hold, hnew⟩ := sampleOutcome_run
    (show sampleOutcome sampleProposal (.numbered 17282) =
      some (some (.contract 22), true, true,
        [some ⟨50, 20, 30⟩, some ⟨40, 30, 30⟩, some ⟨40, 40, 20⟩]) from rfl)
  have hchanged : t.after.activeWeights (.contract 22) ≠ t.before.activeWeights (.contract 22) := by
    rw [hold, hnew]
    decide
  obtain ⟨weights, hweights, ⟨hinherited, -⟩ | ⟨u, hu, hexecutes, htime⟩⟩ :=
    governance_exclusivity hrun hhandOver hadmin hchanged
  · have hdifferent := hqueued.symm.trans (hinherited.trans (hweights.symm.trans hnew))
    exact absurd hdifferent (by decide)
  · obtain rfl := Option.some.inj (hweights.symm.trans hnew)
    exact ⟨since, t, u, hu, hexecutes, htime, hweights⟩

/-- The weights that the former admin queued become active though no proposal was ever executed. -/
theorem not_governance_exclusivity_queued : ∃ ledger earlier handOver since t w g c,
    Run Step (.genesis ledger) (earlier ++ handOver :: (since ++ t :: [])) w ∧ HandsOver g c handOver ∧
    (∀ u ∈ since ++ [t], u.before.adminOf c = some g) ∧
    t.after.activeWeights c ≠ t.before.activeWeights c ∧
    ¬∃ g' weights, ∃ u ∈ earlier ++ handOver :: since, Executes g' c weights u := by
  obtain ⟨earlier, since, handOver, t, hrun, hhandOver, hadmin, hnone, -, hold, hnew⟩ := sampleOutcome_run
    (show sampleOutcome [] (.numbered 17280) =
      some (some (.contract 22), true, false,
        [some ⟨50, 20, 30⟩, some ⟨40, 30, 30⟩, some ⟨50, 20, 30⟩]) from rfl)
  refine ⟨sampleStart, earlier, handOver, since, t, t.after, .contract 23, .contract 22, hrun, hhandOver, hadmin,
    ?_, ?_⟩
  · rw [hold, hnew]
    decide
  · rintro ⟨g', weights, u, hu, _, _, _, _, _, hevent, -⟩
    have hexecute := List.any_eq_false.mp hnone u hu
    rw [hevent] at hexecute
    exact hexecute rfl

end StellarDidCredit.Network
