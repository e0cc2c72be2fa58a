import StellarDidCredit.Governance.Majorities
import StellarDidCredit.Network.Mandates

/-!
# Putting a decision into force

A proposal with a majority of the registered weight behind it can be executed by anybody once its delay is over,
while the governance contract administers the credit oracle. Its weights then wait in the pending slot until
somebody applies them, which anybody can do from the timelock on unless the credit oracle is paused; only another
execution can take their place.
-/

namespace StellarDidCredit.Network

open CreditOracle (timelockLedgers)
open Governance (Stage castIn currentQuorum nextId getTotalRegisteredWeight)

variable {w w' : World} {c g : Address} {ledger now : Ledger} {signers : List Address} {weights : ScoringWeights}
  {k : Governance.State} {s : CreditOracle.State}

/-! ## Transactions that succeed -/

/-- A transaction succeeds where the invocation does, in a ledger that is not over and with signers that can
sign. -/
theorem step_invoke_iff {callee : Address} {call : Call} :
    Step w (.invoke now signers callee call) w' ↔ w.ledger.NotAfter now ∧
      (∀ signer ∈ signers, w.contracts signer = none) ∧
      ∃ contracts, invoke (.signedBy now callee signers) call w.contracts = some contracts ∧
        w' = ⟨contracts, now⟩ := by
  simp only [Step, StepOf, World.next, Option.bind_eq_bind, Option.bind_eq_some_iff, Option.guard_eq_some',
    Option.some.injEq, exists_const, Option.isNone_iff_eq_none]
  constructor
  · rintro ⟨hnow, hsigners, contracts, hinvoke, rfl⟩
    exact ⟨hnow, hsigners, contracts, hinvoke, rfl⟩
  · rintro ⟨hnow, hsigners, contracts, hinvoke, rfl⟩
    exact ⟨hnow, hsigners, contracts, hinvoke, rfl⟩

/-- A credit oracle takes valid weights from its admin. -/
theorem proposeWeights_succeeds (env : Env) (hvalid : weights.Valid) (hadmin : s.admin = some g)
    (hauth : env.Authorized g) (hfits : env.ledger.sequence + timelockLedgers ≤ U32.max) :
    ∃ s', CreditOracle.proposeWeights env weights s = .ok s' ∧ s'.pendingWeights = some weights := by
  simp only [CreditOracle.proposeWeights, Outcome.bind_eq_ok, Outcome.require_eq_ok, Outcome.okOr_eq_ok,
    CreditOracle.requireStoredAdmin_eq_ok, U32.checkedAdd_eq_some, Except.ok.injEq]
  exact ⟨_, ⟨true, ScoringWeights.isValid_eq_true.mpr hvalid, (), rfl, (), ⟨g, hadmin, hauth⟩, _, ⟨hfits, rfl⟩,
    rfl⟩, rfl⟩

/-! ## Execution -/

/-- A proposal of an initialised governance contract that has more than half of the registered weight behind it,
and the quorum of its creation: anybody can execute it after its delay, and its weights are queued. What can
stop it is an execution before, a cancellation, a change of the registrations, another admin of the credit
oracle, or the end of the ledger range: a timelock from now must still have a ledger number. -/
theorem majority_executes {earlier since : List Move} {creation : Move} {start : Stage} {proposer : Address}
    {period delay : ℕ} (hrun : Run Step (.genesis ledger) (earlier ++ creation :: since) w)
    (hcreation : stageAt g creation = some start)
    (hcall : start.call = .createProposal proposer weights period delay) (hinitialized : start.before.admin ≠ none)
    {p : ℕ} (hid : nextId start.before = p) (hspares : ∀ t ∈ since.filterMap (stageAt g), t.call.Spares p)
    (hg : w.contracts g = some (.governance k))
    (hmajority : getTotalRegisteredWeight k < 2 * castIn p true (since.filterMap (stageAt g)))
    {quorum : ℤ} (hquorum : currentQuorum start.before = .ok quorum)
    (henough : quorum ≤ castIn p true (since.filterMap (stageAt g)) + castIn p false (since.filterMap (stageAt g)))
    (hlinked : k.creditOracle = some c) (hadmin : w.adminOf c = some g) (hnow : w.ledger.NotAfter now)
    (hdue : start.env.ledger.sequence + period + delay < now.sequence)
    (hfits : now.sequence + timelockLedgers ≤ U32.max)
    (hsigners : ∀ signer ∈ signers, w.contracts signer = none) :
    ∃ w', Step w (.invoke now signers g (.governance (.execute p))) w' ∧ w'.pendingWeights c = some weights := by
  obtain ⟨own, final, hown, rfl, -, hstages⟩ := governance_standalone hrun hg
  rw [List.filterMap_append, List.filterMap_cons_some hcreation] at hstages
  -- the contract's own run has the creation at the same place
  obtain ⟨before, rest, rfl, hbefore, hrest⟩ := List.map_eq_append_iff.mp hstages
  obtain ⟨created, after, rfl, rfl, hafter⟩ := List.map_eq_cons_iff.mp hrest
  have hspared : ∀ u ∈ after, u.event.call.Spares p := by
    intro u hu
    exact hspares _ (hafter ▸ List.mem_map_of_mem hu)
  rw [← hafter] at hmajority henough
  obtain ⟨record, hrecord, rfl, hvalid, hexecutable⟩ :=
    Governance.executable_of_majority hown hcall hinitialized hid hspared hquorum henough hmajority hdue
  obtain ⟨-, s, hs, hstored⟩ := onCredit_eq_some.mp hadmin
  have hne : c ≠ g := ne_of_code hs hg (by simp)
  obtain ⟨s', hproposed, hpending⟩ :=
    proposeWeights_succeeds ((Env.signedBy now g signers).enter c) hvalid hstored (Or.inr rfl) hfits
  have hqueued : (governanceHost (.signedBy now g signers) [g]).proposeWeights w.contracts c
      record.proposedWeights = .ok (w.contracts.set c (.creditOracle s')) :=
    updateCredit_eq_ok.mpr ⟨by simpa using hne, s, hs, s', hproposed, rfl⟩
  have hpasses : Governance.Executable (Env.signedBy now g signers).ledger.sequence record := hexecutable
  have hinvoked : ∃ k', invoke (.signedBy now g signers) (.governance (.execute p)) w.contracts =
      some ((w.contracts.set c (.creditOracle s')).set g (.governance k')) := by
    simp only [invoke, onGovernance_eq_some, Option.bind_eq_bind, Option.bind_eq_some_iff, Outcome.toOption_eq_some]
    exact ⟨_, List.not_mem_nil, final.state, hg, _, hpasses.execute hrecord hlinked hqueued, rfl⟩
  obtain ⟨k', hinvoked⟩ := hinvoked
  refine ⟨_, step_invoke_iff.mpr ⟨hnow, hsigners, _, hinvoked, rfl⟩, ?_⟩
  exact onCredit_eq_some.mpr
    ⟨List.not_mem_nil, s', (Storage.set_of_ne _ _ hne).trans (Storage.set_self _ _ _), hpending⟩

/-- The set-up with one registered voter, after the hand-over. -/
def sampleVoter : List Event :=
  sampleSetup ++ [sampleHandOver,
    .invoke sampleStart [.account 1] (.contract 23) (.governance (.registerVoter (.account 1) (.account 4) 1))]

/-- The voter's proposal, and its vote. -/
def sampleCreation : Event :=
  .invoke sampleStart [.account 4] (.contract 23) (.governance (.createProposal (.account 4) ⟨40, 40, 20⟩ 1 0))

def sampleVote : Event := .invoke sampleStart [.account 4] (.contract 23)
    (.governance (.vote (.account 4) 1 true 1))

/-- The one registered voter's proposal is executed. -/
theorem majority_executes_vote : ∃ w w',
    Step w (.invoke (.numbered 2) [] (.contract 23) (.governance (.execute 1))) w' ∧
    w'.pendingWeights (.contract 22) = some ⟨40, 40, 20⟩ := by
  obtain ⟨earlier, w₀, hearlier, hobserved⟩ := Run.exists_of_replay
    (show (replay World.next (.genesis sampleStart) sampleVoter).map (fun r => do
        let w₁ ← r.2.next sampleCreation
        let w₂ ← w₁.next sampleVote
        let start ← stageAt (.contract 23) ⟨r.2, sampleCreation, w₁⟩
        let vote ← stageAt (.contract 23) ⟨w₁, sampleVote, w₂⟩
        let k ← governanceAt w₂.contracts (.contract 23)
        some (start.call, start.before.admin, nextId start.before, (currentQuorum start.before).toOption,
          start.env.ledger.sequence, vote.call, getTotalRegisteredWeight k, k.creditOracle,
          w₂.adminOf (.contract 22), decide (w₂.ledger.NotAfter (.numbered 2)))) =
      some (some (.createProposal (.account 4) ⟨40, 40, 20⟩ 1 0, some (.account 1), 1, some 1, 0,
        .vote (.account 4) 1 true 1, 1, some (.contract 22), some (.contract 23), true)) from rfl)
  simp only [Option.bind_eq_bind, Option.bind_eq_some_iff, Option.some.injEq, Prod.mk.injEq,
    decide_eq_true_eq] at hobserved
  obtain ⟨w₁, hcreation, w₂, hvote, start, hstart, stage, hstage, k, hk, hcall, hinitialized, hid, hquorum,
    hbegun, hcast, htotal, hlinked, hadmin, hledger⟩ := hobserved
  obtain ⟨-, _, hg, hsame⟩ := onGovernance_eq_some.mp hk
  obtain rfl := Option.some.inj hsame
  have hrun : Run Step (.genesis sampleStart) (earlier ++ ⟨w₀, sampleCreation, w₁⟩ :: [⟨w₁, sampleVote, w₂⟩]) w₂ :=
    hearlier.append (Run.cons hcreation (Run.nil.snoc hvote))
  have hsince : [(⟨w₁, sampleVote, w₂⟩ : Move)].filterMap (stageAt (.contract 23)) = [stage] :=
    List.filterMap_cons_some hstage
  have hgiven (side : Bool) : castIn 1 side [stage] = if side then 1 else 0 := by
    rw [castIn, List.map_singleton, List.sum_singleton, hcast]
    cases side <;> rfl
  refine ⟨w₂, majority_executes hrun hstart hcall (by rw [hinitialized]; exact Option.some_ne_none _) hid ?_ hg ?_
    (Outcome.toOption_eq_some.mp hquorum) ?_ hlinked hadmin hledger ?_ (by decide) (by simp)⟩
  · rw [hsince]
    refine List.forall_mem_singleton.mpr ?_
    rw [hcast]
    exact ⟨by simp, by simp, rfl⟩
  · rw [hsince, htotal, hgiven]
    decide
  · rw [hsince, hgiven, hgiven]
    decide
  · rw [hbegun]
    decide

/-! ## Application -/

/-- A call that applies the pending weights of a credit oracle, directly or through its governance contract. -/
inductive Applies (g c : Address) : Address → Call → Prop
  | direct : Applies g c c (.creditOracle .applyWeights)
  | forwarded : Applies g c g (.governance .applyWeights)

/-- The credit oracle after the application of its pending weights. -/
def applied (s : CreditOracle.State) (weights : ScoringWeights) : CreditOracle.State :=
  { s with config := some weights, pendingWeights := none, pendingWeightsEffectiveLedger := none }

/-- The pending weights are applied from the ledger on in which they become effective, while the credit oracle is
not paused. -/
theorem applyWeights_iff {env : Env} {effective : ℕ} {s' : CreditOracle.State}
    (hpending : s.pendingWeights = some weights)
    (heffective : s.pendingWeightsEffectiveLedger = some effective) :
    CreditOracle.applyWeights env s = .ok s' ↔
      (s.paused.getD false = false ∧ effective ≤ env.ledger.sequence) ∧ s' = applied s weights := by
  constructor
  · intro happly
    obtain ⟨hpaused, found, since, hfound, hsince, hdue, rfl⟩ := CreditOracle.applyWeights_spec happly
    obtain rfl := Option.some.inj (hfound.symm.trans hpending)
    obtain rfl := Option.some.inj (hsince.symm.trans heffective)
    exact ⟨⟨hpaused, hdue⟩, rfl⟩
  · rintro ⟨⟨hpaused, hdue⟩, rfl⟩
    simp only [CreditOracle.applyWeights, Outcome.bind_eq_ok, CreditOracle.ensureNotPaused_eq_ok,
      Outcome.okOr_eq_ok, Outcome.require_eq_ok]
    exact ⟨(), hpaused, effective, heffective, (), hdue, weights, hpending, rfl⟩

/-- What an application does to the contracts. -/
theorem invoke_applies {callee : Address} {call : Call} {contracts contracts' : Contracts} {effective : ℕ}
    (hs : contracts c = some (.creditOracle s)) (hpending : s.pendingWeights = some weights)
    (heffective : s.pendingWeightsEffectiveLedger = some effective) (hg : contracts g = some (.governance k))
    (hlinked : k.creditOracle = some c) (happlies : Applies g c callee call) :
    invoke (.signedBy now callee signers) call contracts = some contracts' ↔
      (s.paused.getD false = false ∧ effective ≤ now.sequence) ∧
        contracts' = contracts.set c (.creditOracle (applied s weights)) := by
  have hne : c ≠ g := ne_of_code hs hg (by simp)
  have hiff {env : Env} (hledger : env.ledger = now) (s' : CreditOracle.State) :
      CreditOracle.applyWeights env s = .ok s' ↔
        (s.paused.getD false = false ∧ effective ≤ now.sequence) ∧ s' = applied s weights :=
    hledger ▸ applyWeights_iff hpending heffective
  cases happlies with
  | direct =>
    simp only [invoke, onCredit_eq_some, Option.bind_eq_bind, Option.bind_eq_some_iff, Outcome.toOption_eq_some,
      Option.some.injEq]
    constructor
    · rintro ⟨-, found, hfound, ⟨s', others⟩, hexec, rfl⟩
      cases hfound.symm.trans hs
      obtain ⟨happly, rfl⟩ := CreditOracle.alone_eq_ok.mp hexec
      obtain ⟨hdue, rfl⟩ := (hiff rfl s').mp happly
      exact ⟨hdue, rfl⟩
    · rintro ⟨hdue, rfl⟩
      exact ⟨List.not_mem_nil, s, hs, (_, contracts),
        CreditOracle.alone_eq_ok.mpr ⟨(hiff rfl _).mpr ⟨hdue, rfl⟩, rfl⟩, rfl⟩
  | forwarded =>
    have hfree : c ∉ [g] := by simpa using hne
    have hback : (contracts.set c (.creditOracle (applied s weights))).set g (.governance k) =
        contracts.set c (.creditOracle (applied s weights)) :=
      Storage.set_eq_self ((Storage.set_of_ne _ _ hne.symm).trans hg)
    simp only [invoke, onGovernance_eq_some, Option.bind_eq_bind, Option.bind_eq_some_iff, Outcome.toOption_eq_some,
      Option.some.injEq]
    constructor
    · rintro ⟨-, found, hfound, ⟨k', others⟩, hexec, rfl⟩
      cases hfound.symm.trans hg
      obtain ⟨rfl, oracle, horacle, hforwarded⟩ := Governance.applyWeights_spec hexec
      obtain rfl := Option.some.inj (horacle.symm.trans hlinked)
      obtain ⟨-, t, ht, s', happly, rfl⟩ := updateCredit_eq_ok.mp hforwarded
      cases hs.symm.trans ht
      obtain ⟨hdue, rfl⟩ := (hiff rfl s').mp happly
      exact ⟨hdue, hback⟩
    · rintro ⟨hdue, rfl⟩
      have hforwarded : (governanceHost (.signedBy now g signers) [g]).applyWeights contracts c =
          .ok (contracts.set c (.creditOracle (applied s weights))) :=
        updateCredit_eq_ok.mpr ⟨hfree, s, hs, _, (hiff rfl _).mpr ⟨hdue, rfl⟩, rfl⟩
      exact ⟨List.not_mem_nil, k, hg, _, Governance.applyWeights_succeeds hlinked hforwarded, hback⟩

/-- The weights are pending. Anybody can apply them from this ledger on, at the credit oracle or through the
governance contract, exactly while the credit oracle is not paused; and they are active then. -/
structure Awaits (w : World) (g c : Address) (weights : ScoringWeights) (effective : ℕ) (paused : Bool) : Prop where
  pending : w.pendingWeights c = some weights
  applies : ∀ now signers callee call, Applies g c callee call → w.ledger.NotAfter now →
    (∀ signer ∈ signers, w.contracts signer = none) →
    ((∃ w', Step w (.invoke now signers callee call) w') ↔ paused = false ∧ effective ≤ now.sequence) ∧
    ∀ w', Step w (.invoke now signers callee call) w' → w'.activeWeights c = some weights

/-- Pending weights await their ledger. -/
theorem awaits_of_pending {effective : ℕ} (hs : w.contracts c = some (.creditOracle s))
    (hpending : s.pendingWeights = some weights) (heffective : s.pendingWeightsEffectiveLedger = some effective)
    (hg : w.contracts g = some (.governance k)) (hlinked : k.creditOracle = some c) :
    Awaits w g c weights effective (s.paused.getD false) := by
  refine ⟨onCredit_eq_some.mpr ⟨List.not_mem_nil, s, hs, hpending⟩,
    fun now signers callee call happlies hnow hsigners => ?_⟩
  have hiff (w' : World) : Step w (.invoke now signers callee call) w' ↔
      (s.paused.getD false = false ∧ effective ≤ now.sequence) ∧
        w' = ⟨w.contracts.set c (.creditOracle (applied s weights)), now⟩ := by
    rw [step_invoke_iff]
    constructor
    · rintro ⟨-, -, contracts, hinvoke, rfl⟩
      obtain ⟨hdue, rfl⟩ := (invoke_applies hs hpending heffective hg hlinked happlies).mp hinvoke
      exact ⟨hdue, rfl⟩
    · rintro ⟨hdue, rfl⟩
      exact ⟨hnow, hsigners, _, (invoke_applies hs hpending heffective hg hlinked happlies).mpr ⟨hdue, rfl⟩, rfl⟩
  constructor
  · simp only [hiff, exists_and_left, exists_eq, and_true]
  · intro w' hstep
    obtain ⟨-, rfl⟩ := (hiff w').mp hstep
    exact onCredit_eq_some.mpr ⟨List.not_mem_nil, _, Storage.set_self _ _ _, rfl⟩

/-! ## After the execution -/

/-- An execution queues the weights of its proposal. -/
theorem executes_step {e : Event} (hstep : Step w e w') (hexecutes : Executes g c weights ⟨w, e, w'⟩) :
    ∃ k s, w.contracts g = some (.governance k) ∧ k.creditOracle = some c ∧
      w'.contracts c = some (.creditOracle s) ∧
      s.pendingWeights = some weights ∧
      s.pendingWeightsEffectiveLedger = some (w'.ledger.sequence + timelockLedgers) := by
  obtain ⟨ledger, signers, p, state, proposal, rfl, hg, hlinked, hproposal, rfl⟩ := hexecutes
  refine ⟨state, ?_⟩
  cases step_spec hstep with
  | invoked hledger hsigners hinvoked =>
    cases hinvoked with
    | @governance call found after others hfound hexec hothers =>
      cases hfound.symm.trans hg
      rcases hothers with ⟨-, hnot⟩ | ⟨linked, t, t', hne, hcalled, -, rfl, hcases⟩
      · exact (hnot trivial).elim
      obtain rfl : c = linked := Option.some.inj (hlinked.symm.trans hcalled)
      rcases hcases with ⟨_, found, hcall, hfound, hpropose⟩ | ⟨hother, -⟩ | ⟨hother, -⟩
      · obtain rfl := Governance.Call.execute.inj hcall
        obtain rfl := Option.some.inj (hfound.symm.trans hproposal)
        obtain ⟨-, -, rfl⟩ := CreditOracle.proposeWeights_spec hpropose
        exact ⟨_, hg, hlinked, (Storage.set_of_ne _ _ hne).trans (Storage.set_self _ _ _), rfl, rfl⟩
      · cases hother
      · cases hother

/-- The governance contract stays linked to its credit oracle. -/
theorem linkedTo_step {e : Event} (h : Step w e w')
    (hlinked : ∃ k, w.contracts g = some (.governance k) ∧ Governance.LinkedTo c k) :
    ∃ k, w'.contracts g = some (.governance k) ∧ Governance.LinkedTo c k := by
  obtain ⟨k, hg, hlink⟩ := hlinked
  obtain ⟨k', hg', hcalled⟩ := governance_called h hg
  refine ⟨k', hg', ?_⟩
  cases hcalled with
  | idle => exact hlink
  | own he hexec => exact hlink.step (Governance.exec_effect hexec)

/-- The weights are in the pending slot until they are applied, and active from then on. -/
def Decided (weights : ScoringWeights) (effective : ℕ) (s : CreditOracle.State) : Prop :=
  (s.config = some weights ∧ s.pendingWeights = none) ∨
    (s.pendingWeights = some weights ∧ s.pendingWeightsEffectiveLedger = some effective)

/-- The weights of an executed proposal, as long as the governance contract stays the admin of the credit oracle and
executes no other proposal: they are active, or they wait for anybody who applies them, from a timelock after the
execution on. -/
theorem executed_enacted {earlier since : List Move} {execution : Move}
    (hrun : Run Step (.genesis ledger) (earlier ++ execution :: since) w)
    (hexecutes : Executes g c weights execution)
    (hadmin : ∀ u ∈ since, u.before.adminOf c = some g) (hlast : ∀ u ∈ since, ∀ other, ¬Executes g c other u) :
    ∃ s, w.contracts c = some (.creditOracle s) ∧ (w.activeWeights c = some weights ∨
      Awaits w g c weights (execution.after.ledger.sequence + timelockLedgers) (s.paused.getD false)) := by
  obtain ⟨hbefore, hstep, hafter⟩ := hrun.around
  obtain ⟨k, s₀, hg, hlinked, hs₀, hpending, heffective⟩ := executes_step hstep hexecutes
  obtain ⟨own, final, hown, rfl, -, -⟩ := governance_standalone hbefore hg
  have hlink := linkedTo_step hstep ⟨_, hg, Governance.linkedTo_of_run hown hlinked⟩
  have hkept : (∃ k, w.contracts g = some (.governance k) ∧ Governance.LinkedTo c k) ∧
      ∃ s, w.contracts c = some (.creditOracle s) ∧
        Decided weights (execution.after.ledger.sequence + timelockLedgers) s := by
    refine hafter.invariant_where (fun v => (∃ k, v.contracts g = some (.governance k) ∧ Governance.LinkedTo c k) ∧
      ∃ s, v.contracts c = some (.creditOracle s) ∧
        Decided weights (execution.after.ledger.sequence + timelockLedgers) s)
      (fun u => u.before.adminOf c = some g ∧ ∀ other, ¬Executes g c other u) ?_
      ⟨hlink, s₀, hs₀, Or.inr ⟨hpending, heffective⟩⟩ fun u hu => ⟨hadmin u hu, hlast u hu⟩
    rintro v e v' ⟨⟨k, hk, hkLink⟩, s, hs, hdecided⟩ hnext ⟨hadmins, hnone⟩
    refine ⟨linkedTo_step hnext ⟨k, hk, hkLink⟩, ?_⟩
    obtain ⟨-, _, hfound, hstored⟩ := onCredit_eq_some.mp hadmins
    cases hfound.symm.trans hs
    obtain ⟨s', hs', hchange⟩ := weights_step hnext hs hstored hk
    refine ⟨s', hs', ?_⟩
    cases hchange with
    | queued hother => exact absurd hother (hnone _)
    | applied hqueued _ _ hconfig hcleared =>
      rcases hdecided with ⟨-, hempty⟩ | ⟨hours, -⟩
      · cases hempty.symm.trans hqueued
      · obtain rfl := Option.some.inj (hqueued.symm.trans hours)
        exact Or.inl ⟨hconfig, hcleared⟩
    | kept hconfig hsame hdue =>
      rw [Decided, hconfig, hsame, hdue]
      exact hdecided
  obtain ⟨⟨k, hk, -, hkLinked⟩, s, hs, ⟨hconfig, -⟩ | ⟨hours, hdue⟩⟩ := hkept
  · exact ⟨s, hs, Or.inl ((activeWeights_eq hs).trans hconfig)⟩
  · exact ⟨s, hs, Or.inr (awaits_of_pending hs hours hdue hk hkLinked)⟩

/-- While a voter is registered, the weights of an executed proposal wait for their application. -/
theorem executed_enacted_registration : ∃ w, Awaits w (.contract 23) (.contract 22) ⟨40, 40, 20⟩ 17282 false := by
  let execute : Event := .invoke (.numbered 2) [] (.contract 23) (.governance (.execute 1))
  let register : Event :=
    .invoke (.numbered 2) [.account 1] (.contract 23) (.governance (.registerVoter (.account 1) (.account 5) 1))
  obtain ⟨earlier, w₀, hearlier, hobserved⟩ := Run.exists_of_replay
    (show (replay World.next (.genesis sampleStart) (sampleVoter ++ [sampleCreation, sampleVote])).map (fun r => do
        let w₁ ← r.2.next execute
        let w₂ ← w₁.next register
        let k ← governanceAt r.2.contracts (.contract 23)
        let proposal ← k.proposal 1
        let s ← onCredit [] w₂.contracts (.contract 22) some
        some (k.creditOracle, proposal.proposedWeights, w₁.adminOf (.contract 22), w₁.ledger.sequence,
          w₂.activeWeights (.contract 22), s.paused.getD false)) =
      some (some (some (.contract 22), ⟨40, 40, 20⟩, some (.contract 23), 2, some ⟨40, 30, 30⟩, false)) from rfl)
  simp only [Option.bind_eq_bind, Option.bind_eq_some_iff, Option.some.injEq, Prod.mk.injEq] at hobserved
  obtain ⟨w₁, hexecution, w₂, hregistration, k, hk, proposal, hproposal, s, hs, hlinked, hweights, hadmin, hledger,
    hactive, hpaused⟩ := hobserved
  obtain ⟨-, _, hg, hsame⟩ := onGovernance_eq_some.mp hk
  obtain rfl := Option.some.inj hsame
  obtain ⟨-, _, hcredit, hfound⟩ := onCredit_eq_some.mp hs
  obtain rfl := Option.some.inj hfound
  have hrun : Run Step (.genesis sampleStart) (earlier ++ ⟨w₀, execute, w₁⟩ :: [⟨w₁, register, w₂⟩]) w₂ :=
    hearlier.append (Run.cons hexecution (Run.nil.snoc hregistration))
  have hexecutes : Executes (.contract 23) (.contract 22) ⟨40, 40, 20⟩ ⟨w₀, execute, w₁⟩ :=
    ⟨_, _, 1, _, proposal, rfl, hg, hlinked, hproposal, hweights⟩
  have hnone : ∀ other, ¬Executes (.contract 23) (.contract 22) other ⟨w₁, register, w₂⟩ := by
    rintro other ⟨_, _, _, _, _, hevent, -⟩
    cases hevent
  obtain ⟨s', hs', hdone | hawaits⟩ := executed_enacted hrun hexecutes (List.forall_mem_singleton.mpr hadmin)
    (List.forall_mem_singleton.mpr hnone)
  · exact absurd (hactive.symm.trans hdone) (by decide)
  · cases hs'.symm.trans hcredit
    rw [hledger, hpaused] at hawaits
    exact ⟨w₂, hawaits⟩

end StellarDidCredit.Network
