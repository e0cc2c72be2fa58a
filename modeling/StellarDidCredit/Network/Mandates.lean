import StellarDidCredit.Governance.Mandates
import StellarDidCredit.Network.HandOver
import StellarDidCredit.Network.Standalone

/-!
# The mandate of the scoring weights

What happens to a governance contract in the network is a run of that contract alone. So an execution in the
network rests on the same votes, each of them cast in a signed transaction; and once the contract administers a
credit oracle, every change of its scoring weights goes back to them.
-/

namespace StellarDidCredit.Governance

variable {κ : Type} {host : Host κ} {env : Env} {call : Call} {s s' : State} {world world' : κ}

/-- A call that succeeds succeeds with a credit oracle that accepts everything. -/
theorem exec_recording (h : exec host env call s world = .ok (s', world')) (queue : Queue) :
    ∃ queue', exec (recordingHost {}) env call s queue = .ok (s', queue') := by
  cases call
  case execute p =>
    simp only [exec, execute, Outcome.bind_eq_ok, Outcome.okOr_eq_ok, Except.ok.injEq, Prod.mk.injEq] at h ⊢
    obtain ⟨record, hrecord, _, hexpired, _, hdelay, _, hexecuted, _, hcancelled, _, hpassed, votes, hvotes,
      _, hquorum, oracle, horacle, _, -, rfl, -⟩ := h
    exact ⟨_, record, hrecord, _, hexpired, _, hdelay, _, hexecuted, _, hcancelled, _, hpassed, votes, hvotes,
      _, hquorum, oracle, horacle, _, rfl, rfl, rfl⟩
  case applyWeights =>
    obtain ⟨rfl, oracle, horacle, -⟩ := applyWeights_spec h
    refine ⟨queue, ?_⟩
    simp only [exec, applyWeights, Outcome.bind_eq_ok, Outcome.okOr_eq_ok]
    exact ⟨oracle, horacle, rfl⟩
  case acceptOracleAdmin =>
    simp only [exec, acceptOracleAdmin, Outcome.bind_eq_ok, Outcome.okOr_eq_ok, Except.ok.injEq,
      Prod.mk.injEq] at h ⊢
    obtain ⟨admin, hadmin, _, hauth, oracle, horacle, _, -, rfl, -⟩ := h
    exact ⟨queue, admin, hadmin, _, hauth, oracle, horacle, _, rfl, rfl, rfl⟩
  all_goals
    simp only [exec, alone_eq_ok] at h ⊢
    exact ⟨queue, h.1, rfl⟩

end StellarDidCredit.Governance

namespace StellarDidCredit.Network

open CreditOracle (timelockLedgers)
open Governance (Stage Mandate)

variable {w w' : World} {e : Event} {c g : Address} {ledger : Ledger} {history : List Move}

/-! ## A governance contract's own run -/

/-- The state of a governance contract. -/
def governanceAt (contracts : Contracts) (g : Address) : Option Governance.State :=
  onGovernance [] contracts g some

/-- The governance contract at an address. -/
theorem governanceAt_eq {k : Governance.State} (hg : w.contracts g = some (.governance k)) :
    governanceAt w.contracts g = some k := by
  simp only [governanceAt, onGovernance, callable, List.not_mem_nil, if_false, hg]

/-- What a transaction does at a governance contract that it invokes. -/
def stageAt (g : Address) (t : Move) : Option Stage :=
  match t.event with
  | .invoke ledger signers callee (.governance call) =>
    if callee = g then do
      let before ← governanceAt t.before.contracts g
      let after ← governanceAt t.after.contracts g
      some ⟨before, .signedBy ledger g signers, call, after⟩
    else none
  | _ => none

/-- A call of the contract is a stage of it. -/
theorem stageAt_eq {t : Move} {now : Ledger} {signers : List Address} {call : Governance.Call}
    {k k' : Governance.State}
    (he : t.event = .invoke now signers g (.governance call))
    (hbefore : t.before.contracts g = some (.governance k))
    (hafter : t.after.contracts g = some (.governance k')) :
    stageAt g t = some ⟨k, .signedBy now g signers, call, k'⟩ := by
  simp only [stageAt, he, if_true, governanceAt_eq hbefore, governanceAt_eq hafter]
  rfl

/-- A stage is in the ledger of its transaction. -/
theorem stageAt_ledger {t : Move} (hstep : Step t.before t.event t.after) {stage : Stage}
    (h : stageAt g t = some stage) : stage.env.ledger = t.after.ledger := by
  unfold stageAt at h
  split at h
  next ledger signers callee call hevent =>
    have hledger := hstep.ledger_eq
    rw [hevent] at hledger
    split at h
    next =>
      simp only [Option.bind_eq_bind, Option.bind_eq_some_iff, Option.some.injEq] at h
      obtain ⟨_, -, _, -, rfl⟩ := h
      exact hledger.symm
    next => cases h
  next => cases h

/-- What a step does to a governance contract: it is invoked, or it stays as it is. -/
inductive GovernanceCalled (w : World) (e : Event) (w' : World) (g : Address) (k : Governance.State) :
    Governance.State → Prop
  | idle (hstage : stageAt g ⟨w, e, w'⟩ = none) : GovernanceCalled w e w' g k k
  | own {signers : List Address} {call : Governance.Call} {k' : Governance.State} {others : Contracts}
      (he : e = .invoke w'.ledger signers g (.governance call))
      (hexec : Governance.exec (governanceHost (.signedBy w'.ledger g signers) [g])
        (.signedBy w'.ledger g signers) call k w.contracts = .ok (k', others)) : GovernanceCalled w e w' g k k'

/-- In a step a governance contract executes one call at most. -/
theorem governance_called (h : Step w e w') {k : Governance.State} (hg : w.contracts g = some (.governance k)) :
    ∃ k', w'.contracts g = some (.governance k') ∧ GovernanceCalled w e w' g k k' := by
  cases step_spec h with
  | @deployed ledger address code hledger hcontract hfree =>
    have hne : g ≠ address := by
      rintro rfl
      cases hg.symm.trans hfree
    exact ⟨k, (Storage.set_of_ne _ _ hne).trans hg, .idle rfl⟩
  | @invoked ledger signers callee call contracts hledger hsigners hinvoked =>
    cases hinvoked with
    | @credit call t t' others ht hexec hothers =>
      have hne : g ≠ callee := ne_of_code hg ht (by simp)
      refine ⟨k, (Storage.set_of_ne _ _ hne).trans ?_, .idle rfl⟩
      rcases hothers with ⟨rfl, -⟩ | ⟨admin, linked, i, i', count, rfl, -, hi, -, rfl⟩
      · exact hg
      · exact set_of_code hi hg (by simp)
    | @identity call t t' others ht hexec hothers =>
      have hne : g ≠ callee := ne_of_code hg ht (by simp)
      refine ⟨k, (Storage.set_of_ne _ _ hne).trans ?_, .idle rfl⟩
      rcases hothers with ⟨rfl, -⟩ | ⟨linked, q, rfl, -, hq, rfl⟩
      · exact hg
      · exact set_of_code hq hg (by simp)
    | @registry call q q' others hq hexec hothers =>
      have hne : g ≠ callee := ne_of_code hg hq (by simp)
      refine ⟨k, (Storage.set_of_ne _ _ hne).trans ?_, .idle rfl⟩
      rcases hothers with ⟨rfl, -⟩ | ⟨issuer, subject, vcHash, linked, t, t', -, -, -, ht, -, rfl⟩
      · exact hg
      · exact set_of_code ht hg (by simp)
    | @governance call other other' others hother hexec hothers =>
      by_cases hcallee : g = callee
      · subst hcallee
        cases hg.symm.trans hother
        exact ⟨other', Storage.set_self _ _ _, .own rfl hexec⟩
      · refine ⟨k, (Storage.set_of_ne _ _ hcallee).trans ?_, .idle (if_neg (Ne.symm hcallee))⟩
        rcases hothers with ⟨rfl, -⟩ | ⟨linked, t, t', -, hlinked, ht, rfl, hcalled⟩
        · exact hg
        · exact set_of_code ht hg (by simp)

/-- Nothing happens at an address where no contract is. -/
theorem stageAt_of_none {t : Move} (h : t.before.contracts g = none) : stageAt g t = none := by
  unfold stageAt
  split
  next =>
    split
    next =>
      have hnone : governanceAt t.before.contracts g = none := by
        simp only [governanceAt, onGovernance, callable, List.not_mem_nil, if_false, h]
      rw [hnone]
      rfl
    next => rfl
  next => rfl

/-- A contract that is there stays there. -/
theorem free_before (h : Step w e w') (hfree : w'.contracts g = none) : w.contracts g = none := by
  rcases code_step h g with hcode | ⟨hnone, -⟩
  · rw [hfree, Option.map_none] at hcode
    exact Option.map_eq_none_iff.mp hcode.symm
  · exact hnone

/-- The stages of a history with one more step. -/
theorem stages_concat (g : Address) (history : List Move) (t : Move) :
    (history ++ [t]).filterMap (stageAt g) = history.filterMap (stageAt g) ++ (stageAt g t).toList := by
  rw [List.filterMap_append]
  cases hstage : stageAt g t <;> simp [hstage]

/-- Before a contract is deployed, nothing happens at its address. -/
theorem stages_of_free (hrun : Run Step (.genesis ledger) history w) (hfree : w.contracts g = none) :
    history.filterMap (stageAt g) = [] := by
  induction hrun with
  | nil => rfl
  | snoc hbefore h ih =>
    have hnone := free_before h hfree
    rw [stages_concat, ih hnone, stageAt_of_none hnone]
    rfl

/-- In every reachable state of the network a governance contract has reached its state in a run of its own,
which consists of the transactions that invoked it. -/
theorem governance_standalone (hrun : Run Step (.genesis ledger) history w) {k : Governance.State}
    (hg : w.contracts g = some (.governance k)) :
    ∃ own final, Run (StepOf Governance.Config.next) (.fresh ledger) own final ∧ final.state = k ∧
      final.ledger.NotAfter w.ledger ∧ own.map Stage.ofMove = history.filterMap (stageAt g) := by
  induction hrun generalizing k with
  | nil => cases hg
  | @snoc history w e w' hbefore h ih =>
    rw [stages_concat]
    rcases code_origin h hg with ⟨hfree, hfresh⟩ | ⟨before, hstored, hcode⟩
    · obtain rfl : k = {} := by injection hfresh
      refine ⟨[], .fresh ledger, .nil, rfl, genesis_notAfter (hbefore.snoc h), ?_⟩
      rw [stages_of_free hbefore hfree, stageAt_of_none hfree]
      rfl
    · cases before with
      | governance k₀ =>
        obtain ⟨own, final, hown, rfl, hledger, hstages⟩ := ih hstored
        have hnow : final.ledger.NotAfter w'.ledger := hledger.trans h.ledger
        obtain ⟨after, hafter, hcalled⟩ := governance_called h hstored
        cases hafter.symm.trans hg
        cases hcalled with
        | idle hstage =>
          refine ⟨own, final, hown, rfl, hnow, ?_⟩
          rw [hstages, hstage, Option.toList_none, List.append_nil]
        | @own signers call k' others he hexec =>
          obtain ⟨queue, hrecorded⟩ := Governance.exec_recording hexec final.queue
          have hstep : StepOf Governance.Config.next final ⟨.signedBy w'.ledger g signers, call, {}⟩
              ⟨k, w'.ledger, queue⟩ := by
            simp only [StepOf, Governance.Config.next, Option.bind_eq_bind, Option.bind_eq_some_iff,
              Option.guard_eq_some', Outcome.toOption_eq_some, Option.some.injEq]
            exact ⟨(), hnow, (k, queue), hrecorded, rfl⟩
          refine ⟨own ++ [⟨final, _, _⟩], _, hown.snoc hstep, rfl, .refl _, ?_⟩
          rw [List.map_append, hstages, stageAt_eq he hstored hg]
          rfl
      | _ => cases hcode

/-! ## Executions and the weights -/

/-- An execution in the network rests on the transactions that invoked the contract before. -/
theorem mandate_of_execution {earlier later : List Move} {u : Move} {weights : ScoringWeights}
    (hrun : Run Step (.genesis ledger) (earlier ++ u :: later) w) (hexecutes : Executes g c weights u) :
    ∃ p before creation votes execution, stageAt g u = some execution ∧ execution.call = .execute p ∧
      earlier.filterMap (stageAt g) = before ++ creation :: votes ∧ Mandate p weights creation votes execution := by
  obtain ⟨hbefore, hstep, -⟩ := hrun.around
  obtain ⟨now, signers, p, state, proposal, hevent, hg, -, hproposal, rfl⟩ := hexecutes
  obtain ⟨state', hg'⟩ := governance_step hstep hg
  have hstage := stageAt_eq hevent hg hg'
  -- the own run up to the execution ends with it
  obtain ⟨own, final, hown, -, -, hstages⟩ := governance_standalone (hbefore.snoc hstep) hg'
  have hsplit : own.map Stage.ofMove = earlier.filterMap (stageAt g) ++
      [⟨state, .signedBy now g signers, .execute p, state'⟩] := by
    rw [hstages, stages_concat, hstage]
    rfl
  obtain ⟨front, back, rfl, hfront, hback⟩ := List.map_eq_append_iff.mp hsplit
  obtain ⟨t, tail, rfl, ht, htail⟩ := List.map_eq_cons_iff.mp hback
  obtain rfl := List.map_eq_nil_iff.mp htail
  have hcall : t.event.call = .execute p := congrArg Stage.call ht
  have hstate : t.before.state = state := congrArg Stage.before ht
  have hrecord : t.before.state.proposal p = some proposal := hstate ▸ hproposal
  obtain ⟨before, creation, votes, hcreated, hmandate⟩ := Governance.mandate_of_run hown hcall hrecord
  exact ⟨p, before, creation, votes, _, hstage, rfl, hfront ▸ hcreated, ht ▸ hmandate⟩

/-- After the hand-over, and as long as the governance contract is the admin of the credit oracle, every change
of the active weights has a mandate: a majority and a quorum of votes that registered voters signed, each in
time and within its weight, on a proposal that nobody cancelled, created by a signature. The proposal was
executed after its delay, and at least a timelock before the change. The only other weights that can become
active are those that were pending at the hand-over. -/
theorem weights_mandated {earlier since rest : List Move} {handOver t : Move}
    (hrun : Run Step (.genesis ledger) (earlier ++ handOver :: (since ++ t :: rest)) w)
    (hhandOver : HandsOver g c handOver) (hadmin : ∀ u ∈ since ++ [t], u.before.adminOf c = some g)
    (hchanged : t.after.activeWeights c ≠ t.before.activeWeights c) :
    ∃ weights, t.after.activeWeights c = some weights ∧
      (handOver.after.pendingWeights c = some weights ∨
      ∃ between u later p before creation votes execution, since = between ++ u :: later ∧
        stageAt g u = some execution ∧ execution.call = .execute p ∧
        (earlier ++ handOver :: between).filterMap (stageAt g) = before ++ creation :: votes ∧
        Mandate p weights creation votes execution ∧
        u.after.ledger.sequence + timelockLedgers ≤ t.after.ledger.sequence) := by
  obtain ⟨hbefore, hstep, hafter⟩ := hrun.around
  obtain ⟨hsince, hlast, -⟩ := hafter.around
  obtain ⟨now, signers, state, hevent, hg, hlinked⟩ := hhandOver
  obtain ⟨s₀, hs₀, -⟩ := handOver_admin (hevent ▸ hstep) hg hlinked
  obtain ⟨state', hg'⟩ := governance_step hstep hg
  obtain ⟨⟨state'', hg''⟩, s, hs, hslot⟩ :=
    pending_since hsince hg' hs₀ fun u hu => hadmin u (List.mem_append_left _ hu)
  obtain ⟨-, _, hadmins, hstored⟩ :=
    onCredit_eq_some.mp (hadmin t (List.mem_append_right _ List.mem_cons_self))
  cases hs.symm.trans hadmins
  obtain ⟨s', hs', hchange⟩ := weights_step hlast hs hstored hg''
  rw [activeWeights_eq hs', activeWeights_eq hs] at hchanged
  cases hchange with
  | queued _ hconfig => exact absurd hconfig hchanged
  | kept hconfig => exact absurd hconfig hchanged
  | @applied weights n hpending heffective htime hconfig =>
    refine ⟨weights, (activeWeights_eq hs').trans hconfig, ?_⟩
    rcases hslot weights hpending with ⟨hinherited, -⟩ | ⟨u, hu, hexecutes, hledger⟩
    · exact Or.inl hinherited
    · obtain rfl := Option.some.inj (heffective.symm.trans hledger)
      obtain ⟨between, later, rfl⟩ := List.append_of_mem hu
      have hwhole : Run Step (.genesis ledger)
          ((earlier ++ handOver :: between) ++ u :: (later ++ t :: rest)) w := by
        simpa using hrun
      obtain ⟨p, before, creation, votes, execution, hstage, hcall, hcreated, hmandate⟩ :=
        mandate_of_execution hwhole hexecutes
      exact Or.inr ⟨between, u, later, p, before, creation, votes, execution, rfl, hstage, hcall, hcreated,
        hmandate, htime⟩

/-- A voter's proposal becomes active a timelock after its execution. -/
theorem weights_mandated_executed : ∃ (t : Move) (p : ℕ) (creation : Stage) (votes : List Stage)
    (execution : Stage),
    t.after.activeWeights (.contract 22) = some ⟨40, 40, 20⟩ ∧ Mandate p ⟨40, 40, 20⟩ creation votes execution ∧
      execution.env.ledger.sequence + timelockLedgers ≤ t.after.ledger.sequence := by
  obtain ⟨earlier, since, handOver, t, hrun, hhandOver, hadmin, -, hqueued, hold, hnew⟩ := sampleOutcome_run
    (show sampleOutcome sampleProposal (.numbered 17282) =
      some (some (.contract 22), true, true,
        [some ⟨50, 20, 30⟩, some ⟨40, 30, 30⟩, some ⟨40, 40, 20⟩]) from rfl)
  have hchanged : t.after.activeWeights (.contract 22) ≠ t.before.activeWeights (.contract 22) := by
    rw [hold, hnew]
    decide
  obtain ⟨weights, hweights, hinherited | ⟨between, u, later, p, before, creation, votes, execution, rfl,
    hstage, -, -, hmandate, htime⟩⟩ := weights_mandated hrun hhandOver hadmin hchanged
  · have hdifferent := hqueued.symm.trans (hinherited.trans (hweights.symm.trans hnew))
    exact absurd hdifferent (by decide)
  · obtain rfl := Option.some.inj (hweights.symm.trans hnew)
    refine ⟨t, p, creation, votes, execution, hweights, hmandate, ?_⟩
    have hstep : Step u.before u.event u.after := by
      refine hrun.step_of_mem (List.mem_append_right _ (List.mem_cons_of_mem _ (List.mem_append_left _ ?_)))
      exact List.mem_append_right _ List.mem_cons_self
    rwa [stageAt_ledger hstep hstage]

end StellarDidCredit.Network
