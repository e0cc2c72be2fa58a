import StellarDidCredit.Network.IdentitySteps

/-!
# A step, seen from a credit oracle

A step of the network is one of the oracle's own calls, made by whoever signed or by a governance
contract, or nothing at all.
-/

namespace StellarDidCredit.Network

variable {w w' : World} {e : Event} {call : Call} {contracts : Contracts}
  {a callee : Address}

/-- The call of the linked credit oracle that a governance call makes. -/
inductive Forwards (g : Address) (state : Governance.State) : Governance.Call → CreditOracle.Call → Prop
  | execute {p : ℕ} {proposal : Governance.GovernanceProposal} (hproposal : state.proposal p = some proposal) :
      Forwards g state (.execute p) (.proposeWeights proposal.proposedWeights)
  | applyWeights : Forwards g state .applyWeights .applyWeights
  | acceptOracleAdmin : Forwards g state .acceptOracleAdmin (.acceptAdmin g)

/-- What a step does to a credit oracle in the state `s` at the address `c`: nothing, its own
call, or the call a governance contract makes. -/
inductive CreditChange (w : World) (e : Event) (w' : World) (c : Address) (s : CreditOracle.State) :
    CreditOracle.State → Prop
  | idle : CreditChange w e w' c s s
  | own {signers : List Address} {call : CreditOracle.Call} {s' : CreditOracle.State}
      (he : e = .invoke w'.ledger signers c (.creditOracle call))
      (heffect : CreditOracle.Effect (creditHost (.signedBy w'.ledger c signers) [c])
        (.signedBy w'.ledger c signers) s w.contracts call s') : CreditChange w e w' c s s'
  | governed {signers : List Address} {g : Address} {state : Governance.State}
      {governanceCall : Governance.Call} {call : CreditOracle.Call} {s' : CreditOracle.State}
      (he : e = .invoke w'.ledger signers g (.governance governanceCall))
      (hg : w.contracts g = some (.governance state)) (hlinked : state.creditOracle = some c)
      (hforwards : Forwards g state governanceCall call)
      (heffect : CreditOracle.Effect (creditHost (.signedBy w'.ledger c signers) [c])
        ((Env.signedBy w'.ledger g signers).enter c) s w.contracts call s') : CreditChange w e w' c s s'

/-- The call that a credit oracle in the state `s` at the address `c` executes in a step: none,
its own, or the one a governance contract makes. -/
inductive CreditCalled (w : World) (e : Event) (w' : World) (c : Address) (s : CreditOracle.State) :
    CreditOracle.State → Prop
  | idle : CreditCalled w e w' c s s
  | own {signers : List Address} {call : CreditOracle.Call} {s' : CreditOracle.State} {others : Contracts}
      (he : e = .invoke w'.ledger signers c (.creditOracle call))
      (hexec : CreditOracle.exec (creditHost (.signedBy w'.ledger c signers) [c])
        (.signedBy w'.ledger c signers) call s w.contracts = .ok (s', others)) : CreditCalled w e w' c s s'
  | governed {signers : List Address} {g : Address} {state : Governance.State}
      {governanceCall : Governance.Call} {call : CreditOracle.Call} {s' : CreditOracle.State}
      (he : e = .invoke w'.ledger signers g (.governance governanceCall))
      (hg : w.contracts g = some (.governance state)) (hlinked : state.creditOracle = some c)
      (hforwards : Forwards g state governanceCall call)
      (hexec : CreditOracle.exec (creditHost (.signedBy w'.ledger c signers) [c])
        ((Env.signedBy w'.ledger g signers).enter c) call s w.contracts = .ok (s', w.contracts)) :
      CreditCalled w e w' c s s'

/-- In a step a credit oracle executes one call at most. -/
theorem credit_called (h : Step w e w') {c : Address} {s : CreditOracle.State}
    (hs : w.contracts c = some (.creditOracle s)) :
    ∃ s', w'.contracts c = some (.creditOracle s') ∧ CreditCalled w e w' c s s' := by
  cases step_spec h with
  | @deployed ledger address code hledger hcontract hfree =>
    have hne : c ≠ address := by
      rintro rfl
      cases hs.symm.trans hfree
    exact ⟨s, (Storage.set_of_ne _ _ hne).trans hs, .idle⟩
  | @invoked ledger signers callee call contracts hledger hsigners hinvoked =>
    cases hinvoked with
    | @credit call t t' others ht hexec hothers =>
      by_cases hcallee : c = callee
      · subst hcallee
        cases hs.symm.trans ht
        exact ⟨t', Storage.set_self _ _ _, .own rfl hexec⟩
      · refine ⟨s, (Storage.set_of_ne _ _ hcallee).trans ?_, .idle⟩
        rcases hothers with ⟨rfl, -⟩ | ⟨admin, linked, i, i', count, rfl, -, hi, -, rfl⟩
        · exact hs
        · exact set_of_code hi hs (by simp)
    | @identity call t t' others ht hexec hothers =>
      have hne : c ≠ callee := ne_of_code hs ht (by simp)
      refine ⟨s, (Storage.set_of_ne _ _ hne).trans ?_, .idle⟩
      rcases hothers with ⟨rfl, -⟩ | ⟨linked, q, rfl, -, hq, rfl⟩
      · exact hs
      · exact set_of_code hq hs (by simp)
    | @registry call q q' others hq hexec hothers =>
      have hne : c ≠ callee := ne_of_code hs hq (by simp)
      refine ⟨s, (Storage.set_of_ne _ _ hne).trans ?_, .idle⟩
      rcases hothers with ⟨rfl, -⟩ | ⟨issuer, subject, vcHash, linked, t, t', -, -, -, ht, -, rfl⟩
      · exact hs
      · exact set_of_code ht hs (by simp)
    | @governance call g g' others hg hexec hothers =>
      replace hg : w.contracts callee = some (.governance g) := hg
      have hne : c ≠ callee := ne_of_code hs hg (by simp)
      rcases hothers with ⟨rfl, -⟩ | ⟨linked, t, t', -, hlinked, ht, rfl, hcalled⟩
      · exact ⟨s, (Storage.set_of_ne _ _ hne).trans hs, .idle⟩
      · by_cases hc : c = linked
        · subst hc
          cases hs.symm.trans ht
          refine ⟨t', (Storage.set_of_ne _ _ hne).trans (Storage.set_self _ _ _), ?_⟩
          rcases hcalled with ⟨p, proposal, rfl, hproposal, hpropose⟩ | ⟨rfl, happly⟩ | ⟨rfl, haccept⟩
          · exact .governed rfl hg hlinked (.execute hproposal) (CreditOracle.alone_eq_ok.mpr ⟨hpropose, rfl⟩)
          · exact .governed rfl hg hlinked .applyWeights (CreditOracle.alone_eq_ok.mpr ⟨happly, rfl⟩)
          · exact .governed rfl hg hlinked .acceptOracleAdmin (CreditOracle.alone_eq_ok.mpr ⟨haccept, rfl⟩)
        · exact ⟨s, (Storage.set_of_ne _ _ hne).trans ((Storage.set_of_ne _ _ hc).trans hs), .idle⟩

/-- A step changes a credit oracle by the call it executes. -/
theorem credit_step (h : Step w e w') {c : Address} {s : CreditOracle.State}
    (hs : w.contracts c = some (.creditOracle s)) :
    ∃ s', w'.contracts c = some (.creditOracle s') ∧ CreditChange w e w' c s s' := by
  obtain ⟨s', hs', hcalled⟩ := credit_called h hs
  refine ⟨s', hs', ?_⟩
  cases hcalled with
  | idle => exact .idle
  | own he hexec => exact .own he (CreditOracle.exec_effect hexec)
  | governed he hg hlinked hforwards hexec =>
    exact .governed he hg hlinked hforwards (CreditOracle.exec_effect hexec)

/-- A credit oracle after a step was there before, or is freshly deployed. -/
theorem credit_origin (h : Step w e w') {c : Address} {s' : CreditOracle.State}
    (hs' : w'.contracts c = some (.creditOracle s')) :
    (w.contracts c = none ∧ s' = {}) ∨
      ∃ s, w.contracts c = some (.creditOracle s) ∧ CreditChange w e w' c s s' := by
  rcases code_origin h hs' with ⟨hfree, hfresh⟩ | ⟨before, hbefore, hcode⟩
  · exact Or.inl ⟨hfree, by injection hfresh⟩
  · cases before with
    | creditOracle s =>
      obtain ⟨after, hafter, hchange⟩ := credit_step h hbefore
      cases hafter.symm.trans hs'
      exact Or.inr ⟨s, hbefore, hchange⟩
    | _ => cases hcode

/-- A computation of a score changes the credit oracle only. -/
theorem computeScore_step {now : Ledger} {signers : List Address} {c x : Address} {k : CreditOracle.State}
    (h : Step w (.invoke now signers c (.creditOracle (.computeScore x))) w')
    (hk : w.contracts c = some (.creditOracle k)) :
    ∃ v k', w' = { contracts := w.contracts.set c (.creditOracle k'), ledger := now } ∧
      CreditOracle.computeScore (creditHost (.signedBy now c signers) [c]) (.signedBy now c signers) x k
        w.contracts = .ok (v, k') := by
  cases step_spec h with
  | @invoked _ _ _ _ contracts hledger hsigners hinvoked =>
    cases hinvoked with
    | @credit _ t k' others ht hexec hothers =>
      cases hk.symm.trans ht
      simp only [CreditOracle.exec, CreditOracle.alone_eq_ok, Outcome.map_snd_eq_ok] at hexec
      obtain ⟨⟨v, hcompute⟩, rfl⟩ := hexec
      exact ⟨v, k', rfl, hcompute⟩

end StellarDidCredit.Network
