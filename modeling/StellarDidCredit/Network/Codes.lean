import StellarDidCredit.Network.Steps

/-!
# What stays at an address

An invocation keeps the code of every contract, and a deployment takes a free address. A contract that is
there after a step was there before, with the same code, or is fresh.
-/

namespace StellarDidCredit.Network

variable {w w' : World} {e : Event} {env : Env} {call : Call} {contracts contracts' : Contracts}
  {a callee : Address}

/-- The code of a contract. -/
@[simp] def Contract.code : Contract → Code
  | .creditOracle _ => .creditOracle
  | .identityOracle _ => .identityOracle
  | .revocationRegistry _ => .revocationRegistry
  | .governance _ => .governance

/-- Contracts of different codes are at different addresses. -/
theorem ne_of_code {here there : Contract} (hhere : contracts a = some here)
    (hthere : contracts callee = some there) (hcode : here.code ≠ there.code) : a ≠ callee := by
  rintro rfl
  cases hhere.symm.trans hthere
  exact hcode rfl

/-- Writing to a contract of another code leaves a contract alone. -/
theorem set_of_code {here before after : Contract} (hbefore : contracts callee = some before)
    (hhere : contracts a = some here) (hcode : here.code ≠ before.code) :
    contracts.set callee after a = some here :=
  (Storage.set_of_ne _ _ (ne_of_code hhere hbefore hcode)).trans hhere

/-- Writing a contract of the same code changes no code. -/
theorem map_code_set {before after : Contract} (hbefore : contracts a = some before)
    (hcode : after.code = before.code) (b : Address) :
    ((contracts.set a after) b).map Contract.code = (contracts b).map Contract.code := by
  by_cases hb : b = a
  · rw [hb, Storage.set_self, hbefore, Option.map_some, Option.map_some, hcode]
  · rw [Storage.set_of_ne _ _ hb]

/-- Nor does writing two of them. -/
theorem map_code_set_set {caller : Address} {before after before' after' : Contract} (hne : caller ≠ a)
    (hcaller : contracts caller = some before) (hcallee : contracts a = some before')
    (hcode : after.code = before.code) (hcode' : after'.code = before'.code) (b : Address) :
    (((contracts.set a after').set caller after) b).map Contract.code = (contracts b).map Contract.code := by
  have hkept : contracts.set a after' caller = some before := (Storage.set_of_ne _ _ hne).trans hcaller
  rw [map_code_set hkept hcode, map_code_set hcallee hcode']

/-- An invocation changes no code. -/
theorem Invoked.code (h : Invoked env contracts call contracts') (b : Address) :
    (contracts' b).map Contract.code = (contracts b).map Contract.code := by
  cases h with
  | @credit call s s' others hs hexec hothers =>
    rcases hothers with ⟨rfl, -⟩ | ⟨admin, linked, t, t', count, rfl, hne, ht, -, rfl⟩
    · exact map_code_set hs (by rfl) b
    · exact map_code_set_set hne.symm hs ht (by rfl) (by rfl) b
  | @identity call s s' others hs hexec hothers =>
    rcases hothers with ⟨rfl, -⟩ | ⟨r, q, rfl, hne, hq, rfl⟩
    · exact map_code_set hs (by rfl) b
    · exact map_code_set_set hne.symm hs hq (by rfl) (by rfl) b
  | @registry call s s' others hs hexec hothers =>
    rcases hothers with ⟨rfl, -⟩ | ⟨issuer, subject, vcHash, linked, t, t', -, -, hne, ht, -, rfl⟩
    · exact map_code_set hs (by rfl) b
    · exact map_code_set_set hne.symm hs ht (by rfl) (by rfl) b
  | @governance call s s' others hs hexec hothers =>
    rcases hothers with ⟨rfl, -⟩ | ⟨c, t, t', hne, -, ht, rfl, -⟩
    · exact map_code_set hs (by rfl) b
    · exact map_code_set_set hne.symm hs ht (by rfl) (by rfl) b

/-- A step keeps the code at every address, or deploys a contract at a free one. -/
theorem code_step (h : Step w e w') (b : Address) :
    (w'.contracts b).map Contract.code = (w.contracts b).map Contract.code ∨
      w.contracts b = none ∧ ∃ code : Code, w'.contracts b = some code.fresh := by
  cases step_spec h with
  | @deployed ledger address code hledger hcontract hfree =>
    by_cases hb : b = address
    · subst hb
      exact Or.inr ⟨hfree, code, Storage.set_self _ _ _⟩
    · exact Or.inl (congrArg _ (Storage.set_of_ne _ _ hb))
  | invoked hledger hsigners hinvoked => exact Or.inl (hinvoked.code b)

/-- A contract after a step has the code of one that was there before, or is freshly deployed. -/
theorem code_origin (h : Step w e w') {b : Address} {after : Contract}
    (hafter : w'.contracts b = some after) :
    (w.contracts b = none ∧ after = after.code.fresh) ∨
      ∃ before, w.contracts b = some before ∧ before.code = after.code := by
  rcases code_step h b with hcode | ⟨hfree, code, hfresh⟩
  · rw [hafter, Option.map_some] at hcode
    exact Or.inr (Option.map_eq_some_iff.mp hcode.symm)
  · obtain rfl := Option.some.inj (hafter.symm.trans hfresh)
    refine Or.inl ⟨hfree, ?_⟩
    cases code <;> rfl

end StellarDidCredit.Network
