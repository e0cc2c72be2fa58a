import StellarDidCredit.Network.Codes

/-!
# A step, seen from a registry

Seen from a registry at a fixed address, a step of the network is one of its own calls, made by whoever
signed or by the contract in between, or nothing at all. Its flags are what a linked identity oracle sees.
-/

namespace StellarDidCredit.Network

variable {w w' : World} {e : Event} {env : Env} {call : Call} {contracts contracts' : Contracts}
  {a callee : Address}

/-- The hashes that a transaction revokes in the registry at an address. -/
def revokedAt (r : Address) : Event → List (BytesN 32)
  | .invoke _ _ callee (.revocationRegistry call) => if callee = r then call.revokedHashes else []
  | _ => []

/-- A contract that is no registry has no flags. -/
theorem registryStatus_eq_false {r : Address} (h : registryAt contracts r = none) (vcHash : BytesN 32) :
    registryStatus contracts r vcHash = false := by
  simp only [registryStatus, h, Option.elim_none]

/-- Flags depend on the registry at the address only. -/
theorem registryStatus_congr {r : Address} (h : contracts' r = contracts r) (vcHash : BytesN 32) :
    registryStatus contracts' r vcHash = registryStatus contracts r vcHash := by
  simp only [registryStatus, registryAt, h]

/-- Writing a contract that is no registry, over one that is none, changes no flag. -/
theorem registryStatus_set {contract before : Contract} (hafter : contract.asRegistry = none)
    (hbefore : contracts a = some before) (hnone : before.asRegistry = none) (r : Address)
    (vcHash : BytesN 32) :
    registryStatus (contracts.set a contract) r vcHash = registryStatus contracts r vcHash := by
  by_cases hr : r = a
  · subst hr
    have hold : registryAt contracts r = none := by
      simp only [registryAt, hbefore, Option.bind_some, hnone]
    have hnew : registryAt (contracts.set r contract) r = none := by
      simp only [registryAt, Storage.set_self, Option.bind_some, hafter]
    rw [registryStatus_eq_false hnew, registryStatus_eq_false hold]
  · exact registryStatus_congr (Storage.set_of_ne _ _ hr) vcHash

/-- A contract deployed at a free address has no flags yet. -/
theorem registryStatus_fresh {code : Code} (hfree : contracts a = none) (r : Address)
    (vcHash : BytesN 32) :
    registryStatus (contracts.set a code.fresh) r vcHash = registryStatus contracts r vcHash := by
  by_cases hr : r = a
  · subst hr
    have hold : registryAt contracts r = none := by
      simp only [registryAt, hfree, Option.bind_none]
    rw [registryStatus_eq_false hold]
    cases code with
    | revocationRegistry => exact registryStatus_eq (Storage.set_self _ _ _) vcHash
    | _ => exact registryStatus_eq_false (by simp only [registryAt, Storage.set_self]; rfl) vcHash
  · exact registryStatus_congr (Storage.set_of_ne _ _ hr) vcHash

/-- An invocation sets the flags of the hashes it revokes and changes no other. -/
theorem Invoked.status (h : Invoked env contracts call contracts') (ledger : Ledger)
    (signers : List Address) (r : Address) (vcHash : BytesN 32) :
    registryStatus contracts' r vcHash = (registryStatus contracts r vcHash ||
      decide (vcHash ∈ revokedAt r (.invoke ledger signers env.currentContract call))) := by
  cases h with
  | @credit call s s' others hs hexec hothers =>
    simp only [revokedAt, List.not_mem_nil, decide_false, Bool.or_false]
    rcases hothers with ⟨rfl, -⟩ | ⟨admin, a, t, t', count, rfl, hne, ht, -, rfl⟩
    · exact registryStatus_set rfl hs rfl r vcHash
    · rw [registryStatus_set rfl ((Storage.set_of_ne _ _ hne.symm).trans hs) rfl,
        registryStatus_set rfl ht rfl]
  | @identity call s s' others hs hexec hothers =>
    simp only [revokedAt, List.not_mem_nil, decide_false, Bool.or_false]
    rcases hothers with ⟨rfl, -⟩ | ⟨q, t, rfl, hne, ht, rfl⟩
    · exact registryStatus_set rfl hs rfl r vcHash
    · rw [registryStatus_set rfl ((Storage.set_of_ne _ _ hne.symm).trans hs) rfl]
      -- the linked registry only stores who its identity oracle is
      by_cases hr : r = q
      · subst hr
        rw [registryStatus_eq (Storage.set_self _ _ _), registryStatus_eq ht]
        rfl
      · exact registryStatus_congr (Storage.set_of_ne _ _ hr) vcHash
  | @registry call s s' others hs hexec hothers =>
    have hother : registryStatus others r vcHash = registryStatus contracts r vcHash := by
      rcases hothers with ⟨rfl, -⟩ | ⟨issuer, subject, hash, a, t, t', -, -, hne, ht, -, rfl⟩
      · rfl
      · exact registryStatus_set rfl ht rfl r vcHash
    by_cases hr : r = env.currentContract
    · subst hr
      rw [registryStatus_eq (Storage.set_self _ _ _), registryStatus_eq hs,
        (RevocationRegistry.exec_effect hexec).isRevoked vcHash]
      simp only [revokedAt, if_true]
    · rw [registryStatus_congr (Storage.set_of_ne _ _ hr), hother]
      simp only [revokedAt, if_neg (Ne.symm hr), List.not_mem_nil, decide_false, Bool.or_false]
  | @governance call s s' others hs hexec hothers =>
    simp only [revokedAt, List.not_mem_nil, decide_false, Bool.or_false]
    rcases hothers with ⟨rfl, -⟩ | ⟨c, t, t', hne, -, ht, rfl, -⟩
    · exact registryStatus_set rfl hs rfl r vcHash
    · rw [registryStatus_set rfl ((Storage.set_of_ne _ _ hne.symm).trans hs) rfl,
        registryStatus_set rfl ht rfl]

/-- A step sets the flags of the hashes it revokes and changes no other. -/
theorem registryStatus_step (h : Step w e w') (r : Address) (vcHash : BytesN 32) :
    registryStatus w'.contracts r vcHash =
      (registryStatus w.contracts r vcHash || decide (vcHash ∈ revokedAt r e)) := by
  cases step_spec h with
  | @deployed ledger address code hledger hcontract hfree =>
    simp only [revokedAt, List.not_mem_nil, decide_false, Bool.or_false]
    exact registryStatus_fresh hfree r vcHash
  | @invoked ledger signers callee call contracts hledger hsigners hinvoked =>
    exact hinvoked.status ledger signers r vcHash

/-- The hashes that a transaction revokes in the registry linked to an identity oracle. -/
def linkedRevocations (s : IdentityOracle.State) (e : Event) : List (BytesN 32) :=
  match s.revocationRegistryId with
  | some r => revokedAt r e
  | none => []

/-- What an identity oracle sees changes by the revocations in its linked registry only. -/
theorem statusOf_step (h : Step w e w') (s : IdentityOracle.State) (vcHash : BytesN 32) :
    statusOf w'.contracts s vcHash =
      (statusOf w.contracts s vcHash || decide (vcHash ∈ linkedRevocations s e)) := by
  unfold statusOf linkedRevocations
  cases s.revocationRegistryId with
  | some r => exact registryStatus_step h r vcHash
  | none => simp only [List.not_mem_nil, decide_false, Bool.or_false]

/-- A flag of the linked registry that is set stays set. -/
theorem statusOf_mono (h : Step w e w') (s : IdentityOracle.State) (vcHash : BytesN 32)
    (hlisted : statusOf w.contracts s vcHash = true) : statusOf w'.contracts s vcHash = true := by
  rw [statusOf_step h, hlisted, Bool.true_or]

/-- Without revocations in the linked registry the same flags are seen. -/
theorem statusOf_eq (h : Step w e w') {s : IdentityOracle.State} (hnone : linkedRevocations s e = []) :
    statusOf w'.contracts s = statusOf w.contracts s := by
  funext vcHash
  rw [statusOf_step h, hnone]
  simp only [List.not_mem_nil, decide_false, Bool.or_false]

/-- Only registry calls revoke in a registry. -/
theorem linkedRevocations_eq_nil (s : IdentityOracle.State) {ledger : Ledger} {signers : List Address}
    (hcall : ∀ registryCall, call ≠ .revocationRegistry registryCall) :
    linkedRevocations s (.invoke ledger signers callee call) = [] := by
  unfold linkedRevocations
  split
  case h_1 r hr =>
    cases call with
    | revocationRegistry registryCall => exact (hcall registryCall rfl).elim
    | _ => rfl
  case h_2 => rfl

/-- What a step does to a registry in the state `q` at the address `r`. -/
inductive RegistryChange (e : Event) (r : Address) (q : RevocationRegistry.State) :
    RevocationRegistry.State → Prop
  | acted {ledger : Ledger} {signers : List Address} {call : RevocationRegistry.Call}
      {q' : RevocationRegistry.State} (he : e = .invoke ledger signers r (.revocationRegistry call))
      (heffect : RevocationRegistry.Effect (.signedBy ledger r signers) q call q') : RegistryChange e r q q'
  | linkedOnly {identityOracleId : Option Address} (hnone : revokedAt r e = []) :
      RegistryChange e r q { q with identityOracleId }

/-- What a step executes on a registry in the state `q` at the address `r`. -/
inductive RegistryCalled (w : World) (e : Event) (r : Address) (q : RevocationRegistry.State) :
    RevocationRegistry.State → Prop
  | own {ledger : Ledger} {signers : List Address} {call : RevocationRegistry.Call}
      {q' : RevocationRegistry.State} {others : Contracts}
      (he : e = .invoke ledger signers r (.revocationRegistry call))
      (hexec : RevocationRegistry.exec (registryHost (.signedBy ledger r signers) [r]) (.signedBy ledger r signers)
        call q w.contracts = .ok (q', others)) : RegistryCalled w e r q q'
  | linkedOnly {identityOracleId : Option Address} (hnone : revokedAt r e = []) :
      RegistryCalled w e r q { q with identityOracleId }

/-- In a step a registry executes its own call, or at most another identity oracle is linked. -/
theorem registry_called (h : Step w e w') {r : Address} {q : RevocationRegistry.State}
    (hq : w.contracts r = some (.revocationRegistry q)) :
    ∃ q', w'.contracts r = some (.revocationRegistry q') ∧ RegistryCalled w e r q q' := by
  have hidle (hnone : revokedAt r e = []) : RegistryCalled w e r q q := .linkedOnly hnone
  cases step_spec h with
  | @deployed ledger address code hledger hcontract hfree =>
    have hne : r ≠ address := by
      rintro rfl
      cases hq.symm.trans hfree
    exact ⟨q, (Storage.set_of_ne _ _ hne).trans hq, hidle rfl⟩
  | @invoked ledger signers callee call contracts hledger hsigners hinvoked =>
    cases hinvoked with
    | @credit call c c' others hc hexec hothers =>
      have hne : r ≠ callee := ne_of_code hq hc (by simp)
      refine ⟨q, (Storage.set_of_ne _ _ hne).trans ?_, hidle rfl⟩
      rcases hothers with ⟨rfl, -⟩ | ⟨admin, linked, t, t', count, rfl, -, ht, -, rfl⟩
      · exact hq
      · exact set_of_code ht hq (by simp)
    | @identity call t t' others ht hexec hothers =>
      have hne : r ≠ callee := ne_of_code hq ht (by simp)
      rcases hothers with ⟨rfl, -⟩ | ⟨linked, p, rfl, -, hp, rfl⟩
      · exact ⟨q, (Storage.set_of_ne _ _ hne).trans hq, hidle rfl⟩
      · by_cases hlinked : r = linked
        · subst hlinked
          cases hq.symm.trans hp
          exact ⟨_, (Storage.set_of_ne _ _ hne).trans (Storage.set_self _ _ _), .linkedOnly rfl⟩
        · exact ⟨q, (Storage.set_of_ne _ _ hne).trans ((Storage.set_of_ne _ _ hlinked).trans hq), hidle rfl⟩
    | @registry call p q' others hp hexec hothers =>
      by_cases hcallee : r = callee
      · subst hcallee
        cases hq.symm.trans hp
        exact ⟨q', Storage.set_self _ _ _, .own rfl hexec⟩
      · refine ⟨q, (Storage.set_of_ne _ _ hcallee).trans ?_, hidle (if_neg (Ne.symm hcallee))⟩
        rcases hothers with ⟨rfl, -⟩ | ⟨issuer, subject, vcHash, linked, t, t', -, -, -, ht, -, rfl⟩
        · exact hq
        · exact set_of_code ht hq (by simp)
    | @governance call g g' others hg hexec hothers =>
      have hne : r ≠ callee := ne_of_code hq hg (by simp)
      refine ⟨q, (Storage.set_of_ne _ _ hne).trans ?_, hidle rfl⟩
      rcases hothers with ⟨rfl, -⟩ | ⟨c, t, t', -, -, ht, rfl, -⟩
      · exact hq
      · exact set_of_code ht hq (by simp)

/-- A step changes a registry by its own call, or at most by who its identity oracle is. -/
theorem registry_step (h : Step w e w') {r : Address} {q : RevocationRegistry.State}
    (hq : w.contracts r = some (.revocationRegistry q)) :
    ∃ q', w'.contracts r = some (.revocationRegistry q') ∧ RegistryChange e r q q' := by
  obtain ⟨q', hq', hcalled⟩ := registry_called h hq
  refine ⟨q', hq', ?_⟩
  cases hcalled with
  | own he hexec => exact .acted he (RevocationRegistry.exec_effect hexec)
  | linkedOnly hnone => exact .linkedOnly hnone

/-- A registry after a step was there before, or is freshly deployed. -/
theorem registry_origin (h : Step w e w') {r : Address} {q' : RevocationRegistry.State}
    (hq' : w'.contracts r = some (.revocationRegistry q')) :
    (w.contracts r = none ∧ q' = {}) ∨
      ∃ q, w.contracts r = some (.revocationRegistry q) ∧ RegistryChange e r q q' := by
  rcases code_origin h hq' with ⟨hfree, hfresh⟩ | ⟨before, hbefore, hcode⟩
  · exact Or.inl ⟨hfree, by injection hfresh⟩
  · cases before with
    | revocationRegistry q =>
      obtain ⟨after, hafter, hchange⟩ := registry_step h hbefore
      cases hafter.symm.trans hq'
      exact Or.inr ⟨q, hbefore, hchange⟩
    | _ => cases hcode

/-- In every reachable state the revoked hashes of a registry are the registered ones. -/
theorem registry_consistent {ledger : Ledger} {history : List Move}
    (hrun : Run Step (.genesis ledger) history w) {r : Address} {q : RevocationRegistry.State}
    (hq : w.contracts r = some (.revocationRegistry q)) : RevocationRegistry.Consistent q := by
  refine hrun.invariant
    (fun w => ∀ q, w.contracts r = some (.revocationRegistry q) → RevocationRegistry.Consistent q)
    ?_ (by simp) q hq
  intro w e w' hbefore h q' hq'
  rcases registry_origin h hq' with ⟨-, rfl⟩ | ⟨q, hq, hchange⟩
  · exact fun _ => rfl
  · cases hchange with
    | acted he heffect => exact (hbefore q hq).step heffect
    | linkedOnly hnone => exact hbefore q hq

/-- Only the signers authorise a call at the top level. -/
theorem authorized_signedBy {ledger : Ledger} {signers : List Address} {x : Address}
    (h : (Env.signedBy ledger callee signers).Authorized x) : x ∈ signers := by
  rcases h with hsigned | hinvoker
  · exact hsigned
  · cases hinvoker

/-- Who revoked a hash in a registry, and what the registry stores about it. -/
theorem revokedAt_spec (h : Step w e w') {r : Address} {vcHash : BytesN 32} (hmem : vcHash ∈ revokedAt r e) :
    ∃ ledger signers call issuer vcHashes q q', e = .invoke ledger signers r (.revocationRegistry call) ∧
      call.revocation = some (issuer, vcHashes) ∧ vcHash ∈ vcHashes ∧ issuer ∈ signers ∧
      w.contracts r = some (.revocationRegistry q) ∧ w'.contracts r = some (.revocationRegistry q') ∧
      RevocationRegistry.Revokes issuer vcHashes q q' := by
  cases step_spec h with
  | deployed => cases hmem
  | @invoked ledger signers callee call contracts hledger hsigners hinvoked =>
    cases hinvoked with
    | @registry call q q' others hq hexec hothers =>
      simp only [revokedAt] at hmem
      split at hmem
      case isTrue hcallee =>
        subst hcallee
        have heffect := RevocationRegistry.exec_effect hexec
        cases heffect with
        | @revoked _ issuer vcHashes _ hcall hauth hrevokes =>
          rw [RevocationRegistry.Call.revokedHashes, hcall] at hmem
          exact ⟨ledger, signers, call, issuer, vcHashes, q, q', rfl, hcall, hmem,
            authorized_signedBy hauth, hq, Storage.set_self _ _ _, hrevokes⟩
        | identityLinked => cases hmem
        | other hcall =>
          rw [RevocationRegistry.Call.revokedHashes, hcall] at hmem
          cases hmem
      case isFalse => cases hmem
    | _ => cases hmem

end StellarDidCredit.Network
