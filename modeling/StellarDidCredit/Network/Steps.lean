import StellarDidCredit.Network.Model

/-!
# What one transaction can do

A transaction changes the contract it invokes and at most one other, through the single call
that contract makes. The reads in between see the contracts as they were before the call.
-/

namespace StellarDidCredit.Network

variable {w w' : World} {e : Event} {env : Env} {call : Call} {contracts contracts' : Contracts}
  {busy : List Address} {a callee : Address}

/-! ## Calls between contracts -/

section Calls

variable {α : Type} {value : α}

/-- A contract can be called that is deployed and not being executed. -/
@[simp] theorem callable_eq_some {contract : Contract} :
    callable busy contracts callee = some contract ↔ callee ∉ busy ∧ contracts callee = some contract := by
  unfold callable
  by_cases h : callee ∈ busy <;> simp [h]

/-- A call that runs `f` on the state of one kind of contract, and fails for every other. -/
theorem call_eq_some {σ : Type} (wrap : σ → Contract) {f : σ → Option α} {result : Option α}
    (hfound : ∀ s, callable busy contracts callee = some (wrap s) → result = f s)
    (hother : (∀ s, callable busy contracts callee ≠ some (wrap s)) → result = none) :
    result = some value ↔ callee ∉ busy ∧ ∃ s, contracts callee = some (wrap s) ∧ f s = some value := by
  constructor
  · intro hresult
    by_cases hcallable : ∃ s, callable busy contracts callee = some (wrap s)
    · obtain ⟨s, hs⟩ := hcallable
      obtain ⟨hfree, hcontract⟩ := callable_eq_some.mp hs
      exact ⟨hfree, s, hcontract, (hfound s hs).symm.trans hresult⟩
    · rw [hother fun s hs => hcallable ⟨s, hs⟩] at hresult
      cases hresult
  · rintro ⟨hfree, s, hcontract, hvalue⟩
    rw [hfound s (callable_eq_some.mpr ⟨hfree, hcontract⟩), hvalue]

/-- A successful call into an identity oracle found one that is not being executed. -/
@[simp] theorem onIdentity_eq_some {f : IdentityOracle.State → Option α} :
    onIdentity busy contracts callee f = some value ↔
      callee ∉ busy ∧ ∃ s, contracts callee = some (.identityOracle s) ∧ f s = some value := by
  refine call_eq_some .identityOracle (fun s hs => by rw [onIdentity, hs]) ?_
  intro hother
  unfold onIdentity
  split
  case h_1 s hs => exact (hother s hs).elim
  case h_2 => rfl

/-- A successful call into a registry found one that is not being executed. -/
@[simp] theorem onRegistry_eq_some {f : RevocationRegistry.State → Option α} :
    onRegistry busy contracts callee f = some value ↔
      callee ∉ busy ∧ ∃ s, contracts callee = some (.revocationRegistry s) ∧ f s = some value := by
  refine call_eq_some .revocationRegistry (fun s hs => by rw [onRegistry, hs]) ?_
  intro hother
  unfold onRegistry
  split
  case h_1 s hs => exact (hother s hs).elim
  case h_2 => rfl

/-- A successful call into a credit oracle found one that is not being executed. -/
@[simp] theorem onCredit_eq_some {f : CreditOracle.State → Option α} :
    onCredit busy contracts callee f = some value ↔
      callee ∉ busy ∧ ∃ s, contracts callee = some (.creditOracle s) ∧ f s = some value := by
  refine call_eq_some .creditOracle (fun s hs => by rw [onCredit, hs]) ?_
  intro hother
  unfold onCredit
  split
  case h_1 s hs => exact (hother s hs).elim
  case h_2 => rfl

/-- A successful call into a governance contract found one that is not being executed. -/
@[simp] theorem onGovernance_eq_some {f : Governance.State → Option α} :
    onGovernance busy contracts callee f = some value ↔
      callee ∉ busy ∧ ∃ s, contracts callee = some (.governance s) ∧ f s = some value := by
  refine call_eq_some .governance (fun s hs => by rw [onGovernance, hs]) ?_
  intro hother
  unfold onGovernance
  split
  case h_1 s hs => exact (hother s hs).elim
  case h_2 => rfl

/-- A call that stores what `f` leaves of the state of one kind of contract, and traps for every other. -/
theorem update_eq_ok {σ E : Type} (wrap : σ → Contract) {f : σ → Outcome E σ} {result : Outcome E Contracts}
    {contracts' : Contracts}
    (hfound : ∀ s, callable busy contracts callee = some (wrap s) →
      result = f s >>= fun s' => .ok (contracts.set callee (wrap s')))
    (hother : (∀ s, callable busy contracts callee ≠ some (wrap s)) → result = .error .trap) :
    result = .ok contracts' ↔ callee ∉ busy ∧ ∃ s, contracts callee = some (wrap s) ∧ ∃ s', f s = .ok s' ∧
      contracts' = contracts.set callee (wrap s') := by
  have hcall : result.toOption = some contracts' ↔ _ := call_eq_some wrap
    (fun s hs => congrArg Except.toOption (hfound s hs)) fun h => congrArg Except.toOption (hother h)
  rw [← Outcome.toOption_eq_some, hcall]
  simp only [Outcome.toOption_eq_some, Outcome.bind_eq_ok, Except.ok.injEq, @eq_comm _ contracts']

/-- A successful call into an identity oracle that stores what it leaves. -/
theorem updateIdentity_eq_ok {f : IdentityOracle.State → Outcome IdentityOracle.Error IdentityOracle.State}
    {contracts' : Contracts} : updateIdentity busy contracts callee f = .ok contracts' ↔
      callee ∉ busy ∧ ∃ s, contracts callee = some (.identityOracle s) ∧ ∃ s', f s = .ok s' ∧
        contracts' = contracts.set callee (.identityOracle s') := by
  refine update_eq_ok .identityOracle (fun s hs => by rw [updateIdentity, hs]) ?_
  intro hother
  unfold updateIdentity
  split
  case h_1 s hs => exact (hother s hs).elim
  case h_2 => rfl

/-- A successful call into a credit oracle that stores what it leaves. -/
theorem updateCredit_eq_ok {f : CreditOracle.State → Outcome CreditOracleError CreditOracle.State}
    {contracts' : Contracts} : updateCredit busy contracts callee f = .ok contracts' ↔
      callee ∉ busy ∧ ∃ s, contracts callee = some (.creditOracle s) ∧ ∃ s', f s = .ok s' ∧
        contracts' = contracts.set callee (.creditOracle s') := by
  refine update_eq_ok .creditOracle (fun s hs => by rw [updateCredit, hs]) ?_
  intro hother
  unfold updateCredit
  split
  case h_1 s hs => exact (hother s hs).elim
  case h_2 => rfl

end Calls

/-! ## What an identity oracle sees -/

/-- A contract's state, when it is a registry. -/
def Contract.asRegistry : Contract → Option RevocationRegistry.State
  | .revocationRegistry q => some q
  | _ => none

/-- The registry at an address. -/
def registryAt (contracts : Contracts) (r : Address) : Option RevocationRegistry.State :=
  (contracts r).bind Contract.asRegistry

/-- The flag of a hash in the registry at an address. -/
def registryStatus (contracts : Contracts) (r : Address) (vcHash : BytesN 32) : Bool :=
  (registryAt contracts r).elim false fun q => RevocationRegistry.isRevoked q vcHash

/-- The flags the linked registry reports to an identity oracle. -/
def statusOf (contracts : Contracts) (s : IdentityOracle.State) (vcHash : BytesN 32) : Bool :=
  match s.revocationRegistryId with
  | some r => registryStatus contracts r vcHash
  | none => false

/-- What is seen depends on the link only. -/
theorem statusOf_congr {s s' : IdentityOracle.State}
    (hlink : s'.revocationRegistryId = s.revocationRegistryId) :
    statusOf contracts s' = statusOf contracts s := by
  funext vcHash
  simp only [statusOf, hlink]

/-- The flags of a registry that is there. -/
theorem registryStatus_eq {r : Address} {q : RevocationRegistry.State}
    (h : contracts r = some (.revocationRegistry q)) (vcHash : BytesN 32) :
    registryStatus contracts r vcHash = RevocationRegistry.isRevoked q vcHash := by
  simp only [registryStatus, registryAt, h, Option.bind_some, Contract.asRegistry, Option.elim_some]

/-- A registry that answers reports its flags. -/
theorem sees_of_status {s : IdentityOracle.State} {status : BytesN 32 → Bool}
    (hlinked : ∀ r, s.revocationRegistryId = some r → r ∉ busy →
      ∀ vcHash, registryStatus contracts r vcHash = status vcHash)
    (hunlinked : s.revocationRegistryId = none → ∀ vcHash, status vcHash = false) :
    IdentityOracle.Sees (identityHost env busy) contracts s status := by
  constructor
  case linked =>
    intro r hr vcHash value hanswer
    simp only [identityHost, onRegistry_eq_some, Option.some.injEq] at hanswer
    obtain ⟨hfree, q, hq, rfl⟩ := hanswer
    rw [← hlinked r hr hfree vcHash, registryStatus_eq hq]
  case unlinked => exact hunlinked

/-- An identity oracle sees the flags of its linked registry. -/
theorem sees_statusOf (s : IdentityOracle.State) :
    IdentityOracle.Sees (identityHost env busy) contracts s (statusOf contracts s) := by
  refine sees_of_status ?_ ?_
  · intro r hr _ vcHash
    simp only [statusOf, hr]
  · intro hnone vcHash
    simp only [statusOf, hnone]

/-! ## One invocation -/

/-- A successful invocation: the call that was executed, and the change it made elsewhere. -/
inductive Invoked (env : Env) (contracts : Contracts) : Call → Contracts → Prop
  | credit {call : CreditOracle.Call} {s s' : CreditOracle.State} {others : Contracts}
      (hs : contracts env.currentContract = some (.creditOracle s))
      (hexec : CreditOracle.exec (creditHost env [env.currentContract]) env call s contracts =
        .ok (s', others))
      (hothers : (others = contracts ∧ ∀ admin a, call ≠ .setIdentityOracle admin a) ∨
        ∃ admin a t t' count, call = .setIdentityOracle admin a ∧
        a ≠ env.currentContract ∧ contracts a = some (.identityOracle t) ∧
        IdentityOracle.getActiveVcCount (identityHost (env.enter a) [a, env.currentContract])
          env.currentContract t contracts = .ok (count, t') ∧
        others = contracts.set a (.identityOracle t')) :
      Invoked env contracts (.creditOracle call) (others.set env.currentContract (.creditOracle s'))
  | identity {call : IdentityOracle.Call} {s s' : IdentityOracle.State} {others : Contracts}
      (hs : contracts env.currentContract = some (.identityOracle s))
      (hexec : IdentityOracle.exec (identityHost env [env.currentContract]) env call s contracts =
        .ok (s', others))
      (hothers : (others = contracts ∧ ∀ r, call ≠ .setRevocationRegistry r) ∨
        ∃ r q, call = .setRevocationRegistry r ∧
        r ≠ env.currentContract ∧ contracts r = some (.revocationRegistry q) ∧
        others = contracts.set r
          (.revocationRegistry { q with identityOracleId := some env.currentContract })) :
      Invoked env contracts (.identityOracle call) (others.set env.currentContract (.identityOracle s'))
  | registry {call : RevocationRegistry.Call} {s s' : RevocationRegistry.State} {others : Contracts}
      (hs : contracts env.currentContract = some (.revocationRegistry s))
      (hexec : RevocationRegistry.exec (registryHost env [env.currentContract]) env call s contracts =
        .ok (s', others))
      (hothers : (others = contracts ∧ ∀ issuer subject vcHash,
          call = .revoke issuer subject vcHash → s.identityOracleId = none) ∨
        ∃ issuer subject vcHash a t t', call = .revoke issuer subject vcHash ∧
          s.identityOracleId = some a ∧ a ≠ env.currentContract ∧
          contracts a = some (.identityOracle t) ∧
          IdentityOracle.markVcRevoked (identityHost (env.enter a) [a, env.currentContract])
            (env.enter a) issuer subject vcHash t contracts = .ok t' ∧
          others = contracts.set a (.identityOracle t')) :
      Invoked env contracts (.revocationRegistry call)
        (others.set env.currentContract (.revocationRegistry s'))
  | governance {call : Governance.Call} {s s' : Governance.State} {others : Contracts}
      (hs : contracts env.currentContract = some (.governance s))
      (hexec : Governance.exec (governanceHost env [env.currentContract]) env call s contracts =
        .ok (s', others))
      (hothers : (others = contracts ∧ ¬call.Reaches) ∨
        ∃ c t t', c ≠ env.currentContract ∧ s.creditOracle = some c ∧
        contracts c = some (.creditOracle t) ∧ others = contracts.set c (.creditOracle t') ∧
        ((∃ p proposal, call = .execute p ∧ s.proposal p = some proposal ∧
          CreditOracle.proposeWeights (env.enter c) proposal.proposedWeights t = .ok t') ∨
        (call = .applyWeights ∧ CreditOracle.applyWeights (env.enter c) t = .ok t') ∨
        (call = .acceptOracleAdmin ∧
          CreditOracle.acceptAdmin (env.enter c) env.currentContract t = .ok t'))) :
      Invoked env contracts (.governance call) (others.set env.currentContract (.governance s'))

/-- Every successful invocation is of one of these forms. -/
theorem invoke_spec (h : invoke env call contracts = some contracts') :
    Invoked env contracts call contracts' := by
  cases call with
  | creditOracle call =>
    simp only [invoke, onCredit_eq_some, Option.bind_eq_bind, Option.bind_eq_some_iff,
      Outcome.toOption_eq_some, Option.some.injEq] at h
    obtain ⟨-, s, hs, ⟨s', others⟩, hexec, rfl⟩ := h
    refine .credit hs hexec ?_
    rcases CreditOracle.exec_world hexec with hsame | ⟨admin, a, count, rfl, hprobe⟩
    · exact Or.inl hsame
    · simp only [creditHost, onIdentity_eq_some, Option.bind_eq_bind, Option.bind_eq_some_iff,
        Outcome.toOption_eq_some, Option.some.injEq, Prod.mk.injEq] at hprobe
      obtain ⟨hfree, t, ht, ⟨_, t'⟩, hcount, rfl, rfl⟩ := hprobe
      have hne : a ≠ env.currentContract := by simpa using hfree
      exact Or.inr ⟨admin, a, t, t', _, rfl, hne, ht, hcount, rfl⟩
  | identityOracle call =>
    simp only [invoke, onIdentity_eq_some, Option.bind_eq_bind, Option.bind_eq_some_iff,
      Outcome.toOption_eq_some, Option.some.injEq] at h
    obtain ⟨-, s, hs, ⟨s', others⟩, hexec, rfl⟩ := h
    refine .identity hs hexec ?_
    cases IdentityOracle.exec_effect (sees_statusOf s) hexec with
    | @registryLinked r admin _ hadmin hauth hvalid hlinked =>
      simp only [identityHost, onRegistry_eq_some, Option.bind_eq_bind, Option.bind_eq_some_iff,
        Outcome.toOption_eq_some, Option.some.injEq] at hlinked
      obtain ⟨hfree, q, hq, q', hset, rfl⟩ := hlinked
      obtain ⟨-, rfl⟩ := RevocationRegistry.setIdentityOracle_spec hset
      have hne : r ≠ env.currentContract := by simpa using hfree
      exact Or.inr ⟨r, q, rfl, hne, hq, rfl⟩
    | subjects hcall heffects => exact Or.inl ⟨rfl, hcall⟩
  | revocationRegistry call =>
    simp only [invoke, onRegistry_eq_some, Option.bind_eq_bind, Option.bind_eq_some_iff,
      Outcome.toOption_eq_some, Option.some.injEq] at h
    obtain ⟨-, s, hs, ⟨s', others⟩, hexec, rfl⟩ := h
    refine .registry hs hexec ?_
    rcases RevocationRegistry.exec_world hexec with hsame |
      ⟨issuer, subject, vcHash, a, rfl, hlinked, hmark⟩
    · exact Or.inl hsame
    · obtain ⟨hfree, t, ht, t', hmarked, rfl⟩ := updateIdentity_eq_ok.mp hmark
      have hne : a ≠ env.currentContract := by simpa using hfree
      exact Or.inr ⟨issuer, subject, vcHash, a, t, t', rfl, hlinked, hne, ht, hmarked, rfl⟩
  | governance call =>
    simp only [invoke, onGovernance_eq_some, Option.bind_eq_bind, Option.bind_eq_some_iff,
      Outcome.toOption_eq_some, Option.some.injEq] at h
    obtain ⟨-, s, hs, ⟨s', others⟩, hexec, rfl⟩ := h
    refine .governance hs hexec ?_
    rcases Governance.exec_world hexec with hsame | ⟨c, hc, hreached⟩
    · exact Or.inl hsame
    · rcases hreached with ⟨p, proposal, rfl, hproposal, hqueue⟩ | ⟨rfl, happly⟩ | ⟨rfl, haccept⟩
      · obtain ⟨hfree, t, ht, t', hpropose, rfl⟩ := updateCredit_eq_ok.mp hqueue
        have hne : c ≠ env.currentContract := by simpa using hfree
        exact Or.inr ⟨c, t, t', hne, hc, ht, rfl, Or.inl ⟨p, proposal, rfl, hproposal, hpropose⟩⟩
      · obtain ⟨hfree, t, ht, t', happlied, rfl⟩ := updateCredit_eq_ok.mp happly
        have hne : c ≠ env.currentContract := by simpa using hfree
        exact Or.inr ⟨c, t, t', hne, hc, ht, rfl, Or.inr (Or.inl ⟨rfl, happlied⟩)⟩
      · obtain ⟨hfree, t, ht, t', haccepted, rfl⟩ := updateCredit_eq_ok.mp haccept
        have hne : c ≠ env.currentContract := by simpa using hfree
        exact Or.inr ⟨c, t, t', hne, hc, ht, rfl, Or.inr (Or.inr ⟨rfl, haccepted⟩)⟩

/-! ## One step -/

/-- A step deploys a contract at a free address or is a successful invocation; nobody signs
for a deployed contract, and ledgers do not go back. -/
inductive Stepped (w : World) : Event → World → Prop
  | deployed {ledger : Ledger} {address : Address} {code : Code} (hledger : w.ledger.NotAfter ledger)
      (hcontract : address.isContract = true) (hfree : w.contracts address = none) :
      Stepped w (.deploy ledger address code)
        { contracts := w.contracts.set address code.fresh, ledger }
  | invoked {ledger : Ledger} {signers : List Address} {callee : Address} {call : Call}
      {contracts : Contracts} (hledger : w.ledger.NotAfter ledger)
      (hsigners : ∀ signer ∈ signers, w.contracts signer = none)
      (hinvoked : Invoked (.signedBy ledger callee signers) w.contracts call contracts) :
      Stepped w (.invoke ledger signers callee call) { contracts, ledger }

/-- What a step of the network does. -/
theorem step_spec (h : Step w e w') : Stepped w e w' := by
  cases e with
  | deploy ledger address code =>
    simp only [Step, StepOf, World.next, Option.bind_eq_bind, Option.bind_eq_some_iff,
      Option.guard_eq_some', Option.some.injEq, exists_const] at h
    obtain ⟨hledger, ⟨hcontract, hfree⟩, rfl⟩ := h
    exact .deployed hledger hcontract (Option.isNone_iff_eq_none.mp hfree)
  | invoke ledger signers callee call =>
    simp only [Step, StepOf, World.next, Option.bind_eq_bind, Option.bind_eq_some_iff,
      Option.guard_eq_some', Option.some.injEq, exists_const] at h
    obtain ⟨hledger, hsigners, contracts, hinvoke, rfl⟩ := h
    refine .invoked hledger ?_ (invoke_spec hinvoke)
    intro signer hsigner
    exact Option.isNone_iff_eq_none.mp (hsigners signer hsigner)

/-- Ledgers do not go back. -/
theorem Step.ledger (h : Step w e w') : w.ledger.NotAfter w'.ledger := by
  cases step_spec h with
  | deployed hledger => exact hledger
  | invoked hledger => exact hledger

end StellarDidCredit.Network
