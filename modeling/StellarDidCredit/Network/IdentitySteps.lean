import StellarDidCredit.Network.RegistrySteps

/-!
# A step, seen from an identity oracle

A step of the network is one of the oracle's own calls, which its linked registry may have forwarded, or
nothing at all. Whatever every call of an identity oracle keeps is therefore kept in the network.
-/

namespace StellarDidCredit.Network

variable {w w' : World} {e : Event} {env : Env} {call : Call} {contracts : Contracts}
  {a callee : Address}

/-- The call that an identity oracle executes in a transaction: its own, a revocation that a
registry linked to it forwards, or the probe of a credit oracle that links it. -/
def identityCall (contracts : Contracts) (a : Address) : Event → Option IdentityOracle.Call
  | .invoke _ _ callee (.identityOracle call) => if callee = a then some call else none
  | .invoke _ _ callee (.revocationRegistry (.revoke issuer subject vcHash)) =>
    match contracts callee with
    | some (.revocationRegistry q) =>
      if q.identityOracleId = some a then some (.markVcRevoked issuer subject vcHash) else none
    | _ => none
  | .invoke _ _ callee (.creditOracle (.setIdentityOracle _ identityOracleId)) =>
    if identityOracleId = a then some (.getActiveVcCount callee) else none
  | _ => none

/-- Where the call an identity oracle executes comes from. -/
theorem identityCall_cases {executed : IdentityOracle.Call}
    (h : identityCall contracts a e = some executed) :
    (∃ ledger signers, e = .invoke ledger signers a (.identityOracle executed)) ∨
    (∃ ledger signers r q issuer subject vcHash,
      e = .invoke ledger signers r (.revocationRegistry (.revoke issuer subject vcHash)) ∧
      contracts r = some (.revocationRegistry q) ∧ q.identityOracleId = some a ∧
      executed = .markVcRevoked issuer subject vcHash) ∨
    ∃ ledger signers c admin, e = .invoke ledger signers c (.creditOracle (.setIdentityOracle admin a)) ∧
      executed = .getActiveVcCount c := by
  unfold identityCall at h
  split at h
  case h_1 ledger signers callee call =>
    split at h
    case isTrue hcallee =>
      cases h
      exact Or.inl ⟨ledger, signers, by rw [hcallee]⟩
    case isFalse => cases h
  case h_2 ledger signers callee issuer subject vcHash =>
    split at h
    case h_1 q hq =>
      split at h
      case isTrue hlinked =>
        cases h
        exact Or.inr (Or.inl ⟨ledger, signers, callee, q, issuer, subject, vcHash, rfl, hq, hlinked, rfl⟩)
      case isFalse => cases h
    case h_2 => cases h
  case h_3 ledger signers callee admin identityOracleId =>
    split at h
    case isTrue hlinked =>
      cases h
      exact Or.inr (Or.inr ⟨ledger, signers, callee, admin, by rw [hlinked], rfl⟩)
    case isFalse => cases h
  case h_4 => cases h

/-- The hashes revoked together with a call of the identity oracle are the one it is told of. -/
theorem linkedRevocations_forwarded {executed : IdentityOracle.Call}
    (hcall : identityCall contracts a e = some executed) {s : IdentityOracle.State} {vcHash : BytesN 32}
    (hmem : vcHash ∈ linkedRevocations s e) :
    ∃ issuer subject, executed = .markVcRevoked issuer subject vcHash := by
  rcases identityCall_cases hcall with ⟨ledger, signers, rfl⟩ |
    ⟨ledger, signers, r, q, issuer, subject, hash, rfl, hq, hlinked, rfl⟩ |
    ⟨ledger, signers, c, admin, rfl, rfl⟩
  · rw [linkedRevocations_eq_nil s fun _ hother => by cases hother] at hmem
    cases hmem
  · unfold linkedRevocations at hmem
    split at hmem
    case h_1 linked _ =>
      change vcHash ∈ if r = linked then [hash] else [] at hmem
      split at hmem
      · obtain rfl := List.mem_singleton.mp hmem
        exact ⟨issuer, subject, rfl⟩
      · cases hmem
    case h_2 => cases hmem
  · rw [linkedRevocations_eq_nil s fun _ hother => by cases hother] at hmem
    cases hmem

/-- Right after another registry is linked its flags are the ones it had before. -/
theorem statusOf_relinked (h : Step w e w') {s : IdentityOracle.State} {r : Address}
    (hcall : identityCall w.contracts a e = some (.setRevocationRegistry r)) :
    statusOf w'.contracts { s with revocationRegistryId := some r } = registryStatus w.contracts r := by
  rcases identityCall_cases hcall with ⟨ledger, signers, rfl⟩ | ⟨_, _, _, _, _, _, _, _, _, _, hother⟩ |
    ⟨_, _, _, _, _, hother⟩
  · funext vcHash
    change registryStatus w'.contracts r vcHash = registryStatus w.contracts r vcHash
    rw [registryStatus_step h]
    simp only [revokedAt, List.not_mem_nil, decide_false, Bool.or_false]
  · cases hother
  · cases hother

/-- The accounts that signed a transaction. -/
def signersOf : Event → List Address
  | .deploy _ _ _ => []
  | .invoke _ signers _ _ => signers

/-- The ledger of a transaction. -/
def ledgerOf : Event → Ledger
  | .deploy ledger _ _ => ledger
  | .invoke ledger _ _ _ => ledger

/-- After a transaction the current ledger is the one it was executed in. -/
theorem Step.ledger_eq (h : Step w e w') : w'.ledger = ledgerOf e := by
  cases step_spec h with
  | deployed => rfl
  | invoked => rfl

/-- What a step does to an identity oracle in the state `s` at the address `a`. -/
inductive IdentityChange (w : World) (e : Event) (w' : World) (a : Address) (s : IdentityOracle.State) :
    IdentityOracle.State → Prop
  | idle (hcall : identityCall w.contracts a e = none) : IdentityChange w e w' a s s
  | relinked {r admin : Address} (hcall : identityCall w.contracts a e = some (.setRevocationRegistry r))
      (hadmin : s.admin = some admin) (hauth : admin ∈ signersOf e)
      (hregistry : ∃ q, w.contracts r = some (.revocationRegistry q)) :
      IdentityChange w e w' a s { s with revocationRegistryId := some r }
  | acted {call : IdentityOracle.Call} {s' : IdentityOracle.State}
      (hcall : identityCall w.contracts a e = some call)
      (hnotLink : ∀ r, call ≠ .setRevocationRegistry r)
      (heffects : IdentityOracle.SubjectEffects (.signedBy w'.ledger a (signersOf e))
        (statusOf w'.contracts s) call s s') :
      IdentityChange w e w' a s s'

/-- A registry forwards its revocations to the identity oracle it is linked to. -/
theorem identityCall_revoke {ledger : Ledger} {signers : List Address} {q : RevocationRegistry.State}
    (hq : contracts callee = some (.revocationRegistry q)) (issuer subject : Address) (vcHash : BytesN 32) :
    identityCall contracts a (.invoke ledger signers callee
      (.revocationRegistry (.revoke issuer subject vcHash))) =
      if q.identityOracleId = some a then some (.markVcRevoked issuer subject vcHash) else none := by
  simp only [identityCall, hq]

/-- While a registry forwards a revocation, an identity oracle sees what it sees afterwards: the
calling registry cannot be asked, and the others do not change. -/
theorem sees_statusOf_forwarded {ledger : Ledger} {signers : List Address}
    (h : Step w (.invoke ledger signers callee call) w') (s : IdentityOracle.State) :
    IdentityOracle.Sees (identityHost env [a, callee]) w.contracts s (statusOf w'.contracts s) := by
  refine sees_of_status ?_ ?_
  · intro r hr hfree vcHash
    have hcallee : callee ≠ r := by
      rintro rfl
      simp at hfree
    have hnone : linkedRevocations s (.invoke ledger signers callee call) = [] := by
      simp only [linkedRevocations, hr, revokedAt]
      split
      · simp_all
      · rfl
    rw [statusOf_eq h hnone]
    simp only [statusOf, hr]
  · intro hunlinked vcHash
    simp only [statusOf, hunlinked]

/-- What a step executes on an identity oracle in the state `s` at the address `a`. -/
inductive IdentityCalled (w : World) (e : Event) (a : Address) (s : IdentityOracle.State) :
    IdentityOracle.State → Prop
  | idle (hcall : identityCall w.contracts a e = none) : IdentityCalled w e a s s
  | own {ledger : Ledger} {signers : List Address} {call : IdentityOracle.Call} {s' : IdentityOracle.State}
      {others : Contracts} (he : e = .invoke ledger signers a (.identityOracle call))
      (hexec : IdentityOracle.exec (identityHost (.signedBy ledger a signers) [a]) (.signedBy ledger a signers)
        call s w.contracts = .ok (s', others)) : IdentityCalled w e a s s'
  | probed {ledger : Ledger} {signers : List Address} {c admin : Address} {count : ℕ} {s' : IdentityOracle.State}
      (he : e = .invoke ledger signers c (.creditOracle (.setIdentityOracle admin a)))
      (hcount : IdentityOracle.getActiveVcCount (identityHost (.enter (.signedBy ledger c signers) a) [a, c]) c s
        w.contracts = .ok (count, s')) : IdentityCalled w e a s s'
  | forwarded {ledger : Ledger} {signers : List Address} {r issuer subject : Address} {vcHash : BytesN 32}
      {q q' : RevocationRegistry.State} {others : Contracts} {s' : IdentityOracle.State}
      (he : e = .invoke ledger signers r (.revocationRegistry (.revoke issuer subject vcHash)))
      (hq : w.contracts r = some (.revocationRegistry q)) (hlink : q.identityOracleId = some a)
      (hrevoke : RevocationRegistry.exec (registryHost (.signedBy ledger r signers) [r])
        (.signedBy ledger r signers) (.revoke issuer subject vcHash) q w.contracts = .ok (q', others))
      (hmark : IdentityOracle.markVcRevoked (identityHost (.enter (.signedBy ledger r signers) a) [a, r])
        (.enter (.signedBy ledger r signers) a) issuer subject vcHash s w.contracts = .ok s') :
      IdentityCalled w e a s s'

/-- In a step an identity oracle executes one call at most. -/
theorem identity_called (h : Step w e w') {s : IdentityOracle.State}
    (hs : w.contracts a = some (.identityOracle s)) :
    ∃ s', w'.contracts a = some (.identityOracle s') ∧ IdentityCalled w e a s s' := by
  cases step_spec h with
  | @deployed ledger address code hledger hcontract hfree =>
    have hne : a ≠ address := by
      rintro rfl
      cases hs.symm.trans hfree
    exact ⟨s, (Storage.set_of_ne _ _ hne).trans hs, .idle rfl⟩
  | @invoked ledger signers callee call contracts hledger hsigners hinvoked =>
    cases hinvoked with
    | @credit call c c' others hc hexec hothers =>
      have hne : a ≠ callee := ne_of_code hs hc (by simp)
      rcases hothers with ⟨rfl, hnot⟩ | ⟨admin, linked, t, t', count, rfl, -, ht, hcount, rfl⟩
      · refine ⟨s, (Storage.set_of_ne _ _ hne).trans hs, .idle ?_⟩
        cases call with
        | setIdentityOracle admin linked => exact (hnot admin linked rfl).elim
        | _ => rfl
      · by_cases hlinked : a = linked
        · subst hlinked
          cases hs.symm.trans ht
          exact ⟨t', (Storage.set_of_ne _ _ hne).trans (Storage.set_self _ _ _), .probed rfl hcount⟩
        · refine ⟨s, ?_, .idle (if_neg (Ne.symm hlinked))⟩
          exact (Storage.set_of_ne _ _ hne).trans ((Storage.set_of_ne _ _ hlinked).trans hs)
    | @identity call t t' others ht hexec hothers =>
      by_cases hcallee : a = callee
      · subst hcallee
        cases hs.symm.trans ht
        exact ⟨t', Storage.set_self _ _ _, .own rfl hexec⟩
      · refine ⟨s, (Storage.set_of_ne _ _ hcallee).trans ?_, .idle (if_neg (Ne.symm hcallee))⟩
        rcases hothers with ⟨rfl, -⟩ | ⟨r, q, rfl, -, hq, rfl⟩
        · exact hs
        · exact set_of_code hq hs (by simp)
    | @registry call q q' others hq hexec hothers =>
      replace hq : w.contracts callee = some (.revocationRegistry q) := hq
      have hne : a ≠ callee := ne_of_code hs hq (by simp)
      rcases hothers with ⟨rfl, hnot⟩ |
        ⟨issuer, subject, vcHash, linked, t, t', rfl, hlink, -, ht, hmark, rfl⟩
      · refine ⟨s, (Storage.set_of_ne _ _ hne).trans hs, .idle ?_⟩
        cases call with
        | revoke issuer subject vcHash =>
          have hunlinked := hnot issuer subject vcHash rfl
          rw [identityCall_revoke hq, hunlinked]
          exact if_neg (by simp)
        | _ => rfl
      · by_cases hlinked : a = linked
        · subst hlinked
          cases hs.symm.trans ht
          refine ⟨t', (Storage.set_of_ne _ _ hne).trans (Storage.set_self _ _ _), ?_⟩
          exact .forwarded rfl hq hlink hexec hmark
        · refine ⟨s, ?_, .idle ?_⟩
          · exact (Storage.set_of_ne _ _ hne).trans ((Storage.set_of_ne _ _ hlinked).trans hs)
          · rw [identityCall_revoke hq, hlink]
            exact if_neg fun hsame => hlinked (Option.some.inj hsame).symm
    | @governance call g g' others hg hexec hothers =>
      have hne : a ≠ callee := ne_of_code hs hg (by simp)
      refine ⟨s, (Storage.set_of_ne _ _ hne).trans ?_, .idle rfl⟩
      rcases hothers with ⟨rfl, -⟩ | ⟨c, t, t', -, -, ht, rfl, -⟩
      · exact hs
      · exact set_of_code ht hs (by simp)

/-- Whatever is executed on an identity oracle is one of its calls. -/
theorem IdentityCalled.exec {s s' : IdentityOracle.State} (h : IdentityCalled w e a s s') :
    s' = s ∨ ∃ host env call others, IdentityOracle.exec (κ := Contracts) host env call s w.contracts =
      .ok (s', others) := by
  cases h with
  | idle => exact Or.inl rfl
  | own he hexec => exact Or.inr ⟨_, _, _, _, hexec⟩
  | @probed ledger signers c admin count s' he hcount =>
    have hexec : IdentityOracle.exec (identityHost (.enter (.signedBy ledger c signers) a) [a, c])
        (.signedBy ledger a signers) (.getActiveVcCount c) s w.contracts = .ok (s', w.contracts) :=
      IdentityOracle.alone_eq_ok.mpr ⟨Outcome.map_snd_eq_ok.mpr ⟨count, hcount⟩, rfl⟩
    exact Or.inr ⟨_, _, _, _, hexec⟩
  | @forwarded ledger signers r issuer subject vcHash q q' others s' he hq hlink hrevoke hmark =>
    have hexec : IdentityOracle.exec (identityHost (.enter (.signedBy ledger r signers) a) [a, r])
        (.enter (.signedBy ledger r signers) a) (.markVcRevoked issuer subject vcHash) s w.contracts =
        .ok (s', w.contracts) := IdentityOracle.alone_eq_ok.mpr ⟨hmark, rfl⟩
    exact Or.inr ⟨_, _, _, _, hexec⟩

/-- A step changes an identity oracle by the one call it executes, if any. -/
theorem identity_step (h : Step w e w') {s : IdentityOracle.State}
    (hs : w.contracts a = some (.identityOracle s)) :
    ∃ s', w'.contracts a = some (.identityOracle s') ∧ IdentityChange w e w' a s s' := by
  obtain ⟨s', hs', hcalled⟩ := identity_called h hs
  refine ⟨s', hs', ?_⟩
  cases hcalled with
  | idle hcall => exact .idle hcall
  | @own ledger signers call _ others he hexec =>
    subst he
    have hledger : w'.ledger = ledger := h.ledger_eq
    cases IdentityOracle.exec_effect (sees_statusOf s) hexec with
    | @registryLinked r admin _ hadmin hauth hvalid hlinked =>
      refine .relinked (if_pos rfl) hadmin (authorized_signedBy hauth) ?_
      simp only [IdentityOracle.validateRevocationRegistryRef, identityHost, Option.isSome_iff_exists,
        onRegistry_eq_some] at hvalid
      obtain ⟨_, -, q, hq, -⟩ := hvalid
      exact ⟨q, hq⟩
    | subjects hcall heffects =>
      refine .acted (if_pos rfl) hcall ?_
      rw [statusOf_eq h (linkedRevocations_eq_nil s (by simp)), hledger]
      exact heffects
  | @probed ledger signers c admin count _ he hcount =>
    subst he
    refine .acted (if_pos rfl) (by simp) ?_
    rw [statusOf_eq h (linkedRevocations_eq_nil s (by simp)), h.ledger_eq]
    exact IdentityOracle.getActiveVcCount_effects (sees_statusOf s) hcount
  | @forwarded ledger signers r issuer subject vcHash q q' others _ he hq hlink hrevoke hmark =>
    subst he
    have heffects := IdentityOracle.markVcRevoked_effects (sees_statusOf_forwarded h s) hmark
    obtain ⟨hauth, -⟩ := RevocationRegistry.revoke_spec hrevoke
    have hledger : w'.ledger = ledger := h.ledger_eq
    subst hledger
    refine .acted ?_ (by simp) (heffects.revocation_congr rfl hauth)
    rw [identityCall_revoke hq, if_pos hlink]

/-- An identity oracle after a step was there before, or is freshly deployed. -/
theorem identity_origin (h : Step w e w') {s' : IdentityOracle.State}
    (hs' : w'.contracts a = some (.identityOracle s')) :
    (w.contracts a = none ∧ s' = {}) ∨
      ∃ s, w.contracts a = some (.identityOracle s) ∧ IdentityChange w e w' a s s' := by
  rcases code_origin h hs' with ⟨hfree, hfresh⟩ | ⟨before, hbefore, hcode⟩
  · exact Or.inl ⟨hfree, by injection hfresh⟩
  · cases before with
    | identityOracle s =>
      obtain ⟨after, hafter, hchange⟩ := identity_step h hbefore
      cases hafter.symm.trans hs'
      exact Or.inr ⟨s, hbefore, hchange⟩
    | _ => cases hcode

/-- An invariant of fresh identity oracles that every change keeps holds in every reachable state. -/
theorem identity_invariant (I : Ledger → IdentityOracle.State → Prop) (hfresh : ∀ ledger, I ledger {})
    (hkeep : ∀ w e w' s s', Step w e w' → I w.ledger s → IdentityChange w e w' a s s' → I w'.ledger s')
    {ledger : Ledger} {history : List Move} (hrun : Run Step (.genesis ledger) history w)
    {s : IdentityOracle.State} (hs : w.contracts a = some (.identityOracle s)) : I w.ledger s := by
  refine hrun.invariant
    (fun w => ∀ s, w.contracts a = some (.identityOracle s) → I w.ledger s) ?_ (by simp) s hs
  intro w e w' hbefore h s' hs'
  rcases identity_origin h hs' with ⟨-, rfl⟩ | ⟨s, hs, hchange⟩
  · exact hfresh _
  · exact hkeep w e w' s s' h (hbefore s hs) hchange

/-- In every reachable state an issuer has at most one record of a hash for a subject. -/
theorem identity_distinct {ledger : Ledger} {history : List Move}
    (hrun : Run Step (.genesis ledger) history w) {s : IdentityOracle.State}
    (hs : w.contracts a = some (.identityOracle s)) (x : Address) :
    IdentityOracle.Distinct (IdentityOracle.anchorsOf s x) := by
  refine identity_invariant (fun _ s => IdentityOracle.Distinct (IdentityOracle.anchorsOf s x)) ?_ ?_ hrun hs
  · intro _
    exact List.nodup_nil
  · intro w e w' s s' _ hbefore hchange
    cases hchange with
    | idle => exact hbefore
    | relinked => exact hbefore
    | acted hcall hnotLink heffects => exact (heffects.slice x).distinct hbefore

/-- In every reachable state the last change of a subject is not in the future. -/
theorem identity_lastChange {ledger : Ledger} {history : List Move}
    (hrun : Run Step (.genesis ledger) history w) {s : IdentityOracle.State}
    (hs : w.contracts a = some (.identityOracle s)) {x : Address} {n : ℕ}
    (hn : s.lastStateChange x = some n) : n ≤ w.ledger.sequence := by
  refine identity_invariant
    (fun ledger s => ∀ n, s.lastStateChange x = some n → n ≤ ledger.sequence) ?_ ?_ hrun hs n hn
  · intro _ n hn
    cases hn
  · intro w e w' s s' h hbefore hchange
    have hledger : w.ledger.sequence ≤ w'.ledger.sequence := h.ledger.1
    cases hchange with
    | idle => exact fun n hn => (hbefore n hn).trans hledger
    | relinked => exact fun n hn => (hbefore n hn).trans hledger
    | acted hcall hnotLink heffects =>
      intro n hn
      rcases (heffects.slice x).lastChange_cases with hsame | hnow
      · exact (hbefore n (hsame.symm.trans hn)).trans hledger
      · exact (Option.some.inj (hn.symm.trans hnow)).le

end StellarDidCredit.Network
