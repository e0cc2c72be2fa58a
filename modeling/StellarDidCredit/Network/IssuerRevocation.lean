import StellarDidCredit.IdentityOracle.Statistics
import StellarDidCredit.RevocationRegistry.Lock
import StellarDidCredit.Network.ActiveCount
import StellarDidCredit.Network.Deactivation

/-!
# Whether an issuer can revoke

The issuer of a record marks it on the identity oracle, or revokes its hash in the registry,
which forwards the revocation. Marking counts one active credential less, and the registry
serves a hash only for the first address that revoked it.
-/

namespace StellarDidCredit.Network

open IdentityOracle (anchorsOf IsAnchor Marked)

variable {w w' : World} {e : Event} {a r x : Address} {s : IdentityOracle.State} {q : RevocationRegistry.State}
  {ledger now : Ledger} {history : List Move} {record : IdentityVCRecord}

/-! ## What holds in every reachable state -/

/-- The counters of an identity oracle have room for every record without a flag. -/
theorem identity_statsOk (hrun : Run Step (.genesis ledger) history w)
    (hs : w.contracts a = some (.identityOracle s)) : IdentityOracle.StatsOk s := by
  refine hrun.invariant
    (fun w => ∀ s, w.contracts a = some (.identityOracle s) → IdentityOracle.StatsOk s) ?_ (by simp) s hs
  intro w e w' hbefore h s' hs'
  rcases identity_origin h hs' with ⟨-, rfl⟩ | ⟨s, hs, -⟩
  · exact IdentityOracle.statsOk_start
  · obtain ⟨after, hafter, hcalled⟩ := identity_called h hs
    cases hafter.symm.trans hs'
    cases hcalled.exec with
    | inl hidle =>
      rw [hidle]
      exact hbefore s hs
    | inr hexecuted =>
      obtain ⟨host, env, call, others, hexec⟩ := hexecuted
      obtain ⟨x, hcounts⟩ := IdentityOracle.exec_counts hexec
      exact (hbefore s hs).step hcounts

/-- The count of a subject with records is cached. -/
theorem identity_cached (hrun : Run Step (.genesis ledger) history w)
    (hs : w.contracts a = some (.identityOracle s)) (x : Address) : IdentityOracle.Cached (s.slice x) := by
  refine identity_invariant (fun _ s => IdentityOracle.Cached (s.slice x)) ?_ ?_ hrun hs
  · intro _ hrecords
    exact absurd rfl hrecords
  · intro w e w' s s' _ hbefore hchange
    cases hchange with
    | idle => exact hbefore
    | relinked => exact hbefore
    | acted hcall hnotLink heffects => exact (heffects.slice x).cached hbefore

/-- Between transactions the lock of a registry is free. -/
theorem registry_unlocked (hrun : Run Step (.genesis ledger) history w)
    (hq : w.contracts r = some (.revocationRegistry q)) : q.reentrancyLock = none := by
  refine hrun.invariant
    (fun w => ∀ q, w.contracts r = some (.revocationRegistry q) → q.reentrancyLock = none) ?_ (by simp) q hq
  intro w e w' hbefore h q' hq'
  rcases registry_origin h hq' with ⟨-, rfl⟩ | ⟨q, hq, -⟩
  · rfl
  · obtain ⟨after, hafter, hcalled⟩ := registry_called h hq
    cases hafter.symm.trans hq'
    cases hcalled with
    | linkedOnly =>
      have hfree := hbefore _ hq
      exact hfree
    | own he hexec => exact RevocationRegistry.exec_unlocked hexec (hbefore q hq)

/-! ## The two ways to revoke -/

section Revoking

variable (hrun : Run Step (.genesis ledger) history w) (hs : w.contracts a = some (.identityOracle s))
  (hmem : record ∈ anchorsOf s x)
include hrun hs hmem

/-- After its issuer's mark was executed, a record is revoked. -/
theorem recordRevoked_of_mark (h : Step w e w')
    (hcall : identityCall w.contracts a e = some (.markVcRevoked record.issuer x record.vcHash)) :
    w'.recordRevoked a x record.issuer record.vcHash = some true := by
  obtain ⟨s', hs', hchange⟩ := identity_step h hs
  have hmarked : Marked record.issuer record.vcHash (s'.slice x) := by
    cases hchange with
    | idle hidle => cases hidle.symm.trans hcall
    | relinked hlink => cases hlink.symm.trans hcall
    | acted hacted hnotLink heffects =>
      cases hacted.symm.trans hcall
      exact (heffects.slice x).marked_of_mark hmem ⟨rfl, rfl⟩
  obtain ⟨marked, hmem', hanchor, hrevoked⟩ := hmarked
  refine (recordRevoked_eq_some (hrun.snoc h) hs').mpr ⟨marked, hmem', hanchor, ?_⟩
  rw [IdentityOracle.isActive, hrevoked]
  rfl

omit hmem in
/-- No record of a hash is counted after the hash was revoked in the linked registry. -/
theorem verifyVc_of_revocation {vcHash : BytesN 32} (h : Step w e w')
    (hnotLink : ∀ r, identityCall w.contracts a e ≠ some (.setRevocationRegistry r))
    (hlisted : vcHash ∈ linkedRevocations s e) : w'.verifyVc a x vcHash = some false := by
  obtain ⟨s', hs', hchange⟩ := identity_step h hs
  have hlink : s'.revocationRegistryId = s.revocationRegistryId := by
    cases hchange with
    | idle => rfl
    | relinked hcall => exact absurd hcall (hnotLink _)
    | acted hcall hnot heffects => exact heffects.link
  have hflag : statusOf w'.contracts s' vcHash = true := by
    rw [statusOf_congr hlink, statusOf_step h, decide_eq_true hlisted, Bool.or_true]
  rw [verifyVc_eq (hrun.snoc h) hs', Option.some.injEq, List.any_eq_false]
  intro other _
  by_cases hhash : other.vcHash = vcHash
  · simp [IdentityOracle.isActive, hhash, hflag]
  · simp [hhash]

/-- In a reachable state the identity oracle, when it is not paused, accepts an issuer's mark unless it
would take one from a count of zero. -/
theorem markVcRevoked_reachable {host : IdentityOracle.Host Contracts} {env : Env}
    (hpaused : s.paused.getD false = false) (hauth : env.Authorized record.issuer) :
    (∃ s', IdentityOracle.markVcRevoked host env record.issuer x record.vcHash s w.contracts = .ok s') ↔
      record.revoked = true ∨ s.activeVCCount x ≠ some 0 := by
  obtain ⟨count, hcached⟩ := identity_cached hrun hs x (List.ne_nil_of_mem hmem)
  have hcached : s.activeVCCount x = some count := hcached
  have hroom := fun hunmarked => (identity_statsOk hrun hs).room hmem hunmarked
  rw [IdentityOracle.markVcRevoked_succeeds_iff hpaused hauth (identity_distinct hrun hs x) hmem ⟨rfl, rfl⟩
    hcached hroom, hcached, ne_eq, Option.some.injEq, Nat.one_le_iff_ne_zero]

end Revoking

section Transactions

variable {issuer : Address}

/-- A transaction that an account signs in the current or a later ledger is executed. -/
theorem next_invoke_iff {callee : Address} {call : Call} (hledger : w.ledger.NotAfter now)
    (hsigner : w.contracts issuer = none) :
    (∃ w', Step w (.invoke now [issuer] callee call) w') ↔
      ∃ contracts, invoke (.signedBy now callee [issuer]) call w.contracts = some contracts := by
  simp only [Step, StepOf, World.next, Option.bind_eq_bind, Option.bind_eq_some_iff, Option.guard_eq_some',
    Option.some.injEq, exists_const]
  constructor
  · rintro ⟨_, -, -, contracts, hinvoke, -⟩
    exact ⟨contracts, hinvoke⟩
  · rintro ⟨contracts, hinvoke⟩
    refine ⟨_, hledger, ?_, contracts, hinvoke, rfl⟩
    intro signer hsigned
    rw [List.mem_singleton.mp hsigned, hsigner]
    rfl

variable (hrun : Run Step (.genesis ledger) history w) (hs : w.contracts a = some (.identityOracle s))
  (hmem : record ∈ anchorsOf s x) (hledger : w.ledger.NotAfter now)
  (hsigner : w.contracts record.issuer = none) (hpaused : s.paused.getD false = false)
include hrun hs hmem hledger hsigner hpaused

/-- When `mark_vc_revoked` succeeds. -/
theorem mark_step_iff :
    (∃ w', Step w (.invoke now [record.issuer] a
      (.identityOracle (.markVcRevoked record.issuer x record.vcHash))) w') ↔
      record.revoked = true ∨ s.activeVCCount x ≠ some 0 := by
  let env : Env := .signedBy now a [record.issuer]
  have haccepts : (∃ s', IdentityOracle.markVcRevoked (identityHost env [a]) env record.issuer x record.vcHash s
      w.contracts = .ok s') ↔ record.revoked = true ∨ s.activeVCCount x ≠ some 0 :=
    markVcRevoked_reachable hrun hs hmem hpaused (Or.inl (List.mem_singleton_self _))
  rw [next_invoke_iff hledger hsigner, ← haccepts]
  simp only [invoke, onIdentity_eq_some, Option.bind_eq_bind, Option.bind_eq_some_iff, Outcome.toOption_eq_some,
    Option.some.injEq]
  constructor
  · rintro ⟨contracts, -, t, ht, ⟨t', others⟩, hexec, -⟩
    cases hs.symm.trans ht
    exact ⟨t', (IdentityOracle.alone_eq_ok.mp hexec).1⟩
  · rintro ⟨s', hmark⟩
    exact ⟨_, by simp, s, hs, (s', w.contracts), IdentityOracle.alone_eq_ok.mpr ⟨hmark, rfl⟩, rfl⟩

/-- When `revoke` succeeds, in a registry that is linked with the identity oracle. -/
theorem revoke_step_iff (hq : w.contracts r = some (.revocationRegistry q)) (hlinked : q.identityOracleId = some a)
    (hpaused' : q.paused.getD false = false) :
    (∃ w', Step w (.invoke now [record.issuer] r
      (.revocationRegistry (.revoke record.issuer x record.vcHash))) w') ↔
      (∀ existing, q.registeredVCIssuer record.vcHash = some existing → existing = record.issuer) ∧
      (record.revoked = true ∨ s.activeVCCount x ≠ some 0) := by
  let env : Env := .signedBy now r [record.issuer]
  have hne : a ≠ r := ne_of_code hs hq (by simp)
  have haccepts : (∃ s', IdentityOracle.markVcRevoked (identityHost ((env.enter a)) [a, r]) (env.enter a)
      record.issuer x record.vcHash s w.contracts = .ok s') ↔
      record.revoked = true ∨ s.activeVCCount x ≠ some 0 :=
    markVcRevoked_reachable hrun hs hmem hpaused (Or.inl (List.mem_singleton_self _))
  have htold : (∃ contracts, (registryHost env [r]).markVcRevoked w.contracts a record.issuer x record.vcHash =
      .ok contracts) ↔ record.revoked = true ∨ s.activeVCCount x ≠ some 0 := by
    rw [← haccepts]
    constructor
    · rintro ⟨contracts, htold⟩
      obtain ⟨-, t, ht, t', hmark, -⟩ := updateIdentity_eq_ok.mp htold
      cases hs.symm.trans ht
      exact ⟨t', hmark⟩
    · rintro ⟨s', hmark⟩
      exact ⟨_, updateIdentity_eq_ok.mpr ⟨by simpa using hne, s, hs, s', hmark, rfl⟩⟩
  have hrevoke : (∃ after, RevocationRegistry.revoke (registryHost env [r]) env record.issuer x record.vcHash q
      w.contracts = .ok after) ↔ _ :=
    RevocationRegistry.revoke_succeeds_iff hpaused' (Or.inl (List.mem_singleton_self _))
      (registry_unlocked hrun hq)
  simp only [hlinked, Option.some.injEq, forall_eq', htold] at hrevoke
  rw [next_invoke_iff hledger hsigner, ← hrevoke]
  simp only [invoke, onRegistry_eq_some, Option.bind_eq_bind, Option.bind_eq_some_iff, Outcome.toOption_eq_some,
    Option.some.injEq]
  constructor
  · rintro ⟨contracts, -, t, ht, after, hexec, -⟩
    cases hq.symm.trans ht
    exact ⟨after, hexec⟩
  · rintro ⟨after, hexec⟩
    exact ⟨_, by simp, q, hq, after, hexec, rfl⟩

end Transactions

/-! ## Main result -/

/-- An identity oracle and a registry that are linked with each other, neither of them paused. -/
structure LinkedPair (w : World) (a r : Address) (s : IdentityOracle.State) (q : RevocationRegistry.State) :
    Prop where
  identity : w.contracts a = some (.identityOracle s)
  registry : w.contracts r = some (.revocationRegistry q)
  toRegistry : s.revocationRegistryId = some r
  toIdentity : q.identityOracleId = some a
  identityRuns : s.paused.getD false = false
  registryRuns : q.paused.getD false = false

/-- When `mark_vc_revoked` turns off the record. -/
theorem mark_revokes_iff (hrun : Run Step (.genesis ledger) history w)
    (hs : w.contracts a = some (.identityOracle s)) (hmem : record ∈ anchorsOf s x)
    (hledger : w.ledger.NotAfter now) (hsigner : w.contracts record.issuer = none)
    (hpaused : s.paused.getD false = false) :
    (∃ w', Step w (.invoke now [record.issuer] a
        (.identityOracle (.markVcRevoked record.issuer x record.vcHash))) w' ∧
      w'.recordRevoked a x record.issuer record.vcHash = some true) ↔
      record.revoked = true ∨ s.activeVCCount x ≠ some 0 := by
  rw [← mark_step_iff hrun hs hmem hledger hsigner hpaused]
  constructor
  · rintro ⟨w', h, -⟩
    exact ⟨w', h⟩
  · rintro ⟨w', h⟩
    exact ⟨w', h, recordRevoked_of_mark hrun hs hmem h (if_pos rfl)⟩

/-- When `revoke` turns off the record and its hash. -/
theorem revoke_revokes_iff (hrun : Run Step (.genesis ledger) history w) (hpair : LinkedPair w a r s q)
    (hmem : record ∈ anchorsOf s x) (hledger : w.ledger.NotAfter now)
    (hsigner : w.contracts record.issuer = none) :
    (∃ w', Step w (.invoke now [record.issuer] r
        (.revocationRegistry (.revoke record.issuer x record.vcHash))) w' ∧
      w'.recordRevoked a x record.issuer record.vcHash = some true ∧
      w'.verifyVc a x record.vcHash = some false) ↔
      (∀ existing, q.registeredVCIssuer record.vcHash = some existing → existing = record.issuer) ∧
      (record.revoked = true ∨ s.activeVCCount x ≠ some 0) := by
  rw [← revoke_step_iff hrun hpair.identity hmem hledger hsigner hpair.identityRuns hpair.registry
    hpair.toIdentity hpair.registryRuns]
  constructor
  · rintro ⟨w', h, -⟩
    exact ⟨w', h⟩
  · rintro ⟨w', h⟩
    have hcall : identityCall w.contracts a (.invoke now [record.issuer] r
        (.revocationRegistry (.revoke record.issuer x record.vcHash))) =
          some (.markVcRevoked record.issuer x record.vcHash) := by
      rw [identityCall_revoke hpair.registry, if_pos hpair.toIdentity]
    refine ⟨w', h, recordRevoked_of_mark hrun hpair.identity hmem h hcall, ?_⟩
    have hlisted : record.vcHash ∈ linkedRevocations s (.invoke now [record.issuer] r
        (.revocationRegistry (.revoke record.issuer x record.vcHash))) := by
      simp [linkedRevocations, hpair.toRegistry, revokedAt, RevocationRegistry.Call.revokedHashes,
        RevocationRegistry.Call.revocation]
    refine verifyVc_of_revocation hrun hpair.identity h ?_ hlisted
    intro linked hother
    cases hcall.symm.trans hother

/-- In every reachable state of an unpaused identity oracle and an unpaused registry that are linked
with each other, and for every anchored record: its issuer can turn it off in both ways exactly when
no other address registered the hash in the registry first, and the record carries its own flag or
the subject's cached count is not zero. -/
theorem issuer_revocation (hrun : Run Step (.genesis ledger) history w) (hpair : LinkedPair w a r s q)
    (hmem : record ∈ anchorsOf s x) (hledger : w.ledger.NotAfter now)
    (hsigner : w.contracts record.issuer = none) :
    ((∃ w', Step w (.invoke now [record.issuer] a
        (.identityOracle (.markVcRevoked record.issuer x record.vcHash))) w' ∧
      w'.recordRevoked a x record.issuer record.vcHash = some true) ∧
    ∃ w', Step w (.invoke now [record.issuer] r
        (.revocationRegistry (.revoke record.issuer x record.vcHash))) w' ∧
      w'.recordRevoked a x record.issuer record.vcHash = some true ∧
      w'.verifyVc a x record.vcHash = some false) ↔
    (∀ existing, q.registeredVCIssuer record.vcHash = some existing → existing = record.issuer) ∧
      (record.revoked = true ∨ s.activeVCCount x ≠ some 0) := by
  rw [mark_revokes_iff hrun hpair.identity hmem hledger hsigner hpair.identityRuns,
    revoke_revokes_iff hrun hpair hmem hledger hsigner]
  exact and_iff_right_of_imp And.right

/-- The record of the sample credential. -/
def sampleRecord : IdentityVCRecord := { vcHash := 7, issuer := .account 2, anchoredAt := 0, revoked := false }

/-- What the sample deployment shows after some more transactions: the links, the pauses, the subject's
records and count, the registered issuer, and whether the issuer's revocation succeeds. -/
def sampleLinked (w : World) :
    Option (Option Address × Option Bool × List IdentityVCRecord × Option ℕ) ×
      Option (Option Address × Option Bool × Option Address) × Bool × Bool :=
  (onIdentity [] w.contracts (.contract 21) fun s =>
      some (s.revocationRegistryId, s.paused, anchorsOf s (.account 3), s.activeVCCount (.account 3)),
    onRegistry [] w.contracts (.contract 20) fun q =>
      some (q.identityOracleId, q.paused, q.registeredVCIssuer 7),
    (w.contracts (.account 2)).isNone,
    (w.next (sampleRevocation w.ledger (.revoke (.account 2) (.account 3) 7))).isSome)

/-- What the sample shows is a linked pair with the record in it. -/
theorem linkedPair_of_sample {anchors : List IdentityVCRecord} {count : Option ℕ} {registered : Option Address}
    {accepted : Bool} (h : sampleLinked w = (some (some (.contract 20), none, anchors, count),
      some (some (.contract 21), none, registered), true, accepted)) :
    ∃ s q, LinkedPair w (.contract 21) (.contract 20) s q ∧ anchorsOf s (.account 3) = anchors ∧
      s.activeVCCount (.account 3) = count ∧ q.registeredVCIssuer 7 = registered ∧
      w.contracts (.account 2) = none ∧
      (w.next (sampleRevocation w.ledger (.revoke (.account 2) (.account 3) 7))).isSome = accepted := by
  simp only [sampleLinked, Prod.mk.injEq] at h
  obtain ⟨hidentity, hregistry, hfree, haccepted⟩ := h
  obtain ⟨-, s, hs, hslice⟩ := onIdentity_eq_some.mp hidentity
  obtain ⟨-, q, hq, hregistered⟩ := onRegistry_eq_some.mp hregistry
  simp only [Option.some.injEq, Prod.mk.injEq] at hslice hregistered
  obtain ⟨hlinked, hpaused, hanchors, hcount⟩ := hslice
  obtain ⟨hback, hpaused', hregistered⟩ := hregistered
  exact ⟨s, q, ⟨hs, hq, hlinked, hback, by rw [hpaused]; rfl, by rw [hpaused']; rfl⟩, hanchors, hcount,
    hregistered, Option.isNone_iff_eq_none.mp hfree, haccepted⟩

/-- The issuer of the sample credential can revoke it, in both ways. -/
theorem issuer_revocation_sample : ∃ w,
    (∃ w', Step w (.invoke w.ledger [.account 2] (.contract 21)
        (.identityOracle (.markVcRevoked (.account 2) (.account 3) 7))) w' ∧
      w'.recordRevoked (.contract 21) (.account 3) (.account 2) 7 = some true) ∧
    ∃ w', Step w (sampleRevocation w.ledger (.revoke (.account 2) (.account 3) 7)) w' ∧
      w'.verifyVc (.contract 21) (.account 3) 7 = some false := by
  let ledger : Ledger := .numbered 0
  obtain ⟨history, w, hrun, hobserved⟩ := Run.exists_of_replay
    (show (replay World.next (.genesis ledger) (sampleDeployment ledger)).map (fun r => sampleLinked r.2) =
      some (some (some (.contract 20), none, [sampleRecord], some 1), some (some (.contract 21), none, none),
        true, true) from rfl)
  obtain ⟨s, q, hpair, hanchors, hcount, hnone, hfree, -⟩ := linkedPair_of_sample hobserved
  have hmem : sampleRecord ∈ anchorsOf s (.account 3) := by
    rw [hanchors]
    exact List.mem_singleton_self _
  have hunclaimed (existing : Address) (hexisting : q.registeredVCIssuer 7 = some existing) :
      existing = .account 2 := by
    cases hnone.symm.trans hexisting
  obtain ⟨hmark, w', h, -, hverified⟩ := (issuer_revocation hrun hpair hmem (.refl w.ledger) hfree).mpr
    ⟨hunclaimed, Or.inr (by rw [hcount]; simp)⟩
  exact ⟨w, hmark, w', h, hverified⟩

/-! ## When the issuer is refused -/

/-- A transaction that is refused takes no step. -/
theorem not_step_of_refused {e : Event} (h : (w.next e).isSome = false) (w' : World) : ¬Step w e w' := by
  intro hstep
  have hsome : (w.next e).isSome = true := Option.isSome_iff_exists.mpr ⟨w', hstep⟩
  rw [h] at hsome
  cases hsome

/-- An account without any role revoked the hash first, and the registry refuses the issuer. -/
theorem sampleRecord_claimed : ∃ ledger history w a r s q record x, Run Step (.genesis ledger) history w ∧
    LinkedPair w a r s q ∧ record ∈ anchorsOf s x ∧ w.contracts record.issuer = none ∧
    ∀ w', ¬Step w (.invoke w.ledger [record.issuer] r
      (.revocationRegistry (.revoke record.issuer x record.vcHash))) w' := by
  let ledger : Ledger := .numbered 0
  obtain ⟨history, w, hrun, hobserved⟩ := Run.exists_of_replay
    (show (replay World.next (.genesis ledger) (sampleDeployment ledger ++ [sampleFirstRevocation ledger])).map
      (fun r => sampleLinked r.2) =
      some (some (some (.contract 20), none, [sampleRecord], some 1),
        some (some (.contract 21), none, some (.account 9)), true, false) from rfl)
  obtain ⟨s, q, hpair, hanchors, -, -, hfree, hrefused⟩ := linkedPair_of_sample hobserved
  refine ⟨ledger, history, w, _, _, s, q, sampleRecord, .account 3, hrun, hpair, ?_, hfree, ?_⟩
  · rw [hanchors]
    exact List.mem_singleton_self _
  · exact not_step_of_refused hrefused

/-- The issuer anchors a hash that the registry lists already, which counts nothing, and marks that record,
which counts one less. -/
def sampleUncounting (ledger : Ledger) : List Event :=
  [ sampleRevocation ledger (.batchRevoke (.account 2) [8]),
    .invoke ledger [.account 2] (.contract 21) (.identityOracle (.anchorVc (.account 2) (.account 3) 8)),
    .invoke ledger [.account 2] (.contract 21) (.identityOracle (.markVcRevoked (.account 2) (.account 3) 8)) ]

/-- Then it cannot mark its other credential, which is active. -/
theorem sampleRecord_uncounted : ∃ ledger history w a r s q record x, Run Step (.genesis ledger) history w ∧
    LinkedPair w a r s q ∧ record ∈ anchorsOf s x ∧ w.contracts record.issuer = none ∧
    w.recordRevoked a x record.issuer record.vcHash = some false ∧
    ∀ w', ¬Step w (.invoke w.ledger [record.issuer] a
      (.identityOracle (.markVcRevoked record.issuer x record.vcHash))) w' := by
  let ledger : Ledger := .numbered 0
  let mark (w : World) : Event := .invoke w.ledger [.account 2] (.contract 21)
    (.identityOracle (.markVcRevoked (.account 2) (.account 3) 7))
  obtain ⟨history, w, hrun, hobserved⟩ := Run.exists_of_replay
    (show (replay World.next (.genesis ledger) (sampleDeployment ledger ++ sampleUncounting ledger)).map
      (fun r => (sampleLinked r.2, r.2.recordRevoked (.contract 21) (.account 3) (.account 2) 7,
        (r.2.next (mark r.2)).isSome)) =
      some ((some (some (.contract 20), none,
          [sampleRecord, { sampleRecord with vcHash := 8, revoked := true }], some 0),
        some (some (.contract 21), none, none), true, false), some false, false) from rfl)
  simp only [Prod.mk.injEq] at hobserved
  obtain ⟨hlinked, hactive, hrefused⟩ := hobserved
  obtain ⟨s, q, hpair, hanchors, -, -, hfree, -⟩ := linkedPair_of_sample (by rw [hlinked])
  refine ⟨ledger, history, w, _, _, s, q, sampleRecord, .account 3, hrun, hpair, ?_, hfree, hactive, ?_⟩
  · rw [hanchors]
    exact List.mem_cons_self
  · exact not_step_of_refused hrefused

/-- The registry may refuse the issuer, and so may the identity oracle, for an active record. -/
theorem not_issuer_revocation_claimed :
    (∃ ledger history w a r s q record x, Run Step (.genesis ledger) history w ∧
      LinkedPair w a r s q ∧ record ∈ anchorsOf s x ∧ w.contracts record.issuer = none ∧
      ∀ w', ¬Step w (.invoke w.ledger [record.issuer] r
        (.revocationRegistry (.revoke record.issuer x record.vcHash))) w') ∧
    ∃ ledger history w a r s q record x, Run Step (.genesis ledger) history w ∧
      LinkedPair w a r s q ∧ record ∈ anchorsOf s x ∧ w.contracts record.issuer = none ∧
      w.recordRevoked a x record.issuer record.vcHash = some false ∧
      ∀ w', ¬Step w (.invoke w.ledger [record.issuer] a
        (.identityOracle (.markVcRevoked record.issuer x record.vcHash))) w' :=
  ⟨sampleRecord_claimed, sampleRecord_uncounted⟩

end StellarDidCredit.Network
