import StellarDidCredit.IdentityOracle.Counts
import StellarDidCredit.Network.Revocation

/-!
# The active count and the active credentials

The identity oracle caches the number of a subject's active credentials; the credentials
themselves are read with the flags of the linked registry. The two agree until a step loses
an active credential without patching the count, or patches the count for a credential that
was lost before. A score is computed from the credentials, never from the cached count.
-/

namespace StellarDidCredit.Network

variable {w w' : World} {e : Event} {a c x : Address} {s : IdentityOracle.State} {ledger : Ledger}
  {history : List Move}

/-! ## Agreement -/

/-- `get_active_vc_count` is the length of `get_vc_details`. -/
def CountAgrees (w : World) (a x : Address) : Prop :=
  ∃ records, w.vcDetails a x = some records ∧ w.activeVcCount a x = some records.length

/-- In a reachable state the two agree when a cached count is right. -/
theorem countAgrees_iff (hrun : Run Step (.genesis ledger) history w)
    (hs : w.contracts a = some (.identityOracle s)) :
    CountAgrees w a x ↔ IdentityOracle.CountOk (statusOf w.contracts s) (s.slice x) := by
  simp only [CountAgrees, vcDetails_eq hrun hs, activeVcCount_eq hrun hs, Option.some.injEq, exists_eq_left']
  unfold IdentityOracle.CountOk
  change _ ↔ ∀ count, s.activeVCCount x = some count →
    count = (IdentityOracle.activeOf (statusOf w.contracts s) (IdentityOracle.anchorsOf s x)).length
  cases s.activeVCCount x with
  | none => simp
  | some count => simp

/-- While the count is cached, the step patches it by the credentials it loses: the issuer's
record that gets its own flag is active, it is the only active record the linked registry
flags in the step, and a registry that is linked instead flags as many of the records. -/
def KeepsCount (a x : Address) (t : Move) : Prop :=
  ∀ s, t.before.contracts a = some (.identityOracle s) → (s.activeVCCount x).isSome = true →
    IdentityOracle.Counted (statusOf t.before.contracts s) (linkedRevocations s t.event) x (s.slice x)
      (identityCall t.before.contracts a t.event) ∧
    ∀ r, identityCall t.before.contracts a t.event = some (.setRevocationRegistry r) →
      (IdentityOracle.flaggedOf (registryStatus t.before.contracts r) (IdentityOracle.anchorsOf s x)).length =
      (IdentityOracle.flaggedOf (statusOf t.before.contracts s) (IdentityOracle.anchorsOf s x)).length

/-- Linking another registry. -/
theorem countOk_relinked (h : Step w e w') {r : Address} {count : ℕ}
    (hcall : identityCall w.contracts a e = some (.setRevocationRegistry r))
    (hok : IdentityOracle.CountOk (statusOf w.contracts s) (s.slice x))
    (hcached : s.activeVCCount x = some count) :
    IdentityOracle.CountOk (statusOf w'.contracts { s with revocationRegistryId := some r }) (s.slice x) ↔
      (IdentityOracle.flaggedOf (registryStatus w.contracts r) (IdentityOracle.anchorsOf s x)).length =
      (IdentityOracle.flaggedOf (statusOf w.contracts s) (IdentityOracle.anchorsOf s x)).length := by
  have hlength :
      count = (IdentityOracle.activeOf (statusOf w.contracts s) (IdentityOracle.anchorsOf s x)).length :=
    hok count hcached
  have hbefore := IdentityOracle.activeOf_length_add_flaggedOf_length (statusOf w.contracts s)
    (IdentityOracle.anchorsOf s x)
  have hafter := IdentityOracle.activeOf_length_add_flaggedOf_length (registryStatus w.contracts r)
    (IdentityOracle.anchorsOf s x)
  rw [statusOf_relinked h hcall]
  constructor
  · intro hkept
    have hlength' : count = (IdentityOracle.activeOf (registryStatus w.contracts r)
      (IdentityOracle.anchorsOf s x)).length := hkept count hcached
    omega
  · intro hsame cached hcached'
    obtain rfl := Option.some.inj (hcached.symm.trans hcached')
    change count = (IdentityOracle.activeOf (registryStatus w.contracts r) (IdentityOracle.anchorsOf s x)).length
    omega

/-- From agreement, a step keeps it exactly when it keeps the count. -/
theorem countAgrees_step (hrun : Run Step (.genesis ledger) history w) (h : Step w e w')
    (hs : w.contracts a = some (.identityOracle s)) (hagrees : CountAgrees w a x) :
    CountAgrees w' a x ↔ KeepsCount a x ⟨w, e, w'⟩ := by
  obtain ⟨s', hs', hchange⟩ := identity_step h hs
  rw [countAgrees_iff (hrun.snoc h) hs']
  have hok := (countAgrees_iff hrun hs).mp hagrees
  have hdistinct : IdentityOracle.Distinct (s.slice x).anchors := identity_distinct hrun hs x
  have hkeeps : KeepsCount a x ⟨w, e, w'⟩ ↔ ((s.activeVCCount x).isSome = true →
      IdentityOracle.Counted (statusOf w.contracts s) (linkedRevocations s e) x (s.slice x)
        (identityCall w.contracts a e) ∧
      ∀ r, identityCall w.contracts a e = some (.setRevocationRegistry r) →
        (IdentityOracle.flaggedOf (registryStatus w.contracts r) (IdentityOracle.anchorsOf s x)).length =
        (IdentityOracle.flaggedOf (statusOf w.contracts s) (IdentityOracle.anchorsOf s x)).length) := by
    simp only [KeepsCount, hs, Option.some.injEq, Contract.identityOracle.injEq, forall_eq']
  rw [hkeeps]
  cases hcached : s.activeVCCount x with
  | none =>
    refine iff_of_true ?_ (by simp)
    cases hchange with
    | idle =>
      intro count hcount
      cases hcached.symm.trans hcount
    | relinked =>
      intro count hcount
      cases hcached.symm.trans hcount
    | acted hcall hnotLink heffects =>
      rw [statusOf_congr heffects.link]
      exact (heffects.slice x).countOk_of_uncached hcached
  | some count =>
    simp only [Option.isSome_some, forall_const]
    cases hchange with
    | idle hcall =>
      rw [IdentityOracle.countOk_iff_unflagged (statusOf_step h s) hok hcached hcached rfl,
        hcall, IdentityOracle.counted_iff_of_ne fun _ _ hother => by cases hother]
      simp only [reduceCtorEq, false_implies, implies_true, and_true]
    | @relinked r _ hcall =>
      have hnone : linkedRevocations s e = [] := by
        rw [List.eq_nil_iff_forall_not_mem]
        intro vcHash hmem
        obtain ⟨_, _, hother⟩ := linkedRevocations_forwarded hcall hmem
        cases hother
      rw [hcall, IdentityOracle.counted_iff_of_ne (fun _ _ hother => by cases hother), hnone]
      refine (countOk_relinked h hcall hok hcached).trans ?_
      simp
    | @acted call _ hcall hnotLink heffects =>
      rw [statusOf_congr heffects.link, (heffects.slice x).countOk_iff (statusOf_step h s)
        (fun vcHash hmem => linkedRevocations_forwarded hcall hmem) hdistinct hok hcached, hcall]
      simp only [Option.some.injEq, hnotLink, false_implies, implies_true, and_true]

/-- In a run whose steps all keep the count, the two agree at the end. -/
theorem countAgrees_run (hrun : Run Step (.genesis ledger) history w)
    (hkeeps : ∀ t ∈ history, KeepsCount a x t)
    (hs : w.contracts a = some (.identityOracle s)) : CountAgrees w a x := by
  induction hrun generalizing s with
  | nil => cases hs
  | @snoc history w e w' hbefore h ih =>
    rcases identity_origin h hs with ⟨-, rfl⟩ | ⟨s₀, hs₀, -⟩
    · refine (countAgrees_iff (hbefore.snoc h) hs).mpr ?_
      intro count hcount
      cases hcount
    · have hagrees := ih (fun t ht => hkeeps t (List.mem_append_left _ ht)) hs₀
      exact (countAgrees_step hbefore h hs₀ hagrees).mpr
        (hkeeps _ (List.mem_append_right _ List.mem_cons_self))

/-! ## The count a score stores -/

/-- Each active credential is verified. -/
theorem verifyVc_active {busy : List Address} {env : Env} {record : IdentityVCRecord}
    (hmem : record ∈ IdentityOracle.activeOf (statusOf w.contracts s) (IdentityOracle.anchorsOf s x))
    {verified : Bool} (h : IdentityOracle.verifyVc (identityHost env busy) w.contracts s x record.vcHash =
      .ok verified) : verified = true := by
  have hanswer := Outcome.anyE_ok
    (q := fun other =>
      decide (other.vcHash = record.vcHash) && IdentityOracle.isActive (statusOf w.contracts s) other)
    (fun other _ b hb => by
      split at hb
      case isTrue hhash =>
        simp only [Outcome.bind_eq_ok, Except.ok.injEq] at hb
        obtain ⟨revoked, hrevoked, rfl⟩ := hb
        rw [IdentityOracle.isRecordRevoked_ok (sees_statusOf s) hrevoked]
        simp [hhash]
      case isFalse hhash =>
        cases hb
        simp [hhash]) h
  obtain ⟨hanchored, hactive⟩ := List.mem_filter.mp hmem
  rw [hanswer, List.any_eq_true]
  exact ⟨record, hanchored, by simp [hactive]⟩

/-- After `compute_score` for an identity that is not deactivated, the stored score counts the
credentials that `get_vc_details` lists. -/
theorem computeScore_vcCount (hrun : Run Step (.genesis ledger) history w) {now : Ledger}
    {signers : List Address} {k : CreditOracle.State}
    (h : Step w (.invoke now signers c (.creditOracle (.computeScore x))) w')
    (hk : w.contracts c = some (.creditOracle k)) (hlinked : k.identityOracleId = some a)
    (hdeactivated : w.isDeactivated a x = some false) :
    ∃ k' record records, w'.contracts c = some (.creditOracle k') ∧ k'.score x = some record ∧
      w'.vcDetails a x = some records ∧ record.vcCount = records.length := by
  obtain ⟨v, k', rfl, hcompute⟩ := computeScore_step h hk
  obtain ⟨-, s, hs, hanswer⟩ := onIdentity_eq_some.mp hdeactivated
  have hne : a ≠ c := by
    rintro rfl
    cases hs.symm.trans hk
  have hs' : w.contracts.set c (.creditOracle k') a = some (.identityOracle s) :=
    (Storage.set_of_ne _ _ hne).trans hs
  obtain ⟨-, -, repayment, -, hcases⟩ := CreditOracle.computeScore_spec hcompute
  -- the oracle answers for an identity that is not deactivated, so its credentials are counted
  have hcount {vcPoints vcCount : ℕ} (hresolved : CreditOracle.resolveVcPoints
      (creditHost (.signedBy now c signers) [c]) (.signedBy now c signers) w.contracts k x =
        .ok (some (vcPoints, vcCount))) :
      vcCount = (IdentityOracle.activeOf (statusOf w.contracts s) (IdentityOracle.anchorsOf s x)).length := by
    obtain ⟨deactivated, -, ⟨-, hother⟩ | ⟨-, records, acc, hrecords, hloop, hacc⟩⟩ :=
      CreditOracle.resolveVcPoints_linked hlinked hresolved
    · cases hother
    · obtain rfl := Option.some.inj hacc
      simp only [creditHost, onIdentity_eq_some, hs, Option.some.injEq, Contract.identityOracle.injEq,
        Outcome.toOption_eq_some] at hrecords
      obtain ⟨-, _, rfl, hrecords⟩ := hrecords
      obtain rfl := IdentityOracle.activeRecords_ok (sees_statusOf s) hrecords
      have hall := CreditOracle.linkedVcLoop_count (fun record hmem verified hverified => by
        simp only [creditHost, onIdentity_eq_some, hs, Option.some.injEq, Contract.identityOracle.injEq,
          Outcome.toOption_eq_some] at hverified
        obtain ⟨-, _, rfl, hverified⟩ := hverified
        exact verifyVc_active hmem hverified) hloop
      omega
  have hdetails : World.vcDetails { contracts := w.contracts.set c (.creditOracle k'), ledger := now } a x =
      some (IdentityOracle.activeOf (statusOf w.contracts s) (IdentityOracle.anchorsOf s x)) := by
    rw [vcDetails_eq (hrun.snoc h) hs',
      statusOf_eq h (linkedRevocations_eq_nil s fun _ hother => by cases hother)]
  rcases hcases with ⟨-, -, hnone⟩ | ⟨vcPoints, vcCount, weights, hresolved, -, -, hstored⟩
  · obtain ⟨deactivated, hreported, ⟨rfl, -⟩ | ⟨-, _, _, _, _, hother⟩⟩ :=
      CreditOracle.resolveVcPoints_linked hlinked hnone
    · simp only [creditHost, onIdentity_eq_some, hs, Option.some.injEq,
        Contract.identityOracle.injEq] at hreported
      obtain ⟨-, _, rfl, hreported⟩ := hreported
      cases (Option.some.inj hanswer).symm.trans hreported
    · cases hother
  · obtain rfl := hcount hresolved
    rcases CreditOracle.storeScore_spec hstored with ⟨rfl, prev, hprev, -, hsame, -⟩ | ⟨-, _, rfl⟩
    · exact ⟨k', prev, _, Storage.set_self _ _ _, hprev, hdetails, hsame⟩
    · exact ⟨_, _, _, Storage.set_self _ _ _, Storage.set_self _ _ _, hdetails, rfl⟩

/-! ## Main result -/

/-- In a run whose steps all keep the count, `get_active_vc_count` is the length of
`get_vc_details`, and the next step keeps the agreement exactly when it keeps the count. In
every run `compute_score` stores the length of `get_vc_details`. -/
theorem active_count_agreement (hrun : Run Step (.genesis ledger) history w) :
    ((∀ t ∈ history, KeepsCount a x t) → ∀ s, w.contracts a = some (.identityOracle s) →
      CountAgrees w a x ∧ ∀ e w', Step w e w' → (CountAgrees w' a x ↔ KeepsCount a x ⟨w, e, w'⟩)) ∧
    ∀ now signers c k w', Step w (.invoke now signers c (.creditOracle (.computeScore x))) w' →
      w.contracts c = some (.creditOracle k) → k.identityOracleId = some a →
      w.isDeactivated a x = some false →
      ∃ k' record records, w'.contracts c = some (.creditOracle k') ∧ k'.score x = some record ∧
        w'.vcDetails a x = some records ∧ record.vcCount = records.length := by
  refine ⟨?_, ?_⟩
  · intro hkeeps s hs
    have hagrees := countAgrees_run hrun hkeeps hs
    exact ⟨hagrees, fun e w' h => countAgrees_step hrun h hs hagrees⟩
  · intro now signers c k w' h hk hlinked hdeactivated
    exact computeScore_vcCount hrun h hk hlinked hdeactivated

/-- The cached count of a subject. -/
def World.cachedCount (w : World) (a x : Address) : Option ℕ :=
  onIdentity [] w.contracts a fun s => s.activeVCCount x

/-- Without a cached count there is nothing to keep. -/
theorem keepsCount_of_uncached {t : Move} (h : t.before.cachedCount a x = none) : KeepsCount a x t := by
  intro s hs hcached
  obtain ⟨count, hcount⟩ := Option.isSome_iff_exists.mp hcached
  have hsome : t.before.cachedCount a x = some count := onIdentity_eq_some.mpr ⟨by simp, s, hs, hcount⟩
  cases h.symm.trans hsome

/-- The issuer of the sample credential revokes its hash in the registry. -/
def sampleRevocation (ledger : Ledger) (call : RevocationRegistry.Call) : Event :=
  .invoke ledger [.account 2] (.contract 20) (.revocationRegistry call)

/-- `revoke` is forwarded to the identity oracle, so the count follows. -/
theorem active_count_agreement_revoke : ∃ w, w.cachedCount (.contract 21) (.account 3) = some 0 ∧
    CountAgrees w (.contract 21) (.account 3) := by
  let ledger : Ledger := .numbered 0
  let e := sampleRevocation ledger (.revoke (.account 2) (.account 3) 7)
  let record : IdentityVCRecord := { vcHash := 7, issuer := .account 2, anchoredAt := 0, revoked := false }
  obtain ⟨history, w, hrun, hobserved⟩ := Run.exists_of_replay
    (show (replay World.next (.genesis ledger) (sampleDeployment ledger)).map
      (fun r => (r.1.all fun t => (t.before.cachedCount (.contract 21) (.account 3)).isNone,
        onIdentity [] r.2.contracts (.contract 21) fun s =>
          some (IdentityOracle.anchorsOf s (.account 3), statusOf r.2.contracts s 7),
        identityCall r.2.contracts (.contract 21) e,
        (r.2.next e).bind fun w' => w'.cachedCount (.contract 21) (.account 3))) =
      some (true, some ([record], false), some (.markVcRevoked (.account 2) (.account 3) 7), some 0) from rfl)
  simp only [Prod.mk.injEq] at hobserved
  obtain ⟨huncached, hslice, hcall, hafter⟩ := hobserved
  obtain ⟨w', hstep, hafter⟩ := Option.bind_eq_some_iff.mp hafter
  have hlast : KeepsCount (.contract 21) (.account 3) ⟨w, e, w'⟩ := by
    intro s hs _
    obtain ⟨-, _, hs', hanchors⟩ := onIdentity_eq_some.mp hslice
    cases hs.symm.trans hs'
    obtain ⟨hanchors, hstatus⟩ := Prod.mk.inj (Option.some.inj hanchors)
    refine ⟨⟨?_, ?_⟩, ?_⟩
    · intro issuer vcHash hmark _
      cases hcall.symm.trans hmark
      exact hstatus
    · intro other hmem _
      have hmem' : other ∈ IdentityOracle.anchorsOf s (.account 3) := (List.mem_filter.mp hmem).1
      rw [hanchors, List.mem_singleton] at hmem'
      rw [hmem']
      exact hcall
    · intro r hlink
      cases hcall.symm.trans hlink
  obtain ⟨-, s', hs', -⟩ := onIdentity_eq_some.mp hafter
  refine ⟨w', hafter, ((active_count_agreement (hrun.snoc hstep)).1 ?_ s' hs').1⟩
  refine List.forall_mem_append.mpr ⟨fun t ht => ?_, List.forall_mem_singleton.mpr hlast⟩
  have hnone := List.all_eq_true.mp huncached t ht
  exact keepsCount_of_uncached (Option.isNone_iff_eq_none.mp hnone)

/-- `batch_revoke` is not forwarded, so the count stays when the credential is gone. -/
theorem not_countAgrees_batchRevoke : ∃ ledger history w a x s, Run Step (.genesis ledger) history w ∧
    w.contracts a = some (.identityOracle s) ∧ s.revocationRegistryId.isSome = true ∧ ¬CountAgrees w a x := by
  let ledger : Ledger := .numbered 0
  let e := sampleRevocation ledger (.batchRevoke (.account 2) [7])
  obtain ⟨history, w, hrun, hobserved⟩ := Run.exists_of_replay
    (show (replay World.next (.genesis ledger) (sampleDeployment ledger ++ [e])).map
      (fun r => (onIdentity [] r.2.contracts (.contract 21) fun s => some s.revocationRegistryId.isSome,
        (r.2.vcDetails (.contract 21) (.account 3)).map List.length,
        r.2.activeVcCount (.contract 21) (.account 3))) = some (some true, some 0, some 1) from rfl)
  obtain ⟨hlinked, hcounts⟩ := Prod.mk.inj hobserved
  obtain ⟨hdetails, hcount⟩ := Prod.mk.inj hcounts
  obtain ⟨-, s, hs, hsome⟩ := onIdentity_eq_some.mp hlinked
  refine ⟨ledger, history, w, .contract 21, .account 3, s, hrun, hs, Option.some.inj hsome, ?_⟩
  rintro ⟨records, hrecords, hlength⟩
  rw [hrecords, Option.map_some, Option.some.injEq] at hdetails
  rw [hcount, Option.some.injEq] at hlength
  omega

end StellarDidCredit.Network
