import StellarDidCredit.Lib.Run
import StellarDidCredit.IdentityOracle.Subjects

/-!
# What an identity-oracle call writes

One constructor for each way in which a call succeeds, with everything that it checks and the
exact state that it leaves; the cached counts aside, of which only the subject is kept.
-/

namespace StellarDidCredit.IdentityOracle

variable {κ : Type} {host : Host κ} {env : Env} {call : Call} {s s' : State} {world world' : κ}
  {x issuer : Address} {vcHash : BytesN 32}

/-- The documents after a deactivation: only one of the two deletes the subject's. -/
def Call.documentsAfter (call : Call) (documents : Storage Address HostString) : Storage Address HostString :=
  match call with
  | .deactivateDid subject => documents.remove subject
  | _ => documents

/-- What a successful call checks and writes. -/
inductive Writes (env : Env) (s : State) : Call → State → Prop
  | initialized {admin : Address} (hadmin : s.admin = none) (hauth : env.Authorized admin) :
      Writes env s (.initializeContract admin) { s with admin := some admin, storageVersion := some 2 }
  | paused {admin : Address} (hadmin : s.admin = some admin) (hauth : env.Authorized admin) :
      Writes env s .pause { s with paused := some true }
  | unpaused {admin : Address} (hadmin : s.admin = some admin) (hauth : env.Authorized admin) :
      Writes env s .unpause { s with paused := some false }
  | migrated {admin : Address} {storageVersion : Option ℕ} (hadmin : s.admin = some admin)
      (hauth : env.Authorized admin) : Writes env s .migrate { s with storageVersion }
  | registryLinked {registryId admin : Address} (hpaused : s.paused.getD false = false)
      (hadmin : s.admin = some admin) (hauth : env.Authorized admin) :
      Writes env s (.setRevocationRegistry registryId) { s with revocationRegistryId := some registryId }
  | issuerKept {issuer admin : Address} (hadmin : s.admin = some admin) (hauth : env.Authorized admin)
      (htrusted : isTrustedIssuer s issuer = true) :
      Writes env s (.registerIssuer issuer) { s with trustedIssuer := s.trustedIssuer.set issuer true }
  | issuerListed {issuer admin : Address} (hadmin : s.admin = some admin) (hauth : env.Authorized admin)
      (htrusted : isTrustedIssuer s issuer = false) :
      Writes env s (.registerIssuer issuer) { s with
        issuersIndex := some (s.issuersIndex.getD [] ++ [issuer])
        trustedIssuer := s.trustedIssuer.set issuer true }
  | issuerDeregistered {issuer admin : Address} (hadmin : s.admin = some admin)
      (hauth : env.Authorized admin) :
      Writes env s (.deregisterIssuer issuer) { s with
        trustedIssuer := s.trustedIssuer.set issuer false
        issuersIndex := some (listIssuers { s with trustedIssuer := s.trustedIssuer.set issuer false }) }
  | issuerTierSet {admin issuer : Address} {weightBps : ℕ} (hpaused : s.paused.getD false = false)
      (hadmin : s.admin = some admin) (hauth : env.Authorized admin)
      (hweight : weightBps ≠ 0 ∧ weightBps ≤ maxIssuerTierBps) :
      Writes env s (.setIssuerTier admin issuer weightBps)
        { s with issuerTier := s.issuerTier.set issuer weightBps }
  | adminProposed {newAdmin admin : Address} (hpaused : s.paused.getD false = false)
      (hadmin : s.admin = some admin) (hauth : env.Authorized admin) :
      Writes env s (.proposeNewAdmin newAdmin) { s with pendingAdmin := some newAdmin }
  | adminAccepted {newAdmin : Address} (hpaused : s.paused.getD false = false)
      (hpending : s.pendingAdmin = some newAdmin) (hauth : env.Authorized newAdmin) :
      Writes env s (.acceptAdmin newAdmin) { s with admin := some newAdmin, pendingAdmin := none }
  | maintained {admin : Address} (hpaused : s.paused.getD false = false)
      (hadmin : s.admin = some admin) (hauth : env.Authorized admin) : Writes env s .maintainStorage s
  | didAnchored {subject : Address} {didDocCid : HostString} (hpaused : s.paused.getD false = false)
      (hauth : env.Authorized subject) :
      Writes env s (.anchorDid subject didDocCid) { s with
        didDocument := s.didDocument.set subject didDocCid
        lastStateChange := s.lastStateChange.set subject env.ledger.sequence
        protocolStats := { s.protocolStats with
          totalDidsAnchored := s.protocolStats.totalDidsAnchored + 1 } }
  | vcKept {call : Call} {issuer subject : Address} {vcHash : BytesN 32}
      (hcall : call.anchoring = some (issuer, subject, vcHash)) (hpaused : s.paused.getD false = false)
      (hauth : env.Authorized issuer) (htrusted : isTrustedIssuer s issuer = true) :
      Writes env s call s
  | vcAnchored {call : Call} {issuer subject : Address} {vcHash : BytesN 32}
      {credentialType : CredentialType} {activeCount : ℕ}
      (hcall : call.anchoring = some (issuer, subject, vcHash)) (hpaused : s.paused.getD false = false)
      (hauth : env.Authorized issuer) (htrusted : isTrustedIssuer s issuer = true)
      (hnew : ∀ record ∈ anchorsOf s subject, ¬IsAnchor issuer vcHash record)
      (hroom : s.protocolStats.totalVcsAnchored + 1 ≤ U64.max) :
      Writes env s call { s with
        vcCredentialType := s.vcCredentialType.set (subject, vcHash) credentialType
        vcAnchors := s.vcAnchors.set subject (anchorsOf s subject ++ [anchorRecord env issuer vcHash])
        lastStateChange := s.lastStateChange.set subject env.ledger.sequence
        activeVCCount := s.activeVCCount.set subject activeCount
        protocolStats := { s.protocolStats with
          totalVcsAnchored := s.protocolStats.totalVcsAnchored + 1 } }
  | vcRevoked {issuer subject : Address} {vcHash : BytesN 32} {activeCount : ℕ}
      (hpaused : s.paused.getD false = false) (hauth : env.Authorized issuer)
      (htransition : ∃ record ∈ anchorsOf s subject, IsAnchor issuer vcHash record ∧ record.revoked = false) :
      Writes env s (.markVcRevoked issuer subject vcHash) { s with
        vcAnchors := s.vcAnchors.set subject (markRecords issuer vcHash (anchorsOf s subject))
        lastStateChange := s.lastStateChange.set subject env.ledger.sequence
        activeVCCount := s.activeVCCount.set subject activeCount
        protocolStats := { s.protocolStats with
          totalVcsRevoked := s.protocolStats.totalVcsRevoked + 1 } }
  | vcRemarked {issuer subject : Address} {vcHash : BytesN 32} {activeVCCount : Storage Address ℕ}
      (hpaused : s.paused.getD false = false) (hauth : env.Authorized issuer)
      (hmarked : ∀ record ∈ anchorsOf s subject, IsAnchor issuer vcHash record → record.revoked = true) :
      Writes env s (.markVcRevoked issuer subject vcHash) { s with activeVCCount }
  | deactivated {call : Call} {subject : Address} (hcall : call.deactivation = some subject)
      (hauth : env.Authorized subject) :
      Writes env s call { s with
        deactivated := s.deactivated.set subject true
        vcAnchors := (revokeAllRecords subject s).vcAnchors
        didDocument := call.documentsAfter s.didDocument
        activeVCCount := s.activeVCCount.set subject 0
        lastStateChange := s.lastStateChange.set subject env.ledger.sequence
        protocolStats := { s.protocolStats with
          totalVcsRevoked := s.protocolStats.totalVcsRevoked +
            (anchorsOf s subject).countP fun record => !record.revoked } }
  | reactivated {subject : Address} (hauth : env.Authorized subject) :
      Writes env s (.reactivateIdentity subject) { s with
        deactivated := s.deactivated.remove subject
        lastStateChange := s.lastStateChange.set subject env.ledger.sequence }
  | counted {subject : Address} {count : ℕ} :
      Writes env s (.getActiveVcCount subject)
        { s with activeVCCount := s.activeVCCount.set subject count }

/-! ## The records of one subject -/

/-- The subject has these records now, and the others have theirs as before. -/
structure RecordsWritten (s s' : State) (x : Address) (records : List IdentityVCRecord) : Prop where
  self : anchorsOf s' x = records
  others : ∀ y, y ≠ x → anchorsOf s' y = anchorsOf s y

/-- Writing one list writes the records of one subject. -/
theorem recordsWritten_of_set {records : List IdentityVCRecord}
    (h : s'.vcAnchors = s.vcAnchors.set x records) : RecordsWritten s s' x records := by
  constructor
  · rw [anchorsOf, h, Storage.set_self, Option.getD_some]
  · intro y hy
    rw [anchorsOf, h, Storage.set_of_ne _ _ hy, anchorsOf]

/-- So does a deactivation. -/
theorem recordsWritten_of_sweep (h : s'.vcAnchors = (revokeAllRecords x s).vcAnchors) :
    RecordsWritten s s' x ((anchorsOf s x).map markRecord) := by
  obtain ⟨vcAnchors, hswept, hothers, hmarked⟩ := revokeAllRecords_spec x s
  have hanchors : s'.vcAnchors = vcAnchors := by rw [h, hswept]
  constructor
  · rw [anchorsOf, hanchors, hmarked]
  · intro y hy
    rw [anchorsOf, hanchors, hothers y hy, anchorsOf]

/-- The counter of revocations goes up by the count. -/
theorem incrementVcsRevoked_ok {count : ℕ} (h : incrementVcsRevoked count s = .ok s') :
    s' = { s with protocolStats := { s.protocolStats with
      totalVcsRevoked := s.protocolStats.totalVcsRevoked + count } } := by
  simp only [incrementVcsRevoked, Outcome.bind_eq_ok, Outcome.okOr_eq_ok, U64.checkedAdd_eq_some,
    Except.ok.injEq] at h
  obtain ⟨total, ⟨-, rfl⟩, rfl⟩ := h
  rfl

/-- So it does in a deactivation. -/
theorem countRevocations_ok {count : ℕ} (h : countRevocations count s = .ok s') :
    s' = { s with protocolStats := { s.protocolStats with
      totalVcsRevoked := s.protocolStats.totalVcsRevoked + count } } := by
  unfold countRevocations at h
  split at h
  case isTrue => exact incrementVcsRevoked_ok h
  case isFalse hnone =>
    obtain rfl := Nat.eq_zero_of_not_pos hnone
    exact (Except.ok.inj h).symm

/-! ## The three entry points over lists -/

/-- For every host there are flags that it reports. -/
theorem exists_sees (host : Host κ) (world : κ) (s : State) : ∃ status, Sees host world s status := by
  cases hlink : s.revocationRegistryId with
  | none =>
    refine ⟨fun _ => false, ?_, fun _ _ => rfl⟩
    intro registryId hlinked
    cases hlink.symm.trans hlinked
  | some r =>
    refine ⟨fun vcHash => (host.isRevoked world r vcHash).getD false, ?_, ?_⟩
    · intro registryId hlinked vcHash value hanswer
      obtain rfl := Option.some.inj (hlink.symm.trans hlinked)
      rw [hanswer, Option.getD_some]
    · intro hunlinked
      cases hlink.symm.trans hunlinked

/-- A subject with a record has an entry. -/
theorem vcAnchors_eq_some {record : IdentityVCRecord} (hmem : record ∈ anchorsOf s x) :
    s.vcAnchors x = some (anchorsOf s x) := by
  unfold anchorsOf at hmem ⊢
  cases hentry : s.vcAnchors x with
  | none =>
    rw [hentry] at hmem
    cases hmem
  | some records => rfl

/-- What an anchoring writes. -/
theorem anchorVcTyped_writes {credentialType : CredentialType}
    (h : anchorVcTyped host env issuer x vcHash credentialType s world = .ok s')
    (hcall : call.anchoring = some (issuer, x, vcHash)) : Writes env s call s' := by
  obtain ⟨status, hsees⟩ := exists_sees host world s
  simp only [anchorVcTyped, Outcome.bind_eq_ok, ensureNotPaused_eq_ok, requireAuth_eq_ok,
    Outcome.require_eq_ok] at h
  obtain ⟨_, hpaused, _, hauth, _, htrusted, h⟩ := h
  split at h
  case isTrue =>
    obtain rfl := Except.ok.inj h
    exact .vcKept hcall hpaused hauth htrusted
  case isFalse hnew =>
    simp only [Outcome.bind_eq_ok] at h
    obtain ⟨active, -, _, -, revoked, -, counted, hcount, hstats⟩ := h
    obtain rfl := addActiveVcCount_spec (by exact hsees.congr rfl) hcount
    obtain ⟨hroom, rfl⟩ := incrementVcsAnchored_eq_ok.mp hstats
    refine .vcAnchored hcall hpaused hauth htrusted ?_ hroom
    intro record hmem hanchor
    exact hnew (List.any_eq_true.mpr ⟨record, hmem, decide_eq_true hanchor⟩)

/-- What a mark writes. -/
theorem markVcRevoked_writes (h : markVcRevoked host env issuer x vcHash s world = .ok s') :
    Writes env s (.markVcRevoked issuer x vcHash) s' := by
  obtain ⟨status, hsees⟩ := exists_sees host world s
  simp only [markVcRevoked, Outcome.bind_eq_ok, ensureNotPaused_eq_ok, requireAuth_eq_ok,
    Outcome.require_eq_ok] at h
  obtain ⟨_, hpaused, _, hauth, _, hfound, h⟩ := h
  split at h
  case isTrue htransition =>
    simp only [Outcome.bind_eq_ok] at h
    obtain ⟨counted, hstats, hcount⟩ := h
    obtain rfl := incrementVcsRevoked_ok hstats
    obtain ⟨-, rfl⟩ := dropActiveVcCount_spec (by exact hsees.congr rfl) hcount
    obtain ⟨record, hmem, hrecord⟩ := List.any_eq_true.mp htransition
    exact .vcRevoked hpaused hauth ⟨record, hmem, of_decide_eq_true hrecord⟩
  case isFalse htransition =>
    have hmarked : ∀ record ∈ anchorsOf s x, IsAnchor issuer vcHash record → record.revoked = true := by
      intro record hmem hanchor
      by_contra hactive
      refine htransition (List.any_eq_true.mpr ⟨record, hmem, ?_⟩)
      exact decide_eq_true ⟨hanchor, Bool.eq_false_of_not_eq_true hactive⟩
    obtain ⟨record, hmem, -⟩ := List.any_eq_true.mp hfound
    -- the list that is written back is the one that was there
    rw [markRecords_eq_self hmarked, Storage.set_eq_self (vcAnchors_eq_some hmem)] at h
    split at h
    case isTrue =>
      simp only [Outcome.bind_eq_ok, Except.ok.injEq] at h
      obtain ⟨⟨count, _⟩, hseed, rfl⟩ := h
      obtain ⟨-, rfl⟩ := seedActiveVcCount_spec hsees hseed
      exact .vcRemarked hpaused hauth hmarked
    case isFalse =>
      obtain rfl := Except.ok.inj h
      exact .vcRemarked hpaused hauth hmarked

/-- The core of both deactivations. -/
theorem deactivateCore_ok {revokedCount : ℕ} (h : deactivateCore env x s = .ok (revokedCount, s')) :
    revokedCount = ((anchorsOf s x).countP fun record => !record.revoked) ∧ s' = { s with
      deactivated := s.deactivated.set x true
      vcAnchors := (revokeAllRecords x s).vcAnchors
      activeVCCount := s.activeVCCount.set x 0
      lastStateChange := s.lastStateChange.set x env.ledger.sequence
      protocolStats := { s.protocolStats with
        totalVcsRevoked := s.protocolStats.totalVcsRevoked + revokedCount } } := by
  simp only [deactivateCore, Outcome.bind_eq_ok, Except.ok.injEq, Prod.mk.injEq] at h
  obtain ⟨counted, hcounted, rfl, rfl⟩ := h
  have hswept : revokeAllRecords x { s with deactivated := s.deactivated.set x true } =
      { s with deactivated := s.deactivated.set x true, vcAnchors := (revokeAllRecords x s).vcAnchors } := by
    have hsame : anchorsOf { s with deactivated := s.deactivated.set x true } x = anchorsOf s x := rfl
    simp only [revokeAllRecords, hsame]
    split <;> rfl
  rw [hswept] at hcounted
  obtain rfl := countRevocations_ok hcounted
  exact ⟨rfl, rfl⟩

/-! ## One call -/

/-- A successful administrative call. -/
theorem exec_writes_administers (hcall : call.administers = true)
    (h : exec host env call s world = .ok (s', world')) : Writes env s call s' := by
  cases call <;> simp only [exec, alone_eq_ok] at h
  case initializeContract admin =>
    simp only [initializeContract, Outcome.bind_eq_ok, Outcome.require_eq_ok, requireAuth_eq_ok,
      Except.ok.injEq] at h
    obtain ⟨⟨_, hadmin, _, hauth, rfl⟩, -⟩ := h
    exact .initialized hadmin hauth
  case pause =>
    simp only [pause, setPaused, Outcome.bind_eq_ok, requireAdmin_eq_ok, Except.ok.injEq] at h
    obtain ⟨⟨_, ⟨hadmin, hauth⟩, rfl⟩, -⟩ := h
    exact .paused hadmin hauth
  case unpause =>
    simp only [unpause, setPaused, Outcome.bind_eq_ok, requireAdmin_eq_ok, Except.ok.injEq] at h
    obtain ⟨⟨_, ⟨hadmin, hauth⟩, rfl⟩, -⟩ := h
    exact .unpaused hadmin hauth
  case migrate =>
    simp only [migrate, Outcome.bind_eq_ok, requireAdmin_eq_ok] at h
    obtain ⟨⟨_, ⟨hadmin, hauth⟩, h⟩, -⟩ := h
    split at h
    · cases h
      exact .migrated hadmin hauth
    · cases h
      exact .migrated hadmin hauth
  case registerIssuer issuer =>
    simp only [registerIssuer, Outcome.bind_eq_ok, requireAdmin_eq_ok, Except.ok.injEq] at h
    obtain ⟨⟨_, ⟨hadmin, hauth⟩, rfl⟩, -⟩ := h
    cases htrusted : isTrustedIssuer s issuer with
    | true => exact .issuerKept hadmin hauth htrusted
    | false => exact .issuerListed hadmin hauth htrusted
  case deregisterIssuer issuer =>
    simp only [deregisterIssuer, Outcome.bind_eq_ok, requireAdmin_eq_ok, Except.ok.injEq] at h
    obtain ⟨⟨_, ⟨hadmin, hauth⟩, rfl⟩, -⟩ := h
    exact .issuerDeregistered hadmin hauth
  case setIssuerTier admin issuer weightBps =>
    simp only [setIssuerTier, Outcome.bind_eq_ok, ensureNotPaused_eq_ok, requireAdmin_eq_ok,
      Outcome.require_eq_ok, Except.ok.injEq] at h
    obtain ⟨⟨_, hpaused, _, ⟨hadmin, hauth⟩, _, rfl, _, hweight, rfl⟩, -⟩ := h
    exact .issuerTierSet hpaused hadmin hauth hweight
  case proposeNewAdmin newAdmin =>
    simp only [proposeNewAdmin, Outcome.bind_eq_ok, ensureNotPaused_eq_ok, requireAdmin_eq_ok,
      Except.ok.injEq] at h
    obtain ⟨⟨_, hpaused, _, ⟨hadmin, hauth⟩, rfl⟩, -⟩ := h
    exact .adminProposed hpaused hadmin hauth
  case acceptAdmin newAdmin =>
    simp only [acceptAdmin, Outcome.bind_eq_ok, ensureNotPaused_eq_ok, Outcome.okOr_eq_ok,
      Outcome.require_eq_ok, requireAuth_eq_ok, Except.ok.injEq] at h
    obtain ⟨⟨_, hpaused, _, hpending, _, rfl, _, hauth, rfl⟩, -⟩ := h
    exact .adminAccepted hpaused hpending hauth
  case maintainStorage =>
    simp only [maintainStorage, Outcome.bind_eq_ok, ensureNotPaused_eq_ok, requireAdmin_eq_ok,
      Except.ok.injEq] at h
    obtain ⟨⟨_, hpaused, _, ⟨hadmin, hauth⟩, rfl⟩, -⟩ := h
    exact .maintained hpaused hadmin hauth
  all_goals cases hcall

/-- Every successful call is one of these. -/
theorem exec_writes (h : exec host env call s world = .ok (s', world')) : Writes env s call s' := by
  by_cases hadministers : call.administers = true
  · exact exec_writes_administers hadministers h
  cases call <;> simp only [exec, alone_eq_ok, Outcome.map_snd_eq_ok] at h
  case setRevocationRegistry registryId =>
    simp only [setRevocationRegistry, Outcome.bind_eq_ok, ensureNotPaused_eq_ok, requireAdmin_eq_ok,
      Except.ok.injEq, Prod.mk.injEq] at h
    obtain ⟨_, hpaused, _, ⟨hadmin, hauth⟩, _, -, _, -, rfl, -⟩ := h
    exact .registryLinked hpaused hadmin hauth
  case anchorDid subject didDocCid =>
    simp only [anchorDid, incrementDidsAnchored, Outcome.bind_eq_ok, ensureNotPaused_eq_ok,
      requireAuth_eq_ok, Outcome.okOr_eq_ok, U64.checkedAdd_eq_some, Except.ok.injEq] at h
    obtain ⟨⟨_, hpaused, _, hauth, _, _, _, _, _, ⟨-, rfl⟩, rfl⟩, -⟩ := h
    exact .didAnchored hpaused hauth
  case anchorVc issuer subject vcHash => exact anchorVcTyped_writes h.1 rfl
  case anchorVcTyped issuer subject vcHash credentialType => exact anchorVcTyped_writes h.1 rfl
  case markVcRevoked issuer subject vcHash => exact markVcRevoked_writes h.1
  case deactivateDid subject =>
    obtain ⟨hauth, revokedCount, deactivated, hcore, rfl⟩ := deactivateDid_spec h.1
    obtain ⟨rfl, rfl⟩ := deactivateCore_ok hcore
    exact .deactivated rfl hauth
  case deactivateIdentity subject =>
    obtain ⟨⟨revokedCount, h⟩, -⟩ := h
    obtain ⟨hauth, hcore⟩ := deactivateIdentity_spec h
    obtain ⟨rfl, rfl⟩ := deactivateCore_ok hcore
    exact .deactivated rfl hauth
  case reactivateIdentity subject =>
    obtain ⟨hauth, rfl⟩ := reactivateIdentity_spec h.1
    exact .reactivated hauth
  case getActiveVcCount subject =>
    obtain ⟨⟨count, h⟩, -⟩ := h
    obtain ⟨status, hsees⟩ := exists_sees host world s
    obtain ⟨-, rfl⟩ := getActiveVcCount_spec hsees h
    exact .counted
  all_goals exact absurd rfl hadministers

/-! ## Runs -/

/-- A call, with the linked registry's answers to the calls it makes. -/
structure Event where
  env : Env
  call : Call
  host : Host Unit

/-- A successful call. A failed one is rolled back. -/
def next (s : State) (e : Event) : Option State := (exec e.host e.env e.call s ()).toOption.map (·.1)

/-- One step of a history of the contract. -/
abbrev Move := Transition State Event

/-- The successful call behind a step. -/
theorem exec_of_next {e : Event} (h : StepOf next s e s') :
    exec e.host e.env e.call s () = .ok (s', ()) := by
  simp only [StepOf, next, Option.map_eq_some_iff, Outcome.toOption_eq_some] at h
  obtain ⟨⟨after, _⟩, hexec, rfl⟩ := h
  exact hexec

/-- What the successful call behind a step writes. -/
theorem writes_of_next {e : Event} (h : StepOf next s e s') : Writes e.env s e.call s' :=
  exec_writes (exec_of_next h)

end StellarDidCredit.IdentityOracle
