import StellarDidCredit.IdentityOracle.Model

/-!
# What an identity-oracle call can do

Reads of the linked registry are summarised by the flags it can report, so that the active
records of a subject are an ordinary filter. The entry points are inverted here, once, and
their effect on one subject is collected in one relation: its records, the cached count, the
deactivation flag and the ledger of the last change.
-/

namespace StellarDidCredit.IdentityOracle

variable {κ : Type} {host : Host κ} {env : Env} {call : Call} {s s' : State} {world world' : κ}
  {status : BytesN 32 → Bool}

/-- The contract is not paused. -/
@[simp] theorem ensureNotPaused_eq_ok {u : Unit} :
    ensureNotPaused s = .ok u ↔ s.paused.getD false = false :=
  Outcome.require_eq_ok

/-- The returned address is the stored admin, which has authorised the call. -/
@[simp] theorem requireAdmin_eq_ok {admin : Address} :
    requireAdmin env s = .ok admin ↔ s.admin = some admin ∧ env.Authorized admin := by
  simp only [requireAdmin, Outcome.bind_eq_ok, Outcome.okOr_eq_ok, requireAuth_eq_ok, Except.ok.injEq]
  constructor
  · rintro ⟨_, hadmin, _, hauth, rfl⟩
    exact ⟨hadmin, hauth⟩
  · rintro ⟨hadmin, hauth⟩
    exact ⟨admin, hadmin, (), hauth, rfl⟩

/-- A call that stays inside the contract leaves the rest of the ledger alone. -/
@[simp] theorem alone_eq_ok {result : Outcome Error State} :
    alone result world = .ok (s', world') ↔ result = .ok s' ∧ world' = world :=
  Outcome.bind_pair_eq_ok

/-! ## Active records -/

/-- The flags the linked registry can report; without one, no hash is revoked. -/
structure Sees (host : Host κ) (world : κ) (s : State) (status : BytesN 32 → Bool) : Prop where
  linked : ∀ registryId, s.revocationRegistryId = some registryId →
    ∀ vcHash value, host.isRevoked world registryId vcHash = some value → value = status vcHash
  unlinked : s.revocationRegistryId = none → ∀ vcHash, status vcHash = false

/-- What is seen depends on the linked registry only. -/
theorem Sees.congr (h : Sees host world s status)
    (hlink : s'.revocationRegistryId = s.revocationRegistryId) : Sees host world s' status :=
  ⟨fun registryId hlinked => h.linked registryId (hlink ▸ hlinked),
    fun hunlinked => h.unlinked (hlink ▸ hunlinked)⟩

/-- A record is active when neither flag is set. -/
def isActive (status : BytesN 32 → Bool) (record : IdentityVCRecord) : Bool :=
  !record.revoked && !status record.vcHash

/-- The active records, in order. -/
def activeOf (status : BytesN 32 → Bool) (records : List IdentityVCRecord) : List IdentityVCRecord :=
  records.filter (isActive status)

/-- The effective status of one record. -/
theorem isRecordRevoked_ok (hsees : Sees host world s status) {record : IdentityVCRecord} {b : Bool}
    (h : isRecordRevoked host world s record = .ok b) : b = !isActive status record := by
  unfold isRecordRevoked at h
  unfold isActive
  split at h
  case isTrue hrevoked =>
    obtain rfl := Except.ok.inj h
    simp [hrevoked]
  case isFalse hrevoked =>
    split at h
    case h_1 registryId hlinked =>
      rw [Outcome.okOr_eq_ok] at h
      rw [hsees.linked registryId hlinked _ _ h]
      simp [hrevoked]
    case h_2 hunlinked =>
      obtain rfl := Except.ok.inj h
      simp [hrevoked, hsees.unlinked hunlinked]

/-- The loop over a subject's records keeps the active ones. -/
theorem activeRecords_ok (hsees : Sees host world s status) {records active : List IdentityVCRecord}
    (h : activeRecords host world s records = .ok active) : active = activeOf status records := by
  refine Outcome.filterE_ok (fun record _ keep hkeep => ?_) h
  simp only [Outcome.bind_eq_ok, Except.ok.injEq] at hkeep
  obtain ⟨revoked, hrevoked, rfl⟩ := hkeep
  rw [isRecordRevoked_ok hsees hrevoked, Bool.not_not]

/-- The cached count of a freshly seeded subject is its number of active records. -/
theorem seedActiveVcCount_spec (hsees : Sees host world s status) {subject : Address} {count : ℕ}
    (h : seedActiveVcCount host world subject s = .ok (count, s')) :
    count = (activeOf status (anchorsOf s subject)).length ∧
      s' = { s with activeVCCount := s.activeVCCount.set subject count } := by
  simp only [seedActiveVcCount, computeActiveVcCount, Outcome.bind_eq_ok, Except.ok.injEq,
    Prod.mk.injEq] at h
  obtain ⟨_, ⟨active, hactive, rfl⟩, rfl, rfl⟩ := h
  exact ⟨by rw [activeRecords_ok hsees hactive], rfl⟩

/-- The count after a record was appended: one more unless it is revoked already. -/
def countAfterAnchor (status : BytesN 32 → Bool) (anchors : List IdentityVCRecord) (revoked : Bool) :
    Option ℕ → ℕ
  | some count => if revoked then count else count + 1
  | none => (activeOf status anchors).length

/-- The count after a record was revoked: one less. -/
def countAfterRevoke (status : BytesN 32 → Bool) (anchors : List IdentityVCRecord) : Option ℕ → ℕ
  | some count => count - 1
  | none => (activeOf status anchors).length

/-- The count is patched, or computed when it was never cached. -/
theorem addActiveVcCount_spec (hsees : Sees host world s status) {subject : Address} {revoked : Bool}
    (h : addActiveVcCount host world subject revoked s = .ok s') :
    s' = { s with
      activeVCCount := s.activeVCCount.set subject
        (countAfterAnchor status (anchorsOf s subject) revoked (s.activeVCCount subject)) } := by
  unfold addActiveVcCount at h
  split at h
  case h_1 count hcount =>
    rw [hcount]
    cases revoked with
    | true =>
      obtain rfl := Except.ok.inj h
      rfl
    | false =>
      simp only [Bool.false_eq_true, if_false, Outcome.bind_eq_ok, Outcome.okOr_eq_ok,
        U32.checkedAdd_eq_some, Except.ok.injEq] at h
      obtain ⟨_, ⟨_, rfl⟩, rfl⟩ := h
      rfl
  case h_2 hnone =>
    simp only [Outcome.bind_eq_ok, Except.ok.injEq] at h
    obtain ⟨⟨count, _⟩, hseed, rfl⟩ := h
    obtain ⟨rfl, rfl⟩ := seedActiveVcCount_spec hsees hseed
    rw [hnone]
    rfl

/-- Taking one from a cached count must be possible. -/
theorem dropActiveVcCount_spec (hsees : Sees host world s status) {subject : Address}
    (h : dropActiveVcCount host world subject s = .ok s') :
    (∀ count, s.activeVCCount subject = some count → 1 ≤ count) ∧
      s' = { s with
        activeVCCount := s.activeVCCount.set subject
          (countAfterRevoke status (anchorsOf s subject) (s.activeVCCount subject)) } := by
  unfold dropActiveVcCount at h
  split at h
  case h_1 count hcount =>
    simp only [Outcome.bind_eq_ok, Outcome.okOr_eq_ok, U32.checkedSub_eq_some, Except.ok.injEq] at h
    obtain ⟨_, ⟨hpositive, rfl⟩, rfl⟩ := h
    rw [hcount]
    refine ⟨?_, rfl⟩
    rintro _ ⟨⟩
    exact hpositive
  case h_2 hnone =>
    simp only [Outcome.bind_eq_ok, Except.ok.injEq] at h
    obtain ⟨⟨count, _⟩, hseed, rfl⟩ := h
    obtain ⟨rfl, rfl⟩ := seedActiveVcCount_spec hsees hseed
    rw [hnone]
    exact ⟨by simp, rfl⟩

/-! ## The entry points, one by one -/

/-- Counting a document touches the counters only. -/
theorem incrementDidsAnchored_spec (h : incrementDidsAnchored s = .ok s') :
    ∃ protocolStats, s' = { s with protocolStats } := by
  simp only [incrementDidsAnchored, Outcome.bind_eq_ok, Except.ok.injEq] at h
  obtain ⟨_, _, rfl⟩ := h
  exact ⟨_, rfl⟩

/-- A record is counted while there is room. -/
theorem incrementVcsAnchored_eq_ok : incrementVcsAnchored s = .ok s' ↔
    s.protocolStats.totalVcsAnchored + 1 ≤ U64.max ∧ s' = { s with
      protocolStats := { s.protocolStats with totalVcsAnchored := s.protocolStats.totalVcsAnchored + 1 } } := by
  simp only [incrementVcsAnchored, Outcome.bind_eq_ok, Outcome.okOr_eq_ok, U64.checkedAdd_eq_some, Except.ok.injEq]
  constructor
  · rintro ⟨_, ⟨hfits, rfl⟩, rfl⟩
    exact ⟨hfits, rfl⟩
  · rintro ⟨hfits, rfl⟩
    exact ⟨_, ⟨hfits, rfl⟩, rfl⟩

/-- Counting revocations touches the counters only. -/
theorem incrementVcsRevoked_spec {count : ℕ} (h : incrementVcsRevoked count s = .ok s') :
    ∃ protocolStats, s' = { s with protocolStats } := by
  simp only [incrementVcsRevoked, Outcome.bind_eq_ok, Except.ok.injEq] at h
  obtain ⟨_, _, rfl⟩ := h
  exact ⟨_, rfl⟩

section EntryPoints

variable {issuer subject : Address} {vcHash : BytesN 32}

/-- The admin links a registry that answers, and the registry is linked back. -/
theorem setRevocationRegistry_spec {registryId : Address}
    (h : setRevocationRegistry host env registryId s world = .ok (s', world')) :
    (∃ admin, s.admin = some admin ∧ env.Authorized admin) ∧
      validateRevocationRegistryRef host registryId world = true ∧
      host.setIdentityOracle world registryId env.currentContract = some world' ∧
      s' = { s with revocationRegistryId := some registryId } := by
  simp only [setRevocationRegistry, Outcome.bind_eq_ok, requireAdmin_eq_ok, Outcome.require_eq_ok,
    Outcome.okOr_eq_ok, Except.ok.injEq, Prod.mk.injEq] at h
  obtain ⟨_, _, admin, hadmin, _, hvalid, _, hlink, rfl, rfl⟩ := h
  exact ⟨⟨admin, hadmin⟩, hvalid, hlink, rfl⟩

/-- A subject anchors its own document. -/
theorem anchorDid_spec {didDocCid : HostString} (h : anchorDid env subject didDocCid s = .ok s') :
    env.Authorized subject ∧ ∃ protocolStats, s' = { s with
      didDocument := s.didDocument.set subject didDocCid
      lastStateChange := s.lastStateChange.set subject env.ledger.sequence
      protocolStats } := by
  simp only [anchorDid, Outcome.bind_eq_ok, requireAuth_eq_ok] at h
  obtain ⟨_, _, _, hauth, _, _, _, _, hcounted⟩ := h
  obtain ⟨protocolStats, rfl⟩ := incrementDidsAnchored_spec hcounted
  exact ⟨hauth, protocolStats, rfl⟩

/-- The record an anchoring appends. -/
def anchorRecord (env : Env) (issuer : Address) (vcHash : BytesN 32) : IdentityVCRecord where
  vcHash
  issuer
  anchoredAt := env.ledger.timestamp
  revoked := false

/-- Anchoring is a no-op for a record the issuer has already, and appends one otherwise. -/
theorem anchorVcTyped_spec (hsees : Sees host world s status) {credentialType : CredentialType}
    (h : anchorVcTyped host env issuer subject vcHash credentialType s world = .ok s') :
    env.Authorized issuer ∧ isTrustedIssuer s issuer = true ∧
      (((∃ record ∈ anchorsOf s subject, IsAnchor issuer vcHash record) ∧ s' = s) ∨
      (∀ record ∈ anchorsOf s subject, ¬IsAnchor issuer vcHash record) ∧
        (activeOf status (anchorsOf s subject)).length < maxVcsPerSubject ∧
        ∃ protocolStats, s' = { s with
          vcCredentialType := s.vcCredentialType.set (subject, vcHash) credentialType
          vcAnchors := s.vcAnchors.set subject
            (anchorsOf s subject ++ [anchorRecord env issuer vcHash])
          lastStateChange := s.lastStateChange.set subject env.ledger.sequence
          activeVCCount := s.activeVCCount.set subject
            (countAfterAnchor status (anchorsOf s subject ++ [anchorRecord env issuer vcHash])
              (status vcHash) (s.activeVCCount subject))
          protocolStats }) := by
  simp only [anchorVcTyped, Outcome.bind_eq_ok, requireAuth_eq_ok, Outcome.require_eq_ok] at h
  obtain ⟨_, _, _, hauth, _, htrusted, h⟩ := h
  refine ⟨hauth, htrusted, ?_⟩
  split at h
  case isTrue hexists =>
    obtain ⟨record, hmem, hanchor⟩ := List.any_eq_true.mp hexists
    exact Or.inl ⟨⟨record, hmem, by simpa using hanchor⟩, (Except.ok.inj h).symm⟩
  case isFalse hnew =>
    simp only [Outcome.bind_eq_ok, Outcome.require_eq_ok] at h
    obtain ⟨active, hactive, _, hlimit, revoked, hrevoked, counted, hcount, hstats⟩ := h
    have hstatus : revoked = status vcHash := by
      rw [isRecordRevoked_ok hsees hrevoked]
      simp [isActive]
    obtain rfl := activeRecords_ok hsees hactive
    obtain rfl := addActiveVcCount_spec (by exact hsees.congr rfl) hcount
    obtain ⟨-, rfl⟩ := incrementVcsAnchored_eq_ok.mp hstats
    refine Or.inr ⟨?_, hlimit,
      { s.protocolStats with totalVcsAnchored := s.protocolStats.totalVcsAnchored + 1 }, ?_⟩
    · intro record hmem hanchor
      exact hnew (List.any_eq_true.mpr ⟨record, hmem, by simpa using hanchor⟩)
    · rw [hstatus]
      simp only [anchorRecord, recordLastStateChange, anchorsOf, Storage.set_self, Option.getD_some]

/-- Revoking marks the issuer's record. The count is patched when the record was not marked
before, and otherwise only computed when it was never cached. -/
theorem markVcRevoked_spec (hsees : Sees host world s status)
    (h : markVcRevoked host env issuer subject vcHash s world = .ok s') :
    env.Authorized issuer ∧
      (((∃ record ∈ anchorsOf s subject, IsAnchor issuer vcHash record ∧ record.revoked = false) ∧
        (∀ count, s.activeVCCount subject = some count → 1 ≤ count) ∧
        ∃ protocolStats, s' = { s with
          vcAnchors := s.vcAnchors.set subject (markRecords issuer vcHash (anchorsOf s subject))
          lastStateChange := s.lastStateChange.set subject env.ledger.sequence
          activeVCCount := s.activeVCCount.set subject
            (countAfterRevoke status (markRecords issuer vcHash (anchorsOf s subject))
              (s.activeVCCount subject))
          protocolStats }) ∨
      ((∀ record ∈ anchorsOf s subject, IsAnchor issuer vcHash record → record.revoked = true) ∧
        s' = { s with
          vcAnchors := s.vcAnchors.set subject (markRecords issuer vcHash (anchorsOf s subject))
          activeVCCount := s.activeVCCount.set subject ((s.activeVCCount subject).getD
            (activeOf status (markRecords issuer vcHash (anchorsOf s subject))).length) })) := by
  simp only [markVcRevoked, Outcome.bind_eq_ok, requireAuth_eq_ok, Outcome.require_eq_ok] at h
  obtain ⟨_, _, _, hauth, _, _, h⟩ := h
  refine ⟨hauth, ?_⟩
  split at h
  case isTrue htransition =>
    simp only [Outcome.bind_eq_ok] at h
    obtain ⟨counted, hstats, hcount⟩ := h
    obtain ⟨protocolStats, rfl⟩ := incrementVcsRevoked_spec hstats
    obtain ⟨hpositive, rfl⟩ := dropActiveVcCount_spec (by exact hsees.congr rfl) hcount
    obtain ⟨record, hmem, hrecord⟩ := List.any_eq_true.mp htransition
    refine Or.inl ⟨⟨record, hmem, by simpa using hrecord⟩, hpositive, protocolStats, ?_⟩
    simp only [recordLastStateChange, anchorsOf, Storage.set_self, Option.getD_some]
  case isFalse htransition =>
    have hall : ∀ record ∈ anchorsOf s subject, IsAnchor issuer vcHash record → record.revoked = true := by
      intro record hmem hanchor
      by_contra hactive
      refine htransition (List.any_eq_true.mpr ⟨record, hmem, ?_⟩)
      simpa [hanchor] using hactive
    refine Or.inr ⟨hall, ?_⟩
    split at h
    case isTrue hnone =>
      simp only [Outcome.bind_eq_ok, Except.ok.injEq] at h
      obtain ⟨⟨count, _⟩, hseed, rfl⟩ := h
      obtain ⟨rfl, rfl⟩ := seedActiveVcCount_spec (by exact hsees.congr rfl) hseed
      rw [Option.isNone_iff_eq_none.mp hnone]
      simp only [anchorsOf, Storage.set_self, Option.getD_some, Option.getD_none]
    case isFalse hsome =>
      obtain rfl := Except.ok.inj h
      cases hcount : s.activeVCCount subject with
      | none => exact absurd (by rw [hcount]; rfl) hsome
      | some count => simp only [Option.getD_some, Storage.set_eq_self hcount]

/-- A record with its own flag set. -/
def markRecord (record : IdentityVCRecord) : IdentityVCRecord := { record with revoked := true }

/-- Counting what a deactivation revokes touches the counters only. -/
theorem countRevocations_spec {count : ℕ} (h : countRevocations count s = .ok s') :
    ∃ protocolStats, s' = { s with protocolStats } := by
  unfold countRevocations at h
  split at h
  · exact incrementVcsRevoked_spec h
  · exact ⟨s.protocolStats, (Except.ok.inj h).symm⟩

/-- Setting every flag touches the subject's records only. -/
theorem revokeAllRecords_spec (subject : Address) (s : State) :
    ∃ vcAnchors, revokeAllRecords subject s = { s with vcAnchors } ∧
      (∀ other, other ≠ subject → vcAnchors other = s.vcAnchors other) ∧
      (vcAnchors subject).getD [] = (anchorsOf s subject).map markRecord := by
  unfold revokeAllRecords
  by_cases hempty : anchorsOf s subject = []
  · refine ⟨s.vcAnchors, ?_, fun _ _ => rfl, ?_⟩
    · simp [hempty]
    · rw [hempty]
      exact hempty
  · refine ⟨s.vcAnchors.set subject ((anchorsOf s subject).map markRecord), ?_, ?_, ?_⟩
    · simp only [List.isEmpty_iff, hempty, if_false]
      rfl
    · exact fun other hother => Storage.set_of_ne _ _ hother
    · rw [Storage.set_self, Option.getD_some]

/-- Both deactivations set every flag and the count to zero. -/
theorem deactivateCore_spec {revokedCount : ℕ} {subject : Address}
    (h : deactivateCore env subject s = .ok (revokedCount, s')) :
    revokedCount = (anchorsOf s subject).countP (fun record => !record.revoked) ∧
      ∃ vcAnchors protocolStats, (∀ other, other ≠ subject → vcAnchors other = s.vcAnchors other) ∧
        (vcAnchors subject).getD [] = (anchorsOf s subject).map markRecord ∧
        s' = { s with
          deactivated := s.deactivated.set subject true
          vcAnchors
          activeVCCount := s.activeVCCount.set subject 0
          lastStateChange := s.lastStateChange.set subject env.ledger.sequence
          protocolStats } := by
  simp only [deactivateCore, Outcome.bind_eq_ok, Except.ok.injEq, Prod.mk.injEq] at h
  obtain ⟨counted, hcounted, rfl, rfl⟩ := h
  obtain ⟨vcAnchors, hanchors, hothers, hmarked⟩ := revokeAllRecords_spec subject
    { s with deactivated := s.deactivated.set subject true }
  rw [hanchors] at hcounted
  obtain ⟨protocolStats, rfl⟩ := countRevocations_spec hcounted
  exact ⟨rfl, vcAnchors, protocolStats, hothers, hmarked, rfl⟩

/-- The older deactivation takes the document away as well. -/
theorem deactivateDid_spec (h : deactivateDid env subject s = .ok s') :
    env.Authorized subject ∧ ∃ revokedCount deactivated,
      deactivateCore env subject s = .ok (revokedCount, deactivated) ∧
      s' = { deactivated with didDocument := deactivated.didDocument.remove subject } := by
  simp only [deactivateDid, Outcome.bind_eq_ok, requireAuth_eq_ok, Except.ok.injEq] at h
  obtain ⟨_, hauth, ⟨revokedCount, deactivated⟩, hcore, rfl⟩ := h
  exact ⟨hauth, revokedCount, deactivated, hcore, rfl⟩

/-- A subject deactivates itself. -/
theorem deactivateIdentity_spec {revokedCount : ℕ}
    (h : deactivateIdentity env subject s = .ok (revokedCount, s')) :
    env.Authorized subject ∧ deactivateCore env subject s = .ok (revokedCount, s') := by
  simp only [deactivateIdentity, Outcome.bind_eq_ok, requireAuth_eq_ok] at h
  obtain ⟨_, hauth, hcore⟩ := h
  exact ⟨hauth, hcore⟩

/-- A subject takes its deactivation back, and no record with it. -/
theorem reactivateIdentity_spec (h : reactivateIdentity env subject s = .ok s') :
    env.Authorized subject ∧ s' = { s with
      deactivated := s.deactivated.remove subject
      lastStateChange := s.lastStateChange.set subject env.ledger.sequence } := by
  simp only [reactivateIdentity, Outcome.bind_eq_ok, requireAuth_eq_ok, Except.ok.injEq] at h
  obtain ⟨_, hauth, rfl⟩ := h
  exact ⟨hauth, rfl⟩

/-- Reading the count caches it. -/
theorem getActiveVcCount_spec (hsees : Sees host world s status) {count : ℕ}
    (h : getActiveVcCount host subject s world = .ok (count, s')) :
    count = (s.activeVCCount subject).getD (activeOf status (anchorsOf s subject)).length ∧
      s' = { s with activeVCCount := s.activeVCCount.set subject count } := by
  unfold getActiveVcCount at h
  split at h
  case h_1 cached hcached =>
    obtain ⟨rfl, rfl⟩ := Prod.mk.inj (Except.ok.inj h)
    rw [hcached, Storage.set_eq_self hcached]
    exact ⟨rfl, rfl⟩
  case h_2 hnone =>
    obtain ⟨rfl, rfl⟩ := seedActiveVcCount_spec hsees h
    rw [hnone]
    exact ⟨rfl, rfl⟩

end EntryPoints

end StellarDidCredit.IdentityOracle
