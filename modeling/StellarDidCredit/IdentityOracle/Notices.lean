import StellarDidCredit.Lib.Journal
import StellarDidCredit.IdentityOracle.Issuers

/-!
# The events of the identity oracle

What the entry points publish, and what a reader of the events knows about the contract. Reading
the whole log in order gives the trusted issuers in the order of their list, their tiers, the DID
documents, the deactivated subjects, two of the counters, and for each subject who anchored which
hash, in the stored order.

A revocation by `mark_vc_revoked` publishes nothing. What a reader counts as not revoked is an upper
bound therefore, and is exact when that entry point was not used.
-/

namespace StellarDidCredit.IdentityOracle

variable {κ : Type} {host : Host κ} {env : Env} {call : Call} {s s' : State} {world world' : κ}
  {x issuer subject : Address} {vcHash : BytesN 32}

/-- An event that the contract publishes. -/
inductive Notice where
  | initialized (admin : Address)
  | paused
  | unpaused
  | issuerRegistered (issuer : Address)
  | issuerDeregistered (issuer : Address)
  | didAnchored (subject : Address) (didDocCid : HostString)
  | didDeactivated (subject : Address)
  | vcAnchored (issuer subject : Address) (vcHash : BytesN 32)
  | identityDeactivated (subject : Address) (revokedCount : ℕ)
  | identityReactivated (subject : Address)
  | issuerTierSet (issuer : Address) (weightBps : ℕ)
  deriving DecidableEq, Repr

/-- An anchoring of a record that the issuer has already publishes nothing. -/
def anchorNotices (s : State) (issuer subject : Address) (vcHash : BytesN 32) : List Notice :=
  if (anchorsOf s subject).any (fun record => IsAnchor issuer vcHash record) then []
  else [.vcAnchored issuer subject vcHash]

/-- What a successful call publishes. -/
def Call.notices (s : State) : Call → List Notice
  | .initializeContract admin => [.initialized admin]
  | .pause => [.paused]
  | .unpause => [.unpaused]
  | .migrate => []
  | .setRevocationRegistry _ => []
  | .registerIssuer issuer => [.issuerRegistered issuer]
  | .deregisterIssuer issuer => [.issuerDeregistered issuer]
  | .setIssuerTier _ issuer weightBps => [.issuerTierSet issuer weightBps]
  | .proposeNewAdmin _ => []
  | .acceptAdmin _ => []
  | .maintainStorage => []
  | .anchorDid subject didDocCid => [.didAnchored subject didDocCid]
  | .anchorVc issuer subject vcHash => anchorNotices s issuer subject vcHash
  | .anchorVcTyped issuer subject vcHash _ => anchorNotices s issuer subject vcHash
  | .markVcRevoked _ _ _ => []
  | .deactivateDid subject => [.didDeactivated subject]
  | .deactivateIdentity subject =>
    [.identityDeactivated subject ((anchorsOf s subject).countP fun record => !record.revoked)]
  | .reactivateIdentity subject => [.identityReactivated subject]
  | .getActiveVcCount _ => []

/-- The events of a history, in order. -/
def noticesOf (history : List Move) : List Notice := journal (fun s e => e.call.notices s) history

/-! ## Reading them -/

/-- What a reader of the events knows. -/
@[ext]
structure View where
  paused : Bool := false
  issuers : List Address := []
  tiers : Storage Address ℕ := Storage.empty
  documents : Storage Address HostString := Storage.empty
  /-- The issuers and hashes of the records of a subject, in order. -/
  anchored : Address → List (Address × BytesN 32) := fun _ => []
  deactivated : Address → Bool := fun _ => false
  didsAnchored : ℕ := 0
  vcsAnchored : ℕ := 0

/-- Issuer and hash of a record. -/
def keyOf (record : IdentityVCRecord) : Address × BytesN 32 := (record.issuer, record.vcHash)

/-- The same of the stored entries. -/
def State.view (s : State) : View where
  paused := s.paused.getD false
  issuers := listIssuers s
  tiers := s.issuerTier
  documents := s.didDocument
  anchored x := (anchorsOf s x).map keyOf
  deactivated := isDeactivated s
  didsAnchored := s.protocolStats.totalDidsAnchored
  vcsAnchored := s.protocolStats.totalVcsAnchored

/-- One more event. -/
def View.read (v : View) : Notice → View
  | .initialized _ => v
  | .paused => { v with paused := true }
  | .unpaused => { v with paused := false }
  | .issuerRegistered issuer => { v with issuers := enlist v.issuers issuer }
  | .issuerDeregistered issuer => { v with issuers := v.issuers.filter fun other => other ≠ issuer }
  | .didAnchored subject didDocCid =>
    { v with documents := v.documents.set subject didDocCid, didsAnchored := v.didsAnchored + 1 }
  | .didDeactivated subject =>
    { v with
      documents := v.documents.remove subject
      deactivated := Function.update v.deactivated subject true }
  | .vcAnchored issuer subject vcHash =>
    { v with
      anchored := Function.update v.anchored subject (v.anchored subject ++ [(issuer, vcHash)])
      vcsAnchored := v.vcsAnchored + 1 }
  | .identityDeactivated subject _ => { v with deactivated := Function.update v.deactivated subject true }
  | .identityReactivated subject => { v with deactivated := Function.update v.deactivated subject false }
  | .issuerTierSet issuer weightBps => { v with tiers := v.tiers.set issuer weightBps }

/-- The event is one that the contract could publish in what was read before it. -/
def View.Allows (v : View) : Notice → Prop
  | .didAnchored _ didDocCid =>
    v.paused = false ∧ 7 ≤ didDocCid.length ∧ didDocCid.length ≤ maxCidLength ∧
      ∃ cidPrefix ∈ cidPrefixes, cidPrefix <+: didDocCid
  | .vcAnchored issuer subject vcHash =>
    v.paused = false ∧ issuer ∈ v.issuers ∧ (issuer, vcHash) ∉ v.anchored subject
  | .identityDeactivated subject revokedCount => revokedCount ≤ (v.anchored subject).length
  | .issuerTierSet _ weightBps => v.paused = false ∧ weightBps ≠ 0 ∧ weightBps ≤ maxIssuerTierBps
  | _ => True

/-! ## One call -/

/-- The issuers and hashes after the records of one subject were written. -/
theorem RecordsWritten.anchored {records : List IdentityVCRecord} (h : RecordsWritten s s' x records) :
    s'.view.anchored = Function.update s.view.anchored x (records.map keyOf) := by
  funext y
  by_cases hy : y = x
  · rw [hy, Function.update_self]
    exact congrArg (List.map keyOf) h.self
  · rw [Function.update_of_ne hy]
    exact congrArg (List.map keyOf) (h.others y hy)

/-- Flags have no part in issuers and hashes. -/
theorem map_keyOf_map {mark : IdentityVCRecord → IdentityVCRecord} (records : List IdentityVCRecord)
    (hmark : ∀ record, keyOf (mark record) = keyOf record) : (records.map mark).map keyOf = records.map keyOf := by
  rw [List.map_map]
  exact List.map_congr_left fun record _ => hmark record

/-- Marks change no key. -/
theorem map_keyOf_markRecords (records : List IdentityVCRecord) :
    (markRecords issuer vcHash records).map keyOf = records.map keyOf := by
  refine map_keyOf_map records fun record => ?_
  split <;> rfl

/-- The flags of the subjects after one was set. -/
theorem isDeactivated_of_set (h : s'.deactivated = s.deactivated.set x true) :
    isDeactivated s' = Function.update (isDeactivated s) x true := by
  funext y
  by_cases hy : y = x
  · rw [hy, Function.update_self, isDeactivated, h, Storage.set_self, Option.getD_some]
  · rw [Function.update_of_ne hy, isDeactivated, h, Storage.set_of_ne _ _ hy, isDeactivated]

/-- The flags of the subjects after one was deleted. -/
theorem isDeactivated_of_remove (h : s'.deactivated = s.deactivated.remove x) :
    isDeactivated s' = Function.update (isDeactivated s) x false := by
  funext y
  by_cases hy : y = x
  · rw [hy, Function.update_self, isDeactivated, h, Storage.remove_self, Option.getD_none]
  · rw [Function.update_of_ne hy, isDeactivated, h, Storage.remove_of_ne _ hy, isDeactivated]

/-- The index of issuers lists the trusted ones once. -/
def IssuersOk (s : State) : Prop := ∃ log, s.issuers.Reflects log ∧ s.issuers.Tight

/-- A fresh contract lists no issuer. -/
theorem issuersOk_start : IssuersOk {} :=
  ⟨[], FlagIndex.reflects_nil, fun _ h => absurd h List.not_mem_nil⟩

/-- A call keeps the list in order. -/
theorem IssuersOk.step (h : IssuersOk s) (hwrites : Writes env s call s') : IssuersOk s' := by
  obtain ⟨log, hreflects, htight⟩ := h
  unfold IssuersOk
  rw [hwrites.issuers]
  exact ⟨_, hreflects.compacted htight _, htight.compacted _⟩

/-- The issuers in order, after a call that says something about one. -/
theorem IssuersOk.listIssuers (h : IssuersOk s) (hwrites : Writes env s call s') {registers : Bool}
    (hop : call.issuerOp = some ⟨issuer, registers⟩) :
    listIssuers s' = if registers then enlist (listIssuers s) issuer
      else (listIssuers s).filter fun other => other ≠ issuer := by
  obtain ⟨log, hreflects, htight⟩ := h
  have hissuers := hwrites.issuers
  rw [hop] at hissuers
  change s'.issuers.listed = _
  rw [hissuers]
  cases registers with
  | true => exact hreflects.listed_compacted_true htight issuer
  | false => exact htight.listed_compacted_false issuer

/-- An anchoring moves the view as its event does, if it has one. -/
theorem anchorVcTyped_view {credentialType : CredentialType}
    (h : anchorVcTyped host env issuer subject vcHash credentialType s world = .ok s') :
    s'.view = (anchorNotices s issuer subject vcHash).foldl View.read s.view := by
  obtain ⟨status, hsees⟩ := exists_sees host world s
  simp only [anchorVcTyped, Outcome.bind_eq_ok] at h
  obtain ⟨_, -, _, -, _, -, h⟩ := h
  unfold anchorNotices
  split at h
  case isTrue hold =>
    obtain rfl := Except.ok.inj h
    rw [if_pos hold, List.foldl_nil]
  case isFalse hnew =>
    simp only [Outcome.bind_eq_ok] at h
    obtain ⟨active, -, _, -, revoked, -, counted, hcount, hstats⟩ := h
    obtain rfl := addActiveVcCount_spec (by exact hsees.congr rfl) hcount
    obtain ⟨-, rfl⟩ := incrementVcsAnchored_eq_ok.mp hstats
    rw [if_neg hnew]
    refine View.ext rfl rfl rfl rfl ?_ rfl rfl rfl
    rw [RecordsWritten.anchored (recordsWritten_of_set rfl), List.map_append]
    rfl

/-- A deactivation leaves issuers and hashes alone. -/
theorem anchored_of_sweep (h : s'.vcAnchors = (revokeAllRecords x s).vcAnchors) :
    s'.view.anchored = s.view.anchored := by
  have hkeys : ((anchorsOf s x).map markRecord).map keyOf = (anchorsOf s x).map keyOf :=
    map_keyOf_map _ fun _ => rfl
  rw [(recordsWritten_of_sweep h).anchored, hkeys]
  exact Function.update_eq_self _ _

/-- A successful call moves the view as its events do. -/
theorem view_of_exec (hok : IssuersOk s) (h : exec host env call s world = .ok (s', world')) :
    s'.view = (call.notices s).foldl View.read s.view := by
  have hwrites := exec_writes h
  cases call
  case anchorVc issuer subject vcHash => exact anchorVcTyped_view (alone_eq_ok.mp h).1
  case anchorVcTyped issuer subject vcHash credentialType => exact anchorVcTyped_view (alone_eq_ok.mp h).1
  case registerIssuer issuer =>
    have hlist := hok.listIssuers hwrites rfl
    cases hwrites with
    | issuerKept | issuerListed => exact View.ext rfl hlist rfl rfl rfl rfl rfl rfl
    | vcKept hcall | vcAnchored hcall | deactivated hcall => cases hcall
  case deregisterIssuer issuer =>
    have hlist := hok.listIssuers hwrites rfl
    cases hwrites with
    | issuerDeregistered => exact View.ext rfl hlist rfl rfl rfl rfl rfl rfl
    | vcKept hcall | vcAnchored hcall | deactivated hcall => cases hcall
  case markVcRevoked issuer subject vcHash =>
    cases hwrites with
    | vcRevoked =>
      refine View.ext rfl rfl rfl rfl ?_ rfl rfl rfl
      rw [RecordsWritten.anchored (recordsWritten_of_set rfl), map_keyOf_markRecords]
      exact Function.update_eq_self _ _
    | vcRemarked => rfl
    | vcKept hcall | vcAnchored hcall | deactivated hcall => cases hcall
  case deactivateDid subject =>
    cases hwrites with
    | deactivated hcall =>
      obtain rfl := Option.some.inj hcall
      exact View.ext rfl rfl rfl rfl (anchored_of_sweep rfl) (isDeactivated_of_set rfl) rfl rfl
    | vcKept hcall | vcAnchored hcall => cases hcall
  case deactivateIdentity subject =>
    cases hwrites with
    | deactivated hcall =>
      obtain rfl := Option.some.inj hcall
      exact View.ext rfl rfl rfl rfl (anchored_of_sweep rfl) (isDeactivated_of_set rfl) rfl rfl
    | vcKept hcall | vcAnchored hcall => cases hcall
  case reactivateIdentity subject =>
    cases hwrites with
    | reactivated =>
      exact View.ext rfl rfl rfl rfl rfl (isDeactivated_of_remove rfl) rfl rfl
    | vcKept hcall | vcAnchored hcall | deactivated hcall => cases hcall
  all_goals
    cases hwrites with
    | vcKept hcall | vcAnchored hcall | deactivated hcall => cases hcall
    | _ => rfl

/-! ## The check -/

/-- An announced anchoring is allowed. -/
theorem IssuersOk.allows_anchor (hok : IssuersOk s) {credentialType : CredentialType}
    (h : anchorVcTyped host env issuer subject vcHash credentialType s world = .ok s') :
    Checked View.read View.Allows s.view (anchorNotices s issuer subject vcHash) := by
  simp only [anchorVcTyped, Outcome.bind_eq_ok, ensureNotPaused_eq_ok, Outcome.require_eq_ok] at h
  obtain ⟨_, hpaused, _, -, _, htrusted, -⟩ := h
  unfold anchorNotices
  split
  case isTrue => trivial
  case isFalse hnone =>
    obtain ⟨log, hreflects, -⟩ := hok
    have hlisted : issuer ∈ IdentityOracle.listIssuers s :=
      hreflects.mem_listed.mpr ((hreflects.flagged_iff issuer).mp htrusted)
    refine ⟨⟨hpaused, hlisted, fun hmem => hnone ?_⟩, trivial⟩
    obtain ⟨record, hrecord, hkey⟩ := List.mem_map.mp hmem
    obtain ⟨hissuer, hhash⟩ := Prod.mk.inj hkey
    exact List.any_eq_true.mpr ⟨record, hrecord, decide_eq_true ⟨hhash, hissuer⟩⟩

/-- What a successful call publishes is allowed. -/
theorem allows_of_exec (hok : IssuersOk s) (h : exec host env call s world = .ok (s', world')) :
    Checked View.read View.Allows s.view (call.notices s) := by
  cases call
  case anchorDid subject didDocCid =>
    simp only [exec, alone_eq_ok, anchorDid, Outcome.bind_eq_ok, ensureNotPaused_eq_ok, Outcome.require_eq_ok,
      List.any_eq_true, List.isPrefixOf_iff_prefix] at h
    obtain ⟨⟨_, hpaused, _, -, _, ⟨hshort, hlong⟩, _, hprefix, -⟩, -⟩ := h
    exact ⟨⟨hpaused, hshort, hlong, hprefix⟩, trivial⟩
  case anchorVc issuer subject vcHash => exact hok.allows_anchor (alone_eq_ok.mp h).1
  case anchorVcTyped issuer subject vcHash credentialType => exact hok.allows_anchor (alone_eq_ok.mp h).1
  case deactivateIdentity subject =>
    refine ⟨?_, trivial⟩
    exact List.countP_le_length.trans (List.length_map _).ge
  case setIssuerTier admin issuer weightBps =>
    simp only [exec, alone_eq_ok, setIssuerTier, Outcome.bind_eq_ok, ensureNotPaused_eq_ok,
      Outcome.require_eq_ok] at h
    obtain ⟨⟨_, hpaused, _, -, _, -, _, hweight, -⟩, -⟩ := h
    exact ⟨⟨hpaused, hweight⟩, trivial⟩
  case migrate | setRevocationRegistry | proposeNewAdmin | acceptAdmin | maintainStorage | markVcRevoked |
      getActiveVcCount => trivial
  all_goals exact ⟨trivial, trivial⟩

/-- The events of a successful call lead from the view before it to the one after it. -/
theorem reads_of_exec (hok : IssuersOk s) (h : exec host env call s world = .ok (s', world')) :
    Reads View.read View.Allows s.view (call.notices s) s'.view :=
  ⟨view_of_exec hok h, allows_of_exec hok h⟩

/-! ## The records without a revocation -/

end StellarDidCredit.IdentityOracle
