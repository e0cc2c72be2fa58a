import StellarDidCredit.IdentityOracle.Effects

/-!
# One subject of the identity oracle

What a call can do to the entries of one subject. The list of records only grows at its end
and its flags are only set, and an issuer has at most one record of a hash.
-/

namespace StellarDidCredit.IdentityOracle

variable {κ : Type} {host : Host κ} {env : Env} {call : Call} {s s' : State} {world world' : κ}
  {status : BytesN 32 → Bool} {x : Address}

/-- The entries of one subject. -/
structure Slice where
  anchors : List IdentityVCRecord
  activeCount : Option ℕ
  deactivated : Bool
  lastChange : Option ℕ

/-- The entries of a subject in a state. -/
def State.slice (s : State) (x : Address) : Slice where
  anchors := anchorsOf s x
  activeCount := s.activeVCCount x
  deactivated := isDeactivated s x
  lastChange := s.lastStateChange x

/-- The issuer, the subject and the hash of an anchoring. -/
def Call.anchoring : Call → Option (Address × Address × BytesN 32)
  | .anchorVc issuer subject vcHash => some (issuer, subject, vcHash)
  | .anchorVcTyped issuer subject vcHash _ => some (issuer, subject, vcHash)
  | _ => none

/-- The subject of a deactivation. -/
def Call.deactivation : Call → Option Address
  | .deactivateDid subject => some subject
  | .deactivateIdentity subject => some subject
  | _ => none

/-- What a successful call leaves of the entries `b` of the subject `x`. -/
inductive SliceEffect (env : Env) (status : BytesN 32 → Bool) (x : Address) (b : Slice) :
    Call → Slice → Prop
  | anchored {call : Call} {issuer : Address} {vcHash : BytesN 32}
      (hcall : call.anchoring = some (issuer, x, vcHash)) (hauth : env.Authorized issuer)
      (hnew : ∀ record ∈ b.anchors, ¬IsAnchor issuer vcHash record) :
      SliceEffect env status x b call { b with
        anchors := b.anchors ++ [anchorRecord env issuer vcHash]
        activeCount := some (countAfterAnchor status (b.anchors ++ [anchorRecord env issuer vcHash])
          (status vcHash) b.activeCount)
        lastChange := some env.ledger.sequence }
  | revoked {issuer : Address} {vcHash : BytesN 32} (hauth : env.Authorized issuer)
      (htransition : ∃ record ∈ b.anchors, IsAnchor issuer vcHash record ∧ record.revoked = false)
      (hpositive : ∀ count, b.activeCount = some count → 1 ≤ count) :
      SliceEffect env status x b (.markVcRevoked issuer x vcHash) { b with
        anchors := markRecords issuer vcHash b.anchors
        activeCount := some (countAfterRevoke status (markRecords issuer vcHash b.anchors) b.activeCount)
        lastChange := some env.ledger.sequence }
  | remarked {issuer : Address} {vcHash : BytesN 32} (hauth : env.Authorized issuer)
      (hmarked : ∀ record ∈ b.anchors, IsAnchor issuer vcHash record → record.revoked = true) :
      SliceEffect env status x b (.markVcRevoked issuer x vcHash)
        { b with activeCount := some (b.activeCount.getD (activeOf status b.anchors).length) }
  | deactivated {call : Call} (hcall : call.deactivation = some x) (hauth : env.Authorized x) :
      SliceEffect env status x b call
        { anchors := b.anchors.map markRecord, activeCount := some 0, deactivated := true,
          lastChange := some env.ledger.sequence }
  | reactivated (hauth : env.Authorized x) :
      SliceEffect env status x b (.reactivateIdentity x)
        { b with deactivated := false, lastChange := some env.ledger.sequence }
  | didAnchored {didDocCid : HostString} (hauth : env.Authorized x) :
      SliceEffect env status x b (.anchorDid x didDocCid)
        { b with lastChange := some env.ledger.sequence }
  | counted :
      SliceEffect env status x b (.getActiveVcCount x)
        { b with activeCount := some (b.activeCount.getD (activeOf status b.anchors).length) }
  | untouched {call : Call} (hcall : ∀ issuer vcHash, call ≠ .markVcRevoked issuer x vcHash) :
      SliceEffect env status x b call b

/-- Marking records that are marked already changes none of them. -/
theorem markRecords_eq_self {issuer : Address} {vcHash : BytesN 32} {records : List IdentityVCRecord}
    (h : ∀ record ∈ records, IsAnchor issuer vcHash record → record.revoked = true) :
    markRecords issuer vcHash records = records := by
  have hsame : ∀ record ∈ records,
      (if IsAnchor issuer vcHash record then { record with revoked := true } else record) = record := by
    intro record hmem
    split
    case isTrue hanchor =>
      have hrevoked := h record hmem hanchor
      cases record
      simp_all
    case isFalse => rfl
  unfold markRecords
  rw [List.map_congr_left hsame, List.map_id']

/-- Entries that a call does not write stay as they are. -/
theorem SliceEffect.elsewhere (hcall : ∀ issuer vcHash, call ≠ .markVcRevoked issuer x vcHash)
    (hanchors : s'.vcAnchors x = s.vcAnchors x) (hcount : s'.activeVCCount x = s.activeVCCount x)
    (hdeactivated : s'.deactivated x = s.deactivated x)
    (hchange : s'.lastStateChange x = s.lastStateChange x) :
    SliceEffect env status x (s.slice x) call (s'.slice x) := by
  have hsame : s'.slice x = s.slice x := by
    simp only [State.slice, anchorsOf, isDeactivated, hanchors, hcount, hdeactivated, hchange]
  rw [hsame]
  exact .untouched hcall

/-- A call that keeps the link to the registry, with its effect on every subject. -/
structure SubjectEffects (env : Env) (status : BytesN 32 → Bool) (call : Call) (s s' : State) : Prop where
  link : s'.revocationRegistryId = s.revocationRegistryId
  slice : ∀ x, SliceEffect env status x (s.slice x) call (s'.slice x)

/-- A call that writes no entry of any subject. -/
theorem SubjectEffects.none (hcall : ∀ issuer subject vcHash, call ≠ .markVcRevoked issuer subject vcHash)
    (hlink : s'.revocationRegistryId = s.revocationRegistryId) (hslice : ∀ x, s'.slice x = s.slice x) :
    SubjectEffects env status call s s' := by
  refine ⟨hlink, fun x => ?_⟩
  rw [hslice x]
  exact .untouched fun issuer vcHash => hcall issuer x vcHash

/-- A call about one subject, with its effect there and its silence elsewhere. -/
theorem SubjectEffects.about (subject : Address) (hlink : s'.revocationRegistryId = s.revocationRegistryId)
    (hsubject : SliceEffect env status subject (s.slice subject) call (s'.slice subject))
    (hothers : ∀ x, x ≠ subject → SliceEffect env status x (s.slice x) call (s'.slice x)) :
    SubjectEffects env status call s s' := by
  refine ⟨hlink, fun x => ?_⟩
  by_cases hx : x = subject
  · rw [hx]
    exact hsubject
  · exact hothers x hx

/-- Whoever made the call, a revocation depends on the ledger and on the issuer's authorisation. -/
theorem SubjectEffects.revocation_congr {env' : Env} {issuer subject : Address} {vcHash : BytesN 32}
    (h : SubjectEffects env status (.markVcRevoked issuer subject vcHash) s s')
    (hledger : env'.ledger = env.ledger) (hauth : env'.Authorized issuer) :
    SubjectEffects env' status (.markVcRevoked issuer subject vcHash) s s' := by
  refine ⟨h.link, fun x => ?_⟩
  have heffect := h.slice x
  generalize s.slice x = before at heffect ⊢
  generalize s'.slice x = after at heffect ⊢
  cases heffect with
  | anchored hcall => cases hcall
  | deactivated hcall => cases hcall
  | revoked _ htransition hpositive =>
    rw [← hledger]
    exact .revoked hauth htransition hpositive
  | remarked _ hmarked => exact .remarked hauth hmarked
  | untouched hcall => exact .untouched hcall

/-- Anchoring appends one record, counts it and notes the ledger. -/
theorem anchorVcTyped_effects (hsees : Sees host world s status) {issuer subject : Address}
    {vcHash : BytesN 32} {credentialType : CredentialType}
    (h : anchorVcTyped host env issuer subject vcHash credentialType s world = .ok s')
    (hcall : call.anchoring = some (issuer, subject, vcHash)) : SubjectEffects env status call s s' := by
  have hnot : ∀ issuer subject vcHash, call ≠ .markVcRevoked issuer subject vcHash := by
    rintro _ _ _ rfl
    cases hcall
  obtain ⟨hauth, -, ⟨-, rfl⟩ | ⟨hnew, -, protocolStats, rfl⟩⟩ := anchorVcTyped_spec hsees h
  · exact .none hnot rfl fun _ => rfl
  · refine .about subject rfl ?_ fun x hx => ?_
    · have heffect : SliceEffect env status subject (s.slice subject) call _ := .anchored hcall hauth hnew
      simpa only [State.slice, anchorsOf, isDeactivated, Storage.set_self, Option.getD_some] using heffect
    · exact .elsewhere (hnot · x ·) (Storage.set_of_ne _ _ hx) (Storage.set_of_ne _ _ hx) rfl
        (Storage.set_of_ne _ _ hx)

/-- Revoking marks the issuer's record, or finds it marked already. -/
theorem markVcRevoked_effects (hsees : Sees host world s status) {issuer subject : Address}
    {vcHash : BytesN 32} (h : markVcRevoked host env issuer subject vcHash s world = .ok s') :
    SubjectEffects env status (.markVcRevoked issuer subject vcHash) s s' := by
  have hnot {x : Address} (hx : x ≠ subject) (issuer' : Address) (vcHash' : BytesN 32) :
      Call.markVcRevoked issuer subject vcHash ≠ .markVcRevoked issuer' x vcHash' := by
    intro hsame
    exact hx (Call.markVcRevoked.inj hsame).2.1.symm
  obtain ⟨hauth, ⟨htransition, hpositive, protocolStats, rfl⟩ | ⟨hmarked, rfl⟩⟩ :=
    markVcRevoked_spec hsees h
  · refine .about subject rfl ?_ fun x hx => ?_
    · have heffect : SliceEffect env status subject (s.slice subject) _ _ :=
        .revoked hauth htransition hpositive
      simpa only [State.slice, anchorsOf, isDeactivated, Storage.set_self, Option.getD_some] using heffect
    · exact .elsewhere (hnot hx) (Storage.set_of_ne _ _ hx) (Storage.set_of_ne _ _ hx) rfl
        (Storage.set_of_ne _ _ hx)
  · rw [markRecords_eq_self hmarked]
    refine .about subject rfl ?_ fun x hx => ?_
    · have heffect : SliceEffect env status subject (s.slice subject) _ _ := .remarked hauth hmarked
      simpa only [State.slice, anchorsOf, isDeactivated, Storage.set_self, Option.getD_some] using heffect
    · exact .elsewhere (hnot hx) (Storage.set_of_ne _ _ hx) (Storage.set_of_ne _ _ hx) rfl rfl

/-- Deactivating marks every record and sets the count to zero. -/
theorem deactivateCore_effects {subject : Address} {revokedCount : ℕ}
    (h : deactivateCore env subject s = .ok (revokedCount, s')) (hcall : call.deactivation = some subject)
    (hauth : env.Authorized subject) : SubjectEffects env status call s s' := by
  have hnot (x issuer : Address) (vcHash : BytesN 32) : call ≠ .markVcRevoked issuer x vcHash := by
    rintro rfl
    cases hcall
  obtain ⟨-, vcAnchors, protocolStats, hothers, hmarked, rfl⟩ := deactivateCore_spec h
  refine .about subject rfl ?_ fun x hx => ?_
  · have heffect : SliceEffect env status subject (s.slice subject) call _ := .deactivated hcall hauth
    simpa only [State.slice, anchorsOf, isDeactivated, hmarked, Storage.set_self, Option.getD_some]
      using heffect
  · exact .elsewhere (hnot x) (hothers x hx) (Storage.set_of_ne _ _ hx) (Storage.set_of_ne _ _ hx)
      (Storage.set_of_ne _ _ hx)

/-- Reading the count writes the count only. -/
theorem getActiveVcCount_effects (hsees : Sees host world s status) {subject : Address} {count : ℕ}
    (h : getActiveVcCount host subject s world = .ok (count, s')) :
    SubjectEffects env status (.getActiveVcCount subject) s s' := by
  obtain ⟨rfl, rfl⟩ := getActiveVcCount_spec hsees h
  refine .about subject rfl ?_ fun x hx => ?_
  · have heffect : SliceEffect env status subject (s.slice subject) _ _ := .counted
    simpa only [State.slice, anchorsOf, isDeactivated, Storage.set_self] using heffect
  · exact .elsewhere (by simp) rfl (Storage.set_of_ne _ _ hx) rfl rfl

/-! ## Administration -/

/-- The calls that concern no subject and keep the link to the registry. -/
def Call.administers : Call → Bool
  | .initializeContract _ | .pause | .unpause | .migrate | .registerIssuer _ | .deregisterIssuer _
  | .setIssuerTier _ _ _ | .proposeNewAdmin _ | .acceptAdmin _ | .maintainStorage => true
  | _ => false

/-- No subject's entries, no counter and not the linked registry were written. -/
structure Administered (s s' : State) : Prop where
  vcAnchors : s'.vcAnchors = s.vcAnchors
  activeVCCount : s'.activeVCCount = s.activeVCCount
  deactivated : s'.deactivated = s.deactivated
  lastStateChange : s'.lastStateChange = s.lastStateChange
  protocolStats : s'.protocolStats = s.protocolStats
  revocationRegistryId : s'.revocationRegistryId = s.revocationRegistryId

/-- The entries of every subject stay. -/
theorem Administered.slice (h : Administered s s') (x : Address) : s'.slice x = s.slice x := by
  simp only [State.slice, anchorsOf, isDeactivated, h.vcAnchors, h.activeVCCount, h.deactivated,
    h.lastStateChange]

/-- An administrative call leaves all of that alone. -/
theorem exec_administered (hcall : call.administers = true)
    (h : exec host env call s world = .ok (s', world')) : Administered s s' ∧ world' = world := by
  cases call <;> simp only [exec, alone_eq_ok] at h
  case initializeContract admin =>
    simp only [initializeContract, Outcome.bind_eq_ok, Except.ok.injEq] at h
    obtain ⟨⟨_, _, _, _, rfl⟩, rfl⟩ := h
    exact ⟨⟨rfl, rfl, rfl, rfl, rfl, rfl⟩, rfl⟩
  case pause =>
    simp only [pause, setPaused, Outcome.bind_eq_ok, Except.ok.injEq] at h
    obtain ⟨⟨_, _, rfl⟩, rfl⟩ := h
    exact ⟨⟨rfl, rfl, rfl, rfl, rfl, rfl⟩, rfl⟩
  case unpause =>
    simp only [unpause, setPaused, Outcome.bind_eq_ok, Except.ok.injEq] at h
    obtain ⟨⟨_, _, rfl⟩, rfl⟩ := h
    exact ⟨⟨rfl, rfl, rfl, rfl, rfl, rfl⟩, rfl⟩
  case migrate =>
    simp only [migrate, Outcome.bind_eq_ok] at h
    obtain ⟨⟨_, _, h⟩, rfl⟩ := h
    split at h
    · cases h
      exact ⟨⟨rfl, rfl, rfl, rfl, rfl, rfl⟩, rfl⟩
    · cases h
      exact ⟨⟨rfl, rfl, rfl, rfl, rfl, rfl⟩, rfl⟩
  case registerIssuer issuer =>
    simp only [registerIssuer, Outcome.bind_eq_ok, Except.ok.injEq] at h
    obtain ⟨⟨_, _, rfl⟩, rfl⟩ := h
    split <;> exact ⟨⟨rfl, rfl, rfl, rfl, rfl, rfl⟩, rfl⟩
  case deregisterIssuer issuer =>
    simp only [deregisterIssuer, Outcome.bind_eq_ok, Except.ok.injEq] at h
    obtain ⟨⟨_, _, rfl⟩, rfl⟩ := h
    exact ⟨⟨rfl, rfl, rfl, rfl, rfl, rfl⟩, rfl⟩
  case setIssuerTier admin issuer weightBps =>
    simp only [setIssuerTier, Outcome.bind_eq_ok, Except.ok.injEq] at h
    obtain ⟨⟨_, _, _, _, _, _, _, _, rfl⟩, rfl⟩ := h
    exact ⟨⟨rfl, rfl, rfl, rfl, rfl, rfl⟩, rfl⟩
  case proposeNewAdmin newAdmin =>
    simp only [proposeNewAdmin, Outcome.bind_eq_ok, Except.ok.injEq] at h
    obtain ⟨⟨_, _, _, _, rfl⟩, rfl⟩ := h
    exact ⟨⟨rfl, rfl, rfl, rfl, rfl, rfl⟩, rfl⟩
  case acceptAdmin newAdmin =>
    simp only [acceptAdmin, Outcome.bind_eq_ok, Except.ok.injEq] at h
    obtain ⟨⟨_, _, _, _, _, _, _, _, rfl⟩, rfl⟩ := h
    exact ⟨⟨rfl, rfl, rfl, rfl, rfl, rfl⟩, rfl⟩
  case maintainStorage =>
    simp only [maintainStorage, Outcome.bind_eq_ok, Except.ok.injEq] at h
    obtain ⟨⟨_, _, _, _, rfl⟩, rfl⟩ := h
    exact ⟨⟨rfl, rfl, rfl, rfl, rfl, rfl⟩, rfl⟩
  all_goals cases hcall

/-! ## One call -/

/-- What a successful call does: it links a registry that answered a probe and accepted this
contract, or keeps the link, the rest of the ledger, and every subject but those it is about. -/
inductive Effect (host : Host κ) (env : Env) (status : BytesN 32 → Bool) (s : State) (world : κ) :
    Call → State → κ → Prop
  | registryLinked {registryId admin : Address} {world' : κ} (hadmin : s.admin = some admin)
      (hauth : env.Authorized admin) (hvalid : validateRevocationRegistryRef host registryId world = true)
      (hlinked : host.setIdentityOracle world registryId env.currentContract = some world') :
      Effect host env status s world (.setRevocationRegistry registryId)
        { s with revocationRegistryId := some registryId } world'
  | subjects {call : Call} {s' : State} (hcall : ∀ registryId, call ≠ .setRevocationRegistry registryId)
      (heffects : SubjectEffects env status call s s') : Effect host env status s world call s' world

/-- A successful call has one of these effects. -/
theorem exec_effect (hsees : Sees host world s status)
    (h : exec host env call s world = .ok (s', world')) : Effect host env status s world call s' world' := by
  by_cases hadministers : call.administers = true
  · obtain ⟨hsame, rfl⟩ := exec_administered hadministers h
    refine .subjects ?_ (.none ?_ hsame.revocationRegistryId hsame.slice)
    · rintro _ rfl
      cases hadministers
    · rintro _ _ _ rfl
      cases hadministers
  cases call <;> simp only [exec, alone_eq_ok, Outcome.map_snd_eq_ok] at h
  case setRevocationRegistry registryId =>
    obtain ⟨⟨admin, hadmin, hauth⟩, hvalid, hlinked, rfl⟩ := setRevocationRegistry_spec h
    exact .registryLinked hadmin hauth hvalid hlinked
  all_goals
    obtain ⟨h, rfl⟩ := h
    refine .subjects (by simp) ?_
  case anchorVc issuer subject vcHash => exact anchorVcTyped_effects hsees h rfl
  case anchorVcTyped issuer subject vcHash credentialType => exact anchorVcTyped_effects hsees h rfl
  case markVcRevoked issuer subject vcHash => exact markVcRevoked_effects hsees h
  case deactivateDid subject =>
    obtain ⟨hauth, revokedCount, deactivated, hcore, rfl⟩ := deactivateDid_spec h
    have heffects : SubjectEffects env status (.deactivateDid subject) s deactivated :=
      deactivateCore_effects hcore rfl hauth
    exact ⟨heffects.link, heffects.slice⟩
  case deactivateIdentity subject =>
    obtain ⟨revokedCount, h⟩ := h
    obtain ⟨hauth, hcore⟩ := deactivateIdentity_spec h
    exact deactivateCore_effects hcore rfl hauth
  case reactivateIdentity subject =>
    obtain ⟨hauth, rfl⟩ := reactivateIdentity_spec h
    refine .about subject rfl ?_ fun x hx => ?_
    · have heffect : SliceEffect env status subject (s.slice subject) _ _ := .reactivated hauth
      simpa only [State.slice, anchorsOf, isDeactivated, Storage.set_self, Storage.remove_self,
        Option.getD_none] using heffect
    · exact .elsewhere (by simp) rfl rfl (Storage.remove_of_ne _ hx) (Storage.set_of_ne _ _ hx)
  case anchorDid subject didDocCid =>
    obtain ⟨hauth, protocolStats, rfl⟩ := anchorDid_spec h
    refine .about subject rfl ?_ fun x hx => ?_
    · have heffect : SliceEffect env status subject (s.slice subject) (.anchorDid subject didDocCid) _ :=
        .didAnchored hauth
      simpa only [State.slice, anchorsOf, isDeactivated, Storage.set_self] using heffect
    · exact .elsewhere (by simp) rfl rfl rfl (Storage.set_of_ne _ _ hx)
  case getActiveVcCount subject =>
    obtain ⟨count, h⟩ := h
    exact getActiveVcCount_effects hsees h
  all_goals exact absurd rfl hadministers

/-! ## One record for each issuer and hash -/

/-- No two records have the same issuer and hash. -/
def Distinct (records : List IdentityVCRecord) : Prop :=
  (records.map fun record => (record.issuer, record.vcHash)).Nodup

/-- An issuer's record of a hash is the only one. -/
theorem Distinct.eq {records : List IdentityVCRecord} (h : Distinct records)
    {record record' : IdentityVCRecord} (hmem : record ∈ records) (hmem' : record' ∈ records)
    (hissuer : record'.issuer = record.issuer) (hhash : record'.vcHash = record.vcHash) : record' = record :=
  List.inj_on_of_nodup_map h hmem' hmem (Prod.ext hissuer hhash)

/-- Marking records keeps their issuers and hashes. -/
theorem Distinct.map_marked {records : List IdentityVCRecord} {mark : IdentityVCRecord → IdentityVCRecord}
    (h : Distinct records) (hissuer : ∀ record, (mark record).issuer = record.issuer)
    (hhash : ∀ record, (mark record).vcHash = record.vcHash) : Distinct (records.map mark) := by
  have hkeys : ((fun record : IdentityVCRecord => (record.issuer, record.vcHash)) ∘ mark) =
      fun record => (record.issuer, record.vcHash) := by
    funext record
    simp only [Function.comp_apply, hissuer, hhash]
  rw [Distinct, List.map_map, hkeys]
  exact h

/-- A revocation keeps the issuers and hashes of all records. -/
theorem Distinct.markRecords {records : List IdentityVCRecord} (h : Distinct records) (issuer : Address)
    (vcHash : BytesN 32) : Distinct (markRecords issuer vcHash records) := by
  refine h.map_marked ?_ ?_
  · intro record
    split <;> rfl
  · intro record
    split <;> rfl

/-- A new record is distinct from those of other issuers or hashes. -/
theorem Distinct.append_anchorRecord {records : List IdentityVCRecord} {issuer : Address} {vcHash : BytesN 32}
    (h : Distinct records) (hnew : ∀ record ∈ records, ¬IsAnchor issuer vcHash record) :
    Distinct (records ++ [anchorRecord env issuer vcHash]) := by
  rw [Distinct, List.map_append, List.nodup_append]
  refine ⟨h, by simp, ?_⟩
  rintro _ hmem _ hlast rfl
  obtain ⟨record, hrecord, hkey⟩ := List.mem_map.mp hmem
  rw [List.map_singleton, List.mem_singleton] at hlast
  rw [hlast] at hkey
  exact hnew record hrecord ⟨(Prod.mk.inj hkey).2, (Prod.mk.inj hkey).1⟩

/-- Every call keeps an issuer's records of a hash distinct. -/
theorem SliceEffect.distinct {b a : Slice} (heffect : SliceEffect env status x b call a)
    (h : Distinct b.anchors) : Distinct a.anchors := by
  cases heffect with
  | anchored hcall hauth hnew => exact h.append_anchorRecord hnew
  | revoked => exact h.markRecords _ _
  | deactivated => exact h.map_marked (fun _ => rfl) (fun _ => rfl)
  | _ => exact h

/-- A record is only changed by a revocation of its issuer or a deactivation of its subject. -/
theorem SliceEffect.record_cases {b a : Slice} (heffect : SliceEffect env status x b call a)
    (hdistinct : Distinct b.anchors) {record record' : IdentityVCRecord} (hmem : record ∈ b.anchors)
    (hmem' : record' ∈ a.anchors) (hissuer : record'.issuer = record.issuer)
    (hhash : record'.vcHash = record.vcHash) :
    record' = record ∨
    (call = .markVcRevoked record.issuer x record.vcHash ∧ env.Authorized record.issuer) ∨
    (call.deactivation = some x ∧ env.Authorized x) := by
  cases heffect with
  | @anchored _ issuer vcHash hcall hauth hnew =>
    rcases List.mem_append.mp hmem' with hold | hadded
    · exact Or.inl (hdistinct.eq hmem hold hissuer hhash)
    · rw [List.mem_singleton.mp hadded] at hissuer hhash
      exact (hnew record hmem ⟨hhash.symm, hissuer.symm⟩).elim
  | @revoked issuer vcHash hauth htransition hpositive =>
    obtain ⟨before, hbefore, rfl⟩ := List.mem_map.mp hmem'
    by_cases hanchor : IsAnchor issuer vcHash before
    · rw [if_pos hanchor] at hissuer hhash
      obtain rfl : issuer = record.issuer := hanchor.2.symm.trans hissuer
      obtain rfl : vcHash = record.vcHash := hanchor.1.symm.trans hhash
      exact Or.inr (Or.inl ⟨rfl, hauth⟩)
    · rw [if_neg hanchor] at hissuer hhash ⊢
      exact Or.inl (hdistinct.eq hmem hbefore hissuer hhash)
  | deactivated hcall hauth => exact Or.inr (Or.inr ⟨hcall, hauth⟩)
  | _ => exact Or.inl (hdistinct.eq hmem hmem' hissuer hhash)

/-- A call keeps a record of every issuer and hash that had one. -/
theorem SliceEffect.exists_kept {b a : Slice} (heffect : SliceEffect env status x b call a)
    {record : IdentityVCRecord} (hmem : record ∈ b.anchors) :
    ∃ record' ∈ a.anchors, IsAnchor record.issuer record.vcHash record' := by
  cases heffect with
  | anchored => exact ⟨record, List.mem_append_left _ hmem, rfl, rfl⟩
  | revoked =>
    refine ⟨_, List.mem_map_of_mem hmem, ?_⟩
    split <;> exact ⟨rfl, rfl⟩
  | deactivated => exact ⟨_, List.mem_map_of_mem hmem, rfl, rfl⟩
  | _ => exact ⟨record, hmem, rfl, rfl⟩

/-- The ledger of the last change is kept or is the current one. -/
theorem SliceEffect.lastChange_cases {b a : Slice} (heffect : SliceEffect env status x b call a) :
    a.lastChange = b.lastChange ∨ a.lastChange = some env.ledger.sequence := by
  cases heffect with
  | remarked => exact Or.inl rfl
  | counted => exact Or.inl rfl
  | untouched => exact Or.inl rfl
  | _ => exact Or.inr rfl

end StellarDidCredit.IdentityOracle
