import StellarDidCredit.RevocationRegistry.Model

/-!
# What a registry call can do

The two revocation entry points set the flags of their hashes and register the new ones to
the caller; the others touch no flag. A flag is set exactly for the registered hashes, so the
first address that revokes a hash is the only one that can ever revoke it.
-/

namespace StellarDidCredit.RevocationRegistry

variable {κ : Type} {host : Host κ} {env : Env} {call : Call} {s s' : State} {world world' : κ}
  {issuer : Address}

/-- The contract is not paused. -/
@[simp] theorem ensureNotPaused_eq_ok {u : Unit} :
    ensureNotPaused s = .ok u ↔ s.paused.getD false = false :=
  Outcome.require_eq_ok

/-- The returned address is the stored admin, which has authorised the call. -/
@[simp] theorem requireAdmin_eq_ok {admin : Address} :
    requireAdmin env s = .ok admin ↔ s.admin = some admin ∧ env.Authorized admin := by
  simp only [requireAdmin, Outcome.bind_eq_ok, Outcome.okOr_eq_ok, requireAuth_eq_ok, Except.ok.injEq]
  constructor
  · rintro ⟨_, hadmin, _, hauth, rfl⟩
    exact ⟨hadmin, hauth⟩
  · rintro ⟨hadmin, hauth⟩
    exact ⟨admin, hadmin, (), hauth, rfl⟩

/-- A call that stays inside the contract leaves the rest of the ledger alone. -/
@[simp] theorem alone_eq_ok {result : Outcome Error State} :
    alone result world = .ok (s', world') ↔ result = .ok s' ∧ world' = world :=
  Outcome.bind_pair_eq_ok

/-! ## Revocations -/

/-- The issuer and the hashes of a revocation. -/
def Call.revocation : Call → Option (Address × List (BytesN 32))
  | .revoke issuer _ vcHash => some (issuer, [vcHash])
  | .batchRevoke issuer vcHashes => some (issuer, vcHashes)
  | _ => none

/-- The issuer revoked the hashes: each was unregistered or its own, and is its own now. -/
structure Revokes (issuer : Address) (vcHashes : List (BytesN 32)) (s s' : State) : Prop where
  allowed : ∀ vcHash ∈ vcHashes, ∀ existing, s.registeredVCIssuer vcHash = some existing →
    existing = issuer
  registered : ∀ vcHash, s'.registeredVCIssuer vcHash =
    if vcHash ∈ vcHashes then some issuer else s.registeredVCIssuer vcHash
  status : ∀ vcHash, s'.status vcHash = if vcHash ∈ vcHashes then some true else s.status vcHash
  identityOracleId : s'.identityOracleId = s.identityOracleId

/-- Revoking nothing. -/
theorem Revokes.nil : Revokes issuer [] s s := by
  constructor <;> simp

/-- Entries that revocations do not read may change afterwards. -/
theorem Revokes.congr {vcHashes : List (BytesN 32)} {s'' : State} (h : Revokes issuer vcHashes s s')
    (hregistered : s''.registeredVCIssuer = s'.registeredVCIssuer) (hstatus : s''.status = s'.status)
    (hidentity : s''.identityOracleId = s'.identityOracleId) : Revokes issuer vcHashes s s'' :=
  ⟨h.allowed, hregistered ▸ h.registered, hstatus ▸ h.status, hidentity.trans h.identityOracleId⟩

/-- Claiming and marking one hash revokes it. -/
theorem Revokes.claim {vcHash : BytesN 32} (h : claimVcIssuer issuer vcHash s = .ok s') :
    Revokes issuer [vcHash] s (markRevoked issuer vcHash s') := by
  unfold claimVcIssuer at h
  split at h
  case h_1 existing hexisting =>
    simp only [Outcome.bind_eq_ok, Outcome.require_eq_ok, Except.ok.injEq] at h
    obtain ⟨_, rfl, rfl⟩ := h
    constructor
    case allowed =>
      intro other hother found hfound
      rw [List.mem_singleton.mp hother, hexisting] at hfound
      exact (Option.some.inj hfound).symm
    case registered =>
      intro other
      by_cases hother : other = vcHash
      · simp [markRevoked, hother, hexisting]
      · simp [markRevoked, hother]
    case status =>
      intro other
      simp [markRevoked, Storage.set_apply]
    case identityOracleId => rfl
  case h_2 hnone =>
    cases h
    constructor
    case allowed =>
      intro other hother found hfound
      rw [List.mem_singleton.mp hother, hnone] at hfound
      cases hfound
    case registered =>
      intro other
      simp [markRevoked, Storage.set_apply]
    case status =>
      intro other
      simp [markRevoked, Storage.set_apply]
    case identityOracleId => rfl

/-- One revocation after another. -/
theorem Revokes.append {first second : List (BytesN 32)} {s'' : State} (hfirst : Revokes issuer first s s')
    (hsecond : Revokes issuer second s' s'') : Revokes issuer (first ++ second) s s'' := by
  constructor
  case allowed =>
    intro vcHash hmem existing hexisting
    rcases List.mem_append.mp hmem with hmem | hmem
    · exact hfirst.allowed vcHash hmem existing hexisting
    · by_cases hagain : vcHash ∈ first
      · exact hfirst.allowed vcHash hagain existing hexisting
      · refine hsecond.allowed vcHash hmem existing ?_
        rw [hfirst.registered, if_neg hagain, hexisting]
  case registered =>
    intro vcHash
    rw [hsecond.registered, hfirst.registered]
    by_cases hone : vcHash ∈ first <;> by_cases htwo : vcHash ∈ second <;> simp [hone, htwo]
  case status =>
    intro vcHash
    rw [hsecond.status, hfirst.status]
    by_cases hone : vcHash ∈ first <;> by_cases htwo : vcHash ∈ second <;> simp [hone, htwo]
  case identityOracleId => exact hsecond.identityOracleId.trans hfirst.identityOracleId

/-- The loop of `batch_revoke` revokes its hashes, in order. -/
theorem batchLoop_spec {vcHashes list list' : List (BytesN 32)} {modified modified' : Bool}
    (h : batchLoop issuer vcHashes (s, list, modified) = .ok (s', list', modified')) :
    Revokes issuer vcHashes s s' := by
  induction vcHashes generalizing s list modified with
  | nil =>
    obtain ⟨rfl, -⟩ := Prod.mk.inj (Except.ok.inj h)
    exact .nil
  | cons vcHash rest ih =>
    simp only [batchLoop, Outcome.bind_eq_ok] at h
    obtain ⟨claimed, hclaim, h⟩ := h
    have hrest : Revokes issuer rest (markRevoked issuer vcHash claimed) s' := by
      split at h <;> exact ih h
    exact (Revokes.claim hclaim).append hrest

/-- Claiming a hash writes the registration only. -/
theorem claimVcIssuer_writes {vcHash : BytesN 32} (h : claimVcIssuer issuer vcHash s = .ok s') :
    ∃ registeredVCIssuer, s' = { s with registeredVCIssuer } := by
  unfold claimVcIssuer at h
  split at h
  · simp only [Outcome.bind_eq_ok, Except.ok.injEq] at h
    obtain ⟨_, _, rfl⟩ := h
    exact ⟨_, rfl⟩
  · cases h
    exact ⟨_, rfl⟩

/-- The loop of `batch_revoke` writes registrations, flags and issuers of record only. -/
theorem batchLoop_writes {vcHashes list list' : List (BytesN 32)} {modified modified' : Bool}
    (h : batchLoop issuer vcHashes (s, list, modified) = .ok (s', list', modified')) :
    ∃ registeredVCIssuer status issuerOfVC, s' = { s with registeredVCIssuer, status, issuerOfVC } := by
  induction vcHashes generalizing s list modified with
  | nil =>
    obtain ⟨rfl, -⟩ := Prod.mk.inj (Except.ok.inj h)
    exact ⟨_, _, _, rfl⟩
  | cons vcHash rest ih =>
    simp only [batchLoop, Outcome.bind_eq_ok] at h
    obtain ⟨claimed, hclaim, h⟩ := h
    obtain ⟨registeredVCIssuer, rfl⟩ := claimVcIssuer_writes hclaim
    have hrest : ∃ list modified, batchLoop issuer rest
        (markRevoked issuer vcHash { s with registeredVCIssuer }, list, modified) =
          .ok (s', list', modified') := by
      split at h <;> exact ⟨_, _, h⟩
    obtain ⟨_, _, hrest⟩ := hrest
    obtain ⟨registered, status, issuerOfVC, rfl⟩ := ih hrest
    exact ⟨registered, status, issuerOfVC, rfl⟩

/-- The identity oracle was told, when one is linked. -/
theorem forwardRevocation_spec {subject : Address} {vcHash : BytesN 32}
    (h : forwardRevocation host issuer subject vcHash s world = .ok (s', world')) :
    (∃ lock, s' = { s with reentrancyLock := lock }) ∧
      ((s.identityOracleId = none ∧ world' = world) ∨ ∃ identityOracleId,
        s.identityOracleId = some identityOracleId ∧
        host.markVcRevoked world identityOracleId issuer subject vcHash = .ok world') := by
  unfold forwardRevocation at h
  split at h
  case h_1 identityOracleId hlinked =>
    simp only [enterGuard, exitGuard, Outcome.bind_eq_ok, Outcome.require_eq_ok, Outcome.passOn_eq_ok,
      Except.ok.injEq, Prod.mk.injEq] at h
    obtain ⟨_, ⟨_, _, rfl⟩, _, hmark, rfl, rfl⟩ := h
    exact ⟨⟨none, rfl⟩, Or.inr ⟨identityOracleId, hlinked, hmark⟩⟩
  case h_2 hlinked =>
    obtain ⟨rfl, rfl⟩ := Prod.mk.inj (Except.ok.inj h)
    exact ⟨⟨s.reentrancyLock, rfl⟩, Or.inl ⟨hlinked, rfl⟩⟩

/-- Listing a hash only writes the issuer's list. -/
theorem listRevocation_spec (issuer : Address) (vcHash : BytesN 32) (s : State) :
    ∃ issuerRevokedList, listRevocation issuer vcHash s = { s with issuerRevokedList } := by
  by_cases hmem : vcHash ∈ listRevokedForIssuer s issuer
  · exact ⟨_, if_pos hmem⟩
  · exact ⟨_, if_neg hmem⟩

/-- A hash is revoked by its issuer, and the linked identity oracle has marked it. -/
theorem revoke_spec {subject : Address} {vcHash : BytesN 32}
    (h : revoke host env issuer subject vcHash s world = .ok (s', world')) :
    env.Authorized issuer ∧ Revokes issuer [vcHash] s s' ∧
      ((s.identityOracleId = none ∧ world' = world) ∨ ∃ identityOracleId,
        s.identityOracleId = some identityOracleId ∧
        host.markVcRevoked world identityOracleId issuer subject vcHash = .ok world') := by
  simp only [revoke, Outcome.bind_eq_ok, requireAuth_eq_ok, Except.ok.injEq, Prod.mk.injEq] at h
  obtain ⟨_, _, _, hauth, claimed, hclaim, ⟨forwarded, _⟩, hforward, rfl, rfl⟩ := h
  have hrevokes := Revokes.claim hclaim
  obtain ⟨⟨lock, rfl⟩, htold⟩ := forwardRevocation_spec hforward
  rw [hrevokes.identityOracleId] at htold
  obtain ⟨lists, hlists⟩ := listRevocation_spec issuer vcHash
    { markRevoked issuer vcHash claimed with reentrancyLock := lock }
  rw [hlists]
  exact ⟨hauth, hrevokes.congr rfl rfl rfl, htold⟩

/-- The hashes of a batch are revoked by their issuer, whom nobody else is asked about. -/
theorem batchRevoke_spec {vcHashes : List (BytesN 32)} (h : batchRevoke env issuer vcHashes s = .ok s') :
    env.Authorized issuer ∧ Revokes issuer vcHashes s s' := by
  simp only [batchRevoke, Outcome.bind_eq_ok, requireAuth_eq_ok] at h
  obtain ⟨_, _, _, hauth, _, _, ⟨looped, list, modified⟩, hloop, h⟩ := h
  have hrevokes := batchLoop_spec hloop
  refine ⟨hauth, ?_⟩
  split at h
  · cases h
    exact hrevokes.congr rfl rfl rfl
  · cases h
    exact hrevokes

/-- A revocation needs a contract that is not paused, and writes its indexes and the lock only. -/
theorem exec_revocation {vcHashes : List (BytesN 32)} (hcall : call.revocation = some (issuer, vcHashes))
    (h : exec host env call s world = .ok (s', world')) :
    s.paused.getD false = false ∧
      ∃ registeredVCIssuer status issuerOfVC issuerRevokedList reentrancyLock,
        s' = { s with registeredVCIssuer, status, issuerOfVC, issuerRevokedList, reentrancyLock } := by
  cases call <;> simp only [exec, alone_eq_ok] at h
  case revoke issuer subject vcHash =>
    simp only [revoke, Outcome.bind_eq_ok, ensureNotPaused_eq_ok, Except.ok.injEq, Prod.mk.injEq] at h
    obtain ⟨_, hpaused, _, _, claimed, hclaim, ⟨forwarded, _⟩, hforward, rfl, rfl⟩ := h
    obtain ⟨registeredVCIssuer, rfl⟩ := claimVcIssuer_writes hclaim
    obtain ⟨⟨lock, rfl⟩, -⟩ := forwardRevocation_spec hforward
    obtain ⟨lists, hlists⟩ := listRevocation_spec issuer vcHash
      { markRevoked issuer vcHash { s with registeredVCIssuer } with reentrancyLock := lock }
    rw [hlists]
    exact ⟨hpaused, _, _, _, _, _, rfl⟩
  case batchRevoke issuer vcHashes =>
    obtain ⟨h, -⟩ := h
    simp only [batchRevoke, Outcome.bind_eq_ok, ensureNotPaused_eq_ok] at h
    obtain ⟨_, hpaused, _, _, _, _, ⟨looped, list, modified⟩, hloop, h⟩ := h
    obtain ⟨registeredVCIssuer, status, issuerOfVC, rfl⟩ := batchLoop_writes hloop
    split at h
    · cases h
      exact ⟨hpaused, _, _, _, _, _, rfl⟩
    · cases h
      exact ⟨hpaused, _, _, _, _, _, rfl⟩
  all_goals cases hcall

/-! ## Administration -/

/-- What the calls that revoke nothing write, with the gates they passed. -/
inductive Administers (env : Env) (s : State) : Call → State → Prop
  | initialized {admin : Address} (hadmin : s.admin = none) (hauth : env.Authorized admin) :
      Administers env s (.initializeContract admin)
        { s with admin := some admin, batchLimit := some maxBatchSize }
  | paused {admin : Address} (hadmin : s.admin = some admin) (hauth : env.Authorized admin) :
      Administers env s .pause { s with paused := some true }
  | unpaused {admin : Address} (hadmin : s.admin = some admin) (hauth : env.Authorized admin) :
      Administers env s .unpause { s with paused := some false }
  | batchLimitSet {admin : Address} {limit : ℕ} (hpaused : s.paused.getD false = false)
      (hadmin : s.admin = some admin) (hauth : env.Authorized admin)
      (hlimit : limit ≠ 0 ∧ limit ≤ maxBatchSize) :
      Administers env s (.setBatchLimit admin limit) { s with batchLimit := some limit }
  | identityLinked {admin identityOracleId : Address} (hpaused : s.paused.getD false = false)
      (hadmin : s.admin = some admin) (hauth : env.Authorized admin) :
      Administers env s (.setIdentityOracle identityOracleId)
        { s with identityOracleId := some identityOracleId }
  | adminProposed {admin newAdmin : Address} (hadmin : s.admin = some admin)
      (hauth : env.Authorized admin) :
      Administers env s (.proposeNewAdmin newAdmin) { s with pendingAdmin := some newAdmin }
  | adminAccepted {newAdmin : Address} (hpaused : s.paused.getD false = false)
      (hpending : s.pendingAdmin = some newAdmin) (hauth : env.Authorized newAdmin) :
      Administers env s (.acceptAdmin newAdmin)
        { s with admin := some newAdmin, pendingAdmin := none }
  | maintained {admin : Address} (hpaused : s.paused.getD false = false)
      (hadmin : s.admin = some admin) (hauth : env.Authorized admin) :
      Administers env s .maintainStorage s

/-- A successful call that revokes nothing is one of these. -/
theorem exec_administers (hcall : call.revocation = none)
    (h : exec host env call s world = .ok (s', world')) : Administers env s call s' := by
  cases call <;> simp only [exec, alone_eq_ok] at h
  case initializeContract admin =>
    simp only [initializeContract, Outcome.bind_eq_ok, Outcome.require_eq_ok, requireAuth_eq_ok,
      Except.ok.injEq] at h
    obtain ⟨⟨_, hadmin, _, hauth, rfl⟩, -⟩ := h
    exact .initialized hadmin hauth
  case pause =>
    simp only [pause, setPaused, Outcome.bind_eq_ok, requireAdmin_eq_ok, Except.ok.injEq] at h
    obtain ⟨⟨_, ⟨hadmin, hauth⟩, rfl⟩, -⟩ := h
    exact .paused hadmin hauth
  case unpause =>
    simp only [unpause, setPaused, Outcome.bind_eq_ok, requireAdmin_eq_ok, Except.ok.injEq] at h
    obtain ⟨⟨_, ⟨hadmin, hauth⟩, rfl⟩, -⟩ := h
    exact .unpaused hadmin hauth
  case setBatchLimit admin limit =>
    simp only [setBatchLimit, Outcome.bind_eq_ok, ensureNotPaused_eq_ok, requireAdmin_eq_ok,
      Outcome.require_eq_ok, Except.ok.injEq] at h
    obtain ⟨⟨_, hpaused, _, ⟨hadmin, hauth⟩, _, rfl, _, hlimit, rfl⟩, -⟩ := h
    exact .batchLimitSet hpaused hadmin hauth hlimit
  case setIdentityOracle identityOracleId =>
    simp only [setIdentityOracle, Outcome.bind_eq_ok, ensureNotPaused_eq_ok, requireAdmin_eq_ok,
      Except.ok.injEq] at h
    obtain ⟨⟨_, hpaused, _, ⟨hadmin, hauth⟩, rfl⟩, -⟩ := h
    exact .identityLinked hpaused hadmin hauth
  case proposeNewAdmin newAdmin =>
    simp only [proposeNewAdmin, Outcome.bind_eq_ok, requireAdmin_eq_ok, Except.ok.injEq] at h
    obtain ⟨⟨_, ⟨hadmin, hauth⟩, rfl⟩, -⟩ := h
    exact .adminProposed hadmin hauth
  case acceptAdmin newAdmin =>
    simp only [acceptAdmin, Outcome.bind_eq_ok, ensureNotPaused_eq_ok, Outcome.okOr_eq_ok,
      Outcome.require_eq_ok, requireAuth_eq_ok, Except.ok.injEq] at h
    obtain ⟨⟨_, hpaused, _, hpending, _, rfl, _, hauth, rfl⟩, -⟩ := h
    exact .adminAccepted hpaused hpending hauth
  case maintainStorage =>
    simp only [maintainStorage, Outcome.bind_eq_ok, ensureNotPaused_eq_ok, requireAdmin_eq_ok,
      Except.ok.injEq] at h
    obtain ⟨⟨_, hpaused, _, ⟨hadmin, hauth⟩, rfl⟩, -⟩ := h
    exact .maintained hpaused hadmin hauth
  case revoke => cases hcall
  case batchRevoke => cases hcall

/-! ## One call -/

/-- What a successful call does to the flags, the registrations and the linked identity oracle. -/
inductive Effect (env : Env) (s : State) : Call → State → Prop
  | revoked {call : Call} {issuer : Address} {vcHashes : List (BytesN 32)} {s' : State}
      (hcall : call.revocation = some (issuer, vcHashes)) (hauth : env.Authorized issuer)
      (hrevokes : Revokes issuer vcHashes s s') : Effect env s call s'
  | identityLinked {identityOracleId : Address} :
      Effect env s (.setIdentityOracle identityOracleId)
        { s with identityOracleId := some identityOracleId }
  | other {call : Call} {s' : State} (hcall : call.revocation = none)
      (hnotLinked : ∀ identityOracleId, call ≠ .setIdentityOracle identityOracleId)
      (hregistered : s'.registeredVCIssuer = s.registeredVCIssuer) (hstatus : s'.status = s.status)
      (hidentity : s'.identityOracleId = s.identityOracleId) : Effect env s call s'

/-- The admin links an identity oracle. -/
theorem setIdentityOracle_spec {identityOracleId : Address}
    (h : setIdentityOracle env identityOracleId s = .ok s') :
    (∃ admin, s.admin = some admin ∧ env.Authorized admin) ∧
      s' = { s with identityOracleId := some identityOracleId } := by
  simp only [setIdentityOracle, Outcome.bind_eq_ok, requireAdmin_eq_ok, Except.ok.injEq] at h
  obtain ⟨_, _, admin, hadmin, rfl⟩ := h
  exact ⟨⟨admin, hadmin⟩, rfl⟩

/-- A successful call has one of these effects. -/
theorem exec_effect (h : exec host env call s world = .ok (s', world')) : Effect env s call s' := by
  by_cases hcall : call.revocation = none
  · cases exec_administers hcall h with
    | identityLinked => exact .identityLinked
    | _ => exact .other rfl (by simp) rfl rfl rfl
  cases call <;> simp only [exec, alone_eq_ok] at h
  case revoke issuer subject vcHash =>
    obtain ⟨hauth, hrevokes, -⟩ := revoke_spec h
    exact .revoked rfl hauth hrevokes
  case batchRevoke issuer vcHashes =>
    obtain ⟨hauth, hrevokes⟩ := batchRevoke_spec h.1
    exact .revoked rfl hauth hrevokes
  all_goals exact absurd rfl hcall

/-- Nothing but `revoke` leaves the contract, and only towards a linked identity oracle. -/
theorem exec_world (h : exec host env call s world = .ok (s', world')) :
    (world' = world ∧ ∀ issuer subject vcHash, call = .revoke issuer subject vcHash →
      s.identityOracleId = none) ∨
    ∃ issuer subject vcHash identityOracleId,
      call = .revoke issuer subject vcHash ∧ s.identityOracleId = some identityOracleId ∧
      host.markVcRevoked world identityOracleId issuer subject vcHash = .ok world' := by
  cases call <;> simp only [exec, alone_eq_ok] at h
  case revoke issuer subject vcHash =>
    obtain ⟨-, -, ⟨hunlinked, rfl⟩ | ⟨identityOracleId, hlinked, hmark⟩⟩ := revoke_spec h
    · exact Or.inl ⟨rfl, fun _ _ _ _ => hunlinked⟩
    · exact Or.inr ⟨issuer, subject, vcHash, identityOracleId, rfl, hlinked, hmark⟩
  all_goals exact Or.inl ⟨h.2, by simp⟩

/-! ## Flags and registrations -/

/-- The hashes a call revokes. -/
def Call.revokedHashes (call : Call) : List (BytesN 32) := call.revocation.elim [] (·.2)

/-- After a call a hash is revoked if it was before or the call revokes it. -/
theorem Effect.isRevoked (h : Effect env s call s') (vcHash : BytesN 32) :
    isRevoked s' vcHash = (isRevoked s vcHash || decide (vcHash ∈ call.revokedHashes)) := by
  unfold RevocationRegistry.isRevoked Call.revokedHashes
  cases h with
  | @revoked _ _ vcHashes _ hcall hauth hrevokes =>
    rw [hrevokes.status, hcall]
    by_cases hmem : vcHash ∈ vcHashes <;> simp [hmem]
  | identityLinked => simp [Call.revocation]
  | other hcall hnotLinked hregistered hstatus => simp [hcall, hstatus]

/-- The revoked hashes are the registered ones. -/
def Consistent (s : State) : Prop := ∀ vcHash, isRevoked s vcHash = (s.registeredVCIssuer vcHash).isSome

/-- A revocation keeps flags and registrations consistent. -/
theorem Consistent.revoked {vcHashes : List (BytesN 32)} (h : Consistent s)
    (hrevokes : Revokes issuer vcHashes s s') : Consistent s' := by
  intro vcHash
  have hbefore := h vcHash
  unfold isRevoked at hbefore ⊢
  rw [hrevokes.status, hrevokes.registered]
  by_cases hmem : vcHash ∈ vcHashes
  · simp [hmem]
  · simpa only [if_neg hmem] using hbefore

/-- Calls keep flags and registrations consistent. -/
theorem Consistent.step (h : Consistent s) (heffect : Effect env s call s') : Consistent s' := by
  cases heffect with
  | revoked hcall hauth hrevokes => exact h.revoked hrevokes
  | identityLinked => exact h
  | other hcall hnotLinked hregistered hstatus =>
    unfold Consistent isRevoked
    rw [hstatus, hregistered]
    exact h

end StellarDidCredit.RevocationRegistry
