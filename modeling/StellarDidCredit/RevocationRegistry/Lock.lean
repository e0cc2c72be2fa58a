import StellarDidCredit.RevocationRegistry.Effects

/-!
# The re-entrancy lock

`revoke` takes the lock while it calls the identity oracle and releases it afterwards; a failed
call is rolled back. Between transactions the lock is free, so it never refuses a revocation.
-/

namespace StellarDidCredit.RevocationRegistry

variable {κ : Type} {host : Host κ} {env : Env} {call : Call} {s s' : State} {world world' : κ}
  {issuer : Address}

/-! ## The lock -/

/-- Claiming a hash does not touch the lock. -/
theorem claimVcIssuer_lock {vcHash : BytesN 32} (h : claimVcIssuer issuer vcHash s = .ok s') :
    s'.reentrancyLock = s.reentrancyLock := by
  obtain ⟨registeredVCIssuer, rfl⟩ := claimVcIssuer_writes h
  rfl

/-- Nor does the loop of `batch_revoke`. -/
theorem batchLoop_lock {vcHashes list list' : List (BytesN 32)} {modified modified' : Bool}
    (h : batchLoop issuer vcHashes (s, list, modified) = .ok (s', list', modified')) :
    s'.reentrancyLock = s.reentrancyLock := by
  obtain ⟨registeredVCIssuer, status, issuerOfVC, rfl⟩ := batchLoop_writes h
  rfl

/-- A call that finds the lock free leaves it free. -/
theorem exec_unlocked (h : exec host env call s world = .ok (s', world')) (hfree : s.reentrancyLock = none) :
    s'.reentrancyLock = none := by
  by_cases hcall : call.revocation = none
  · cases exec_administers hcall h <;> exact hfree
  cases call <;> simp only [exec, alone_eq_ok] at h
  case revoke issuer subject vcHash =>
    simp only [revoke, Outcome.bind_eq_ok, Except.ok.injEq, Prod.mk.injEq] at h
    obtain ⟨_, _, _, _, claimed, hclaim, ⟨forwarded, _⟩, hforward, rfl, rfl⟩ := h
    obtain ⟨_, hlists⟩ := listRevocation_spec issuer vcHash forwarded
    rw [hlists]
    unfold forwardRevocation at hforward
    split at hforward
    case h_1 =>
      simp only [exitGuard, Outcome.bind_eq_ok, Except.ok.injEq, Prod.mk.injEq] at hforward
      obtain ⟨_, _, _, _, rfl, -⟩ := hforward
      rfl
    case h_2 =>
      obtain ⟨rfl, -⟩ := Prod.mk.inj (Except.ok.inj hforward)
      have hkept := claimVcIssuer_lock hclaim
      exact hkept.trans hfree
  case batchRevoke issuer vcHashes =>
    obtain ⟨h, -⟩ := h
    simp only [batchRevoke, Outcome.bind_eq_ok] at h
    obtain ⟨_, _, _, _, _, _, ⟨looped, list, modified⟩, hloop, h⟩ := h
    have hlock := (batchLoop_lock hloop).trans hfree
    split at h
    · cases h
      exact hlock
    · cases h
      exact hlock
  all_goals exact absurd rfl hcall

/-- While the lock is free, an issuer revokes a hash exactly when nobody else registered it first and
the linked identity oracle accepts the revocation. -/
theorem revoke_succeeds_iff {subject : Address} {vcHash : BytesN 32} (hpaused : s.paused.getD false = false)
    (hauth : env.Authorized issuer) (hfree : s.reentrancyLock = none) :
    (∃ after, revoke host env issuer subject vcHash s world = .ok after) ↔
      (∀ existing, s.registeredVCIssuer vcHash = some existing → existing = issuer) ∧
      ∀ identityOracleId, s.identityOracleId = some identityOracleId →
        ∃ world', host.markVcRevoked world identityOracleId issuer subject vcHash = .ok world' := by
  constructor
  · rintro ⟨⟨s', world'⟩, h⟩
    obtain ⟨-, hrevokes, htold⟩ := revoke_spec h
    refine ⟨hrevokes.allowed vcHash (List.mem_singleton_self _), ?_⟩
    intro identityOracleId hlinked
    rcases htold with ⟨hnone, -⟩ | ⟨linked, hlinked', hmark⟩
    · cases hlinked.symm.trans hnone
    · obtain rfl := Option.some.inj (hlinked.symm.trans hlinked')
      exact ⟨world', hmark⟩
  · rintro ⟨hallowed, haccepts⟩
    have hclaim : ∃ claimed, claimVcIssuer issuer vcHash s = .ok claimed := by
      unfold claimVcIssuer
      cases hregistered : s.registeredVCIssuer vcHash with
      | none => exact ⟨_, rfl⟩
      | some existing =>
        refine ⟨s, ?_⟩
        simp only [hallowed existing hregistered, Outcome.require, if_true]
        rfl
    obtain ⟨claimed, hclaim⟩ := hclaim
    have hkept := claimVcIssuer_lock hclaim
    have hlock : (markRevoked issuer vcHash claimed).reentrancyLock = none := hkept.trans hfree
    have hlinked : (markRevoked issuer vcHash claimed).identityOracleId = s.identityOracleId :=
      (Revokes.claim hclaim).identityOracleId
    have hforward : ∃ after, forwardRevocation host issuer subject vcHash (markRevoked issuer vcHash claimed)
        world = .ok after := by
      unfold forwardRevocation
      rw [hlinked]
      cases hidentity : s.identityOracleId with
      | none => exact ⟨_, rfl⟩
      | some identityOracleId =>
        obtain ⟨world', hmark⟩ := haccepts identityOracleId hidentity
        simp only [enterGuard, hlock, hmark]
        exact ⟨_, rfl⟩
    obtain ⟨⟨forwarded, world'⟩, hforward⟩ := hforward
    refine ⟨(listRevocation issuer vcHash forwarded, world'), ?_⟩
    simp only [revoke, Outcome.bind_eq_ok, ensureNotPaused_eq_ok, requireAuth_eq_ok]
    exact ⟨(), hpaused, (), hauth, claimed, hclaim, (forwarded, world'), hforward, rfl⟩

end StellarDidCredit.RevocationRegistry
