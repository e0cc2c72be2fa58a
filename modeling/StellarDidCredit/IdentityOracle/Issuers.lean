import StellarDidCredit.Lib.FlagIndex
import StellarDidCredit.IdentityOracle.Records

/-!
# The issuers

A registration appends the issuer to the index unless it is trusted, and a deregistration
rebuilds the index from the flags. In every run the index is the list of the issuers of which
the latest registration or deregistration was a registration, and these are the ones that may
anchor credentials.
-/

namespace StellarDidCredit.IdentityOracle

variable {κ : Type} {host : Host κ} {env : Env} {call : Call} {s s' : State} {world : κ}
  {issuer subject : Address} {vcHash : BytesN 32} {credentialType : CredentialType}

/-- The trusted issuers and their index. -/
def State.issuers (s : State) : FlagIndex Address := ⟨s.trustedIssuer, s.issuersIndex.getD []⟩

/-- What a call says about an issuer. -/
def Call.issuerOp : Call → Option (RegistryOp Address)
  | .registerIssuer issuer => some ⟨issuer, true⟩
  | .deregisterIssuer issuer => some ⟨issuer, false⟩
  | _ => none

/-- An anchoring says nothing about issuers. -/
theorem Call.issuerOp_of_anchoring (h : call.anchoring = some (issuer, subject, vcHash)) :
    call.issuerOp = none := by
  cases call <;> first | rfl | cases h

/-- A deactivation says nothing about issuers. -/
theorem Call.issuerOp_of_deactivation (h : call.deactivation = some subject) : call.issuerOp = none := by
  cases call <;> first | rfl | cases h

/-- Every call keeps the index of issuers compacted. -/
theorem Writes.issuers (hwrites : Writes env s call s') : s'.issuers = s.issuers.compacted call.issuerOp := by
  cases hwrites with
  | issuerKept hadmin hauth htrusted =>
    exact (FlagIndex.compacted_of_flagged (r := s.issuers) htrusted).symm
  | issuerListed hadmin hauth htrusted =>
    exact (FlagIndex.compacted_of_not_flagged (r := s.issuers) htrusted).symm
  | vcKept hcall => rw [Call.issuerOp_of_anchoring hcall, FlagIndex.compacted]
  | vcAnchored hcall =>
    rw [Call.issuerOp_of_anchoring hcall, FlagIndex.compacted]
    rfl
  | deactivated hcall =>
    rw [Call.issuerOp_of_deactivation hcall, FlagIndex.compacted]
    rfl
  | _ => rfl

/-! ## The check of an anchoring -/

/-- The status of a record is read, or the read traps. -/
theorem onlyTraps_isRecordRevoked (record : IdentityVCRecord) :
    Outcome.OnlyTraps (isRecordRevoked host world s record) := by
  unfold isRecordRevoked
  split
  · exact Outcome.onlyTraps_ok _
  · split
    · exact Outcome.onlyTraps_okOr _
    · exact Outcome.onlyTraps_ok _

/-- So are the active records. -/
theorem onlyTraps_activeRecords (records : List IdentityVCRecord) :
    Outcome.OnlyTraps (activeRecords host world s records) :=
  Outcome.onlyTraps_filterE (fun record => (onlyTraps_isRecordRevoked record).bind fun _ =>
    Outcome.onlyTraps_ok _) records

/-- So is the count patched. -/
theorem onlyTraps_addActiveVcCount (revoked : Bool) :
    Outcome.OnlyTraps (addActiveVcCount host world subject revoked s) := by
  unfold addActiveVcCount
  split
  · split
    · exact Outcome.onlyTraps_ok _
    · exact (Outcome.onlyTraps_okOr _).bind fun _ => Outcome.onlyTraps_ok _
  · refine Outcome.OnlyTraps.bind ?_ fun _ => Outcome.onlyTraps_ok _
    exact ((onlyTraps_activeRecords _).bind fun _ => Outcome.onlyTraps_ok _).bind fun _ =>
      Outcome.onlyTraps_ok _

/-- Of an unpaused contract and a call that the issuer authorised, the check is passed exactly by
the issuers that are listed. -/
theorem anchorVcTyped_refused_iff (hpaused : s.paused.getD false = false) (hauth : env.Authorized issuer) :
    anchorVcTyped host env issuer subject vcHash credentialType s world =
      .error (.error .issuerNotRegistered) ↔ ¬isTrustedIssuer s issuer = true := by
  have hunpaused : ensureNotPaused s = .ok () := ensureNotPaused_eq_ok.mpr hpaused
  have hsigned : (requireAuth env issuer : Outcome Error Unit) = .ok () := requireAuth_eq_ok.mpr hauth
  unfold anchorVcTyped
  rw [hunpaused, hsigned]
  refine Outcome.require_bind_eq_error_iff ?_
  split
  · exact (Outcome.onlyTraps_ok s).avoids _
  · refine ((onlyTraps_activeRecords _).avoids _).bind fun active => ?_
    refine (Outcome.avoids_require (by simp)).bind fun _ => ?_
    refine ((onlyTraps_isRecordRevoked _).avoids _).bind fun revoked => ?_
    refine ((onlyTraps_addActiveVcCount revoked).avoids _).bind fun counted => ?_
    exact ((Outcome.onlyTraps_okOr _).bind fun _ => Outcome.onlyTraps_ok _).avoids _

/-! ## Every run -/

/-- In every run the listed issuers, and the whole index, are without repetitions the issuers of
which the latest operation was a registration, and an anchoring is refused exactly to the others. -/
theorem issuer_registry {history : List Move} {final : State} (hrun : Run (StepOf next) {} history final) :
    (listIssuers final).Nodup ∧
    (∀ issuer, issuer ∈ listIssuers final ↔ Registered (registryLog (·.call.issuerOp) history) issuer) ∧
    (final.issuersIndex.getD []).Nodup ∧ final.issuersIndex.getD [] = listIssuers final ∧
    (∀ (κ : Type) (host : Host κ) env issuer subject vcHash credentialType world,
      final.paused.getD false = false → env.Authorized issuer →
      (anchorVcTyped host env issuer subject vcHash credentialType final world =
        .error (.error .issuerNotRegistered) ↔ issuer ∉ listIssuers final)) ∧
    ∀ (κ : Type) (host : Host κ) env issuer subject vcHash credentialType world after,
      anchorVcTyped host env issuer subject vcHash credentialType final world = .ok after →
      issuer ∈ listIssuers final := by
  obtain ⟨hreflects, htight⟩ := hrun.compacted State.issuers rfl
    fun _ _ _ hstep => (writes_of_next hstep).issuers
  have hlisted (issuer : Address) : isTrustedIssuer final issuer = true ↔ issuer ∈ listIssuers final :=
    (hreflects.flagged_iff issuer).trans hreflects.mem_listed.symm
  refine ⟨hreflects.nodup_listed, fun issuer => hreflects.mem_listed, hreflects.nodup,
    htight.listed_eq.symm, ?_, ?_⟩
  · intro κ host env issuer subject vcHash credentialType world hpaused hauth
    rw [anchorVcTyped_refused_iff hpaused hauth, hlisted]
  · intro κ host env issuer subject vcHash credentialType world after h
    obtain ⟨status, hsees⟩ := exists_sees host world final
    exact (hlisted issuer).mp (anchorVcTyped_spec hsees h).2.1

/-- An issuer is registered twice, deregistered and registered again, and another one is deregistered
that never was registered. -/
def sampleIssuers : List Event :=
  [ sampleEvent 0 (.initializeContract (.account 1)),
    sampleEvent 1 (.registerIssuer (.account 2)),
    sampleEvent 2 (.registerIssuer (.account 2)),
    sampleEvent 3 (.deregisterIssuer (.account 2)),
    sampleEvent 4 (.deregisterIssuer (.account 4)),
    sampleEvent 5 (.registerIssuer (.account 2)) ]

/-- An issuer that stays, and one that is taken off the list. -/
theorem issuer_registry_sample : ∃ history final, Run (StepOf next) {} history final ∧
    listIssuers final = [.account 2] ∧ final.issuersIndex.getD [] = listIssuers final ∧
    Registered (registryLog (·.call.issuerOp) history) (.account 2) ∧
    ¬Registered (registryLog (·.call.issuerOp) history) (.account 4) := by
  obtain ⟨history, final, hrun, hlisted⟩ := Run.exists_of_replay
    (show (replay next {} sampleIssuers).map (fun r => listIssuers r.2) = some [.account 2] from rfl)
  obtain ⟨-, hmem, -, hindex, -⟩ := issuer_registry hrun
  have hfirst : Address.account 2 ∈ listIssuers final := by simp [hlisted]
  have hsecond : Address.account 4 ∉ listIssuers final := by simp [hlisted]
  exact ⟨history, final, hrun, hlisted, hindex, (hmem _).mp hfirst, fun h => hsecond ((hmem _).mpr h)⟩

end StellarDidCredit.IdentityOracle
