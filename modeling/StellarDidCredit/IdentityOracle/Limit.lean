import StellarDidCredit.IdentityOracle.Counts
import StellarDidCredit.IdentityOracle.Issuers

/-!
# The limit of active credentials

A subject has at most 100 active records, however many revoked ones. Anchoring alone can raise their
number, and it recounts them first: an anchoring of a new record that gets as far as the recount is
refused exactly when the limit is reached.
-/

namespace StellarDidCredit.IdentityOracle

variable {κ : Type} {host : Host κ} {env : Env} {call : Call} {s : State} {world : κ}
  {status status' : BytesN 32 → Bool} {x issuer subject : Address} {vcHash : BytesN 32} {b a : Slice}

/-! ## What does not raise the number -/

/-- More flags leave fewer records active. -/
theorem activeOf_length_anti (hstatus : ∀ vcHash, status vcHash = true → status' vcHash = true)
    (records : List IdentityVCRecord) :
    (activeOf status' records).length ≤ (activeOf status records).length := by
  rw [activeOf, activeOf, ← List.countP_eq_length_filter, ← List.countP_eq_length_filter]
  refine List.countP_mono_left fun record _ hactive => ?_
  simp only [isActive, Bool.and_eq_true, Bool.not_eq_true'] at hactive ⊢
  refine ⟨hactive.1, ?_⟩
  by_contra hflagged
  rw [Bool.not_eq_false] at hflagged
  exact absurd (hstatus _ hflagged) (Bool.eq_false_iff.mp hactive.2)

/-- A call appends a new record for the subject or activates none of its records. -/
theorem SliceEffect.active_cases (h : SliceEffect env status x b call a) :
    (∃ issuer vcHash, call.anchoring = some (issuer, x, vcHash) ∧
      (∀ record ∈ b.anchors, ¬IsAnchor issuer vcHash record) ∧
      a.anchors = b.anchors ++ [anchorRecord env issuer vcHash]) ∨
    (activeOf status a.anchors).length ≤ (activeOf status b.anchors).length := by
  cases h with
  | anchored hcall hauth hnew => exact Or.inl ⟨_, _, hcall, hnew, rfl⟩
  | revoked =>
    rw [activeOf_markRecords]
    exact Or.inr (List.length_filter_le _ _)
  | deactivated =>
    rw [activeOf_markRecord]
    exact Or.inr (Nat.zero_le _)
  | _ => exact Or.inr le_rfl

/-! ## The recount -/

/-- An issuer's call passes the checks before the recount. -/
structure Admits (env : Env) (issuer : Address) (s : State) : Prop where
  notPaused : s.paused.getD false = false
  authorized : env.Authorized issuer
  trusted : isTrustedIssuer s issuer = true

/-- The loop over the records, where the registry answers. -/
theorem activeRecords_eq
    (hanswers : ∀ record, isRecordRevoked host world s record = .ok (!isActive status record))
    (records : List IdentityVCRecord) : activeRecords host world s records = .ok (activeOf status records) := by
  refine Outcome.filterE_eq_filter fun record _ => ?_
  rw [hanswers]
  simp only [bind, Except.bind, Bool.not_not]

/-- Where the registry answers, a new record is refused for the limit exactly when the checks before
the recount are passed and the limit is reached. -/
theorem anchorVcTyped_limited_iff
    (hanswers : ∀ record, isRecordRevoked host world s record = .ok (!isActive status record))
    (hnew : ∀ record ∈ anchorsOf s subject, ¬IsAnchor issuer vcHash record) (credentialType : CredentialType) :
    anchorVcTyped host env issuer subject vcHash credentialType s world = .error (.error .vcLimitReached) ↔
      Admits env issuer s ∧ maxVcsPerSubject ≤ (activeOf status (anchorsOf s subject)).length := by
  have hnone : (anchorsOf s subject).any (fun record => IsAnchor issuer vcHash record) = false := by
    rw [List.any_eq_false]
    intro record hmem
    simpa using hnew record hmem
  have hrest (revoked : Bool) (s : State) : Outcome.OnlyTraps
      (addActiveVcCount host world subject revoked s >>= incrementVcsAnchored) :=
    (onlyTraps_addActiveVcCount revoked).bind fun _ =>
      (Outcome.onlyTraps_okOr _).bind fun _ => Outcome.onlyTraps_ok _
  by_cases hadmits : Admits env issuer s
  · have hunpaused : ensureNotPaused s = .ok () := ensureNotPaused_eq_ok.mpr hadmits.notPaused
    have hsigned : (requireAuth env issuer : Outcome Error Unit) = .ok () :=
      requireAuth_eq_ok.mpr hadmits.authorized
    have htrusted : Outcome.require (E := Error) (isTrustedIssuer s issuer = true) (.error .issuerNotRegistered) =
        .ok () := Outcome.require_eq_ok.mpr hadmits.trusted
    rw [and_iff_right hadmits, ← Nat.not_lt]
    unfold anchorVcTyped
    rw [hunpaused, hsigned, htrusted]
    dsimp only
    rw [hnone, if_neg Bool.false_ne_true, activeRecords_eq hanswers]
    refine Outcome.require_bind_eq_error_iff ?_
    refine ((onlyTraps_isRecordRevoked _).bind fun revoked => ?_).avoids _
    exact hrest revoked _
  · refine iff_of_false ?_ fun h => hadmits h.1
    intro h
    simp only [anchorVcTyped, Outcome.bind_eq_error, ensureNotPaused, Outcome.require_eq_error, requireAuth,
      Outcome.require_eq_ok, reduceCtorEq, and_false, false_or, Fault.error.injEq] at h
    obtain ⟨_, hpaused, _, hauth, _, htrusted, -⟩ := h
    exact hadmits ⟨hpaused, hauth, htrusted⟩

end StellarDidCredit.IdentityOracle
