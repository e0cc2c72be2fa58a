import StellarDidCredit.IdentityOracle.Limit

/-!
# When an anchoring succeeds

The exact conditions under which an issuer's call anchors a credential, and the state that it leaves. More
records only make them harder to meet.
-/

namespace StellarDidCredit.IdentityOracle

variable {κ : Type} {host : Host κ} {env : Env} {s s' : State} {world : κ} {status : BytesN 32 → Bool}
  {x issuer : Address} {vcHash : BytesN 32} {credentialType : CredentialType}

/-- There is room for a new record: the limit is not reached, and no counter overflows. -/
structure Room (status : BytesN 32 → Bool) (s : State) (x : Address) (vcHash : BytesN 32) : Prop where
  limit : (activeOf status (anchorsOf s x)).length < maxVcsPerSubject
  count : ∀ count, s.activeVCCount x = some count → status vcHash = false → count + 1 ≤ U32.max
  total : s.protocolStats.totalVcsAnchored + 1 ≤ U64.max

/-- The state after a new record. -/
def anchored (env : Env) (status : BytesN 32 → Bool) (issuer x : Address) (vcHash : BytesN 32)
    (credentialType : CredentialType) (s : State) : State :=
  { s with
    vcCredentialType := s.vcCredentialType.set (x, vcHash) credentialType
    vcAnchors := s.vcAnchors.set x (anchorsOf s x ++ [anchorRecord env issuer vcHash])
    lastStateChange := s.lastStateChange.set x env.ledger.sequence
    activeVCCount := s.activeVCCount.set x
      (countAfterAnchor status (anchorsOf s x ++ [anchorRecord env issuer vcHash]) (status vcHash)
        (s.activeVCCount x))
    protocolStats := { s.protocolStats with
      totalVcsAnchored := s.protocolStats.totalVcsAnchored + 1 } }

section Answers

variable (hanswers : ∀ record, isRecordRevoked host world s record = .ok (!isActive status record))
include hanswers

/-- The cached count takes one more record unless it is full. -/
theorem addActiveVcCount_eq_ok {revoked : Bool} :
    addActiveVcCount host world x revoked s = .ok s' ↔
      (∀ count, s.activeVCCount x = some count → revoked = false → count + 1 ≤ U32.max) ∧
      s' = { s with
        activeVCCount := s.activeVCCount.set x
          (countAfterAnchor status (anchorsOf s x) revoked (s.activeVCCount x)) } := by
  unfold addActiveVcCount
  cases hcount : s.activeVCCount x with
  | some count =>
    cases revoked with
    | true => simp [countAfterAnchor, eq_comm]
    | false =>
      simp only [Bool.false_eq_true, if_false, Outcome.bind_eq_ok, Outcome.okOr_eq_ok, U32.checkedAdd_eq_some,
        Except.ok.injEq, Option.some.injEq, forall_eq', forall_const, countAfterAnchor]
      constructor
      · rintro ⟨_, ⟨hfits, rfl⟩, rfl⟩
        exact ⟨hfits, rfl⟩
      · rintro ⟨hfits, rfl⟩
        exact ⟨_, ⟨hfits, rfl⟩, rfl⟩
  | none =>
    simp only [seedActiveVcCount, computeActiveVcCount, activeRecords_eq hanswers, Outcome.bind_eq_ok,
      Except.ok.injEq, reduceCtorEq, false_implies, implies_true, true_and, countAfterAnchor]
    constructor
    · rintro ⟨_, ⟨_, ⟨_, rfl, rfl⟩, rfl⟩, rfl⟩
      rfl
    · rintro rfl
      exact ⟨_, ⟨_, ⟨_, rfl, rfl⟩, rfl⟩, rfl⟩

/-- Where the registry answers, an anchoring succeeds for an admitted issuer that has the record already, or
when there is room for it. -/
theorem anchorVcTyped_eq_ok : anchorVcTyped host env issuer x vcHash credentialType s world = .ok s' ↔
    Admits env issuer s ∧
      ((∃ record ∈ anchorsOf s x, IsAnchor issuer vcHash record) ∧ s' = s ∨
        (∀ record ∈ anchorsOf s x, ¬IsAnchor issuer vcHash record) ∧ Room status s x vcHash ∧
          s' = anchored env status issuer x vcHash credentialType s) := by
  have hadmits : Admits env issuer s ↔
      s.paused.getD false = false ∧ env.Authorized issuer ∧ isTrustedIssuer s issuer = true :=
    ⟨fun h => ⟨h.notPaused, h.authorized, h.trusted⟩, fun h => ⟨h.1, h.2.1, h.2.2⟩⟩
  have hstatus : isRecordRevoked host world s
      { vcHash, issuer, anchoredAt := env.ledger.timestamp, revoked := false } = .ok (status vcHash) := by
    rw [hanswers]
    simp [isActive]
  simp only [anchorVcTyped, Outcome.bind_eq_ok, ensureNotPaused_eq_ok, requireAuth_eq_ok, Outcome.require_eq_ok,
    exists_const, hadmits, and_assoc]
  refine and_congr_right fun _ => and_congr_right fun _ => and_congr_right fun _ => ?_
  by_cases hexists : ∃ record ∈ anchorsOf s x, IsAnchor issuer vcHash record
  · have hany : (anchorsOf s x).any (fun record => IsAnchor issuer vcHash record) = true := by
      simpa [List.any_eq_true] using hexists
    have hnot : ¬∀ record ∈ anchorsOf s x, ¬IsAnchor issuer vcHash record := by simpa using hexists
    rw [if_pos hany]
    simp only [hexists, hnot, true_and, false_and, or_false, Except.ok.injEq, eq_comm]
  · have hnone : ¬(anchorsOf s x).any (fun record => IsAnchor issuer vcHash record) = true := by
      simpa [List.any_eq_true] using hexists
    have hnew : ∀ record ∈ anchorsOf s x, ¬IsAnchor issuer vcHash record := by simpa using hexists
    rw [if_neg hnone]
    simp only [hexists, false_and, false_or, activeRecords_eq hanswers, hstatus, Outcome.bind_eq_ok,
      Except.ok.injEq, exists_eq_left', Outcome.require_eq_ok, exists_const]
    let written : State := recordLastStateChange env x { s with
      vcCredentialType := s.vcCredentialType.set (x, vcHash) credentialType
      vcAnchors := s.vcAnchors.set x (anchorsOf s x ++ [anchorRecord env issuer vcHash]) }
    have hanchors : anchorsOf written x = anchorsOf s x ++ [anchorRecord env issuer vcHash] := by
      simp only [written, recordLastStateChange, anchorsOf, Storage.set_self, Option.getD_some]
    have hanswers' (record : IdentityVCRecord) :
        isRecordRevoked host world written record = .ok (!isActive status record) := hanswers record
    have hcount (counted : State) : addActiveVcCount host world x (status vcHash) written = .ok counted ↔ _ :=
      addActiveVcCount_eq_ok hanswers'
    rw [hanchors] at hcount
    constructor
    · rintro ⟨hlimit, counted, hcounted, hcounters⟩
      obtain ⟨hfits, rfl⟩ := (hcount counted).mp hcounted
      obtain ⟨htotal, rfl⟩ := incrementVcsAnchored_eq_ok.mp hcounters
      exact ⟨hnew, ⟨hlimit, hfits, htotal⟩, rfl⟩
    · rintro ⟨-, hroom, rfl⟩
      exact ⟨hroom.limit, _, (hcount _).mpr ⟨hroom.count, rfl⟩, incrementVcsAnchored_eq_ok.mpr ⟨hroom.total, rfl⟩⟩

end Answers

/-! ## After an anchoring -/

/-- The records of the subject are one more, those of the others the same. -/
theorem anchorsOf_anchored (y : Address) : anchorsOf (anchored env status issuer x vcHash credentialType s) y =
    if y = x then anchorsOf s x ++ [anchorRecord env issuer vcHash] else anchorsOf s y := by
  by_cases hy : y = x
  · subst hy
    simp only [anchorsOf, anchored, Storage.set_self, Option.getD_some, if_true]
  · simp only [anchorsOf, anchored, Storage.set_of_ne _ _ hy, if_neg hy]

/-- Room that is left after an anchoring was there before it. -/
theorem Room.before {y : Address} {hash : BytesN 32}
    (h : Room status (anchored env status issuer x vcHash credentialType s) y hash) : Room status s y hash := by
  refine ⟨?_, ?_, ?_⟩
  · have hlimit := h.limit
    rw [anchorsOf_anchored] at hlimit
    split at hlimit
    case isTrue hy =>
      rw [activeOf, List.filter_append, List.length_append] at hlimit
      rw [hy]
      exact (Nat.le_add_right _ _).trans_lt hlimit
    case isFalse => exact hlimit
  · intro count hcount hunlisted
    by_cases hy : y = x
    · subst hy
      have hfits := h.count _ (Storage.set_self _ _ _) hunlisted
      rw [hcount, countAfterAnchor] at hfits
      split at hfits
      · exact hfits
      · omega
    · exact h.count count ((Storage.set_of_ne _ _ hy).trans hcount) hunlisted
  · have htotal : s.protocolStats.totalVcsAnchored + 1 + 1 ≤ U64.max := h.total
    omega

end StellarDidCredit.IdentityOracle
