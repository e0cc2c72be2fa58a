import StellarDidCredit.IdentityOracle.Changes

/-!
# Subjects with nothing active

A deactivation marks every record of the subject and zeroes the cached count. From there on
nothing is active until a call anchors a credential that is, and a mark, once set, stays.
-/

namespace StellarDidCredit.IdentityOracle

variable {env : Env} {call : Call} {status : BytesN 32 → Bool} {x issuer : Address} {vcHash : BytesN 32}
  {b a : Slice}

/-! ## Nothing active -/

/-- No record is active, and a cached count is zero. -/
structure Suppressed (status : BytesN 32 → Bool) (b : Slice) : Prop where
  inactive : activeOf status b.anchors = []
  uncounted : ∀ count, b.activeCount = some count → count = 0

/-- Nothing is active when every record is marked or listed. -/
theorem activeOf_eq_nil {records : List IdentityVCRecord} :
    activeOf status records = [] ↔ ∀ record ∈ records, record.revoked = false → status record.vcHash = true := by
  simp only [activeOf, List.filter_eq_nil_iff, isActive, Bool.and_eq_true, Bool.not_eq_true', not_and,
    Bool.not_eq_false]

/-- More flags in the registry make nothing active. -/
theorem Suppressed.mono {status' : BytesN 32 → Bool} (h : Suppressed status b)
    (hmore : ∀ vcHash, status vcHash = true → status' vcHash = true) : Suppressed status' b := by
  refine ⟨?_, h.uncounted⟩
  rw [activeOf_eq_nil]
  intro record hmem hunmarked
  exact hmore _ (activeOf_eq_nil.mp h.inactive record hmem hunmarked)

/-- The call does not anchor a credential that would be active. -/
def AnchorsNoneActive (status : BytesN 32 → Bool) (x : Address) (b : Slice) (call : Call) : Prop :=
  ∀ issuer vcHash, call.anchoring = some (issuer, x, vcHash) →
    (∀ record ∈ b.anchors, ¬IsAnchor issuer vcHash record) → status vcHash = true

/-- Marking records leaves nothing active where nothing was. -/
theorem Suppressed.marked (h : Suppressed status b) (issuer : Address) (vcHash : BytesN 32) :
    activeOf status (markRecords issuer vcHash b.anchors) = [] := by
  rw [activeOf_markRecords, h.inactive, List.filter_nil]

/-- Computing a count that was not cached caches a zero. -/
theorem Suppressed.counted (h : Suppressed status b) {count : ℕ}
    (hcount : some (b.activeCount.getD (activeOf status b.anchors).length) = some count) : count = 0 := by
  cases hcached : b.activeCount with
  | none =>
    rw [hcached, h.inactive] at hcount
    exact (Option.some.inj hcount).symm
  | some cached =>
    rw [hcached] at hcount
    exact (Option.some.inj hcount).symm.trans (h.uncounted cached hcached)

/-- A swept subject has nothing active. -/
theorem suppressed_swept {deactivated : Bool} {lastChange : Option ℕ} :
    Suppressed status { anchors := b.anchors.map markRecord, activeCount := some 0, deactivated, lastChange } := by
  refine ⟨activeOf_markRecord, ?_⟩
  intro count hcount
  exact (Option.some.inj hcount).symm

/-- Where nothing is active, a call that anchors nothing active leaves nothing active. -/
theorem SliceEffect.suppressed (heffect : SliceEffect env status x b call a) (h : Suppressed status b)
    (hnone : AnchorsNoneActive status x b call) : Suppressed status a := by
  cases heffect with
  | @anchored _ issuer vcHash hcall hauth hnew =>
    have hlisted := hnone issuer vcHash hcall hnew
    have hinactive : activeOf status (b.anchors ++ [anchorRecord env issuer vcHash]) = [] := by
      rw [activeOf_append_listed hlisted, h.inactive]
    refine ⟨hinactive, ?_⟩
    intro count hcount
    cases hcached : b.activeCount with
    | none =>
      rw [hcached, countAfterAnchor, hinactive] at hcount
      exact (Option.some.inj hcount).symm
    | some cached =>
      rw [hcached, countAfterAnchor, if_pos hlisted] at hcount
      exact (Option.some.inj hcount).symm.trans (h.uncounted cached hcached)
  | @revoked issuer vcHash hauth htransition hpositive =>
    refine ⟨h.marked issuer vcHash, ?_⟩
    intro count hcount
    cases hcached : b.activeCount with
    | none =>
      rw [hcached, countAfterRevoke, h.marked issuer vcHash] at hcount
      exact (Option.some.inj hcount).symm
    | some cached =>
      -- the contract refuses to take one from a zero
      have hzero := h.uncounted cached hcached
      have hone := hpositive cached hcached
      omega
  | remarked => exact ⟨h.inactive, fun _ hcount => h.counted hcount⟩
  | deactivated => exact suppressed_swept
  | reactivated => exact ⟨h.inactive, h.uncounted⟩
  | didAnchored => exact ⟨h.inactive, h.uncounted⟩
  | counted => exact ⟨h.inactive, fun _ hcount => h.counted hcount⟩
  | untouched => exact h

/-- The flag is set by a deactivation, which leaves nothing active. -/
theorem SliceEffect.suppressed_of_flag (heffect : SliceEffect env status x b call a)
    (hbefore : b.deactivated = false) (hafter : a.deactivated = true) : Suppressed status a := by
  cases heffect with
  | deactivated => exact suppressed_swept
  | reactivated => cases hafter
  | _ => cases hbefore.symm.trans hafter

/-- The flag is cleared by the subject's reactivation. -/
theorem SliceEffect.reactivates (heffect : SliceEffect env status x b call a)
    (hbefore : b.deactivated = true) (hafter : a.deactivated = false) :
    call = .reactivateIdentity x ∧ env.Authorized x := by
  cases heffect with
  | deactivated => cases hafter
  | reactivated hauth => exact ⟨rfl, hauth⟩
  | _ => cases hbefore.symm.trans hafter

/-! ## Marks -/

/-- The record of an issuer and a hash carries its own flag. -/
def Marked (issuer : Address) (vcHash : BytesN 32) (b : Slice) : Prop :=
  ∃ record ∈ b.anchors, IsAnchor issuer vcHash record ∧ record.revoked = true

/-- A flag that is set stays set. -/
theorem SliceEffect.marked (heffect : SliceEffect env status x b call a) (h : Marked issuer vcHash b) :
    Marked issuer vcHash a := by
  obtain ⟨record, hmem, hanchor, hrevoked⟩ := h
  cases heffect with
  | anchored => exact ⟨record, List.mem_append_left _ hmem, hanchor, hrevoked⟩
  | @revoked issuer' vcHash' =>
    refine ⟨_, List.mem_map_of_mem hmem, ?_⟩
    split
    · exact ⟨hanchor, rfl⟩
    · exact ⟨hanchor, hrevoked⟩
  | deactivated => exact ⟨markRecord record, List.mem_map_of_mem hmem, hanchor, rfl⟩
  | _ => exact ⟨record, hmem, hanchor, hrevoked⟩

/-- Marking leaves the issuer's record flagged. -/
theorem SliceEffect.marked_of_mark (heffect : SliceEffect env status x b (.markVcRevoked issuer x vcHash) a)
    {record : IdentityVCRecord} (hmem : record ∈ b.anchors) (hanchor : IsAnchor issuer vcHash record) :
    Marked issuer vcHash a := by
  cases heffect with
  | anchored hcall => cases hcall
  | revoked =>
    refine ⟨_, List.mem_map_of_mem hmem, ?_⟩
    rw [if_pos hanchor]
    exact ⟨hanchor, rfl⟩
  | remarked hauth hmarked => exact ⟨record, hmem, hanchor, hmarked record hmem hanchor⟩
  | deactivated hcall => cases hcall
  | untouched hcall => exact absurd rfl (hcall issuer vcHash)

end StellarDidCredit.IdentityOracle
