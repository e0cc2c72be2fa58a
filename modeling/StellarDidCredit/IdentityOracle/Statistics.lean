import Mathlib.Algebra.BigOperators.Group.Finset.Basic
import StellarDidCredit.IdentityOracle.Writes

/-!
# Room to revoke

Every anchored credential is counted once when it is anchored and once more when it gets its
own flag. The first counter fits its machine word, so the second has room for each record that
is not flagged yet: counting a revocation never overflows.
-/

namespace StellarDidCredit.IdentityOracle

variable {κ : Type} {host : Host κ} {env : Env} {call : Call} {s s' : State} {world world' : κ}
  {x issuer : Address} {vcHash : BytesN 32} {records : List IdentityVCRecord}

/-! ## Unmarked records -/

/-- The number of records without a flag of their own. -/
def unmarkedOf (records : List IdentityVCRecord) : ℕ := records.countP fun record => !record.revoked

/-- The number of a subject's records without a flag of their own. -/
def unmarkedCount (s : State) (x : Address) : ℕ := unmarkedOf (anchorsOf s x)

/-- A new record has no flag. -/
theorem unmarkedOf_append_anchorRecord :
    unmarkedOf (records ++ [anchorRecord env issuer vcHash]) = unmarkedOf records + 1 := by
  rw [unmarkedOf, unmarkedOf, List.countP_append]
  rfl

/-- A sweep leaves no record unmarked. -/
theorem unmarkedOf_swept : unmarkedOf (records.map markRecord) = 0 := by
  rw [unmarkedOf, List.countP_eq_zero]
  intro record hmem
  obtain ⟨before, -, rfl⟩ := List.mem_map.mp hmem
  simp [markRecord]

/-- Marking takes the records it marks off the count. -/
theorem unmarkedOf_markRecords_add (issuer : Address) (vcHash : BytesN 32) (records : List IdentityVCRecord) :
    unmarkedOf (markRecords issuer vcHash records) +
      records.countP (fun record => decide (IsAnchor issuer vcHash record) && !record.revoked) =
      unmarkedOf records := by
  induction records with
  | nil => rfl
  | cons record rest ih =>
    unfold unmarkedOf at ih ⊢
    have hcons : markRecords issuer vcHash (record :: rest) =
        (if IsAnchor issuer vcHash record then { record with revoked := true } else record) ::
          markRecords issuer vcHash rest := rfl
    rw [hcons, List.countP_cons, List.countP_cons, List.countP_cons]
    by_cases hanchor : IsAnchor issuer vcHash record <;> cases hrevoked : record.revoked <;>
      simp [hanchor, hrevoked] <;> omega

/-- Marking a record that was not marked leaves fewer of them. -/
theorem unmarkedOf_markRecords_lt
    (h : ∃ record ∈ records, IsAnchor issuer vcHash record ∧ record.revoked = false) :
    unmarkedOf (markRecords issuer vcHash records) + 1 ≤ unmarkedOf records := by
  obtain ⟨record, hmem, hanchor, hunmarked⟩ := h
  have hpositive :
      0 < records.countP fun record => decide (IsAnchor issuer vcHash record) && !record.revoked :=
    List.countP_pos_iff.mpr ⟨record, hmem, by simp [hanchor, hunmarked]⟩
  have hsplit := unmarkedOf_markRecords_add issuer vcHash records
  omega

/-! ## The counters -/

/-- A call that changes the unmarked records of one subject only, and counts more anchorings than
it adds revocations and unmarked records. -/
structure Counts (s s' : State) (x : Address) : Prop where
  others : ∀ y, y ≠ x → unmarkedCount s' y = unmarkedCount s y
  balance : s'.protocolStats.totalVcsRevoked + unmarkedCount s' x + s.protocolStats.totalVcsAnchored ≤
    s.protocolStats.totalVcsRevoked + unmarkedCount s x + s'.protocolStats.totalVcsAnchored
  fits : s'.protocolStats.totalVcsAnchored = s.protocolStats.totalVcsAnchored ∨
    s'.protocolStats.totalVcsAnchored ≤ U64.max

/-- A call that writes neither records nor these counters. -/
theorem Counts.same (hanchors : s'.vcAnchors = s.vcAnchors)
    (hanchored : s'.protocolStats.totalVcsAnchored = s.protocolStats.totalVcsAnchored)
    (hrevoked : s'.protocolStats.totalVcsRevoked = s.protocolStats.totalVcsRevoked) : Counts s s' x := by
  have hsame (y : Address) : unmarkedCount s' y = unmarkedCount s y := by
    simp only [unmarkedCount, anchorsOf, hanchors]
  refine ⟨fun y _ => hsame y, ?_, Or.inl hanchored⟩
  rw [hsame, hanchored, hrevoked]

/-- A call that writes the records of one subject. -/
theorem Counts.written (hwritten : RecordsWritten s s' x records)
    (hbalance : s'.protocolStats.totalVcsRevoked + unmarkedOf records + s.protocolStats.totalVcsAnchored ≤
      s.protocolStats.totalVcsRevoked + unmarkedOf (anchorsOf s x) + s'.protocolStats.totalVcsAnchored)
    (hfits : s'.protocolStats.totalVcsAnchored = s.protocolStats.totalVcsAnchored ∨
      s'.protocolStats.totalVcsAnchored ≤ U64.max) : Counts s s' x := by
  refine ⟨fun y hy => ?_, ?_, hfits⟩
  · rw [unmarkedCount, hwritten.others y hy, unmarkedCount]
  · rw [unmarkedCount, hwritten.self]
    exact hbalance

/-- Every successful call balances the counters. -/
theorem exec_counts (h : exec host env call s world = .ok (s', world')) : ∃ x, Counts s s' x := by
  cases exec_writes h with
  | @vcAnchored _ issuer subject vcHash credentialType activeCount hcall hpaused hauth htrusted hnew hroom =>
    refine ⟨subject, .written (recordsWritten_of_set rfl) ?_ (Or.inr hroom)⟩
    rw [unmarkedOf_append_anchorRecord]
    dsimp only
    omega
  | @vcRevoked issuer subject vcHash activeCount hpaused hauth htransition =>
    have hfewer := unmarkedOf_markRecords_lt htransition
    refine ⟨subject, .written (recordsWritten_of_set rfl) ?_ (Or.inl rfl)⟩
    dsimp only
    omega
  | @deactivated _ subject hcall hauth =>
    refine ⟨subject, .written (recordsWritten_of_sweep rfl) ?_ (Or.inl rfl)⟩
    rw [unmarkedOf_swept]
    unfold unmarkedOf
    dsimp only
    omega
  | _ => exact ⟨.account 0, .same rfl rfl rfl⟩

/-! ## The invariant -/

/-- The counted anchorings fit their word, and over any subjects they cover the counted revocations
and the records without a flag. -/
structure StatsOk (s : State) : Prop where
  fits : s.protocolStats.totalVcsAnchored ≤ U64.max
  covers : ∀ subjects : Finset Address,
    s.protocolStats.totalVcsRevoked + ∑ x ∈ subjects, unmarkedCount s x ≤ s.protocolStats.totalVcsAnchored

/-- A fresh contract has counted nothing. -/
theorem statsOk_start : StatsOk {} := by
  refine ⟨Nat.zero_le _, ?_⟩
  intro subjects
  have hnone (x : Address) : unmarkedCount {} x = 0 := rfl
  simp only [hnone, Finset.sum_const_zero]
  exact le_rfl

/-- Balanced calls keep the counters covered. -/
theorem StatsOk.step (h : StatsOk s) (hcounts : Counts s s' x) : StatsOk s' := by
  refine ⟨?_, ?_⟩
  · rcases hcounts.fits with hsame | hfits
    · rw [hsame]
      exact h.fits
    · exact hfits
  · intro subjects
    -- the subject of the call is added to the others before its change is counted
    have hbefore := h.covers (insert x (subjects.erase x))
    rw [Finset.sum_insert (Finset.notMem_erase x subjects)] at hbefore
    have hrest : ∑ y ∈ subjects.erase x, unmarkedCount s' y = ∑ y ∈ subjects.erase x, unmarkedCount s y :=
      Finset.sum_congr rfl fun y hy => hcounts.others y (Finset.ne_of_mem_erase hy)
    have hsum : ∑ y ∈ subjects, unmarkedCount s' y ≤
        unmarkedCount s' x + ∑ y ∈ subjects.erase x, unmarkedCount s' y := by
      by_cases hmem : x ∈ subjects
      · rw [Finset.add_sum_erase subjects _ hmem]
      · rw [Finset.erase_eq_of_notMem hmem]
        exact Nat.le_add_left _ _
    have hbalance := hcounts.balance
    omega

/-- While some record has no flag, one more revocation can be counted. -/
theorem StatsOk.room (h : StatsOk s) {record : IdentityVCRecord} (hmem : record ∈ anchorsOf s x)
    (hunmarked : record.revoked = false) : s.protocolStats.totalVcsRevoked + 1 ≤ U64.max := by
  have hcovers := h.covers {x}
  rw [Finset.sum_singleton] at hcovers
  have hpositive : 0 < unmarkedCount s x :=
    List.countP_pos_iff.mpr ⟨record, hmem, by rw [hunmarked]; rfl⟩
  have hfits := h.fits
  omega

/-! ## Revoking one record -/

/-- A subject with records has a cached count. -/
def Cached (b : Slice) : Prop := b.anchors ≠ [] → ∃ count, b.activeCount = some count

/-- The first record is counted when it is anchored, and the count is never dropped. -/
theorem SliceEffect.cached {status : BytesN 32 → Bool} {b a : Slice} (heffect : SliceEffect env status x b call a)
    (h : Cached b) : Cached a := by
  intro hrecords
  cases heffect with
  | reactivated => exact h hrecords
  | didAnchored => exact h hrecords
  | untouched => exact h hrecords
  | _ => exact ⟨_, rfl⟩

/-- Only the issuer's record of the hash decides whether marking it is a transition. -/
theorem transition_iff {records : List IdentityVCRecord} {record : IdentityVCRecord} (hdistinct : Distinct records)
    (hmem : record ∈ records) (hanchor : IsAnchor issuer vcHash record) :
    records.any (fun record => IsAnchor issuer vcHash record ∧ record.revoked = false) = !record.revoked := by
  rw [Bool.eq_iff_iff, List.any_eq_true, Bool.not_eq_true']
  constructor
  · rintro ⟨other, hother, htransition⟩
    obtain ⟨hotherAnchor, hunmarked⟩ := of_decide_eq_true htransition
    rw [hdistinct.eq hmem hother (hotherAnchor.2.trans hanchor.2.symm)
      (hotherAnchor.1.trans hanchor.1.symm)] at hunmarked
    exact hunmarked
  · intro hunmarked
    exact ⟨record, hmem, decide_eq_true ⟨hanchor, hunmarked⟩⟩

/-- Where a count is cached, marking a record succeeds without asking the registry, unless it has to
take one from a count of zero. -/
theorem markVcRevoked_succeeds_iff {record : IdentityVCRecord} {count : ℕ} (hpaused : s.paused.getD false = false)
    (hauth : env.Authorized issuer) (hdistinct : Distinct (anchorsOf s x)) (hmem : record ∈ anchorsOf s x)
    (hanchor : IsAnchor issuer vcHash record) (hcached : s.activeVCCount x = some count)
    (hroom : record.revoked = false → s.protocolStats.totalVcsRevoked + 1 ≤ U64.max) :
    (∃ s', markVcRevoked host env issuer x vcHash s world = .ok s') ↔ record.revoked = true ∨ 1 ≤ count := by
  constructor
  · rintro ⟨s', h⟩
    obtain ⟨status, hsees⟩ := exists_sees host world s
    obtain ⟨-, ⟨-, hpositive, -⟩ | ⟨hmarked, -⟩⟩ := markVcRevoked_spec hsees h
    · exact Or.inr (hpositive count hcached)
    · exact Or.inl (hmarked record hmem hanchor)
  · intro hcounted
    have hfound : (anchorsOf s x).any (fun record => IsAnchor issuer vcHash record) = true :=
      List.any_eq_true.mpr ⟨record, hmem, decide_eq_true hanchor⟩
    simp only [markVcRevoked, Outcome.bind_eq_ok, ensureNotPaused_eq_ok, requireAuth_eq_ok,
      Outcome.require_eq_ok, transition_iff hdistinct hmem hanchor]
    cases hrevoked : record.revoked with
    | true =>
      refine ⟨{ s with vcAnchors := s.vcAnchors.set x (markRecords issuer vcHash (anchorsOf s x)) },
        (), hpaused, (), hauth, (), hfound, ?_⟩
      simp [hcached]
    | false =>
      have hpositive : 1 ≤ count := by simpa [hrevoked] using hcounted
      have hadd : U64.checkedAdd s.protocolStats.totalVcsRevoked 1 =
          some (s.protocolStats.totalVcsRevoked + 1) := U64.checkedAdd_eq_some.mpr ⟨hroom hrevoked, rfl⟩
      have hsub : U32.checkedSub count 1 = some (count - 1) := U32.checkedSub_eq_some.mpr ⟨hpositive, rfl⟩
      let counted : State := { s with
        vcAnchors := s.vcAnchors.set x (markRecords issuer vcHash (anchorsOf s x))
        lastStateChange := s.lastStateChange.set x env.ledger.sequence
        protocolStats := { s.protocolStats with totalVcsRevoked := s.protocolStats.totalVcsRevoked + 1 } }
      refine ⟨{ counted with activeVCCount := s.activeVCCount.set x (count - 1) },
        (), hpaused, (), hauth, (), hfound, ?_⟩
      rw [if_pos (by rfl)]
      refine Outcome.bind_eq_ok.mpr ⟨counted, ?_, ?_⟩
      · simp only [incrementVcsRevoked, recordLastStateChange, hadd]
        rfl
      · have hcached : counted.activeVCCount x = some count := hcached
        simp only [dropActiveVcCount, hcached, hsub]
        rfl

end StellarDidCredit.IdentityOracle
