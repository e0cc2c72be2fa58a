import StellarDidCredit.IdentityOracle.Subjects

/-!
# The cached count of one subject

The cached count is patched by one whenever the issuer's record gets its own flag, and it is
not patched when the linked registry flags a hash. It stays the number of active records
exactly as long as the record that gets its own flag is active, and is the only active one
that the registry flags at the same time.
-/

namespace StellarDidCredit.IdentityOracle

variable {env : Env} {call : Call} {status status' : BytesN 32 → Bool} {x : Address} {b a : Slice}
  {issuer : Address} {vcHash : BytesN 32} {records : List IdentityVCRecord}

/-! ## The active records after a change -/

/-- Hashes that get flagged take their records out. -/
theorem activeOf_flagged {flagged : List (BytesN 32)}
    (hstatus : ∀ vcHash, status' vcHash = (status vcHash || decide (vcHash ∈ flagged))) :
    activeOf status' records = (activeOf status records).filter fun record => record.vcHash ∉ flagged := by
  rw [activeOf, activeOf, List.filter_filter]
  refine List.filter_congr fun record _ => ?_
  simp only [isActive, hstatus, decide_not]
  cases record.revoked <;> cases status record.vcHash <;> simp

/-- Marking an issuer's record takes it out. -/
theorem activeOf_markRecords : activeOf status (markRecords issuer vcHash records) =
    (activeOf status records).filter fun record => ¬IsAnchor issuer vcHash record := by
  induction records with
  | nil => rfl
  | cons record rest ih =>
    by_cases hanchor : IsAnchor issuer vcHash record
    · have hmarked : isActive status { record with revoked := true } = false := rfl
      have hhead : markRecords issuer vcHash (record :: rest) =
          { record with revoked := true } :: markRecords issuer vcHash rest := by
        simp only [markRecords, List.map_cons, if_pos hanchor]
      rw [hhead]
      unfold activeOf at ih ⊢
      rw [List.filter_cons_of_neg (by simp [hmarked]), ih, List.filter_cons]
      split
      · rw [List.filter_cons_of_neg (by simpa using hanchor)]
      · rfl
    · have hhead : markRecords issuer vcHash (record :: rest) = record :: markRecords issuer vcHash rest := by
        simp only [markRecords, List.map_cons, if_neg hanchor]
      rw [hhead]
      unfold activeOf at ih ⊢
      rw [List.filter_cons, ih, List.filter_cons]
      split
      · rw [List.filter_cons_of_pos (by simpa using hanchor)]
      · rfl

/-- Records that are all marked are not active. -/
theorem activeOf_markRecord : activeOf status (records.map markRecord) = [] := by
  rw [activeOf, List.filter_eq_nil_iff]
  intro record hmem
  obtain ⟨before, _, rfl⟩ := List.mem_map.mp hmem
  simp [isActive, markRecord]

/-- A new record is active unless its hash is flagged. -/
theorem activeOf_append_anchorRecord :
    (activeOf status (records ++ [anchorRecord env issuer vcHash])).length =
      (activeOf status records).length + if status vcHash then 0 else 1 := by
  rw [activeOf, List.filter_append, List.length_append, activeOf]
  cases hstatus : status vcHash <;> simp [isActive, anchorRecord, hstatus]

/-- The records without a flag of their own that the registry flags. -/
def flaggedOf (status : BytesN 32 → Bool) (records : List IdentityVCRecord) : List IdentityVCRecord :=
  records.filter fun record => !record.revoked && status record.vcHash

/-- A record without a flag of its own is active or flagged by the registry. -/
theorem activeOf_length_add_flaggedOf_length (status : BytesN 32 → Bool) (records : List IdentityVCRecord) :
    (activeOf status records).length + (flaggedOf status records).length =
      records.countP fun record => !record.revoked := by
  induction records with
  | nil => rfl
  | cons record rest ih =>
    simp only [activeOf, flaggedOf, isActive, List.filter_cons, List.countP_cons] at ih ⊢
    by_cases hrevoked : record.revoked = true <;> by_cases hflagged : status record.vcHash = true <;>
      simp [hrevoked, hflagged] <;> omega

/-- A filter drops one entry of a list without repetitions when it rejects exactly one. -/
theorem length_filter_add_one {α : Type} [DecidableEq α] {list : List α} {p : α → Bool}
    (hnodup : list.Nodup) :
    (list.filter p).length + 1 = list.length ↔
      ∃ entry ∈ list, ∀ other ∈ list, p other = false ↔ other = entry := by
  have hsplit := list.length_eq_length_filter_add p
  have hone : (list.filter (! p ·)).length = 1 ↔
      ∃ entry ∈ list, ∀ other ∈ list, p other = false ↔ other = entry := by
    rw [List.length_eq_one_iff]
    constructor
    · rintro ⟨entry, hentry⟩
      have hmem (other : α) : other ∈ list ∧ p other = false ↔ other = entry := by
        rw [← List.mem_singleton (a := other), ← hentry, List.mem_filter, Bool.not_eq_true']
      refine ⟨entry, ((hmem entry).mpr rfl).1, fun other hother => ?_⟩
      rw [← hmem other]
      exact ⟨fun hp => ⟨hother, hp⟩, And.right⟩
    · rintro ⟨entry, hentry, hall⟩
      refine ⟨entry, ?_⟩
      have hcongr : list.filter (! p ·) = list.filter (· == entry) :=
        List.filter_congr fun other hother => by
          rw [Bool.eq_iff_iff, Bool.not_eq_true', beq_iff_eq]
          exact hall other hother
      rw [hcongr, List.filter_beq, List.count_eq_one_of_mem hnodup hentry]
      rfl
  rw [← hone]
  omega

/-! ## The count -/

/-- A cached count is the number of active records. -/
def CountOk (status : BytesN 32 → Bool) (b : Slice) : Prop :=
  ∀ count, b.activeCount = some count → count = (activeOf status b.anchors).length

/-- The changes that keep a cached count right, when the linked registry flags these hashes
at the same time. -/
structure Counted (status : BytesN 32 → Bool) (flagged : List (BytesN 32)) (x : Address) (b : Slice)
    (call : Option Call) : Prop where
  /-- The issuer's record that gets its own flag is not revoked through the registry already. -/
  marked : ∀ issuer vcHash, call = some (.markVcRevoked issuer x vcHash) →
    (∃ record ∈ b.anchors, IsAnchor issuer vcHash record ∧ record.revoked = false) → status vcHash = false
  /-- An active record that the registry flags gets its own flag as well. -/
  listed : ∀ record ∈ activeOf status b.anchors, record.vcHash ∈ flagged →
    call = some (.markVcRevoked record.issuer x record.vcHash)

/-- A call that does not mark the subject's records keeps the count right when the registry
flags no active one. -/
theorem counted_iff_of_ne {flagged : List (BytesN 32)} {executed : Option Call}
    (hcall : ∀ issuer vcHash, executed ≠ some (.markVcRevoked issuer x vcHash)) :
    Counted status flagged x b executed ↔ ∀ record ∈ activeOf status b.anchors, record.vcHash ∉ flagged := by
  constructor
  · intro hcounted record hmem hflagged
    exact hcall _ _ (hcounted.listed record hmem hflagged)
  · intro hnone
    refine ⟨fun issuer vcHash hmark => (hcall issuer vcHash hmark).elim, ?_⟩
    intro record hmem hflagged
    exact (hnone record hmem hflagged).elim

/-- Records that stay as they are keep their count when the registry flags no active one. -/
theorem countOk_iff_unflagged {flagged : List (BytesN 32)} {count : ℕ}
    (hstatus : ∀ vcHash, status' vcHash = (status vcHash || decide (vcHash ∈ flagged)))
    (hok : CountOk status b) (hcached : b.activeCount = some count) (hcached' : a.activeCount = some count)
    (hanchors : a.anchors = b.anchors) :
    CountOk status' a ↔ ∀ record ∈ activeOf status b.anchors, record.vcHash ∉ flagged := by
  have hlength := hok count hcached
  have hiff : CountOk status' a ↔
      (activeOf status' b.anchors).length = (activeOf status b.anchors).length := by
    rw [← hlength]
    constructor
    · intro hafter
      rw [← hanchors]
      exact (hafter count hcached').symm
    · intro hsame cached hcached''
      obtain rfl := Option.some.inj (hcached'.symm.trans hcached'')
      rw [hanchors, hsame]
  rw [hiff, activeOf_flagged hstatus, List.length_filter_eq_length_iff]
  simp only [decide_eq_true_iff]

/-- Marking a record that had no flag of its own keeps the count right exactly when it is the one
active record that is lost. -/
theorem countOk_iff_marked {flagged : List (BytesN 32)} {count : ℕ} {record : IdentityVCRecord}
    (hstatus : ∀ vcHash, status' vcHash = (status vcHash || decide (vcHash ∈ flagged)))
    (hforwarded : ∀ other ∈ flagged, other = vcHash) (hdistinct : Distinct b.anchors)
    (hmem : record ∈ b.anchors) (hanchor : IsAnchor issuer vcHash record) (hunmarked : record.revoked = false)
    (hok : CountOk status b) (hcached : b.activeCount = some count) (hpositive : 1 ≤ count) :
    count - 1 = (activeOf status' (markRecords issuer vcHash b.anchors)).length ↔
      Counted status flagged x b (some (.markVcRevoked issuer x vcHash)) := by
  have hlength := hok count hcached
  have hnodup : (activeOf status b.anchors).Nodup := (List.Nodup.of_map _ hdistinct).filter _
  have hactive (other : IdentityVCRecord) : other ∈ activeOf status b.anchors ↔
      other ∈ b.anchors ∧ other.revoked = false ∧ status other.vcHash = false := by
    simp [activeOf, isActive]
  have hafter : activeOf status' (markRecords issuer vcHash b.anchors) = (activeOf status b.anchors).filter
      fun other => other.vcHash ∉ flagged ∧ ¬IsAnchor issuer vcHash other := by
    rw [activeOf_flagged hstatus, activeOf_markRecords, List.filter_filter]
    refine List.filter_congr fun other _ => ?_
    simp only [Bool.decide_and]
  have hone := length_filter_add_one hnodup
    (p := fun other => decide (other.vcHash ∉ flagged ∧ ¬IsAnchor issuer vcHash other))
  rw [hafter]
  constructor
  · intro hcount
    obtain ⟨lost, hlost, honly⟩ := hone.mp (by omega)
    simp only [decide_eq_false_iff_not, not_and_or, not_not] at honly
    -- the lost record has the hash, so the registry does not list it
    have hhash : lost.vcHash = vcHash := by
      rcases (honly lost hlost).mpr rfl with hflagged | hlostAnchor
      · exact hforwarded _ hflagged
      · exact hlostAnchor.1
    have hunlisted : status vcHash = false := by
      rw [← hhash]
      exact ((hactive lost).mp hlost).2.2
    have hrecord : record ∈ activeOf status b.anchors :=
      (hactive record).mpr ⟨hmem, hunmarked, by rw [hanchor.1, hunlisted]⟩
    refine ⟨?_, ?_⟩
    · rintro _ _ ⟨⟩ _
      exact hunlisted
    · intro other hother hflagged
      have hsame : other = record :=
        ((honly other hother).mp (Or.inl hflagged)).trans ((honly record hrecord).mp (Or.inr hanchor)).symm
      rw [hsame, hanchor.1, hanchor.2]
  · intro hcounted
    have hunlisted := hcounted.marked issuer vcHash rfl ⟨record, hmem, hanchor, hunmarked⟩
    have hrecord : record ∈ activeOf status b.anchors :=
      (hactive record).mpr ⟨hmem, hunmarked, by rw [hanchor.1, hunlisted]⟩
    have hlost := hone.mpr ⟨record, hrecord, fun other hother => by
      simp only [decide_eq_false_iff_not, not_and_or, not_not]
      constructor
      · rintro (hflagged | hotherAnchor)
        · have hmark := Call.markVcRevoked.inj (Option.some.inj (hcounted.listed other hother hflagged))
          exact hdistinct.eq hmem ((hactive other).mp hother).1 (hmark.1.symm.trans hanchor.2.symm)
            (hmark.2.2.symm.trans hanchor.1.symm)
        · exact hdistinct.eq hmem ((hactive other).mp hother).1 (hotherAnchor.2.trans hanchor.2.symm)
            (hotherAnchor.1.trans hanchor.1.symm)
      · rintro rfl
        exact Or.inr hanchor⟩
    omega

/-- A call that marks nobody's records changes a right count with the number of active records. -/
theorem SliceEffect.countOk_of_ne (heffect : SliceEffect env status x b call a)
    (hcall : ∀ issuer vcHash, call ≠ .markVcRevoked issuer x vcHash) (hok : CountOk status b) :
    CountOk status a := by
  intro count hcount
  cases heffect with
  | @anchored _ issuer vcHash hanchoring hauth hnew =>
    cases hcached : b.activeCount with
    | none =>
      rw [hcached] at hcount
      exact (Option.some.inj hcount).symm
    | some cached =>
      rw [hcached] at hcount
      have hlength := hok cached hcached
      rw [activeOf_append_anchorRecord, ← hlength, ← Option.some.inj hcount]
      simp only [countAfterAnchor]
      split <;> rfl
  | revoked => exact (hcall _ _ rfl).elim
  | remarked => exact (hcall _ _ rfl).elim
  | deactivated =>
    rw [activeOf_markRecord]
    exact (Option.some.inj hcount).symm
  | reactivated => exact hok count hcount
  | didAnchored => exact hok count hcount
  | counted =>
    cases hcached : b.activeCount with
    | none =>
      rw [hcached] at hcount
      exact (Option.some.inj hcount).symm
    | some cached =>
      rw [hcached] at hcount
      exact hok count (hcached.trans hcount)
  | untouched => exact hok count hcount

/-- A count that is only cached now is right. -/
theorem SliceEffect.countOk_of_uncached (heffect : SliceEffect env status x b call a)
    (hcached : b.activeCount = none) : CountOk status a := by
  have hok : CountOk status b := by
    intro count hcount
    cases hcached.symm.trans hcount
  by_cases hcall : ∃ issuer vcHash, call = .markVcRevoked issuer x vcHash
  · obtain ⟨issuer, vcHash, rfl⟩ := hcall
    intro count hcount
    cases heffect with
    | anchored hanchoring => cases hanchoring
    | deactivated hdeactivation => cases hdeactivation
    | revoked =>
      rw [hcached] at hcount
      exact (Option.some.inj hcount).symm
    | remarked =>
      rw [hcached] at hcount
      exact (Option.some.inj hcount).symm
    | untouched => cases hcached.symm.trans hcount
  · exact heffect.countOk_of_ne (fun issuer vcHash hsame => hcall ⟨issuer, vcHash, hsame⟩) hok

/-- A right count stays right exactly when the change is counted. -/
theorem SliceEffect.countOk_iff (heffect : SliceEffect env status' x b call a) {flagged : List (BytesN 32)}
    {count : ℕ} (hstatus : ∀ vcHash, status' vcHash = (status vcHash || decide (vcHash ∈ flagged)))
    (hforwarded : ∀ vcHash ∈ flagged, ∃ issuer subject, call = .markVcRevoked issuer subject vcHash)
    (hdistinct : Distinct b.anchors) (hok : CountOk status b) (hcached : b.activeCount = some count) :
    CountOk status' a ↔ Counted status flagged x b (some call) := by
  by_cases hmark : ∃ issuer subject vcHash, call = .markVcRevoked issuer subject vcHash
  · obtain ⟨issuer, subject, vcHash, rfl⟩ := hmark
    have hsame : ∀ other ∈ flagged, other = vcHash := by
      intro other hother
      obtain ⟨_, _, hcall⟩ := hforwarded other hother
      exact (Call.markVcRevoked.inj hcall).2.2.symm
    cases heffect with
    | anchored hanchoring => cases hanchoring
    | deactivated hdeactivation => cases hdeactivation
    | revoked hauth htransition hpositive =>
      obtain ⟨record, hmem, hanchor, hunmarked⟩ := htransition
      rw [← countOk_iff_marked hstatus hsame hdistinct hmem hanchor hunmarked hok hcached
        (hpositive count hcached)]
      simp only [CountOk, hcached, countAfterRevoke, Option.some.injEq, forall_eq']
    | remarked hauth hmarked =>
      rw [hcached, Option.getD_some]
      refine (countOk_iff_unflagged hstatus hok hcached (by rfl) (by rfl)).trans ?_
      constructor
      · intro hnone
        refine ⟨?_, fun record hmem hflagged => (hnone record hmem hflagged).elim⟩
        rintro _ _ ⟨⟩ ⟨record, hmem, hanchor, hunmarked⟩
        cases hunmarked.symm.trans (hmarked record hmem hanchor)
      · intro hcounted record hmem hflagged
        have hcall := Call.markVcRevoked.inj (Option.some.inj (hcounted.listed record hmem hflagged))
        have hactive := List.mem_filter.mp hmem
        have hrevoked := hmarked record hactive.1 ⟨hcall.2.2.symm, hcall.1.symm⟩
        simp [isActive, hrevoked] at hactive
    | untouched hnot =>
      rw [countOk_iff_unflagged hstatus hok hcached hcached rfl, counted_iff_of_ne]
      exact fun issuer vcHash hcall => hnot issuer vcHash (Option.some.inj hcall)
  · have hnone : flagged = [] := by
      rw [List.eq_nil_iff_forall_not_mem]
      intro vcHash hflagged
      obtain ⟨issuer, subject, hcall⟩ := hforwarded vcHash hflagged
      exact hmark ⟨issuer, subject, vcHash, hcall⟩
    have hsame : status' = status := by
      funext vcHash
      rw [hstatus, hnone]
      simp only [List.not_mem_nil, decide_false, Bool.or_false]
    have hnot (issuer : Address) (vcHash : BytesN 32) : call ≠ .markVcRevoked issuer x vcHash :=
      fun hcall => hmark ⟨issuer, x, vcHash, hcall⟩
    subst hsame
    refine iff_of_true (heffect.countOk_of_ne hnot hok) ?_
    rw [counted_iff_of_ne fun issuer vcHash hcall => hnot issuer vcHash (Option.some.inj hcall), hnone]
    exact fun _ _ => List.not_mem_nil

end StellarDidCredit.IdentityOracle
