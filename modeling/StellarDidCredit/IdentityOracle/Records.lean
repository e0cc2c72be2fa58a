import Mathlib.Algebra.BigOperators.Finprod
import StellarDidCredit.IdentityOracle.Statistics

/-!
# The records of all subjects and their counters

The two counters of the contract are the number of all records and the number of all flagged
ones, in every run. An issuer has one record of a hash for each subject, so that a revocation
flags exactly one. Records stay where they are in their list, and flags stay set.
-/

namespace StellarDidCredit.IdentityOracle

variable {κ : Type} {host : Host κ} {env : Env} {call : Call} {s s' : State} {world world' : κ}
  {x issuer : Address} {vcHash : BytesN 32} {records : List IdentityVCRecord}

/-! ## Flagged records -/

/-- The number of records with a flag of their own. -/
def markedOf (records : List IdentityVCRecord) : ℕ := records.countP fun record => record.revoked

/-- A record has a flag or not. -/
theorem markedOf_add_unmarkedOf (records : List IdentityVCRecord) :
    markedOf records + unmarkedOf records = records.length := by
  have hsplit := List.length_eq_countP_add_countP (fun record : IdentityVCRecord => record.revoked) (l := records)
  have hunmarked : unmarkedOf records = records.countP fun record => decide ¬record.revoked = true :=
    List.countP_congr fun record _ => by simp
  rw [markedOf, hunmarked, hsplit]

/-- An issuer has at most one record of a hash. -/
theorem Distinct.countP_le_one (h : Distinct records) (issuer : Address) (vcHash : BytesN 32) :
    records.countP (fun record => IsAnchor issuer vcHash record) ≤ 1 := by
  have hcount := List.nodup_iff_count_le_one.mp h (issuer, vcHash)
  rw [List.count, List.countP_map] at hcount
  refine le_trans (List.countP_mono_left fun record _ hanchor => ?_) hcount
  obtain ⟨hhash, hissuer⟩ := of_decide_eq_true hanchor
  simp [hhash, hissuer]

/-- Of distinct records a revocation flags exactly one. -/
theorem markedOf_markRecords (hdistinct : Distinct records)
    (h : ∃ record ∈ records, IsAnchor issuer vcHash record ∧ record.revoked = false) :
    markedOf (markRecords issuer vcHash records) = markedOf records + 1 := by
  have hfewer := unmarkedOf_markRecords_lt h
  have htaken := unmarkedOf_markRecords_add issuer vcHash records
  have hone : records.countP (fun record => decide (IsAnchor issuer vcHash record) && !record.revoked) ≤ 1 := by
    refine le_trans (List.countP_mono_left fun record _ hboth => ?_) (hdistinct.countP_le_one issuer vcHash)
    exact (Bool.and_eq_true_iff.mp hboth).1
  have hbefore := markedOf_add_unmarkedOf records
  have hafter := markedOf_add_unmarkedOf (markRecords issuer vcHash records)
  have hlength : (markRecords issuer vcHash records).length = records.length := List.length_map _
  omega

/-! ## The counters -/

/-- The counters are the numbers of records and of flagged records, and no issuer has two records
of one hash at the same subject. -/
structure Accounted (s : State) : Prop where
  finite : (Function.support fun x => (anchorsOf s x).length).Finite
  anchored : s.protocolStats.totalVcsAnchored = ∑ᶠ x, (anchorsOf s x).length
  revoked : s.protocolStats.totalVcsRevoked = ∑ᶠ x, markedOf (anchorsOf s x)
  distinct : ∀ x, Distinct (anchorsOf s x)

/-- A fresh contract has no records. -/
theorem accounted_start : Accounted {} where
  finite := by simp [anchorsOf]
  anchored := by simp [anchorsOf]
  revoked := by simp [anchorsOf, markedOf]
  distinct _ := List.nodup_nil

/-- Only subjects with records have flagged ones. -/
theorem Accounted.finite_marked (h : Accounted s) :
    (Function.support fun x => markedOf (anchorsOf s x)).Finite := by
  refine h.finite.subset fun x hx => ?_
  have hsplit := markedOf_add_unmarkedOf (anchorsOf s x)
  simp only [Function.mem_support] at hx ⊢
  omega

/-- A call about one subject that moves the counters as it moves the numbers there. -/
theorem Accounted.changed (h : Accounted s) {subject : Address} (hwritten : RecordsWritten s s' subject records)
    (hanchored : s'.protocolStats.totalVcsAnchored + (anchorsOf s subject).length =
      s.protocolStats.totalVcsAnchored + records.length)
    (hrevoked : s'.protocolStats.totalVcsRevoked + markedOf (anchorsOf s subject) =
      s.protocolStats.totalVcsRevoked + markedOf records)
    (hdistinct : Distinct records) : Accounted s' := by
  have hlengths (y : Address) (hy : y ≠ subject) : (anchorsOf s' y).length = (anchorsOf s y).length := by
    rw [hwritten.others y hy]
  have hmarks (y : Address) (hy : y ≠ subject) : markedOf (anchorsOf s' y) = markedOf (anchorsOf s y) := by
    rw [hwritten.others y hy]
  refine ⟨support_finite_of_eq_off _ _ subject h.finite hlengths, ?_, ?_, ?_⟩
  · have hsum := finsum_add_eq_add _ _ subject h.finite hlengths
    rw [← h.anchored, hwritten.self] at hsum
    omega
  · have hsum := finsum_add_eq_add _ _ subject h.finite_marked hmarks
    rw [← h.revoked, hwritten.self] at hsum
    omega
  · intro y
    by_cases hy : y = subject
    · rw [hy, hwritten.self]
      exact hdistinct
    · rw [hwritten.others y hy]
      exact h.distinct y

/-- A call that writes neither records nor these counters. -/
theorem Accounted.same (h : Accounted s) (hanchors : s'.vcAnchors = s.vcAnchors)
    (hanchored : s'.protocolStats.totalVcsAnchored = s.protocolStats.totalVcsAnchored)
    (hrevoked : s'.protocolStats.totalVcsRevoked = s.protocolStats.totalVcsRevoked) : Accounted s' := by
  have hsame (y : Address) : anchorsOf s' y = anchorsOf s y := by simp only [anchorsOf, hanchors]
  refine h.changed ⟨hsame (.account 0), fun y _ => hsame y⟩ ?_ ?_ (h.distinct _)
  · rw [hanchored]
  · rw [hrevoked]

/-- Every call keeps the counters exact. -/
theorem Accounted.step (h : Accounted s) (hwrites : Writes env s call s') : Accounted s' := by
  cases hwrites with
  | @vcAnchored _ issuer subject vcHash credentialType activeCount hcall hpaused hauth htrusted hnew hroom =>
    have hmarked : markedOf (anchorsOf s subject ++ [anchorRecord env issuer vcHash]) =
        markedOf (anchorsOf s subject) := by
      rw [markedOf, List.countP_append]
      rfl
    refine h.changed (recordsWritten_of_set rfl) ?_ ?_ ((h.distinct subject).append_anchorRecord hnew)
    · rw [List.length_append, List.length_singleton]
      dsimp only
      omega
    · rw [hmarked]
  | @vcRevoked issuer subject vcHash activeCount hpaused hauth htransition =>
    have hmarked := markedOf_markRecords (h.distinct subject) htransition
    refine h.changed (recordsWritten_of_set rfl) ?_ ?_ ((h.distinct subject).markRecords issuer vcHash)
    · rw [markRecords, List.length_map]
    · dsimp only
      omega
  | @deactivated _ subject hcall hauth =>
    have hbefore := markedOf_add_unmarkedOf (anchorsOf s subject)
    have hafter := markedOf_add_unmarkedOf ((anchorsOf s subject).map markRecord)
    rw [unmarkedOf_swept, List.length_map] at hafter
    unfold unmarkedOf at hbefore
    have hdistinct : Distinct ((anchorsOf s subject).map markRecord) :=
      (h.distinct subject).map_marked (fun _ => rfl) (fun _ => rfl)
    refine h.changed (recordsWritten_of_sweep rfl) ?_ ?_ hdistinct
    · rw [List.length_map]
    · dsimp only
      omega
  | _ => exact h.same rfl rfl rfl

/-! ## Records stay -/

/-- The same record, with its flag if it had one. -/
structure Kept (before after : IdentityVCRecord) : Prop where
  vcHash : after.vcHash = before.vcHash
  issuer : after.issuer = before.issuer
  anchoredAt : after.anchoredAt = before.anchoredAt
  revoked : before.revoked = true → after.revoked = true

/-- Every record is still at its place in the list. -/
def Extends (before after : List IdentityVCRecord) : Prop :=
  ∀ (i : ℕ) record, before[i]? = some record → ∃ record', after[i]? = some record' ∧ Kept record record'

/-- A list extends itself. -/
theorem Extends.refl (records : List IdentityVCRecord) : Extends records records :=
  fun _ record hrecord => ⟨record, hrecord, rfl, rfl, rfl, id⟩

/-- Extensions compose. -/
theorem Extends.trans {a b c : List IdentityVCRecord} (hab : Extends a b) (hbc : Extends b c) :
    Extends a c := by
  intro i record hrecord
  obtain ⟨middle, hmiddle, hfirst⟩ := hab i record hrecord
  obtain ⟨last, hlast, hsecond⟩ := hbc i middle hmiddle
  exact ⟨last, hlast, hsecond.vcHash.trans hfirst.vcHash, hsecond.issuer.trans hfirst.issuer,
    hsecond.anchoredAt.trans hfirst.anchoredAt, hsecond.revoked ∘ hfirst.revoked⟩

/-- An appended record extends the list. -/
theorem extends_append (added : List IdentityVCRecord) : Extends records (records ++ added) := by
  intro i record hrecord
  obtain ⟨hi, -⟩ := List.getElem?_eq_some_iff.mp hrecord
  exact ⟨record, by rw [List.getElem?_append_left hi, hrecord], rfl, rfl, rfl, id⟩

/-- Marks extend the list. -/
theorem extends_map {mark : IdentityVCRecord → IdentityVCRecord} (hkept : ∀ record, Kept record (mark record)) :
    Extends records (records.map mark) := by
  intro i record hrecord
  exact ⟨mark record, by rw [List.getElem?_map, hrecord, Option.map_some], hkept record⟩

/-- Records that are written over their own list leave every list extended. -/
theorem RecordsWritten.extends {subject : Address} (h : RecordsWritten s s' subject records)
    (hself : Extends (anchorsOf s subject) records) (x : Address) : Extends (anchorsOf s x) (anchorsOf s' x) := by
  by_cases hx : x = subject
  · rw [hx, h.self]
    exact hself
  · rw [h.others x hx]
    exact .refl _

/-- A call leaves every record of every subject at its place. -/
theorem Writes.extends (hwrites : Writes env s call s') (x : Address) :
    Extends (anchorsOf s x) (anchorsOf s' x) := by
  cases hwrites with
  | vcAnchored => exact (recordsWritten_of_set rfl).extends (extends_append _) x
  | vcRevoked =>
    refine (recordsWritten_of_set rfl).extends (extends_map fun record => ?_) x
    split
    · exact ⟨rfl, rfl, rfl, fun _ => rfl⟩
    · exact ⟨rfl, rfl, rfl, id⟩
  | deactivated =>
    exact (recordsWritten_of_sweep rfl).extends (extends_map fun record => ⟨rfl, rfl, rfl, fun _ => rfl⟩) x
  | _ => exact .refl _

/-! ## Every run -/

/-- In every run the counters are the numbers of all records and of all flagged ones, no issuer has
two records of a hash at a subject, records and flags stay, and a deactivation returns how many
revocations it adds. -/
theorem records_accounted {history : List Move} {final : State} (hrun : Run (StepOf next) {} history final) :
    (Function.support fun x => (anchorsOf final x).length).Finite ∧
    final.protocolStats.totalVcsAnchored = ∑ᶠ x, (anchorsOf final x).length ∧
    final.protocolStats.totalVcsRevoked = ∑ᶠ x, markedOf (anchorsOf final x) ∧
    (∀ x, Distinct (anchorsOf final x)) ∧
    (∀ t ∈ history, ∀ x, Extends (anchorsOf t.before x) (anchorsOf t.after x) ∧
      Extends (anchorsOf t.after x) (anchorsOf final x)) ∧
    ∀ env subject revokedCount after, deactivateIdentity env subject final = .ok (revokedCount, after) →
      after.protocolStats.totalVcsRevoked = final.protocolStats.totalVcsRevoked + revokedCount := by
  have hok : Accounted final := hrun.invariant Accounted
    (fun _ _ _ hok hstep => hok.step (writes_of_next hstep)) accounted_start
  refine ⟨hok.finite, hok.anchored, hok.revoked, hok.distinct, ?_, ?_⟩
  · intro t ht x
    exact hrun.related_of_mem (fun a b => Extends (anchorsOf a x) (anchorsOf b x)) (fun _ => .refl _)
      (fun _ _ _ => .trans) (fun _ _ _ hstep => (writes_of_next hstep).extends x) ht
  · intro env subject revokedCount after h
    obtain ⟨rfl, rfl⟩ := deactivateCore_ok (deactivateIdentity_spec h).2
    rfl

/-- A call of the identity oracle at the address 10, signed by its admin, an issuer and a subject. -/
def sampleEvent (sequence : BitVec 32) (call : Call) : Event where
  env := .signedBy (.numbered sequence) (.contract 10) [.account 1, .account 2, .account 3]
  call
  host := { isRevoked := fun _ _ _ => some false, setIdentityOracle := fun _ _ _ => some () }

/-- Two credentials, one of them anchored and revoked twice. -/
def sampleRecords : List Event :=
  [ sampleEvent 0 (.initializeContract (.account 1)),
    sampleEvent 1 (.registerIssuer (.account 2)),
    sampleEvent 2 (.anchorVc (.account 2) (.account 3) 7),
    sampleEvent 3 (.anchorVc (.account 2) (.account 3) 7),
    sampleEvent 4 (.anchorVc (.account 2) (.account 3) 8),
    sampleEvent 5 (.markVcRevoked (.account 2) (.account 3) 7),
    sampleEvent 6 (.markVcRevoked (.account 2) (.account 3) 7) ]

/-- Two records, of which one is marked. -/
theorem records_accounted_sample : ∃ history final, Run (StepOf next) {} history final ∧
    final.protocolStats.totalVcsAnchored = 2 ∧ 2 = ∑ᶠ x, (anchorsOf final x).length ∧
    final.protocolStats.totalVcsRevoked = 1 ∧ 1 = ∑ᶠ x, markedOf (anchorsOf final x) := by
  obtain ⟨history, final, hrun, hobserved⟩ := Run.exists_of_replay
    (show (replay next {} sampleRecords).map (fun r => (r.2.protocolStats.totalVcsAnchored,
      r.2.protocolStats.totalVcsRevoked)) = some (2, 1) from rfl)
  obtain ⟨hanchored, hrevoked⟩ := Prod.mk.inj hobserved
  obtain ⟨-, hlengths, hmarks, -⟩ := records_accounted hrun
  exact ⟨history, final, hrun, hanchored, hanchored.symm.trans hlengths, hrevoked, hrevoked.symm.trans hmarks⟩

end StellarDidCredit.IdentityOracle
