import StellarDidCredit.IdentityOracle.Counts

/-!
# Changes of a subject's identity and the ledger they are noted in

The active records of a subject and its deactivation flag change by calls that note the
ledger, and by hashes that the linked registry flags. A flagged hash is noted only when the
identity oracle is told to mark a record of that subject.
-/

namespace StellarDidCredit.IdentityOracle

variable {env : Env} {call : Call} {status status' : BytesN 32 → Bool} {x : Address} {b a : Slice}

/-- The calls that change the subject's active records or its deactivation flag. -/
inductive Alters (status : BytesN 32 → Bool) (x : Address) (b : Slice) : Call → Prop
  | anchors {call : Call} {issuer : Address} {vcHash : BytesN 32}
      (hcall : call.anchoring = some (issuer, x, vcHash))
      (hnew : ∀ record ∈ b.anchors, ¬IsAnchor issuer vcHash record) (hstatus : status vcHash = false) :
      Alters status x b call
  | revokes {issuer : Address} {vcHash : BytesN 32} {record : IdentityVCRecord}
      (hmem : record ∈ activeOf status b.anchors) (hanchor : IsAnchor issuer vcHash record) :
      Alters status x b (.markVcRevoked issuer x vcHash)
  | deactivates {call : Call} (hcall : call.deactivation = some x)
      (hactive : b.deactivated = false ∨ activeOf status b.anchors ≠ []) : Alters status x b call
  | reactivates (hdeactivated : b.deactivated = true) : Alters status x b (.reactivateIdentity x)

/-- The active records or the deactivation flag differ. -/
def Changed (status status' : BytesN 32 → Bool) (b a : Slice) : Prop :=
  activeOf status' a.anchors ≠ activeOf status b.anchors ∨ a.deactivated ≠ b.deactivated

/-- A call that changes the identity comes in a ledger after `computedAt`, and when the registry
flags an active record the call marks a record of the subject that had no flag of its own. -/
structure Notes (status : BytesN 32 → Bool) (flagged : List (BytesN 32)) (x : Address) (b : Slice)
    (computedAt now : ℕ) (executed : Option Call) : Prop where
  later : ∀ call, executed = some call → Alters status x b call → computedAt < now
  told : (∃ record ∈ activeOf status b.anchors, record.vcHash ∈ flagged) →
    ∃ issuer vcHash, executed = some (.markVcRevoked issuer x vcHash) ∧
      ∃ record ∈ b.anchors, IsAnchor issuer vcHash record ∧ record.revoked = false

/-- Records none of which is flagged stay active. -/
theorem activeOf_unflagged {flagged : List (BytesN 32)} {records : List IdentityVCRecord}
    (hstatus : ∀ vcHash, status' vcHash = (status vcHash || decide (vcHash ∈ flagged)))
    (hnone : ∀ record ∈ activeOf status records, record.vcHash ∉ flagged) :
    activeOf status' records = activeOf status records := by
  rw [activeOf_flagged hstatus, List.filter_eq_self]
  intro record hmem
  exact decide_eq_true (hnone record hmem)

/-- A record of a flagged hash is revoked from the start. -/
theorem activeOf_append_listed {issuer : Address} {vcHash : BytesN 32} (hlisted : status vcHash = true)
    (records : List IdentityVCRecord) :
    activeOf status (records ++ [anchorRecord env issuer vcHash]) = activeOf status records := by
  simp [activeOf, isActive, anchorRecord, hlisted]

/-- Marking the records of a flagged hash changes no active record. -/
theorem activeOf_markRecords_listed {vcHash : BytesN 32} (hlisted : status vcHash = true)
    (issuer : Address) (records : List IdentityVCRecord) :
    activeOf status (markRecords issuer vcHash records) = activeOf status records := by
  rw [activeOf_markRecords, List.filter_eq_self]
  intro record hactive
  refine decide_eq_true fun hanchor => ?_
  have hboth := (List.mem_filter.mp hactive).2
  simp [isActive, hanchor.1, hlisted] at hboth

/-- Nothing changes when the entries stay and the oracle is not told of a flagged record. -/
theorem Notes.not_changed {flagged : List (BytesN 32)} {computedAt now : ℕ} {executed : Option Call}
    (hnotes : Notes status flagged x b computedAt now executed)
    (hstatus : ∀ vcHash, status' vcHash = (status vcHash || decide (vcHash ∈ flagged)))
    (huntold : ¬∃ issuer vcHash, executed = some (.markVcRevoked issuer x vcHash) ∧
      ∃ record ∈ b.anchors, IsAnchor issuer vcHash record ∧ record.revoked = false)
    (hanchors : a.anchors = b.anchors) (hdeactivated : a.deactivated = b.deactivated) :
    ¬Changed status status' b a := by
  rintro (hactive | hflag)
  · refine hactive ?_
    rw [hanchors]
    refine activeOf_unflagged hstatus fun record hmem hflagged => ?_
    exact huntold (hnotes.told ⟨record, hmem, hflagged⟩)
  · exact hflag hdeactivated

/-- A change is noted in a ledger after `computedAt`. -/
theorem SliceEffect.noted (heffect : SliceEffect env status' x b call a) {flagged : List (BytesN 32)}
    {computedAt : ℕ} (hstatus : ∀ vcHash, status' vcHash = (status vcHash || decide (vcHash ∈ flagged)))
    (hforwarded : ∀ vcHash ∈ flagged, ∃ issuer subject, call = .markVcRevoked issuer subject vcHash)
    (hnotes : Notes status flagged x b computedAt env.ledger.sequence (some call))
    (hchanged : Changed status status' b a) : ∃ n, a.lastChange = some n ∧ computedAt < n := by
  cases heffect with
  | @anchored _ issuer vcHash hcall hauth hnew =>
    refine ⟨env.ledger.sequence, rfl, ?_⟩
    cases hlisted : status vcHash with
    | false => exact hnotes.later call rfl (.anchors hcall hnew hlisted)
    | true =>
      -- the new record is revoked from the start, so nothing changed
      have hlisted' : status' vcHash = true := by rw [hstatus, hlisted, Bool.true_or]
      have hsame : activeOf status' b.anchors = activeOf status b.anchors := by
        refine activeOf_unflagged hstatus fun record hmem hflagged => ?_
        obtain ⟨_, _, rfl⟩ := hforwarded _ hflagged
        cases hcall
      rcases hchanged with hactive | hflag
      · exact (hactive ((activeOf_append_listed hlisted' b.anchors).trans hsame)).elim
      · exact (hflag rfl).elim
  | @revoked issuer vcHash hauth htransition hpositive =>
    obtain ⟨record, hmem, hanchor, hunmarked⟩ := htransition
    refine ⟨env.ledger.sequence, rfl, ?_⟩
    cases hlisted : status vcHash with
    | false =>
      refine hnotes.later _ rfl (.revokes (List.mem_filter.mpr ⟨hmem, ?_⟩) hanchor)
      simp [isActive, hunmarked, hanchor.1, hlisted]
    | true =>
      -- the hash was revoked through the registry already, so nothing changed
      have hlisted' : status' vcHash = true := by rw [hstatus, hlisted, Bool.true_or]
      have hsame : activeOf status' b.anchors = activeOf status b.anchors := by
        refine activeOf_unflagged hstatus fun other hactive hflagged => ?_
        obtain ⟨_, _, hcall⟩ := hforwarded _ hflagged
        obtain rfl := (Call.markVcRevoked.inj hcall).2.2
        have hboth := (List.mem_filter.mp hactive).2
        simp [isActive, hlisted] at hboth
      rcases hchanged with hactive | hflag
      · exact (hactive ((activeOf_markRecords_listed hlisted' issuer b.anchors).trans hsame)).elim
      · exact (hflag rfl).elim
  | @remarked issuer vcHash hauth hmarked =>
    refine absurd hchanged (hnotes.not_changed hstatus ?_ rfl rfl)
    rintro ⟨_, _, ⟨⟩, record, hmem, hanchor, hunmarked⟩
    cases (hmarked record hmem hanchor).symm.trans hunmarked
  | deactivated hcall hauth =>
    refine ⟨env.ledger.sequence, rfl, hnotes.later call rfl (.deactivates hcall ?_)⟩
    rcases hchanged with hactive | hflag
    · rw [activeOf_markRecord] at hactive
      exact Or.inr hactive.symm
    · exact Or.inl (Bool.eq_false_of_not_eq_true' (by simpa using hflag.symm))
  | reactivated hauth =>
    refine ⟨env.ledger.sequence, rfl, ?_⟩
    cases hdeactivated : b.deactivated with
    | true => exact hnotes.later _ rfl (.reactivates hdeactivated)
    | false =>
      refine absurd hchanged (hnotes.not_changed hstatus ?_ rfl hdeactivated.symm)
      rintro ⟨_, _, hcall, -⟩
      cases hcall
  | didAnchored =>
    refine absurd hchanged (hnotes.not_changed hstatus ?_ rfl rfl)
    rintro ⟨_, _, hcall, -⟩
    cases hcall
  | counted =>
    refine absurd hchanged (hnotes.not_changed hstatus ?_ rfl rfl)
    rintro ⟨_, _, hcall, -⟩
    cases hcall
  | untouched hcall =>
    refine absurd hchanged (hnotes.not_changed hstatus ?_ rfl rfl)
    rintro ⟨issuer, vcHash, hmark, -⟩
    exact hcall issuer vcHash (Option.some.inj hmark)

end StellarDidCredit.IdentityOracle
