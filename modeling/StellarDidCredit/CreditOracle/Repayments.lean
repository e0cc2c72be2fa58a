import StellarDidCredit.CreditOracle.Timelock

/-!
# Repayment records

One version for the whole contract selects the layout in which every repayment record is read
and written, and a record that is read in another layout than its own traps. Records are
written by new repayments and by migrations; in every run no more repayments are on time than
there are.
-/

namespace StellarDidCredit.CreditOracle

/-! ## The layout in force -/

/-- The two layouts of a repayment record. -/
inductive Layout where
  | v1
  | v2
  deriving DecidableEq, Repr

def StoredRepayment.layout : StoredRepayment → Layout
  | .v1 _ => .v1
  | .v2 _ => .v2

def StoredRepayment.onTimeCount : StoredRepayment → ℕ
  | .v1 record => record.onTimeCount
  | .v2 record => record.onTimeCount

def StoredRepayment.totalCount : StoredRepayment → ℕ
  | .v1 record => record.totalCount
  | .v2 record => record.totalCount

/-- The layout that the storage version selects. -/
def State.layoutInForce (s : State) : Layout := if s.storageVersion.getD 1 < 2 then .v1 else .v2

/-- The subject's record is read without a trap, by a computation and by a new repayment. -/
structure Readable (s : State) (x : Address) : Prop where
  forScore : ∃ repayment, loadRepaymentForScore s x = .ok repayment
  forUpdate : ∀ amount onTime, ∃ entry, addRepayment x amount onTime s = .ok entry

variable {κ : Type} {host : Host κ} {env : Env} {call : Call} {s s' : State} {world world' : κ}

/-- The V1 reader returns empty counters without a record, and a V1 record as it is. -/
theorem loadRepaymentV1_eq_ok {x : Address} {record : RepaymentRecordV1} :
    loadRepaymentV1 s x = .ok record ↔
      (s.repaymentRecord x = none ∧ record = { onTimeCount := 0, totalCount := 0 }) ∨
        s.repaymentRecord x = some (.v1 record) := by
  unfold loadRepaymentV1
  cases s.repaymentRecord x with
  | none => simp [eq_comm]
  | some entry => cases entry <;> simp

/-- The V2 reader returns empty counters without a record, and a V2 record as it is. -/
theorem loadRepayment_eq_ok {x : Address} {record : RepaymentRecord} :
    loadRepayment s x = .ok record ↔
      (s.repaymentRecord x = none ∧ record = { onTimeCount := 0, totalCount := 0, totalRepaid := 0 }) ∨
        s.repaymentRecord x = some (.v2 record) := by
  unfold loadRepayment
  cases s.repaymentRecord x with
  | none => simp [eq_comm]
  | some entry => cases entry <;> simp

/-- The V1 reader returns unless the record is in the V2 layout. -/
theorem loadRepaymentV1_returns_iff {x : Address} : (∃ record, loadRepaymentV1 s x = .ok record) ↔
    ∀ entry, s.repaymentRecord x = some entry → entry.layout = .v1 := by
  unfold loadRepaymentV1
  cases s.repaymentRecord x with
  | none => simp
  | some entry => cases entry <;> simp [StoredRepayment.layout]

/-- The V2 reader returns unless the record is in the V1 layout. -/
theorem loadRepayment_returns_iff {x : Address} : (∃ record, loadRepayment s x = .ok record) ↔
    ∀ entry, s.repaymentRecord x = some entry → entry.layout = .v2 := by
  unfold loadRepayment
  cases s.repaymentRecord x with
  | none => simp
  | some entry => cases entry <;> simp [StoredRepayment.layout]

/-- A record is read exactly in its own layout. -/
theorem readable_iff {x : Address} :
    Readable s x ↔ ∀ entry, s.repaymentRecord x = some entry → entry.layout = s.layoutInForce := by
  unfold State.layoutInForce
  by_cases hversion : s.storageVersion.getD 1 < 2
  · rw [if_pos hversion, ← loadRepaymentV1_returns_iff]
    constructor
    · rintro ⟨⟨repayment, hload⟩, -⟩
      simp only [loadRepaymentForScore, if_pos hversion, Outcome.bind_eq_ok] at hload
      obtain ⟨record, hread, -⟩ := hload
      exact ⟨record, hread⟩
    · rintro ⟨record, hread⟩
      exact ⟨⟨_, by rw [loadRepaymentForScore, if_pos hversion, hread]; rfl⟩,
        fun amount onTime => ⟨_, by rw [addRepayment, if_pos hversion, hread]; rfl⟩⟩
  · rw [if_neg hversion, ← loadRepayment_returns_iff]
    constructor
    · rintro ⟨⟨repayment, hload⟩, -⟩
      exact ⟨repayment, by rwa [loadRepaymentForScore, if_neg hversion] at hload⟩
    · rintro ⟨record, hread⟩
      exact ⟨⟨_, by rw [loadRepaymentForScore, if_neg hversion, hread]⟩,
        fun amount onTime => ⟨_, by rw [addRepayment, if_neg hversion, hread]; rfl⟩⟩

/-! ## Migrated records -/

/-- The record in the new layout. -/
def StoredRepayment.upgraded (entry : StoredRepayment) : StoredRepayment :=
  match entry with
  | .v1 record =>
    .v2 { onTimeCount := record.onTimeCount, totalCount := record.totalCount, totalRepaid := 0 }
  | .v2 record => .v2 record

/-- A migrated record has the new layout. -/
@[simp] theorem StoredRepayment.upgraded_layout (entry : StoredRepayment) : entry.upgraded.layout = .v2 := by
  cases entry <;> rfl

/-- It keeps the repayments in time. -/
@[simp] theorem StoredRepayment.upgraded_onTimeCount (entry : StoredRepayment) :
    entry.upgraded.onTimeCount = entry.onTimeCount := by
  cases entry <;> rfl

/-- It keeps the number of repayments. -/
@[simp] theorem StoredRepayment.upgraded_totalCount (entry : StoredRepayment) :
    entry.upgraded.totalCount = entry.totalCount := by
  cases entry <;> rfl

/-- The loop upgrades the records of the listed subjects and leaves the others alone. -/
theorem migrateLoop_spec {subjects : List Address} {entries entries' : Storage Address StoredRepayment}
    (h : migrateLoop subjects entries = .ok entries') (x : Address) :
    entries' x = if x ∈ subjects then (entries x).map StoredRepayment.upgraded else entries x := by
  induction subjects generalizing entries with
  | nil =>
    cases h
    simp
  | cons subject rest ih =>
    rw [migrateLoop] at h
    cases hentry : entries subject with
    | none =>
      rw [hentry] at h
      have hrest := ih h
      by_cases hx : x = subject
      · subst hx
        simp [hrest, hentry]
      · simpa [hx] using hrest
    | some entry =>
      cases entry with
      | v2 record => simp [hentry] at h
      | v1 record =>
        simp only [hentry] at h
        have hrest := ih h
        by_cases hx : x = subject
        · subst hx
          simp [hrest, hentry, StoredRepayment.upgraded]
        · rw [Storage.set_of_ne _ _ hx] at hrest
          simpa [hx] using hrest

/-- A migration rewrites the listed records, and sets the version. -/
theorem migrate_spec {subjects : List Address} (h : migrate env subjects s = .ok s') :
    s.admin ≠ none ∧ ∃ entries, migrateLoop subjects s.repaymentRecord = .ok entries ∧
      s' = { s with repaymentRecord := entries, storageVersion := some 2 } := by
  simp only [migrate, Outcome.bind_eq_ok, requireStoredAdmin_eq_ok, Except.ok.injEq] at h
  obtain ⟨_, ⟨admin, hadmin, -⟩, entries, hloop, rfl⟩ := h
  exact ⟨by simp [hadmin], entries, hloop, rfl⟩

/-! ## One call -/

/-- The repayment records with the version that selects their layout. -/
def State.repayments (s : State) : Storage Address StoredRepayment × Option ℕ :=
  (s.repaymentRecord, s.storageVersion)

/-- A new repayment is written in the layout in force. -/
theorem addRepayment_layout {x : Address} {amount : ℤ} {onTime : Bool} {entry : StoredRepayment}
    (h : addRepayment x amount onTime s = .ok entry) : entry.layout = s.layoutInForce := by
  by_cases hversion : s.storageVersion.getD 1 < 2
  · simp only [addRepayment, if_pos hversion, Outcome.bind_eq_ok, Except.ok.injEq] at h
    obtain ⟨record, -, rfl⟩ := h
    simp [StoredRepayment.layout, State.layoutInForce, hversion]
  · simp only [addRepayment, if_neg hversion, Outcome.bind_eq_ok, Except.ok.injEq] at h
    obtain ⟨record, -, rfl⟩ := h
    simp [StoredRepayment.layout, State.layoutInForce, hversion]

/-- Records and version change by the initialisation, by a new repayment and by a migration. -/
theorem exec_repayments (h : exec host env call s world = .ok (s', world')) :
    s'.repayments = s.repayments ∨ (s.admin = none ∧ s'.repayments = (s.repaymentRecord, some 2)) ∨
    (∃ subject amount onTime entry, 0 < amount ∧ addRepayment subject amount onTime s = .ok entry ∧
      s'.repayments = (s.repaymentRecord.set subject entry, s.storageVersion)) ∨
    ∃ subjects entries, migrateLoop subjects s.repaymentRecord = .ok entries ∧
      s'.repayments = (entries, some 2) := by
  cases exec_effect h with
  | initialized hadmin => exact Or.inr (Or.inl ⟨hadmin, rfl⟩)
  | @scoreComputed subject v _ hcompute =>
    obtain ⟨score, protocolStats, rfl⟩ := computeScore_writes hcompute
    exact Or.inl rfl
  | other hcall hcore =>
    cases exec_writes hcall h with
    | @repaymentRecorded lender subject amount onTime entry hamount hpaused hauth htrusted hentry hroom =>
      exact Or.inr (Or.inr (Or.inl ⟨subject, amount, onTime, entry, hamount, hentry, rfl⟩))
    | @migrated subjects admin entries hadmin hauth hloop =>
      exact Or.inr (Or.inr (Or.inr ⟨subjects, entries, hloop, rfl⟩))
    | _ => exact Or.inl rfl
  | _ => exact Or.inl rfl

/-! ## Counters -/

/-- No more repayments are on time than there are, and the counter fits in 32 bits. -/
structure StoredRepayment.CountersOk (entry : StoredRepayment) : Prop where
  onTime_le : entry.onTimeCount ≤ entry.totalCount
  total_le : entry.totalCount ≤ U32.max

/-- All records have their counters in order. -/
def CountersOk (s : State) : Prop := ∀ x entry, s.repaymentRecord x = some entry → entry.CountersOk

/-- The counters after one more repayment. -/
theorem counters_add {onTimeCount totalCount : ℕ} (honTime : onTimeCount ≤ totalCount)
    (htotal : totalCount ≤ U32.max) (onTime : Bool) :
    (if onTime then U32.saturatingAdd onTimeCount 1 else onTimeCount) ≤ U32.saturatingAdd totalCount 1 ∧
      U32.saturatingAdd totalCount 1 ≤ U32.max := by
  unfold U32.saturatingAdd
  cases onTime <;> simp only [if_true, if_false, Bool.false_eq_true] <;> omega

/-- The counters that the V1 reader returns are in order. -/
theorem loadRepaymentV1_counters (hs : CountersOk s) {x : Address} {record : RepaymentRecordV1}
    (h : loadRepaymentV1 s x = .ok record) :
    record.onTimeCount ≤ record.totalCount ∧ record.totalCount ≤ U32.max := by
  rcases loadRepaymentV1_eq_ok.mp h with ⟨-, rfl⟩ | hstored
  · exact ⟨le_rfl, Nat.zero_le _⟩
  · exact ⟨(hs x _ hstored).onTime_le, (hs x _ hstored).total_le⟩

/-- The counters that the V2 reader returns are in order. -/
theorem loadRepayment_counters (hs : CountersOk s) {x : Address} {record : RepaymentRecord}
    (h : loadRepayment s x = .ok record) :
    record.onTimeCount ≤ record.totalCount ∧ record.totalCount ≤ U32.max := by
  rcases loadRepayment_eq_ok.mp h with ⟨-, rfl⟩ | hstored
  · exact ⟨le_rfl, Nat.zero_le _⟩
  · exact ⟨(hs x _ hstored).onTime_le, (hs x _ hstored).total_le⟩

/-- A new repayment keeps the counters in order. -/
theorem addRepayment_counters (hs : CountersOk s) {x : Address} {amount : ℤ} {onTime : Bool}
    {entry : StoredRepayment} (h : addRepayment x amount onTime s = .ok entry) : entry.CountersOk := by
  by_cases hversion : s.storageVersion.getD 1 < 2
  · simp only [addRepayment, if_pos hversion, Outcome.bind_eq_ok, Except.ok.injEq] at h
    obtain ⟨record, hload, rfl⟩ := h
    obtain ⟨honTime, htotal⟩ := loadRepaymentV1_counters hs hload
    obtain ⟨honTime', htotal'⟩ := counters_add honTime htotal onTime
    exact ⟨honTime', htotal'⟩
  · simp only [addRepayment, if_neg hversion, Outcome.bind_eq_ok, Except.ok.injEq] at h
    obtain ⟨record, hload, rfl⟩ := h
    obtain ⟨honTime, htotal⟩ := loadRepayment_counters hs hload
    obtain ⟨honTime', htotal'⟩ := counters_add honTime htotal onTime
    exact ⟨honTime', htotal'⟩

/-- Every call keeps the counters in order. -/
theorem CountersOk.step (hs : CountersOk s) (h : exec host env call s world = .ok (s', world')) :
    CountersOk s' := by
  intro x entry hentry
  rcases exec_repayments h with hsame | ⟨-, hsame⟩ | ⟨subject, amount, onTime, added, -, hadd, hset⟩ |
    ⟨subjects, entries, hloop, hmigrated⟩
  · exact hs x entry ((congrFun (Prod.mk.inj hsame).1 x).symm.trans hentry)
  · exact hs x entry ((congrFun (Prod.mk.inj hsame).1 x).symm.trans hentry)
  · rw [(Prod.mk.inj hset).1, Storage.set_apply] at hentry
    split at hentry
    · obtain rfl := Option.some.inj hentry
      exact addRepayment_counters hs hadd
    · exact hs x entry hentry
  · rw [(Prod.mk.inj hmigrated).1, migrateLoop_spec hloop x] at hentry
    split at hentry
    · obtain ⟨old, hold, rfl⟩ := Option.map_eq_some_iff.mp hentry
      have hcounters := hs x old hold
      exact ⟨by simpa using hcounters.onTime_le, by simpa using hcounters.total_le⟩
    · exact hs x entry hentry

/-- The counters are in order in every run. -/
theorem countersOk_of_run {ledger : Ledger} {history : List Move} {final : Config}
    (hrun : Run (StepOf Config.next) (.fresh ledger) history final) : CountersOk final.state := by
  have hstart : CountersOk {} := by
    intro x entry hentry
    cases hentry
  refine hrun.invariant (fun c => CountersOk c.state) ?_ hstart
  intro c e c' hok hstep
  exact hok.step (Config.step_iff.mp hstep).2.2

/-- No more repayments are on time than there are, also in the counters of a computation. -/
theorem loadRepaymentForScore_counters (hs : CountersOk s) {x : Address} {repayment : RepaymentRecord}
    (h : loadRepaymentForScore s x = .ok repayment) : repayment.onTimeCount ≤ repayment.totalCount := by
  unfold loadRepaymentForScore at h
  split at h
  · simp only [Outcome.bind_eq_ok, Except.ok.injEq] at h
    obtain ⟨record, hload, rfl⟩ := h
    exact (loadRepaymentV1_counters hs hload).1
  · exact (loadRepayment_counters hs h).1

end StellarDidCredit.CreditOracle
