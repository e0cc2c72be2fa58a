import StellarDidCredit.CreditOracle.Repayments
import StellarDidCredit.Scoring.Arithmetic

/-!
# What a repayment does to the score

The counters and the repaid total of a record stop at the bounds of their types. One more
repayment on time moves the rate towards one also when a counter has stopped, and the repaid
total never falls, so the score does not fall. A late repayment does not raise the rate.
-/

namespace StellarDidCredit.CreditOracle

variable {κ : Type} {host : Host κ} {env : Env} {call : Call} {s s' : State} {world world' : κ}
  {lender x : Address} {amount : ℤ} {onTime : Bool}

/-! ## Repaid totals -/

/-- The repaid total is not negative and fits in its type. -/
structure RepaymentRecord.AmountOk (record : RepaymentRecord) : Prop where
  nonneg : 0 ≤ record.totalRepaid
  le_max : record.totalRepaid ≤ I128.max

/-- All records in the new layout have their totals in order. -/
def AmountsOk (s : State) : Prop := ∀ x record, s.repaymentRecord x = some (.v2 record) → record.AmountOk

/-- Adding a positive amount neither lowers a total nor leaves the type. -/
theorem saturatingAdd_amount {total : ℤ} (hnonneg : 0 ≤ total) (hfits : total ≤ I128.max) (hamount : 0 < amount) :
    total ≤ I128.saturatingAdd total amount ∧ I128.saturatingAdd total amount ≤ I128.max := by
  unfold I128.saturatingAdd I128.min I128.max at *
  omega

/-- The total that the V2 reader returns is in order. -/
theorem loadRepayment_amount (hs : AmountsOk s) {record : RepaymentRecord}
    (h : loadRepayment s x = .ok record) : record.AmountOk := by
  rcases loadRepayment_eq_ok.mp h with ⟨-, rfl⟩ | hstored
  · exact ⟨le_rfl, I128.zero_le_max⟩
  · exact hs x _ hstored

/-- In the new layout a repayment adds one to the counters and the amount to the total, as far as
their types allow. -/
theorem addRepayment_v2 {record : RepaymentRecord} (h : addRepayment x amount onTime s = .ok (.v2 record)) :
    ∃ before, loadRepayment s x = .ok before ∧ record =
      { onTimeCount := if onTime then U32.saturatingAdd before.onTimeCount 1 else before.onTimeCount
        totalCount := U32.saturatingAdd before.totalCount 1
        totalRepaid := I128.saturatingAdd before.totalRepaid amount } := by
  by_cases hversion : s.storageVersion.getD 1 < 2
  · simp only [addRepayment, if_pos hversion, Outcome.bind_eq_ok, Except.ok.injEq] at h
    obtain ⟨_, -, hlayout⟩ := h
    cases hlayout
  · simp only [addRepayment, if_neg hversion, Outcome.bind_eq_ok, Except.ok.injEq] at h
    obtain ⟨before, hload, hrecord⟩ := h
    exact ⟨before, hload, (StoredRepayment.v2.inj hrecord).symm⟩

/-- Every call keeps the totals in order. -/
theorem AmountsOk.step (hs : AmountsOk s) (h : exec host env call s world = .ok (s', world')) : AmountsOk s' := by
  intro x record hrecord
  rcases exec_repayments h with hsame | ⟨-, hsame⟩ | ⟨subject, amount, onTime, added, hamount, hadd, hset⟩ |
    ⟨subjects, entries, hloop, hmigrated⟩
  · exact hs x record ((congrFun (Prod.mk.inj hsame).1 x).symm.trans hrecord)
  · exact hs x record ((congrFun (Prod.mk.inj hsame).1 x).symm.trans hrecord)
  · rw [(Prod.mk.inj hset).1, Storage.set_apply] at hrecord
    split at hrecord
    · obtain rfl := Option.some.inj hrecord
      obtain ⟨before, hload, rfl⟩ := addRepayment_v2 hadd
      have hbefore := loadRepayment_amount hs hload
      obtain ⟨hraised, hfits⟩ := saturatingAdd_amount hbefore.nonneg hbefore.le_max hamount
      exact ⟨hbefore.nonneg.trans hraised, hfits⟩
    · exact hs x record hrecord
  · rw [(Prod.mk.inj hmigrated).1, migrateLoop_spec hloop x] at hrecord
    split at hrecord
    · obtain ⟨old, hold, hupgraded⟩ := Option.map_eq_some_iff.mp hrecord
      cases old with
      | v1 old =>
        cases hupgraded
        exact ⟨le_rfl, I128.zero_le_max⟩
      | v2 old =>
        cases hupgraded
        exact hs x _ hold
    · exact hs x record hrecord

/-- The totals are in order in every run. -/
theorem amountsOk_of_run {ledger : Ledger} {history : List Move} {final : Config}
    (hrun : Run (StepOf Config.next) (.fresh ledger) history final) : AmountsOk final.state := by
  have hstart : AmountsOk {} := by
    intro x record hrecord
    cases hrecord
  refine hrun.invariant (fun c => AmountsOk c.state) ?_ hstart
  intro c e c' hok hstep
  exact hok.step (Config.step_iff.mp hstep).2.2

/-! ## Rates -/

/-- A fraction is at most another one when the products across say so. -/
theorem div_le_div_of_cross {a b c d : ℕ} (hb : 0 < b) (hd : 0 < d) (h : a * d ≤ c * b) : a / b ≤ c / d := by
  rw [Nat.le_div_iff_mul_le hd]
  have hfloor : a / b * d * b ≤ c * b := by
    calc a / b * d * b = a / b * b * d := by ring
      _ ≤ a * d := Nat.mul_le_mul_right d (Nat.div_mul_le_self a b)
      _ ≤ c * b := h
  exact Nat.le_of_mul_le_mul_right hfloor hb

/-- One more repayment on time, also when a counter has stopped, is no smaller a part. -/
theorem saturated_cross {onTimeCount totalCount : ℕ} (honTime : onTimeCount ≤ totalCount)
    (htotal : totalCount ≤ U32.max) :
    onTimeCount * U32.saturatingAdd totalCount 1 ≤ U32.saturatingAdd onTimeCount 1 * totalCount := by
  rcases Nat.lt_or_ge totalCount U32.max with hroom | hfull
  · have hnext : U32.saturatingAdd totalCount 1 = totalCount + 1 := by
      unfold U32.saturatingAdd
      omega
    have honTimeNext : U32.saturatingAdd onTimeCount 1 = onTimeCount + 1 := by
      unfold U32.saturatingAdd
      omega
    rw [hnext, honTimeNext, Nat.mul_add, Nat.add_mul]
    omega
  · have hstopped : U32.saturatingAdd totalCount 1 = totalCount := by
      unfold U32.saturatingAdd
      omega
    have hraised : onTimeCount ≤ U32.saturatingAdd onTimeCount 1 := by
      unfold U32.saturatingAdd
      omega
    rw [hstopped]
    exact Nat.mul_le_mul_right totalCount hraised

/-- A repayment on time does not lower the rate in the score. -/
theorem repaymentRateScore_onTime {onTimeCount totalCount : ℕ} (honTime : onTimeCount ≤ totalCount)
    (htotal : totalCount ≤ U32.max) :
    repaymentRateScore onTimeCount totalCount ≤
      repaymentRateScore (U32.saturatingAdd onTimeCount 1) (U32.saturatingAdd totalCount 1) := by
  have hexact {count : ℕ} (h : count ≤ U32.max) : U128.saturatingMul count 10000 = count * 10000 := by
    have hproduct : count * 10000 ≤ U128.max := (Nat.mul_le_mul_right _ h).trans (by decide)
    exact min_eq_left hproduct
  by_cases hnone : totalCount = 0
  · rw [repaymentRateScore, if_pos hnone]
    exact Nat.zero_le _
  · have hpositive : 0 < U32.saturatingAdd totalCount 1 := by
      unfold U32.saturatingAdd U32.max
      omega
    have hraised : U32.saturatingAdd onTimeCount 1 ≤ U32.max := min_le_right _ _
    rw [repaymentRateScore, repaymentRateScore, if_neg hnone, if_neg hpositive.ne',
      hexact (honTime.trans htotal), hexact hraised]
    refine Nat.div_le_div_right (div_le_div_of_cross (Nat.pos_of_ne_zero hnone) hpositive ?_)
    calc onTimeCount * 10000 * U32.saturatingAdd totalCount 1
        = onTimeCount * U32.saturatingAdd totalCount 1 * 10000 := by ring
      _ ≤ U32.saturatingAdd onTimeCount 1 * totalCount * 10000 :=
        Nat.mul_le_mul_right 10000 (saturated_cross honTime htotal)
      _ = U32.saturatingAdd onTimeCount 1 * 10000 * totalCount := by ring

/-- With no more repayments on time than there are the rate is not cut, and at most 100 percent. -/
theorem repaymentRateOf_eq {record : RepaymentRecord} (h : record.onTimeCount ≤ record.totalCount) :
    repaymentRateOf record = record.onTimeCount * 10000 / record.totalCount ∧ repaymentRateOf record ≤ 10000 := by
  have hrate : record.onTimeCount * 10000 / record.totalCount ≤ 10000 :=
    Nat.div_le_of_le_mul (Nat.mul_le_mul_right _ h)
  by_cases hnone : record.totalCount = 0
  · simp [repaymentRateOf, hnone]
  · rw [repaymentRateOf, if_neg hnone, Nat.mod_eq_of_lt (by omega)]
    exact ⟨rfl, hrate⟩

/-- A late repayment does not raise the stored rate. -/
theorem repaymentRateOf_late {before after : RepaymentRecord} (h : before.onTimeCount ≤ before.totalCount)
    (htotal : before.totalCount ≤ U32.max) (honTime : after.onTimeCount = before.onTimeCount)
    (hcounted : after.totalCount = U32.saturatingAdd before.totalCount 1) :
    repaymentRateOf after ≤ repaymentRateOf before := by
  have hmore : before.totalCount ≤ after.totalCount := by
    rw [hcounted, U32.saturatingAdd]
    omega
  rw [(repaymentRateOf_eq (honTime ▸ h.trans hmore)).1, (repaymentRateOf_eq h).1, honTime]
  by_cases hnone : before.totalCount = 0
  · have hzero : before.onTimeCount = 0 := Nat.le_zero.mp (hnone ▸ h)
    rw [hzero, Nat.zero_mul, Nat.zero_div]
    exact Nat.zero_le _
  · exact Nat.div_le_div_left hmore (Nat.pos_of_ne_zero hnone)

/-! ## Scores -/

/-- The score of a record with the given other inputs. -/
def RepaymentRecord.scoreWith (record : RepaymentRecord) (vcPoints : ℕ) (volume30d : ℤ) (avgCounterparties : ℕ)
    (weights : ScoringWeights) : ℕ :=
  computeScorePure vcPoints volume30d avgCounterparties record.onTimeCount record.totalCount
    record.totalRepaid weights.vcWeight weights.txWeight weights.repaymentWeight

/-- A repayment is positive, and is added to the subject's record. -/
theorem recordRepayment_spec (h : recordRepayment env lender x amount onTime s = .ok s') :
    0 < amount ∧ ∃ entry, addRepayment x amount onTime s = .ok entry ∧
      s'.repaymentRecord = s.repaymentRecord.set x entry ∧ s'.storageVersion = s.storageVersion := by
  simp only [recordRepayment, Outcome.bind_eq_ok, Outcome.require_eq_ok] at h
  obtain ⟨_, hamount, _, _, _, _, _, _, entry, hentry, hcounted⟩ := h
  obtain ⟨-, rfl⟩ := incrementRepaymentsRecorded_spec hcounted
  exact ⟨hamount, entry, hentry, rfl, rfl⟩

/-- In every run, a repayment under the new layout leaves a record of which the score is no lower
when it was on time, whatever the other inputs and the weights, and of which the rate is no
higher when it was late. -/
theorem repayment_moves_score {ledger : Ledger} {history : List Move} {final : Config}
    (hrun : Run (StepOf Config.next) (.fresh ledger) history final)
    (hversion : final.state.storageVersion = some 2)
    (h : recordRepayment env lender x amount onTime final.state = .ok s') :
    ∃ before after, loadRepayment final.state x = .ok before ∧ loadRepayment s' x = .ok after ∧
      (onTime = true → ∀ vcPoints volume30d avgCounterparties weights,
        before.scoreWith vcPoints volume30d avgCounterparties weights ≤
          after.scoreWith vcPoints volume30d avgCounterparties weights) ∧
      (onTime = false → repaymentRateOf after ≤ repaymentRateOf before) := by
  obtain ⟨hamount, entry, hadd, hrecords, hkept⟩ := recordRepayment_spec h
  have hlayout := addRepayment_layout hadd
  rw [State.layoutInForce, hversion] at hlayout
  cases entry with
  | v1 => cases hlayout
  | v2 after =>
    obtain ⟨before, hload, rfl⟩ := addRepayment_v2 hadd
    obtain ⟨honTime, htotal⟩ := loadRepayment_counters (countersOk_of_run hrun) hload
    have hbefore := loadRepayment_amount (amountsOk_of_run hrun) hload
    have hstored := congrFun hrecords x
    rw [Storage.set_self] at hstored
    refine ⟨before, _, hload, by rw [loadRepayment, hstored], ?_, ?_⟩
    · rintro rfl vcPoints volume30d avgCounterparties weights
      have hrepaid := (saturatingAdd_amount hbefore.nonneg hbefore.le_max hamount).1
      exact computeScorePure_mono le_rfl le_rfl le_rfl (repaymentRateScore_onTime honTime htotal) hrepaid _ _ _
    · rintro rfl
      exact repaymentRateOf_late honTime htotal rfl rfl

/-- A lender is registered and records a repayment. -/
def sampleRepayments : List Event :=
  [ sampleEvent 0 (.initializeContract (.account 1)),
    sampleEvent 1 (.registerLender (.account 1) (.account 1)),
    sampleEvent 2 (.recordRepayment (.account 1) (.account 3) 500000000 false) ]

/-- A first repayment, in time. -/
theorem repayment_moves_score_sample :
    ∃ history final s' before after, Run (StepOf Config.next) (.fresh (.numbered 0)) history final ∧
      recordRepayment (sampleEvent 3 .applyWeights).env (.account 1) (.account 3) 500000000 true final.state =
        .ok s' ∧
      loadRepayment final.state (.account 3) = .ok before ∧ loadRepayment s' (.account 3) = .ok after ∧
      before.scoreWith 40 0 0 ⟨40, 30, 30⟩ ≤ after.scoreWith 40 0 0 ⟨40, 30, 30⟩ := by
  obtain ⟨history, final, hrun, hobserved⟩ := Run.exists_of_replay
    (show (replay Config.next (.fresh (.numbered 0)) sampleRepayments).map (fun r =>
      (r.2.state.storageVersion, (recordRepayment (sampleEvent 3 .applyWeights).env (.account 1) (.account 3)
        500000000 true r.2.state).toOption.isSome)) = some (some 2, true) from rfl)
  obtain ⟨hversion, hreturned⟩ := Prod.mk.inj hobserved
  obtain ⟨s', hs'⟩ := Option.isSome_iff_exists.mp hreturned
  have hrecorded := Outcome.toOption_eq_some.mp hs'
  obtain ⟨before, after, hbefore, hafter, honTime, -⟩ := repayment_moves_score hrun hversion hrecorded
  exact ⟨history, final, s', before, after, hrun, hrecorded, hbefore, hafter, honTime rfl _ _ _ _⟩

end StellarDidCredit.CreditOracle
