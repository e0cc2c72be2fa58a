import Mathlib.Data.Set.Card
import StellarDidCredit.CreditOracle.Migration
import StellarDidCredit.CreditOracle.Points
import StellarDidCredit.CreditOracle.RepaymentScores

/-!
# The statistics of a credit oracle

Two counters of the protocol are kept beside the records that they count. A first computation
stores a score and counts its subject; a repayment is counted with the record that it raises, so
until a record is full the counted repayments are the sum of all records. The stored scores and
rates stay in their ranges.
-/

namespace StellarDidCredit.CreditOracle

variable {κ : Type} {host : Host κ} {env : Env} {call : Call} {s s' : State} {world world' : κ} {x : Address}
  {recorded : ℕ}

/-! ## The counters -/

/-- The subjects with a stored score. -/
def scoredSubjects (s : State) : Set Address := {x | s.score x ≠ none}

/-- The repayments that the subject's record counts. -/
def totalCountOf (s : State) (x : Address) : ℕ := ((s.repaymentRecord x).map StoredRepayment.totalCount).getD 0

/-- The call records a repayment. -/
def Call.recordsRepayment : Call → Bool
  | .recordRepayment _ _ _ _ => true
  | _ => false

/-- The counters agree with the stored scores and, while no record is full, with the sum of all
records. -/
structure StatisticsOk (recorded : ℕ) (s : State) : Prop where
  finite_scored : (scoredSubjects s).Finite
  scored : s.protocolStats.totalSubjectsScored = (scoredSubjects s).ncard
  repayments : s.protocolStats.totalRepaymentsRecorded = recorded
  finite_counts : (totalCountOf s).support.Finite
  sum : (∀ x, totalCountOf s x < U32.max) → recorded = ∑ᶠ x, totalCountOf s x

/-- A fresh contract has recorded nothing. -/
theorem statisticsOk_start : StatisticsOk 0 {} where
  finite_scored := by simp [scoredSubjects]
  scored := by simp [scoredSubjects]
  repayments := rfl
  finite_counts := by
    have hnone : totalCountOf {} = 0 := rfl
    simp [hnone]
  sum _ := by
    have hnone (x : Address) : totalCountOf {} x = 0 := rfl
    simp [hnone]

/-- A call that stores no score, counts nothing and leaves the counts of the records alone. -/
theorem StatisticsOk.same (h : StatisticsOk recorded s) (hscore : s'.score = s.score)
    (hcounts : totalCountOf s' = totalCountOf s) (hstats : s'.protocolStats = s.protocolStats) :
    StatisticsOk recorded s' := by
  have hscored : scoredSubjects s' = scoredSubjects s := by rw [scoredSubjects, hscore, scoredSubjects]
  refine ⟨?_, ?_, ?_, ?_, ?_⟩
  · rw [hscored]
    exact h.finite_scored
  · rw [hscored, hstats]
    exact h.scored
  · rw [hstats]
    exact h.repayments
  · rw [hcounts]
    exact h.finite_counts
  · rw [hcounts]
    exact h.sum

/-- A new repayment is one more, as far as the type allows. -/
theorem addRepayment_totalCount {amount : ℤ} {onTime : Bool} {entry : StoredRepayment}
    (h : addRepayment x amount onTime s = .ok entry) :
    entry.totalCount = U32.saturatingAdd (totalCountOf s x) 1 := by
  unfold totalCountOf
  by_cases hversion : s.storageVersion.getD 1 < 2
  · simp only [addRepayment, if_pos hversion, Outcome.bind_eq_ok, Except.ok.injEq] at h
    obtain ⟨record, hload, rfl⟩ := h
    rcases loadRepaymentV1_eq_ok.mp hload with ⟨hnone, rfl⟩ | hstored
    · rw [hnone]
      rfl
    · rw [hstored]
      rfl
  · simp only [addRepayment, if_neg hversion, Outcome.bind_eq_ok, Except.ok.injEq] at h
    obtain ⟨record, hload, rfl⟩ := h
    rcases loadRepayment_eq_ok.mp hload with ⟨hnone, rfl⟩ | hstored
    · rw [hnone]
      rfl
    · rw [hstored]
      rfl

/-- A repayment is counted once in total and once in the record of its subject. -/
theorem StatisticsOk.repaid (h : StatisticsOk recorded s) {amount : ℤ} {onTime : Bool} {entry : StoredRepayment}
    (hadd : addRepayment x amount onTime s = .ok entry) :
    StatisticsOk (recorded + 1) { s with
      repaymentRecord := s.repaymentRecord.set x entry
      protocolStats := { s.protocolStats with
        totalRepaymentsRecorded := s.protocolStats.totalRepaymentsRecorded + 1 } } := by
  have hcount := addRepayment_totalCount hadd
  have hothers (y : Address) (hy : y ≠ x) :
      totalCountOf { s with repaymentRecord := s.repaymentRecord.set x entry } y = totalCountOf s y := by
    simp only [totalCountOf, Storage.set_of_ne _ _ hy]
  have hself : totalCountOf { s with repaymentRecord := s.repaymentRecord.set x entry } x =
      U32.saturatingAdd (totalCountOf s x) 1 := by
    simp only [totalCountOf, Storage.set_self, Option.map_some, Option.getD_some, hcount]
  refine ⟨h.finite_scored, h.scored, congrArg (· + 1) h.repayments, ?_, ?_⟩
  · exact support_finite_of_eq_off _ _ x h.finite_counts hothers
  · intro hroom
    -- a record with room after the repayment has counted it
    have hexact : U32.saturatingAdd (totalCountOf s x) 1 = totalCountOf s x + 1 := by
      have hlt : U32.saturatingAdd (totalCountOf s x) 1 < U32.max := by
        rw [← hself]
        exact hroom x
      unfold U32.saturatingAdd at *
      omega
    have hroomBefore : ∀ y, totalCountOf s y < U32.max := by
      intro y
      by_cases hy : y = x
      · have hlt : U32.saturatingAdd (totalCountOf s x) 1 < U32.max := by
          rw [← hself]
          exact hroom x
        rw [hy]
        omega
      · rw [← hothers y hy]
        exact hroom y
    have hmoved := finsum_add_eq_add _ _ x h.finite_counts hothers
    rw [hself, hexact, ← h.sum hroomBefore] at hmoved
    change recorded + 1 = ∑ᶠ y, totalCountOf { s with repaymentRecord := s.repaymentRecord.set x entry } y
    omega

/-- A migration keeps what the records count. -/
theorem totalCountOf_migrated {subjects : List Address} {entries : Storage Address StoredRepayment}
    (hloop : migrateLoop subjects s.repaymentRecord = .ok entries) :
    totalCountOf { s with repaymentRecord := entries, storageVersion := some 2 } = totalCountOf s := by
  funext y
  simp only [totalCountOf, migrateLoop_spec hloop y]
  split
  · rw [Option.map_map]
    congr 2
    funext entry
    exact entry.upgraded_totalCount
  · rfl

/-- Writing a score makes its subject one with a score. -/
theorem scoredSubjects_set {record : ScoreRecord} (hscore : s'.score = s.score.set x record) :
    scoredSubjects s' = insert x (scoredSubjects s) := by
  ext y
  simp only [scoredSubjects, hscore, Set.mem_ofPred_eq, Set.mem_insert_iff]
  by_cases hy : y = x
  · simp [hy]
  · simp [hy, Storage.set_of_ne _ _ hy]

/-- Storing a score counts its subject, unless it has one. -/
theorem storeScore_statistics {score vcCount repaymentRate : ℕ} {txVolume30d : ℤ}
    (h : storeScore env x score vcCount repaymentRate txVolume30d s = .ok s') :
    totalCountOf s' = totalCountOf s ∧
      s'.protocolStats.totalRepaymentsRecorded = s.protocolStats.totalRepaymentsRecorded ∧
      scoredSubjects s' = insert x (scoredSubjects s) ∧
      s'.protocolStats.totalSubjectsScored =
        s.protocolStats.totalSubjectsScored + if s.score x = none then 1 else 0 := by
  unfold storeScore at h
  cases hprev : s.score x with
  | none =>
    simp only [hprev, incrementSubjectsScored, Outcome.bind_eq_ok, Outcome.okOr_eq_ok,
      U64.checkedAdd_eq_some, Except.ok.injEq] at h
    obtain ⟨_, ⟨_, ⟨-, rfl⟩, rfl⟩, rfl⟩ := h
    exact ⟨rfl, rfl, scoredSubjects_set rfl, rfl⟩
  | some prev =>
    have hscored : x ∈ scoredSubjects s := fun hnone => absurd (hprev.symm.trans hnone) (Option.some_ne_none _)
    simp only [hprev] at h
    split at h
    · cases h
      exact ⟨rfl, rfl, (Set.insert_eq_of_mem hscored).symm, rfl⟩
    · cases h
      exact ⟨rfl, rfl, scoredSubjects_set rfl, rfl⟩

/-- A stored score counts its subject once. -/
theorem StatisticsOk.stored (h : StatisticsOk recorded s) {score vcCount repaymentRate : ℕ} {txVolume30d : ℤ}
    (hstored : storeScore env x score vcCount repaymentRate txVolume30d s = .ok s') :
    StatisticsOk recorded s' := by
  obtain ⟨hcounts, hrepayments, hscored, htotal⟩ := storeScore_statistics hstored
  refine ⟨?_, ?_, hrepayments.trans h.repayments, hcounts ▸ h.finite_counts, hcounts ▸ h.sum⟩
  · rw [hscored]
    exact h.finite_scored.insert x
  · rw [hscored, htotal, h.scored]
    by_cases hnew : s.score x = none
    · have hnot : x ∉ scoredSubjects s := fun hmem => hmem hnew
      rw [if_pos hnew, Set.ncard_insert_of_notMem hnot h.finite_scored]
    · rw [if_neg hnew, Set.insert_eq_of_mem hnew, Nat.add_zero]

/-- Every call keeps the counters right, when the repayments that it records are counted. -/
theorem StatisticsOk.step (h : StatisticsOk recorded s) (hexec : exec host env call s world = .ok (s', world')) :
    StatisticsOk (recorded + if call.recordsRepayment then 1 else 0) s' := by
  cases exec_effect hexec with
  | scoreComputed hcompute =>
    obtain ⟨-, -, repayment, -, ⟨-, rfl, -⟩ | ⟨vcPoints, vcCount, weights, -, -, -, hstored⟩⟩ :=
      computeScore_spec hcompute
    · exact h
    · exact h.stored hstored
  | other hcall hcore =>
    cases exec_writes hcall hexec with
    | repaymentRecorded hamount hpaused hauth htrusted hentry hroom => exact h.repaid hentry
    | migrated hadmin hauth hloop => exact h.same rfl (totalCountOf_migrated hloop) rfl
    | _ => exact h.same rfl rfl rfl
  | _ => exact h.same rfl rfl rfl

/-! ## Stored scores -/

/-- The score and the rate of a record are in their ranges. -/
structure ScoreRecord.InRange (record : ScoreRecord) : Prop where
  score_ge : 300 ≤ record.score
  score_le : record.score ≤ 850
  rate_le : record.repaymentRate ≤ 10000

/-- All stored scores are in their ranges. -/
def ScoresOk (s : State) : Prop := ∀ x record, s.score x = some record → record.InRange

/-- A stored score in its range keeps all of them there. -/
theorem ScoresOk.stored (hs : ScoresOk s) {new : ScoreRecord} (hnew : new.InRange)
    (hscore : s'.score = s.score.set x new) : ScoresOk s' := by
  intro y record hrecord
  rw [hscore, Storage.set_apply] at hrecord
  split at hrecord
  · obtain rfl := Option.some.inj hrecord
    exact hnew
  · exact hs y record hrecord

/-- Every call keeps the stored scores in their ranges. -/
theorem ScoresOk.step (hs : ScoresOk s) (hcounters : CountersOk s)
    (h : exec host env call s world = .ok (s', world')) : ScoresOk s' := by
  cases exec_effect h with
  | @scoreComputed subject v _ hcompute =>
    obtain ⟨-, -, repayment, hload, ⟨-, rfl, -⟩ | ⟨vcPoints, vcCount, weights, -, -, rfl, hstored⟩⟩ :=
      computeScore_spec hcompute
    · exact hs
    · rcases storeScore_spec hstored with ⟨rfl, -⟩ | ⟨-, protocolStats, rfl⟩
      · exact hs
      · have hbounds := scaleScore_bounds (weightedSum (min vcPoints 100)
          (txScoreOf (loadTxStats s subject).volume30d (loadTxStats s subject).avgCounterparties)
          (repayScoreOf repayment.onTimeCount repayment.totalCount repayment.totalRepaid) weights / 100)
        have hrate := (repaymentRateOf_eq (loadRepaymentForScore_counters hcounters hload)).2
        refine hs.stored ?_ rfl
        exact ⟨hbounds.1, hbounds.2, hrate⟩
  | other hcall hcore =>
    have hscore : s'.score = s.score := congrArg Core.score hcore
    rw [ScoresOk, hscore]
    exact hs
  | _ => exact hs

/-! ## Initialised contracts -/

/-- Before the initialisation nobody can lend or become the admin, and there is no repayment. -/
structure Untouched (s : State) : Prop where
  admin : s.admin = none
  pending : s.pendingAdmin = none
  lenders : ∀ lender, isTrustedLender s lender = false
  repayments : ∀ x, s.repaymentRecord x = none

/-- An initialised contract has weights and the new layout. -/
def Founded (s : State) : Prop := Untouched s ∨ (Migrated s ∧ s.config ≠ none)

/-- A fresh contract is untouched. -/
theorem founded_start : Founded {} := Or.inl ⟨rfl, rfl, fun _ => rfl, fun _ => rfl⟩

/-- The weights are replaced but never removed. -/
theorem Effect.config_isSome (heffect : Effect host env s world call s') (hconfig : s.config ≠ none) :
    s'.config ≠ none := by
  cases heffect with
  | initialized => exact Option.some_ne_none _
  | weightsApplied => exact Option.some_ne_none _
  | scoreComputed hcompute =>
    have hsame := congrArg Core.config (computeScore_core hcompute)
    exact fun hnone => hconfig (hsame.symm.trans hnone)
  | other hcall hcore =>
    have hsame := congrArg Core.config hcore
    exact fun hnone => hconfig (hsame.symm.trans hnone)
  | _ => exact hconfig

/-- The first call that does anything about lenders and repayments is the initialisation. -/
theorem Untouched.step (hs : Untouched s) (h : exec host env call s world = .ok (s', world')) : Founded s' := by
  have hnoAdmin {admin : Address} (hadmin : s.admin = some admin) : False := by
    cases hs.admin.symm.trans hadmin
  cases exec_effect h with
  | initialized hadmin =>
    refine Or.inr ⟨⟨Option.some_ne_none _, rfl, ?_⟩, Option.some_ne_none _⟩
    intro x entry hentry
    cases (hs.repayments x).symm.trans hentry
  | weightsApplied => exact Or.inl ⟨hs.admin, hs.pending, hs.lenders, hs.repayments⟩
  | weightsProposed hvalid hadmin => exact (hnoAdmin hadmin).elim
  | adminProposed hadmin => exact (hnoAdmin hadmin).elim
  | adminAccepted hauth hpending => cases hs.pending.symm.trans hpending
  | identityLinked hadmin => exact (hnoAdmin hadmin).elim
  | scoreComputed hcompute =>
    obtain ⟨score, protocolStats, rfl⟩ := computeScore_writes hcompute
    exact Or.inl ⟨hs.admin, hs.pending, hs.lenders, hs.repayments⟩
  | other hcall hcore =>
    cases exec_writes hcall h with
    | repaymentRecorded hamount hpaused hauth htrusted =>
      exact absurd ((hs.lenders _).symm.trans htrusted) Bool.false_ne_true
    | lenderRegistered hadmin => exact (hnoAdmin hadmin).elim
    | lenderDeregistered hadmin => exact (hnoAdmin hadmin).elim
    | migrated hadmin => exact (hnoAdmin hadmin).elim
    | _ => exact Or.inl ⟨hs.admin, hs.pending, hs.lenders, hs.repayments⟩

/-- Every call keeps what an initialised contract has. -/
theorem Founded.step (hs : Founded s) (h : exec host env call s world = .ok (s', world')) : Founded s' := by
  cases hs with
  | inl huntouched => exact huntouched.step h
  | inr hmigrated => exact Or.inr ⟨hmigrated.1.step h, (exec_effect h).config_isSome hmigrated.2⟩

/-! ## Runs -/

variable {ledger : Ledger} {history : List Move} {final : Config}

/-- The statistics are right in every run. -/
theorem statisticsOk_of_run (hrun : Run (StepOf Config.next) (.fresh ledger) history final) :
    StatisticsOk (history.countP fun t => t.event.call.recordsRepayment) final.state := by
  induction hrun with
  | nil => exact statisticsOk_start
  | snoc hbefore hstep ih =>
    rw [List.countP_append, List.countP_singleton]
    exact ih.step (Config.step_iff.mp hstep).2.2

/-- The stored scores are in their ranges in every run. -/
theorem scoresOk_of_run (hrun : Run (StepOf Config.next) (.fresh ledger) history final) :
    ScoresOk final.state := by
  induction hrun with
  | nil => exact fun x record hrecord => nomatch hrecord
  | snoc hbefore hstep ih => exact ih.step (countersOk_of_run hbefore) (Config.step_iff.mp hstep).2.2

/-- An initialised contract has weights and the new layout in every run. -/
theorem founded_of_run (hrun : Run (StepOf Config.next) (.fresh ledger) history final) :
    Founded final.state := by
  refine hrun.invariant (fun c => Founded c.state) ?_ founded_start
  intro c e c' hfounded hstep
  exact hfounded.step (Config.step_iff.mp hstep).2.2

/-- What an initialised contract has. -/
theorem Founded.initialised (hs : Founded s) (hadmin : s.admin ≠ none) : Migrated s ∧ s.config ≠ none := by
  cases hs with
  | inl huntouched => exact absurd huntouched.admin hadmin
  | inr hmigrated => exact hmigrated

/-- The records of an initialised contract: repayments in the new layout with counts and totals in
order, and scores in their ranges. -/
structure RecordsOk (s : State) : Prop where
  repayments : ∀ x entry, s.repaymentRecord x = some entry →
    ∃ record, entry = .v2 record ∧ record.onTimeCount ≤ record.totalCount ∧ 0 ≤ record.totalRepaid
  scores : ScoresOk s

/-- The records are in order in every run, once the contract is initialised. -/
theorem recordsOk_of_run (hrun : Run (StepOf Config.next) (.fresh ledger) history final)
    (hinitialised : final.state.admin ≠ none) : RecordsOk final.state := by
  refine ⟨?_, scoresOk_of_run hrun⟩
  intro x entry hentry
  have hlayout := ((founded_of_run hrun).initialised hinitialised).1.layout x entry hentry
  cases entry with
  | v1 => cases hlayout
  | v2 record =>
    exact ⟨record, rfl, (countersOk_of_run hrun x _ hentry).onTime_le,
      (amountsOk_of_run hrun x record hentry).nonneg⟩

/-! ## Computations -/

/-- A computation that may start and reads its inputs returns, unless it has to store the score of one
more subject and the counter is full. -/
theorem computeScore_returns_of_resolved {repayment : RepaymentRecord} {weights : ScoringWeights}
    {resolved : Option (ℕ × ℕ)} (hpaused : s.paused.getD false = false)
    (hcooldown : checkComputeCooldown env s x = .ok ()) (hload : loadRepaymentForScore s x = .ok repayment)
    (hweights : s.config = some weights) (hresolve : resolveVcPoints host env world s x = .ok resolved) :
    (∃ v s', computeScore host env x s world = .ok (v, s')) ↔ (resolved ≠ none → CanStore s x) := by
  constructor
  · rintro ⟨v, s', h⟩ hsome
    obtain ⟨-, -, repayment', -, ⟨-, -, hnone⟩ | ⟨vcPoints, vcCount, weights', -, -, -, hstored⟩⟩ :=
      computeScore_spec h
    · exact absurd (Except.ok.inj (hresolve.symm.trans hnone)) hsome
    · exact storeScore_succeeds.mp ⟨_, hstored⟩
  · intro hroom
    simp only [computeScore, Outcome.bind_eq_ok, ensureNotPaused_eq_ok]
    cases resolved with
    | none => exact ⟨minScore, s, (), hpaused, (), hcooldown, repayment, hload, none, hresolve, rfl⟩
    | some acc =>
      obtain ⟨vcPoints, vcCount⟩ := acc
      obtain ⟨s', hstored⟩ : ∃ s', storeScore env x (scoreWith s x repayment weights (min vcPoints 100)) vcCount
          (repaymentRateOf repayment) (loadTxStats s x).volume30d s = .ok s' :=
        storeScore_succeeds.mpr (hroom (Option.some_ne_none _))
      refine ⟨scoreWith s x repayment weights (min vcPoints 100), s', (), hpaused, (), hcooldown, repayment,
        hload, some (vcPoints, vcCount), hresolve, ?_⟩
      simp only [Outcome.bind_eq_ok, Outcome.okOr_eq_ok, Except.ok.injEq, Prod.mk.injEq]
      exact ⟨weights, hweights, s', hstored, rfl, rfl⟩

/-- The formula of a computation in machine arithmetic: no operation overflows or divides by zero. -/
theorem computeScoreChecked_of_state (hweights : WeightsOk s) (hcounters : CountersOk s) (hamounts : AmountsOk s)
    {repayment : RepaymentRecord} {weights : ScoringWeights} (hload : loadRepayment s x = .ok repayment)
    (hconfig : s.config = some weights) (hvolume : FitsI128 (loadTxStats s x).volume30d) (vcPoints : ℕ) :
    computeScoreChecked vcPoints (loadTxStats s x).volume30d (loadTxStats s x).avgCounterparties
      repayment.onTimeCount repayment.totalCount repayment.totalRepaid weights.vcWeight weights.txWeight
      weights.repaymentWeight = some (scoreWith s x repayment weights vcPoints) := by
  obtain ⟨-, -, -, hsum⟩ := hweights.config weights hconfig
  obtain ⟨honTime, htotal⟩ := loadRepayment_counters hcounters hload
  have hamount := loadRepayment_amount hamounts hload
  have hrepaid : FitsI128 repayment.totalRepaid :=
    ⟨(show I128.min ≤ 0 by decide).trans hamount.nonneg, hamount.le_max⟩
  have hwidth {weight : ℕ} (hle : weight ≤ 100) : weight ≤ U32.max := hle.trans (by decide)
  exact computeScoreChecked_eq hvolume hrepaid (honTime.trans htotal) (hwidth (by omega)) (hwidth (by omega))
    (hwidth (by omega)) _ _ _

end StellarDidCredit.CreditOracle
