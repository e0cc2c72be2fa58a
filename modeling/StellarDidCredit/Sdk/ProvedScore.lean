import StellarDidCredit.Circuit.Completeness
import StellarDidCredit.CreditOracle.Points
import StellarDidCredit.CreditOracle.Repayments
import StellarDidCredit.Sdk.ScoreProof

/-!
# The proved score and the stored one

The score record is a cache: the credit oracle writes it in a computation, from the points its
own type weights give, and its inputs can change afterwards. The prover recomputes the score
from the current inputs, with twenty points a counted credential. The two agree in a run whose
computations count the credentials alike and whose later calls keep the value of the formula.
-/

namespace StellarDidCredit.Sdk

open Circuit (ProofRequest ScoreWitness ScorePublicInputs wholeUnits)
open CreditOracle (ScoreRecord TxStats RepaymentRecord StoredRepayment loadTxStats loadRepaymentForScore
  resolveVcPoints scoreWith)

/-! ## Amounts in 32 bits -/

/-- The whole units of an amount, as the prover gets it, fit in 32 bits, or the low 32 bits of
them reach the cap as well. -/
def UnitsFit (cap : ℕ) (amount : ℤ) : Prop :=
  let units := (max ((asI128 (toNumber amount)).tdiv 100000000) 0).toNat
  units < 2 ^ 32 ∨ cap ≤ units % 2 ^ 32

instance (cap : ℕ) (amount : ℤ) : Decidable (UnitsFit cap amount) := inferInstanceAs (Decidable (_ ∨ _))

/-- An amount that is not positive has no units. -/
theorem cappedUnits_nonpos {amount : ℤ} (cap : ℕ) (h : amount ≤ 0) : cappedUnits amount cap = 0 := by
  have hquotient : amount.tdiv 100000000 ≤ 0 := by
    rw [← neg_neg amount, Int.neg_tdiv, Int.tdiv_eq_ediv_of_nonneg (by omega)]
    omega
  rw [cappedUnits, max_eq_right hquotient, Int.toNat_zero, Nat.zero_min]

/-- A large amount reaches the cap. -/
theorem cappedUnits_large {amount : ℤ} {cap : ℕ} (hcap : cap ≤ 100) (h : 2 ^ 53 ≤ amount) :
    cappedUnits amount cap = cap := by
  have hquotient : 100 ≤ amount.tdiv 100000000 := by
    rw [Int.tdiv_eq_ediv_of_nonneg (by omega)]
    omega
  rw [cappedUnits]
  omega

/-- The conversions leave the units that count alone: a double drops digits only where the cap
is reached anyway. -/
theorem cappedUnits_number {cap : ℕ} (hcap : cap ≤ 100) (amount : ℤ) :
    cappedUnits (asI128 (toNumber amount)) cap = cappedUnits amount cap := by
  have hmin : I128.min = -170141183460469231731687303715884105728 := rfl
  have hmax : I128.max = 170141183460469231731687303715884105727 := rfl
  rcases lt_or_ge amount 0 with hneg | hnonneg
  · have hnumber : toNumber amount ≤ 0 := BinaryFloat.roundInt_nonpos (by decide) hneg.le
    rw [cappedUnits_nonpos cap hneg.le, cappedUnits_nonpos cap]
    unfold asI128
    omega
  · rcases lt_or_ge amount (2 ^ 53) with hsmall | hlarge
    · have hnumber : toNumber amount = amount := BinaryFloat.roundInt_of_lt (by decide) hnonneg hsmall
      rw [hnumber, asI128, min_eq_left (by omega), max_eq_right (by omega)]
    · have hnumber : 2 ^ 53 ≤ toNumber amount := BinaryFloat.le_roundInt (by decide) hlarge
      rw [cappedUnits_large hcap hlarge, cappedUnits_large hcap]
      unfold asI128
      omega

/-- The prover caps the units of an amount that fits as the contract does. -/
theorem wholeUnits_capped {cap : ℕ} (hcap : cap ≤ 100) {amount : ℤ} (h : UnitsFit cap amount) :
    min (wholeUnits (asI128 (toNumber amount))).toNat cap = cappedUnits amount cap := by
  rw [← cappedUnits_number hcap, cappedUnits, wholeUnits, BitVec.toNat_ofInt]
  unfold UnitsFit at h
  omega

/-! ## The recomputed score -/

/-- The contract's formula on twenty points a credential and the given inputs. -/
def recomputedScore (vcCount : ℕ) (txStats : TxStats) (repayment : RepaymentRecord)
    (weights : ScoringWeights) : ℕ :=
  computeScorePure (vcPoints vcCount) txStats.volume30d txStats.avgCounterparties repayment.onTimeCount
    repayment.totalCount repayment.totalRepaid weights.vcWeight weights.txWeight weights.repaymentWeight

/-- Both amounts fit. -/
def AmountsFit (txStats : TxStats) (repayment : RepaymentRecord) : Prop :=
  UnitsFit 80 txStats.volume30d ∧ UnitsFit 100 repayment.totalRepaid

instance (txStats : TxStats) (repayment : RepaymentRecord) : Decidable (AmountsFit txStats repayment) :=
  inferInstanceAs (Decidable (_ ∧ _))

/-- A value of a 32-bit type is converted to itself. -/
theorem toUint32_toNat {n : ℕ} (h : n ≤ U32.max) : (toUint32 n).toNat = n := by
  have hmax : U32.max = 4294967295 := rfl
  rw [toUint32, BitVec.toNat_ofInt]
  omega

/-- What the score inputs of a contract in order have in common. -/
structure ScoreInputs.InOrder (inputs : ScoreInputs) : Prop where
  avgCounterparties : inputs.txStats.avgCounterparties ≤ U32.max
  onTimeCount : inputs.repaymentRecord.onTimeCount ≤ inputs.repaymentRecord.totalCount
  totalCount : inputs.repaymentRecord.totalCount ≤ U32.max
  weights : inputs.weights.Valid

variable {sha256 : List UInt8 → BytesN 32} {creditOracleId x : Address} {inputs : ScoreInputs}
  {threshold blinding : ℤ}

/-- The prover's request then passes its own checks. -/
theorem proofRequest_inOrder (h : inputs.InOrder) :
    (proofRequest sha256 creditOracleId inputs x threshold blinding).InOrder := by
  obtain ⟨hvc, htx, hrepayment, hsum⟩ := h.weights
  have hmax : U32.max = 4294967295 := rfl
  constructor
  case onTimeCount =>
    change (toUint32 _).toNat ≤ (toUint32 _).toNat
    rw [toUint32_toNat h.totalCount, toUint32_toNat (h.onTimeCount.trans h.totalCount)]
    exact h.onTimeCount
  case weights =>
    change (toUint32 _).toNat + (toUint32 _).toNat + (toUint32 _).toNat = 100
    rw [toUint32_toNat (by omega), toUint32_toNat (by omega), toUint32_toNat (by omega)]
    exact hsum

/-- The composite of the prover is the one of the formula when the amounts fit. -/
theorem recomputedScore_eq (h : inputs.InOrder) (hfit : AmountsFit inputs.txStats inputs.repaymentRecord) :
    recomputedScore inputs.scoreRecord.vcCount inputs.txStats inputs.repaymentRecord inputs.weights =
      scaleScore ((proofRequest sha256 creditOracleId inputs x threshold blinding).total / 100) := by
  obtain ⟨hvc, htx, hrepayment, hsum⟩ := h.weights
  have hmax : U32.max = 4294967295 := rfl
  have hpoints : vcPoints inputs.scoreRecord.vcCount ≤ 100 := min_le_left _ _
  have hvolume : min (wholeUnits _).toNat 80 = _ := wholeUnits_capped (by decide) hfit.1
  have hrepaid : min (wholeUnits _).toNat 100 = _ := wholeUnits_capped (by decide) hfit.2
  have htotal := toUint32_toNat h.totalCount
  have honTime := toUint32_toNat (h.onTimeCount.trans h.totalCount)
  simp only [recomputedScore, computeScorePure, compositeScore, ProofRequest.total, ProofRequest.txScore,
    ProofRequest.repaySum, proofRequest, hvolume, hrepaid, htotal, honTime, toUint32_toNat h.avgCounterparties,
    toUint32_toNat (show vcPoints inputs.scoreRecord.vcCount ≤ U32.max by omega),
    toUint32_toNat (show inputs.weights.vcWeight ≤ U32.max by omega),
    toUint32_toNat (show inputs.weights.txWeight ≤ U32.max by omega),
    toUint32_toNat (show inputs.weights.repaymentWeight ≤ U32.max by omega)]

/-- The witness holds the recomputed score. -/
theorem provedStatement_score (h : inputs.InOrder) (hfit : AmountsFit inputs.txStats inputs.repaymentRecord) :
    ∃ w p, provedStatement sha256 creditOracleId inputs x threshold blinding = some (w, p) ∧
      w.score.toNat = recomputedScore inputs.scoreRecord.vcCount inputs.txStats inputs.repaymentRecord
        inputs.weights := by
  have hr : (proofRequest sha256 creditOracleId inputs x threshold blinding).InOrder := proofRequest_inOrder h
  have hlength (bytes : BytesN 32) : 32 ≤ (BytesN.toBytes bytes).length := (BytesN.length_toBytes bytes).ge
  obtain ⟨p, hp⟩ := Circuit.generateScoreProof_isSome (r := proofRequest sha256 creditOracleId inputs x
    threshold blinding) hr (hlength _) (hlength _) (hlength _)
  refine ⟨_, p, hp, ?_⟩
  rw [hr.honestWitness_score, recomputedScore_eq h hfit, hr.scaleScore_eq]

/-- What is fetched for a subject with a stored record. -/
theorem fetchScoreInputs_eq {κ : Type} {s : CreditOracle.State} {stored : ScoreRecord}
    {weights : ScoringWeights} (hstored : s.score x = some stored) (hweights : s.config = some weights)
    (host : CreditOracle.Host κ) (env : Env) (world : κ) :
    ∃ record, CreditOracle.getScore host env world s x = some record ∧ record.score = stored.score ∧
      record.vcCount = stored.vcCount ∧ fetchScoreInputs host env world s x =
        some ⟨parseScoreRecord record, loadTxStats s x, repaymentOf s x, weights⟩ := by
  have hreported : CreditOracle.getScore host env world s x = (some stored).map _ :=
    congrArg (Option.map _) hstored
  refine ⟨_, hreported, rfl, rfl, ?_⟩
  rw [fetchScoreInputs, hreported, hweights]
  rfl

/-! ## One call -/

section Step

variable {κ : Type} {host : CreditOracle.Host κ} {env : Env} {call : CreditOracle.Call}
  {s s' : CreditOracle.State} {world world' : κ}

/-- The subject's transaction statistics after a call. -/
def statsAfter (x : Address) (s : CreditOracle.State) : CreditOracle.Call → TxStats
  | .updateTxStats _ subject stats => if x = subject then stats else loadTxStats s x
  | _ => loadTxStats s x

/-- The subject's repayment record after a call. -/
def repaymentAfter (x : Address) (s : CreditOracle.State) : CreditOracle.Call → RepaymentRecord
  | .recordRepayment _ subject amount onTime =>
    if x = subject then
      ((CreditOracle.addRepayment x amount onTime s).toOption.map parseRepaymentRecord).getD (repaymentOf s x)
    else repaymentOf s x
  | _ => repaymentOf s x

/-- The weights after a call of a contract that has weights. -/
def weightsAfter (s : CreditOracle.State) (weights : ScoringWeights) : CreditOracle.Call → ScoringWeights
  | .applyWeights => s.pendingWeights.getD weights
  | _ => weights

/-- A computation reads the record that the SDK reads. -/
theorem loadRepaymentForScore_eq {repayment : RepaymentRecord}
    (h : loadRepaymentForScore s x = .ok repayment) : repayment = repaymentOf s x := by
  unfold loadRepaymentForScore CreditOracle.loadRepaymentV1 CreditOracle.loadRepayment at h
  unfold repaymentOf
  split at h
  all_goals
    cases hentry : s.repaymentRecord x with
    | none =>
      simp only [hentry] at h
      cases h
      rfl
    | some entry =>
      simp only [hentry] at h
      cases entry <;> cases h
      rfl

/-- A contract before its initialisation has no weights, and none pending, and no scores. -/
def Unstarted (s : CreditOracle.State) : Prop :=
  s.admin = none → s.config = none ∧ s.pendingWeights = none ∧ ∀ x, s.score x = none

/-- Every call keeps that: all it needs to write any of these is an admin or weights. -/
theorem Unstarted.step (hs : Unstarted s) (heffect : CreditOracle.Effect host env s world call s') :
    Unstarted s' := by
  intro hnone
  cases heffect with
  | initialized => cases hnone
  | weightsProposed hvalid hadmin hauth => cases hadmin.symm.trans hnone
  | weightsApplied hpending => cases (hs hnone).2.1.symm.trans hpending
  | adminProposed hadmin => cases hadmin.symm.trans hnone
  | adminAccepted => cases hnone
  | identityLinked hadmin => cases hadmin.symm.trans hnone
  | scoreComputed hcompute =>
    have hcore := CreditOracle.computeScore_core hcompute
    have hadmin : s.admin = none := (congrArg CreditOracle.Core.admin hcore).symm.trans hnone
    obtain ⟨-, -, _, -, ⟨-, rfl, -⟩ | ⟨_, _, weights, -, hweights, -, -⟩⟩ :=
      CreditOracle.computeScore_spec hcompute
    · exact hs hadmin
    · cases (hs hadmin).1.symm.trans hweights
  | other hcall hcore =>
    have hadmin : s.admin = none := (congrArg CreditOracle.Core.admin hcore).symm.trans hnone
    obtain ⟨hconfig, hpending, hscore⟩ := hs hadmin
    exact ⟨(congrArg CreditOracle.Core.config hcore).trans hconfig,
      (congrArg CreditOracle.Core.pendingWeights hcore).trans hpending,
      fun x => (congrFun (congrArg CreditOracle.Core.score hcore) x).trans (hscore x)⟩

/-- Only these three calls change what a score is recomputed from. -/
theorem inputs_after (hs : Unstarted s) (h : CreditOracle.exec host env call s world = .ok (s', world')) :
    loadTxStats s' x = statsAfter x s call ∧ repaymentOf s' x = repaymentAfter x s call ∧
      ∀ weights, s.config = some weights → s'.config = some (weightsAfter s weights call) := by
  cases CreditOracle.exec_effect h with
  | initialized hadmin =>
    refine ⟨rfl, rfl, fun weights hweights => ?_⟩
    cases (hs hadmin).1.symm.trans hweights
  | weightsApplied hpending =>
    refine ⟨rfl, rfl, fun weights _ => ?_⟩
    rw [weightsAfter, hpending, Option.getD_some]
  | scoreComputed hcompute =>
    obtain ⟨-, -, _, -, ⟨-, rfl, -⟩ | ⟨_, _, _, -, -, -, hstored⟩⟩ := CreditOracle.computeScore_spec hcompute
    · exact ⟨rfl, rfl, fun weights hweights => hweights⟩
    · rcases CreditOracle.storeScore_spec hstored with ⟨rfl, -⟩ | ⟨-, protocolStats, rfl⟩
      · exact ⟨rfl, rfl, fun weights hweights => hweights⟩
      · exact ⟨rfl, rfl, fun weights hweights => hweights⟩
  | other hcall hcore =>
    cases CreditOracle.exec_writes hcall h with
    | @txStatsUpdated feeder subject stats =>
      refine ⟨?_, rfl, fun weights hweights => hweights⟩
      change (s.txStats.set subject stats x).getD _ = statsAfter x s (.updateTxStats feeder subject stats)
      rw [Storage.set_apply, statsAfter]
      split
      · rfl
      · rfl
    | @repaymentRecorded lender subject amount onTime entry hamount hpaused hauth htrusted hentry =>
      refine ⟨rfl, ?_, fun weights hweights => hweights⟩
      change ((s.repaymentRecord.set subject entry x).map parseRepaymentRecord).getD _ =
        repaymentAfter x s (.recordRepayment lender subject amount onTime)
      rw [Storage.set_apply, repaymentAfter]
      split
      case isTrue hsubject =>
        subst hsubject
        rw [hentry]
        rfl
      case isFalse => rfl
    | @migrated subjects admin entries hadmin hauth hloop =>
      refine ⟨rfl, ?_, fun weights hweights => hweights⟩
      change ((entries x).map parseRepaymentRecord).getD _ = repaymentOf s x
      rw [CreditOracle.migrateLoop_spec hloop x, repaymentOf]
      split
      · cases s.repaymentRecord x with
        | none => rfl
        | some entry => cases entry <;> rfl
      · rfl
    | _ => exact ⟨rfl, rfl, fun weights hweights => hweights⟩
  | _ => exact ⟨rfl, rfl, fun weights hweights => hweights⟩

/-- A new record holds the points and the count of the computation that stored it. -/
theorem score_after (heffect : CreditOracle.Effect host env s world call s') :
    s'.score x = s.score x ∨ ∃ points count repayment weights record, call = .computeScore x ∧
      resolveVcPoints host env world s x = .ok (some (points, count)) ∧
      loadRepaymentForScore s x = .ok repayment ∧ s.config = some weights ∧ s'.score x = some record ∧
      record.score = scoreWith s x repayment weights points ∧ record.vcCount = count := by
  cases heffect with
  | @scoreComputed subject v _ hcompute =>
    obtain ⟨-, -, repayment, hload, ⟨-, rfl, -⟩ | ⟨points, count, weights, hresolve, hweights, hscore, hstored⟩⟩ :=
      CreditOracle.computeScore_spec hcompute
    · exact Or.inl rfl
    · rcases CreditOracle.storeScore_spec hstored with ⟨rfl, -⟩ | ⟨-, protocolStats, rfl⟩
      · exact Or.inl rfl
      · by_cases hx : x = subject
        · subst hx
          have hcapped : v = scoreWith s x repayment weights points :=
            hscore.trans (CreditOracle.scoreWith_congr (by rw [Nat.min_assoc, Nat.min_self]))
          exact Or.inr ⟨points, count, repayment, weights, _, rfl, hresolve, hload, hweights,
            Storage.set_self _ _ _, hcapped, rfl⟩
        · exact Or.inl (Storage.set_of_ne _ _ hx)
  | other hcall hcore => exact Or.inl (congrFun (congrArg CreditOracle.Core.score hcore) x)
  | _ => exact Or.inl rfl

end Step

/-! ## Runs -/

section Runs

open CreditOracle (Config Move)

/-- A computation that finds credentials counts them for as much as twenty points each would
count, and both amounts fit. -/
def CountsAlike (x : Address) (t : Move) : Prop :=
  ∀ resolved ∈ (resolveVcPoints t.event.host t.event.env () t.before.state x).toOption,
    ∀ points ∈ resolved, ∀ repayment ∈ (loadRepaymentForScore t.before.state x).toOption,
      ∀ weights ∈ t.before.state.config,
        AmountsFit (loadTxStats t.before.state x) repayment ∧
          scoreWith t.before.state x repayment weights points.1 =
            scoreWith t.before.state x repayment weights (vcPoints points.2)

/-- A call after a computation leaves amounts that fit, and the formula where it was. -/
def KeepsFormula (x : Address) (t : Move) : Prop :=
  ∀ record ∈ t.before.state.score x, ∀ weights ∈ t.before.state.config,
    AmountsFit (statsAfter x t.before.state t.event.call) (repaymentAfter x t.before.state t.event.call) ∧
      recomputedScore record.vcCount (statsAfter x t.before.state t.event.call)
          (repaymentAfter x t.before.state t.event.call)
          (weightsAfter t.before.state weights t.event.call) =
        recomputedScore record.vcCount (loadTxStats t.before.state x) (repaymentOf t.before.state x) weights

/-- What is asked of a step. -/
def KeepsScore (x : Address) (t : Move) : Prop :=
  (t.event.call = .computeScore x → CountsAlike x t) ∧ KeepsFormula x t

instance (x : Address) (t : Move) : Decidable (KeepsScore x t) := by
  unfold KeepsScore CountsAlike KeepsFormula
  infer_instance

/-- The stored record holds the score that is recomputed from the current inputs. -/
def Current (s : CreditOracle.State) (x : Address) : Prop :=
  ∀ record, s.score x = some record → AmountsFit (loadTxStats s x) (repaymentOf s x) ∧
    ∃ weights, s.config = some weights ∧
      record.score = recomputedScore record.vcCount (loadTxStats s x) (repaymentOf s x) weights

/-- A step that meets the condition keeps the record current. -/
theorem Current.step {t : Move} (hcurrent : Current t.before.state x) (hs : Unstarted t.before.state)
    (hstep : StepOf Config.next t.before t.event t.after) (hkeeps : KeepsScore x t) :
    Current t.after.state x := by
  have hexec := (Config.step_iff.mp hstep).2.2
  obtain ⟨hstats, hrepayment, hconfig⟩ := inputs_after (x := x) hs hexec
  -- a record that stays
  have hkept (record : ScoreRecord) (hrecord : t.before.state.score x = some record) :
      AmountsFit (loadTxStats t.after.state x) (repaymentOf t.after.state x) ∧
        ∃ weights, t.after.state.config = some weights ∧ record.score =
          recomputedScore record.vcCount (loadTxStats t.after.state x) (repaymentOf t.after.state x)
            weights := by
    obtain ⟨-, weights, hweights, hscore⟩ := hcurrent record hrecord
    obtain ⟨hfit, hsame⟩ := hkeeps.2 record hrecord weights hweights
    rw [hstats, hrepayment]
    exact ⟨hfit, _, hconfig weights hweights, hscore.trans hsame.symm⟩
  intro record hrecord
  rcases score_after (CreditOracle.exec_effect hexec) with hsame |
    ⟨points, count, repayment, weights, stored, hcall, hresolve, hload, hweights, hstored, hscore, hcount⟩
  · exact hkept record (hsame.symm.trans hrecord)
  · cases hstored.symm.trans hrecord
    obtain ⟨hfit, halike⟩ := hkeeps.1 hcall (some (points, count)) (Outcome.toOption_eq_some.mpr hresolve)
      (points, count) rfl repayment (Outcome.toOption_eq_some.mpr hload) weights hweights
    have hafter := hconfig weights hweights
    rw [hcall] at hstats hrepayment hafter
    rw [hstats, hrepayment]
    obtain rfl := loadRepaymentForScore_eq hload
    refine ⟨hfit, weights, hafter, ?_⟩
    rw [hscore, halike, hcount]
    rfl

variable {ledger : Ledger} {history : List Move} {final : Config}

/-- The number of counterparties that a call reports has 32 bits, as its type says. -/
def CounterpartiesFit (t : Move) : Prop :=
  ∀ feeder subject stats, t.event.call = .updateTxStats feeder subject stats →
    stats.avgCounterparties ≤ U32.max

/-- In every run the contract only has weights or scores after its initialisation. -/
theorem unstarted_of_run (hrun : Run (StepOf Config.next) (.fresh ledger) history final) :
    Unstarted final.state := by
  refine hrun.invariant (fun c => Unstarted c.state) ?_ (fun _ => ⟨rfl, rfl, fun _ => rfl⟩)
  intro c e c' hbefore hstep
  exact hbefore.step (Config.effect_of_next hstep)

/-- In a run whose steps meet the condition, the record is current at the end. -/
theorem current_of_run (hrun : Run (StepOf Config.next) (.fresh ledger) history final)
    (hkeeps : ∀ t ∈ history, KeepsScore x t) : Current final.state x := by
  induction hrun with
  | nil =>
    intro record hrecord
    cases hrecord
  | @snoc history c e c' hbefore hstep ih =>
    have hcurrent := ih fun t ht => hkeeps t (List.mem_append_left _ ht)
    exact hcurrent.step (unstarted_of_run hbefore) hstep
      (hkeeps ⟨c, e, c'⟩ (List.mem_append_right _ List.mem_cons_self))

/-- The statistics of a run keep to the bound. -/
theorem counterparties_of_run (hrun : Run (StepOf Config.next) (.fresh ledger) history final)
    (hfit : ∀ t ∈ history, CounterpartiesFit t) :
    (loadTxStats final.state x).avgCounterparties ≤ U32.max := by
  induction hrun with
  | nil => exact Nat.zero_le _
  | @snoc history c e c' hbefore hstep ih =>
    have hearlier := ih fun t ht => hfit t (List.mem_append_left _ ht)
    have hthis := hfit ⟨c, e, c'⟩ (List.mem_append_right _ List.mem_cons_self)
    have hstats := (inputs_after (x := x) (unstarted_of_run hbefore) (Config.step_iff.mp hstep).2.2).1
    rw [hstats]
    unfold statsAfter
    split
    case h_1 feeder subject stats hcall =>
      split
      · exact hthis feeder subject stats hcall
      · exact hearlier
    case h_2 => exact hearlier

/-- The repayment record of a run has its counters in order. -/
theorem repaymentOf_counters {s : CreditOracle.State} (hs : CreditOracle.CountersOk s) (x : Address) :
    (repaymentOf s x).onTimeCount ≤ (repaymentOf s x).totalCount ∧ (repaymentOf s x).totalCount ≤ U32.max := by
  unfold repaymentOf
  cases hentry : s.repaymentRecord x with
  | none => exact ⟨le_refl 0, Nat.zero_le _⟩
  | some entry =>
    have hcounters := hs x entry hentry
    cases entry with
    | v1 record => exact ⟨hcounters.onTime_le, hcounters.total_le⟩
    | v2 record => exact ⟨hcounters.onTime_le, hcounters.total_le⟩

/-- Generation for the subject succeeds up to the proof, and what it proves is about the score
that the contract reports. -/
def ProvesStoredScore (sha256 : List UInt8 → BytesN 32) (s : CreditOracle.State) (x : Address) : Prop :=
  ∀ (host : CreditOracle.Host Unit) env record, CreditOracle.getScore host env () s x = some record →
    ∀ creditOracleId threshold blinding, ∃ inputs w p, fetchScoreInputs host env () s x = some inputs ∧
      provedStatement sha256 creditOracleId inputs x threshold blinding = some (w, p) ∧
      w.score.toNat = record.score

/-- In every run of the credit oracle whose computations count the subject's credentials for
twenty points each and whose later calls leave the formula where it was, with amounts that fit,
the prover commits to the score that the contract reports. -/
theorem proved_score_is_stored (sha256 : List UInt8 → BytesN 32) (x : Address)
    (hrun : Run (StepOf Config.next) (.fresh ledger) history final)
    (hfit : ∀ t ∈ history, CounterpartiesFit t) (hkeeps : ∀ t ∈ history, KeepsScore x t) :
    ProvesStoredScore sha256 final.state x := by
  intro host env record hrecord creditOracleId threshold blinding
  obtain ⟨stored, hstored, -⟩ := Option.map_eq_some_iff.mp hrecord
  obtain ⟨hamounts, weights, hweights, hscore⟩ := current_of_run hrun hkeeps stored hstored
  obtain ⟨reported, hreported, hsame, hcount, hfetch⟩ := fetchScoreInputs_eq hstored hweights host env ()
  cases hreported.symm.trans hrecord
  obtain ⟨honTime, htotal⟩ := repaymentOf_counters (CreditOracle.countersOk_of_run hrun) x
  have horder : ScoreInputs.InOrder
      ⟨parseScoreRecord record, loadTxStats final.state x, repaymentOf final.state x, weights⟩ := by
    constructor
    case avgCounterparties => exact counterparties_of_run hrun hfit
    case onTimeCount => exact honTime
    case totalCount => exact htotal
    case weights => exact (CreditOracle.weightsOk_of_run hrun).config weights hweights
  obtain ⟨w, p, hproved, hw⟩ := provedStatement_score horder hamounts
  refine ⟨_, w, p, hfetch, hproved, hw.trans ?_⟩
  change recomputedScore record.vcCount _ _ _ = record.score
  rw [hsame, hcount, hscore]

/-- Two credentials are computed, and a later payment is too small to count. -/
def sampleCurrent : List CreditOracle.Event :=
  [ CreditOracle.sampleEvent 0 (.initializeContract (.account 1)),
    CreditOracle.sampleEvent 1 (.registerFeeder (.account 1) (.account 1)),
    CreditOracle.sampleEvent 2 (.setVcCount (.account 1) (.account 3) 2),
    CreditOracle.sampleEvent 5 (.computeScore (.account 3)),
    CreditOracle.sampleEvent 6 (.updateTxStats (.account 1) (.account 3) ⟨50000000, 3, 4⟩) ]

/-- A computed score, with statistics that arrive later. -/
theorem proved_score_sample : ∃ history final,
    Run (StepOf Config.next) (.fresh (.numbered 0)) history final ∧
      (final.state.score (.account 3)).map (·.score) = some 388 ∧
      ∀ sha256, ProvesStoredScore sha256 final.state (.account 3) := by
  obtain ⟨history, final, hrun, hobserved⟩ := Run.exists_of_replay
    (show (replay Config.next (.fresh (.numbered 0)) sampleCurrent).map
      (fun r => (r.1.map (·.event.call), r.1.all (fun t => decide (KeepsScore (.account 3) t)),
        (r.2.state.score (.account 3)).map (·.score))) =
      some (sampleCurrent.map (·.call), true, some 388) by decide +kernel)
  obtain ⟨hcalls, hrest⟩ := Prod.mk.inj hobserved
  obtain ⟨hall, hscore⟩ := Prod.mk.inj hrest
  refine ⟨history, final, hrun, hscore, fun sha256 => proved_score_is_stored sha256 (.account 3) hrun ?_ ?_⟩
  · intro t ht feeder subject stats hcall
    have hmem : t.event.call ∈ sampleCurrent.map (·.call) := hcalls ▸ List.mem_map_of_mem ht
    rw [hcall] at hmem
    simp [sampleCurrent, CreditOracle.sampleEvent] at hmem
    rw [hmem.2.2]
    decide
  · intro t ht
    exact of_decide_eq_true (List.all_eq_true.mp hall t ht)

/-- A credential of a type with three times the usual weight. -/
def sampleTyped : List CreditOracle.Event :=
  [ CreditOracle.sampleEvent 0 (.initializeContract (.account 1)),
    CreditOracle.sampleEvent 1 (.registerFeeder (.account 1) (.account 1)),
    CreditOracle.sampleEvent 2 (.setVcTypeWeight (.account 1) "kyc" 300),
    CreditOracle.sampleEvent 3 (.anchorVc (.account 1) (.account 3) 7 (some "kyc")),
    CreditOracle.sampleEvent 5 (.computeScore (.account 3)) ]

/-- The contract reports 432 for it, and the prover commits to 344. -/
theorem not_proved_score_is_stored_typed : ∃ history final,
    Run (StepOf Config.next) (.fresh (.numbered 0)) history final ∧
      (∀ t ∈ history, t.after.state.recencyDecayEnabled = none) ∧
      ∀ sha256 (host : CreditOracle.Host Unit) env creditOracleId threshold blinding, ∃ record inputs w p,
        CreditOracle.getScore host env () final.state (.account 3) = some record ∧ record.score = 432 ∧
        fetchScoreInputs host env () final.state (.account 3) = some inputs ∧
        provedStatement sha256 creditOracleId inputs (.account 3) threshold blinding = some (w, p) ∧
        w.score.toNat = 344 := by
  obtain ⟨history, final, hrun, hobserved⟩ := Run.exists_of_replay
    (show (replay Config.next (.fresh (.numbered 0)) sampleTyped).map
      (fun r => (r.1.all (fun t => decide (t.after.state.recencyDecayEnabled = none)),
        (r.2.state.score (.account 3)).map (fun record => (record.score, record.vcCount)),
        loadTxStats r.2.state (.account 3), repaymentOf r.2.state (.account 3), r.2.state.config)) =
      some (true, some (432, 1), ⟨0, 0, 0⟩, ⟨0, 0, 0⟩, some ⟨40, 30, 30⟩) by decide +kernel)
  simp only [Prod.mk.injEq] at hobserved
  obtain ⟨hall, hscore, hstats, hrepayment, hweights⟩ := hobserved
  obtain ⟨stored, hstored, hpair⟩ := Option.map_eq_some_iff.mp hscore
  obtain ⟨hvalue, hstoredCount⟩ := Prod.mk.inj hpair
  refine ⟨history, final, hrun, ?_, fun sha256 host env creditOracleId threshold blinding => ?_⟩
  · intro t ht
    exact of_decide_eq_true (List.all_eq_true.mp hall t ht)
  · obtain ⟨record, hreported, hsame, hcount, hfetch⟩ := fetchScoreInputs_eq hstored hweights host env ()
    rw [hstats, hrepayment] at hfetch
    have horder : ScoreInputs.InOrder ⟨parseScoreRecord record, ⟨0, 0, 0⟩, ⟨0, 0, 0⟩, ⟨40, 30, 30⟩⟩ := by
      have hvalid : ScoringWeights.Valid ⟨40, 30, 30⟩ := by decide
      exact ⟨Nat.zero_le _, le_refl 0, Nat.zero_le _, hvalid⟩
    have hamounts : AmountsFit ⟨0, 0, 0⟩ ⟨0, 0, 0⟩ := by decide
    have hrecomputed : recomputedScore 1 ⟨0, 0, 0⟩ ⟨0, 0, 0⟩ ⟨40, 30, 30⟩ = 344 := by decide
    obtain ⟨w, p, hproved, hw⟩ := provedStatement_score horder hamounts
    refine ⟨record, _, w, p, hreported, hsame.trans hvalue, hfetch, hproved, hw.trans ?_⟩
    rw [← hrecomputed, ← hstoredCount, ← hcount]
    rfl

end Runs

end StellarDidCredit.Sdk
