import StellarDidCredit.Scoring.Bounds
import StellarDidCredit.CreditOracle.Effects

/-!
# The score from the credentials of an identity oracle

When the linked identity oracle answers every call, a computation adds up the points of the
records it reports, each by the label of its hash. Only the first 100 points count, so the
saturating additions do not matter, and the score is the scaled composite of the exact sum.
-/

namespace StellarDidCredit.CreditOracle

variable {κ : Type} {host : Host κ} {env : Env} {s s' : State} {world : κ} {a x : Address}
  {deactivated : Bool} {records : List IdentityVCRecord} {label : BytesN 32 → CredentialType}

/-- The identity oracle at the address answers every call about the subject: it reports these
records, and verifies and labels each of them. -/
structure Answers (host : Host κ) (world : κ) (a x : Address) (deactivated : Bool)
    (records : List IdentityVCRecord) (label : BytesN 32 → CredentialType) : Prop where
  isDeactivated : host.isDeactivated world a x = some deactivated
  details : host.getVcDetails world a x = some records
  verified : ∀ record ∈ records, host.verifyVc world a x record.vcHash = some true
  labelled : ∀ record ∈ records, host.getVcCredentialType world a x record.vcHash = some (label record.vcHash)
  few : records.length ≤ U32.max

/-- The points of the records, each by the label of its hash. -/
def linkedPoints (env : Env) (s : State) (label : BytesN 32 → CredentialType)
    (records : List IdentityVCRecord) :
    ℕ :=
  (records.map fun record => recordPoints env s (label record.vcHash) record).sum

/-- A record has no fewer points by a label of no smaller weight. -/
theorem recordPoints_mono {label label' : CredentialType}
    (h : getVcTypeWeight s label ≤ getVcTypeWeight s label') (record : IdentityVCRecord) :
    recordPoints env s label record ≤ recordPoints env s label' record := by
  have hpoints : typePoints (getVcTypeWeight s label) ≤ typePoints (getVcTypeWeight s label') :=
    Nat.div_le_div_right (min_le_min_right _ (Nat.mul_le_mul_left _ h))
  unfold recordPoints
  dsimp only
  split
  · exact Nat.div_le_div_right (min_le_min_right _ (Nat.mul_le_mul_right _ hpoints))
  · exact hpoints

/-- The loop over records that are all verified and labelled. -/
theorem linkedVcLoop_eq (hverified : ∀ record ∈ records, host.verifyVc world a x record.vcHash = some true)
    (hlabelled : ∀ record ∈ records,
      host.getVcCredentialType world a x record.vcHash = some (label record.vcHash))
    {vcPoints vcCount : ℕ} (hfew : vcCount + records.length ≤ U32.max) :
    linkedVcLoop host env world s a x records (vcPoints, vcCount) =
      .ok (records.foldl (fun total record =>
        U32.saturatingAdd total (recordPoints env s (label record.vcHash) record)) vcPoints,
        vcCount + records.length) := by
  induction records generalizing vcPoints vcCount with
  | nil => rfl
  | cons record rest ih =>
    rw [List.length_cons] at hfew
    have hverify := hverified record List.mem_cons_self
    have hlabel := hlabelled record List.mem_cons_self
    have hcount : U32.checkedAdd vcCount 1 = some (vcCount + 1) :=
      U32.checkedAdd_eq_some.mpr ⟨by omega, rfl⟩
    have hrest : linkedVcLoop host env world s a x rest
        (U32.saturatingAdd vcPoints (recordPoints env s (label record.vcHash) record), vcCount + 1) =
        .ok (rest.foldl (fun total record =>
          U32.saturatingAdd total (recordPoints env s (label record.vcHash) record))
          (U32.saturatingAdd vcPoints (recordPoints env s (label record.vcHash) record)),
          vcCount + 1 + rest.length) :=
      ih (fun other hother => hverified other (List.mem_cons_of_mem _ hother))
        (fun other hother => hlabelled other (List.mem_cons_of_mem _ hother)) (by omega)
    rw [linkedVcLoop, hverify, hlabel, hcount, List.foldl_cons, List.length_cons,
      show vcCount + (rest.length + 1) = vcCount + 1 + rest.length by omega, ← hrest]
    rfl

/-- The credentials that a computation resolves. -/
theorem resolveVcPoints_eq (hlinked : s.identityOracleId = some a)
    (hanswers : Answers host world a x deactivated records label) :
    resolveVcPoints host env world s x = .ok (if deactivated then none else
      some (records.foldl (fun total record =>
        U32.saturatingAdd total (recordPoints env s (label record.vcHash) record)) 0, records.length)) := by
  have hloop : linkedVcLoop host env world s a x records (0, 0) = .ok (_, 0 + records.length) :=
    linkedVcLoop_eq hanswers.verified hanswers.labelled (by simpa using hanswers.few)
  simp only [resolveVcPoints, hlinked, hanswers.isDeactivated, hanswers.details, hloop, Outcome.okOr, bind,
    Except.bind, Nat.zero_add]
  cases deactivated <;> rfl

/-- The bookkeeping of a first computation leaves room for one more subject. -/
def CanStore (s : State) (x : Address) : Prop :=
  s.score x = none → s.protocolStats.totalSubjectsScored + 1 ≤ U64.max

/-- A computed score can be stored whatever it is, if there is room for the subject. -/
theorem storeScore_succeeds {score vcCount repaymentRate : ℕ} {txVolume30d : ℤ} :
    (∃ s', storeScore env x score vcCount repaymentRate txVolume30d s = .ok s') ↔ CanStore s x := by
  unfold CanStore
  cases hprev : s.score x with
  | none =>
    simp only [storeScore, hprev, incrementSubjectsScored, Outcome.bind_eq_ok, Outcome.okOr_eq_ok,
      U64.checkedAdd_eq_some, Except.ok.injEq, true_implies]
    constructor
    · rintro ⟨_, _, ⟨_, ⟨hroom, -⟩, -⟩, -⟩
      exact hroom
    · intro hroom
      exact ⟨_, _, ⟨_, ⟨hroom, rfl⟩, rfl⟩, rfl⟩
  | some prev =>
    refine iff_of_true ?_ (by simp)
    simp only [storeScore, hprev]
    split
    · exact ⟨_, rfl⟩
    · exact ⟨_, rfl⟩

/-- The score of the subject's stored inputs with these credential points. -/
def scoreWith (s : State) (x : Address) (repayment : RepaymentRecord) (weights : ScoringWeights)
    (vcPoints : ℕ) : ℕ :=
  computeScorePure vcPoints (loadTxStats s x).volume30d (loadTxStats s x).avgCounterparties
    repayment.onTimeCount repayment.totalCount repayment.totalRepaid weights.vcWeight weights.txWeight
    weights.repaymentWeight

/-- The score grows with the points unless the division by 100 absorbs what was lost. -/
theorem scoreWith_le_iff {repayment : RepaymentRecord} {weights : ScoringWeights} (hvalid : weights.Valid)
    (hcounters : repayment.onTimeCount ≤ repayment.totalCount) (p q : ℕ) :
    scoreWith s x repayment weights p ≤ scoreWith s x repayment weights q ↔
      (min p 100 - min q 100) * weights.vcWeight ≤
        weightedSum p (txScoreOf (loadTxStats s x).volume30d (loadTxStats s x).avgCounterparties)
          (repayScoreOf repayment.onTimeCount repayment.totalCount repayment.totalRepaid) weights % 100 := by
  have hbound (points : ℕ) := weightedSum_le hvalid points
    (txScoreOf_le (loadTxStats s x).volume30d (loadTxStats s x).avgCounterparties)
    (repayScoreOf_le hcounters repayment.totalRepaid)
  rw [scoreWith, scoreWith, computeScorePure_eq, computeScorePure_eq,
    scaleScore_le_iff (Nat.div_le_div_right (hbound p)) (Nat.div_le_div_right (hbound q)), composite_le_iff]

/-- Only the first 100 points count. -/
theorem scoreWith_congr {repayment : RepaymentRecord} {weights : ScoringWeights} {p q : ℕ}
    (h : min p 100 = min q 100) : scoreWith s x repayment weights p = scoreWith s x repayment weights q := by
  rw [scoreWith, scoreWith, computeScorePure_eq, computeScorePure_eq, weightedSum, weightedSum, h]

/-- A contract without a cooldown always lets a computation start. -/
theorem checkComputeCooldown_of_none (hcooldown : s.computeCooldownLedgers = none) :
    checkComputeCooldown env s x = .ok () := by
  unfold checkComputeCooldown
  rw [hcooldown]
  cases s.score x with
  | none => rfl
  | some record => exact Outcome.require_eq_ok.mpr (by simp)

/-- What a computation returns when no cooldown stands in its way. -/
theorem computeScore_returns_iff (hlinked : s.identityOracleId = some a)
    (hcooldown : s.computeCooldownLedgers = none)
    (hanswers : Answers host world a x deactivated records label) {v : ℕ} :
    (∃ s', computeScore host env x s world = .ok (v, s')) ↔
      s.paused.getD false = false ∧ ∃ repayment, loadRepaymentForScore s x = .ok repayment ∧
        if deactivated then v = minScore else ∃ weights, s.config = some weights ∧ CanStore s x ∧
          v = scoreWith s x repayment weights (linkedPoints env s label records) := by
  have hfree : checkComputeCooldown env s x = .ok () := checkComputeCooldown_of_none hcooldown
  have hpoints : min (min (records.foldl (fun total record =>
      U32.saturatingAdd total (recordPoints env s (label record.vcHash) record)) 0) 100) 100 =
      min (linkedPoints env s label records) 100 := by
    rw [Nat.min_assoc, Nat.min_self, U32.min_foldl_saturatingAdd (by decide), Nat.zero_add, linkedPoints]
  have hresolve : resolveVcPoints host env world s x = .ok _ := resolveVcPoints_eq hlinked hanswers
  constructor
  · rintro ⟨s', h⟩
    obtain ⟨hpaused, -, repayment, hload, ⟨rfl, rfl, hnone⟩ | ⟨vcPoints, vcCount, weights, hsome, hweights,
      rfl, hstored⟩⟩ := computeScore_spec h
    · refine ⟨hpaused, repayment, hload, ?_⟩
      cases deactivated with
      | true => rfl
      | false => cases hresolve.symm.trans hnone
    · refine ⟨hpaused, repayment, hload, ?_⟩
      cases deactivated with
      | true => cases hresolve.symm.trans hsome
      | false =>
        cases hresolve.symm.trans hsome
        exact ⟨weights, hweights, storeScore_succeeds.mp ⟨_, hstored⟩, scoreWith_congr hpoints⟩
  · rintro ⟨hpaused, repayment, hload, hvalue⟩
    simp only [computeScore, Outcome.bind_eq_ok, ensureNotPaused_eq_ok]
    cases deactivated with
    | true =>
      rw [if_pos rfl] at hvalue
      exact ⟨s, (), hpaused, (), hfree, repayment, hload, none, hresolve, by rw [hvalue]⟩
    | false =>
      obtain ⟨weights, hweights, hroom, hvalue⟩ := hvalue
      obtain ⟨s', hstored⟩ : ∃ s', storeScore env x v records.length (repaymentRateOf repayment)
          (loadTxStats s x).volume30d s = .ok s' := storeScore_succeeds.mpr hroom
      have hscore : scoreWith s x repayment weights (min (records.foldl (fun total record =>
          U32.saturatingAdd total (recordPoints env s (label record.vcHash) record)) 0) 100) = v :=
        (scoreWith_congr hpoints).trans hvalue.symm
      unfold scoreWith at hscore
      refine ⟨s', (), hpaused, (), hfree, repayment, hload, some _, hresolve, ?_⟩
      simp only [Outcome.bind_eq_ok, Outcome.okOr_eq_ok, Except.ok.injEq, Prod.mk.injEq]
      exact ⟨weights, hweights, s', by rw [hscore, hstored], hscore, rfl⟩

/-- The cooldown does not enter the credentials. -/
theorem resolveVcPoints_without_cooldown (x : Address) :
    resolveVcPoints host env world { s with computeCooldownLedgers := none } x =
      resolveVcPoints host env world s x := by
  have hloop (a : Address) (records : List IdentityVCRecord) (acc : ℕ × ℕ) :
      linkedVcLoop host env world { s with computeCooldownLedgers := none } a x records acc =
        linkedVcLoop host env world s a x records acc := by
    apply linkedVcLoop_congr
    · exact fun _ => rfl
    · exact fun _ => rfl
    · exact fun _ _ => rfl
  simp only [resolveVcPoints, hloop]
  rfl

/-- Without a cooldown a computation returns the same score. -/
theorem computeScore_without_cooldown {v : ℕ} (h : computeScore host env x s world = .ok (v, s')) :
    ∃ s'', computeScore host env x { s with computeCooldownLedgers := none } world = .ok (v, s'') := by
  have hfree : checkComputeCooldown env { s with computeCooldownLedgers := none } x = .ok () :=
    checkComputeCooldown_of_none rfl
  simp only [computeScore, Outcome.bind_eq_ok, ensureNotPaused_eq_ok] at h ⊢
  obtain ⟨_, hpaused, _, -, repayment, hload, resolved, hresolved, h⟩ := h
  have hresolved' :
      resolveVcPoints host env world { s with computeCooldownLedgers := none } x = .ok resolved :=
    (resolveVcPoints_without_cooldown x).trans hresolved
  cases resolved with
  | none =>
    cases h
    exact ⟨_, (), hpaused, (), hfree, repayment, hload, none, hresolved', rfl⟩
  | some acc =>
    simp only [Outcome.bind_eq_ok, Outcome.okOr_eq_ok, Except.ok.injEq, Prod.mk.injEq] at h
    obtain ⟨weights, hweights, stored, hstored, rfl, rfl⟩ := h
    have hroom : CanStore s x := storeScore_succeeds.mp ⟨_, hstored⟩
    obtain ⟨s'', hstored'⟩ : ∃ s'', storeScore env x _ acc.2 (repaymentRateOf repayment)
        (loadTxStats s x).volume30d { s with computeCooldownLedgers := none } = .ok s'' :=
      storeScore_succeeds.mpr hroom
    refine ⟨s'', (), hpaused, (), hfree, repayment, hload, some acc, hresolved', ?_⟩
    simp only [Outcome.bind_eq_ok, Outcome.okOr_eq_ok, Except.ok.injEq, Prod.mk.injEq]
    exact ⟨weights, hweights, s'', hstored', rfl, rfl⟩

end StellarDidCredit.CreditOracle
