import StellarDidCredit.Circuit.Prover

/-!
# What an honest subject can prove

The prover's integers meet every constraint but one: the eighth doubles the rounded average of
the two repayment scores and compares it with their sum, which an odd sum never passes.
-/

namespace StellarDidCredit.Circuit

variable {sha256 : List UInt8 → List UInt8} {gadget : BitGadget} {r : ProofRequest}

/-- The requests the prover is made for. -/
structure ProofRequest.Valid (r : ProofRequest) : Prop where
  onTimeCount : r.onTimeCount.toNat ≤ r.totalCount.toNat
  txVolume30d : 0 ≤ r.txVolume30d ∧ r.txVolume30d < 2 ^ 32 * 100000000
  totalRepaid : 0 ≤ r.totalRepaid ∧ r.totalRepaid < 2 ^ 32 * 100000000
  vcWeight : 10 ≤ r.vcWeight.toNat
  txWeight : 10 ≤ r.txWeight.toNat
  repaymentWeight : 10 ≤ r.repaymentWeight.toNat
  weights : r.vcWeight.toNat + r.txWeight.toNat + r.repaymentWeight.toNat = 100

/-- The counters and the weights are in order, whatever the two amounts are. -/
structure ProofRequest.InOrder (r : ProofRequest) : Prop where
  onTimeCount : r.onTimeCount.toNat ≤ r.totalCount.toNat
  weights : r.vcWeight.toNat + r.txWeight.toNat + r.repaymentWeight.toNat = 100

/-- A valid request is in order. -/
theorem ProofRequest.Valid.inOrder (hvalid : r.Valid) : r.InOrder := ⟨hvalid.onTimeCount, hvalid.weights⟩

/-- The scoring formula on the arguments of a request. -/
def ProofRequest.pureScore (r : ProofRequest) : ℕ :=
  computeScorePure r.vcPoints.toNat r.txVolume30d r.avgCounterparties.toNat r.onTimeCount.toNat
    r.totalCount.toNat r.totalRepaid r.vcWeight.toNat r.txWeight.toNat r.repaymentWeight.toNat

/-! ## The prover's arithmetic -/

/-- A number below `2 ^ 32` is kept in a machine word. -/
theorem toNat_ofNat_of_lt {n : ℕ} (h : n < 2 ^ 32) : (BitVec.ofNat 32 n).toNat = n := by
  rw [BitVec.toNat_ofNat, Nat.mod_eq_of_lt h]

/-- An amount in range keeps its value as a 64-bit number. -/
theorem asU64_toNat {amount : ℤ} (h : 0 ≤ amount ∧ amount < 2 ^ 32 * 100000000) :
    (asU64 amount).toNat = amount.toNat := by
  rw [asU64, max_eq_left h.1, BitVec.toNat_ofInt]
  omega

/-- Its whole units have 32 bits. -/
theorem wholeUnits_toNat {amount : ℤ} (h : 0 ≤ amount ∧ amount < 2 ^ 32 * 100000000) :
    (wholeUnits amount).toNat = amount.toNat / 100000000 := by
  have hdiv : amount.tdiv 100000000 = ((amount.toNat / 100000000 : ℕ) : ℤ) := by
    rw [Int.tdiv_eq_ediv_of_nonneg h.1]
    omega
  rw [wholeUnits, hdiv, max_eq_left (Int.natCast_nonneg _), BitVec.toNat_ofInt]
  omega

/-- The formula caps the same units. -/
theorem cappedUnits_eq {amount : ℤ} {cap : ℕ} (h : 0 ≤ amount ∧ amount < 2 ^ 32 * 100000000) :
    cappedUnits amount cap = min (wholeUnits amount).toNat cap := by
  have hdiv : amount.tdiv 100000000 = ((amount.toNat / 100000000 : ℕ) : ℤ) := by
    rw [Int.tdiv_eq_ediv_of_nonneg h.1]
    omega
  rw [cappedUnits, wholeUnits_toNat h, hdiv, max_eq_left (Int.natCast_nonneg _), Int.toNat_natCast]

/-- The true quotient passes the check of its remainder. -/
theorem divided_div {bits divisor n : ℕ} (hpos : 0 < divisor) (hbits : divisor ≤ 2 ^ bits) :
    Divided bits divisor n (n / divisor) := by
  have hdivision : n / divisor * divisor + n % divisor = n := Nat.div_add_mod' n divisor
  have hrem : n % divisor < divisor := Nat.mod_lt n hpos
  unfold Divided
  omega

/-- A minimum that fits is a capped value. -/
theorem capped_min {bits cap source : ℕ} (hcap : cap < 2 ^ bits) : Capped bits cap source (min source cap) :=
  ⟨(min_le_right _ _).trans_lt hcap, (min_choice source cap)⟩

/-- Dividing the basis points once more is dividing by a hundred repayments. -/
theorem rateBps_div {onTimeCount totalCount : BitVec 32} :
    rateBps onTimeCount totalCount / 100 = repaymentRateScore onTimeCount.toNat totalCount.toNat := by
  have honTime := onTimeCount.isLt
  have hsaturating : U128.saturatingMul onTimeCount.toNat 10000 = onTimeCount.toNat * 10000 := by
    rw [U128.saturatingMul, U128.max]
    omega
  rw [rateBps, repaymentRateScore, hsaturating]
  split
  case isTrue hpos => rw [if_neg (by omega)]
  case isFalse hzero => rw [if_pos (by omega)]

/-- The rate score of repayments on time, among all of them, is a percentage that the circuit accepts. -/
theorem rated_repaymentRateScore {onTimeCount totalCount : ℕ} (h : onTimeCount ≤ totalCount)
    (hsmall : onTimeCount < 2 ^ 32) :
    Rated onTimeCount totalCount (repaymentRateScore onTimeCount totalCount) ∧
      repaymentRateScore onTimeCount totalCount ≤ 100 := by
  have hsaturating : U128.saturatingMul onTimeCount 10000 = onTimeCount * 10000 := by
    rw [U128.saturatingMul, U128.max]
    omega
  rcases Nat.eq_zero_or_pos totalCount with rfl | hpos
  · obtain rfl := Nat.le_zero.mp h
    rw [repaymentRateScore, if_pos rfl]
    exact ⟨⟨by decide, by omega, by omega⟩, by decide⟩
  · have hrate : repaymentRateScore onTimeCount totalCount = onTimeCount * 100 / totalCount := by
      rw [repaymentRateScore, if_neg (by omega), hsaturating, Nat.div_div_eq_div_mul,
        show onTimeCount * 10000 = onTimeCount * 100 * 100 by omega,
        Nat.mul_div_mul_right _ _ (by decide)]
    have hdivision : onTimeCount * 100 / totalCount * totalCount + onTimeCount * 100 % totalCount =
        onTimeCount * 100 := Nat.div_add_mod' _ _
    have hrem : onTimeCount * 100 % totalCount < totalCount := Nat.mod_lt _ hpos
    have hbound : onTimeCount * 100 / totalCount ≤ 100 := by
      have hscaled : onTimeCount * 100 ≤ 100 * totalCount := by omega
      exact (Nat.div_le_div_right hscaled).trans (Nat.mul_div_cancel _ hpos).le
    rw [hrate]
    refine ⟨⟨by omega, by omega, ?_⟩, hbound⟩
    rw [Nat.add_mul]
    omega

/-! ## The prover's intermediate values -/

namespace ProofRequest

/-- The transaction score. -/
def txScore (r : ProofRequest) : ℕ :=
  min (min (wholeUnits r.txVolume30d).toNat 80 + min (r.avgCounterparties.toNat / 5) 20) 100

/-- The sum of the two repayment scores. -/
def repaySum (r : ProofRequest) : ℕ :=
  repaymentRateScore r.onTimeCount.toNat r.totalCount.toNat + min (wholeUnits r.totalRepaid).toNat 100

/-- The weighted sum of the three component scores. -/
def total (r : ProofRequest) : ℕ :=
  min r.vcPoints.toNat 100 * r.vcWeight.toNat + r.txScore * r.txWeight.toNat +
    r.repaySum / 2 * r.repaymentWeight.toNat

/-- Each of the two repayment scores is a percentage. -/
theorem InOrder.repaySum_le (hr : r.InOrder) : r.repaySum ≤ 200 := by
  have hrate := (rated_repaymentRateScore hr.onTimeCount r.onTimeCount.isLt).2
  have hvolume : min (wholeUnits r.totalRepaid).toNat 100 ≤ 100 := min_le_right _ _
  unfold repaySum
  omega

/-- The weighted sum is at most ten thousand. -/
theorem InOrder.total_le (hr : r.InOrder) : r.total ≤ 10000 := by
  have hrepay := hr.repaySum_le
  have hvc : min r.vcPoints.toNat 100 * r.vcWeight.toNat ≤ 100 * r.vcWeight.toNat :=
    Nat.mul_le_mul_right _ (min_le_right _ _)
  have htx : r.txScore * r.txWeight.toNat ≤ 100 * r.txWeight.toNat :=
    Nat.mul_le_mul_right _ (min_le_right _ _)
  have hrepay' : r.repaySum / 2 * r.repaymentWeight.toNat ≤ 100 * r.repaymentWeight.toNat :=
    Nat.mul_le_mul_right _ (by omega)
  have hweights := hr.weights
  unfold total
  omega

/-- The formula scales the composite to the prover's score. -/
theorem InOrder.scaleScore_eq (hr : r.InOrder) :
    scaleScore (r.total / 100) = 300 + r.total / 100 * 550 / 100 := by
  have htotal := hr.total_le
  have hsaturating : U128.saturatingMul (r.total / 100) 550 = r.total / 100 * 550 := by
    rw [U128.saturatingMul, U128.max]
    omega
  rw [scaleScore, hsaturating, minScore, maxScore]
  omega

/-- The formula, in the prover's steps. -/
theorem Valid.pureScore_eq (hvalid : r.Valid) : r.pureScore = 300 + r.total / 100 * 550 / 100 := by
  have hcomposite : r.pureScore = scaleScore (r.total / 100) := by
    rw [pureScore, computeScorePure, cappedUnits_eq hvalid.txVolume30d, cappedUnits_eq hvalid.totalRepaid]
    rfl
  rw [hcomposite, hvalid.inOrder.scaleScore_eq]

end ProofRequest

/-- The witness of a request whose results all fit. -/
def ProofRequest.honestWitness (r : ProofRequest) : ScoreWitness where
  score := .ofNat 32 (max (min (300 + r.total / 100 * 550 / 100) 850) 300)
  vcCount := r.vcCount
  txVolume30d := r.txVolume30d
  avgCounterparties := r.avgCounterparties
  repaymentRate := .ofNat 32 (rateBps r.onTimeCount r.totalCount)
  lastUpdated := r.lastUpdated
  computedAtLedger := r.computedAtLedger
  stale := r.stale
  vcPoints := r.vcPoints
  onTimeCount := r.onTimeCount
  totalCount := r.totalCount
  totalRepaid := r.totalRepaid
  vcWeight := r.vcWeight
  txWeight := r.txWeight
  repaymentWeight := r.repaymentWeight
  vcScore := .ofNat 32 (min r.vcPoints.toNat 100)
  volumeScore := .ofNat 32 (min (wholeUnits r.txVolume30d).toNat 80)
  counterpartyBonus := .ofNat 32 (min (r.avgCounterparties.toNat / 5) 20)
  txScore := .ofNat 32 r.txScore
  repaymentRateScore := .ofNat 32 (rateBps r.onTimeCount r.totalCount / 100)
  repaymentVolumeScore := .ofNat 32 (min (wholeUnits r.totalRepaid).toNat 100)
  repayScore := .ofNat 32 (r.repaySum / 2)
  composite := .ofNat 32 (r.total / 100)
  qVolume := wholeUnits r.txVolume30d
  qCp := .ofNat 32 (r.avgCounterparties.toNat / 5)
  qRv := wholeUnits r.totalRepaid
  totalCountIsZero := r.totalCount == 0
  totalCountInv := if r.totalCount == 0 then 0 else 1
  blinding := (r.blinding.toNat : Fr)

/-- The rate score has 32 bits. -/
theorem ProofRequest.InOrder.rateScore_toNat (hr : r.InOrder) :
    (BitVec.ofNat 32 (rateBps r.onTimeCount r.totalCount / 100)).toNat =
      repaymentRateScore r.onTimeCount.toNat r.totalCount.toNat := by
  have hrate := (rated_repaymentRateScore hr.onTimeCount r.onTimeCount.isLt).2
  rw [toNat_ofNat_of_lt (by rw [rateBps_div]; omega), rateBps_div]

/-- The prover builds that witness. -/
theorem scoreWitness_eq (hr : r.InOrder) : scoreWitness r = some r.honestWitness := by
  have hrepay := hr.repaySum_le
  have htotal := hr.total_le
  have hvc : min r.vcPoints.toNat 100 * r.vcWeight.toNat ≤ r.total := by
    unfold ProofRequest.total
    omega
  have htx : min r.vcPoints.toNat 100 * r.vcWeight.toNat + r.txScore * r.txWeight.toNat ≤ r.total := by
    unfold ProofRequest.total
    omega
  have hrepayTerm : r.repaySum / 2 * r.repaymentWeight.toNat ≤ r.total := by
    unfold ProofRequest.total
    omega
  -- none of the 32-bit operators traps
  have hmax : U32.max = 4294967295 := rfl
  have hrepaySum : U32.checkedAdd (BitVec.ofNat 32 (rateBps r.onTimeCount r.totalCount / 100)).toNat
      (min (wholeUnits r.totalRepaid).toNat 100) = some r.repaySum := by
    rw [hr.rateScore_toNat]
    exact U32.checkedAdd_eq_some.mpr ⟨hrepay.trans (by decide), rfl⟩
  have hvcTerm : U32.checkedMul (min r.vcPoints.toNat 100) r.vcWeight.toNat =
      some (min r.vcPoints.toNat 100 * r.vcWeight.toNat) := U32.checkedMul_eq_some.mpr ⟨by omega, rfl⟩
  have htxTerm : U32.checkedMul r.txScore r.txWeight.toNat = some (r.txScore * r.txWeight.toNat) :=
    U32.checkedMul_eq_some.mpr ⟨by omega, rfl⟩
  have hrepayTerm' : U32.checkedMul (r.repaySum / 2) r.repaymentWeight.toNat =
      some (r.repaySum / 2 * r.repaymentWeight.toNat) := U32.checkedMul_eq_some.mpr ⟨by omega, rfl⟩
  have hmarked : U32.checkedAdd (min r.vcPoints.toNat 100 * r.vcWeight.toNat) (r.txScore * r.txWeight.toNat) =
      some (min r.vcPoints.toNat 100 * r.vcWeight.toNat + r.txScore * r.txWeight.toNat) :=
    U32.checkedAdd_eq_some.mpr ⟨by omega, rfl⟩
  have hsum : U32.checkedAdd (min r.vcPoints.toNat 100 * r.vcWeight.toNat + r.txScore * r.txWeight.toNat)
      (r.repaySum / 2 * r.repaymentWeight.toNat) = some r.total :=
    U32.checkedAdd_eq_some.mpr ⟨by unfold ProofRequest.total at htotal; omega, rfl⟩
  have hpoints : U32.checkedMul (r.total / 100) 550 = some (r.total / 100 * 550) :=
    U32.checkedMul_eq_some.mpr ⟨by omega, rfl⟩
  have hunclamped : U32.checkedAdd 300 (r.total / 100 * 550 / 100) = some (300 + r.total / 100 * 550 / 100) :=
    U32.checkedAdd_eq_some.mpr ⟨by omega, rfl⟩
  have hfold : min (min (wholeUnits r.txVolume30d).toNat 80 + min (r.avgCounterparties.toNat / 5) 20) 100 =
      r.txScore := rfl
  simp only [scoreWitness, hfold, hrepaySum, hvcTerm, htxTerm, hrepayTerm', hmarked, hsum, hpoints,
    hunclamped, Option.bind_eq_bind, Option.bind_some]
  rfl

/-- The score that it holds. -/
theorem ProofRequest.InOrder.honestWitness_score (hr : r.InOrder) :
    r.honestWitness.score.toNat = 300 + r.total / 100 * 550 / 100 := by
  have htotal := hr.total_le
  refine (toNat_ofNat_of_lt (by omega)).trans ?_
  omega

/-- Its numbers meet the constraints exactly when the two repayment scores have an even sum. -/
theorem honestWitness_numbers (hvalid : r.Valid) (p : ScorePublicInputs) :
    NumberConstraints (assign (some r.honestWitness) p) ↔ r.repaySum % 2 = 0 := by
  have hrepay := hvalid.inOrder.repaySum_le
  have htotal := hvalid.inOrder.total_le
  have hrated := (rated_repaymentRateScore hvalid.onTimeCount r.onTimeCount.isLt).1
  have hrate := hvalid.inOrder.rateScore_toNat
  have hvcScore : r.honestWitness.vcScore.toNat = min r.vcPoints.toNat 100 := toNat_ofNat_of_lt (by omega)
  have hvolumeScore : r.honestWitness.volumeScore.toNat = min (wholeUnits r.txVolume30d).toNat 80 :=
    toNat_ofNat_of_lt (by omega)
  have hbonus : r.honestWitness.counterpartyBonus.toNat = min (r.avgCounterparties.toNat / 5) 20 :=
    toNat_ofNat_of_lt (by omega)
  have htxScore : r.honestWitness.txScore.toNat = r.txScore :=
    toNat_ofNat_of_lt (by unfold ProofRequest.txScore; omega)
  have hrepaid : r.honestWitness.repaymentVolumeScore.toNat = min (wholeUnits r.totalRepaid).toNat 100 :=
    toNat_ofNat_of_lt (by omega)
  have hrepayScore : r.honestWitness.repayScore.toNat = r.repaySum / 2 := toNat_ofNat_of_lt (by omega)
  have hcomposite : r.honestWitness.composite.toNat = r.total / 100 := toNat_ofNat_of_lt (by omega)
  have hqCp : r.honestWitness.qCp.toNat = r.avgCounterparties.toNat / 5 :=
    toNat_ofNat_of_lt (by have := r.avgCounterparties.isLt; omega)
  have hscore := hvalid.inOrder.honestWitness_score
  constructor
  · intro hnumbers
    have hdouble : r.honestWitness.repayScore.toNat * 2 = (BitVec.ofNat 32
        (rateBps r.onTimeCount r.totalCount / 100)).toNat + r.honestWitness.repaymentVolumeScore.toNat :=
      hnumbers.repayScore
    rw [hrepayScore, hrate, hrepaid, ← ProofRequest.repaySum] at hdouble
    omega
  · intro heven
    constructor
    case vcScore =>
      change Capped 7 100 r.vcPoints.toNat r.honestWitness.vcScore.toNat
      rw [hvcScore]
      exact capped_min (by decide)
    case volume =>
      change Divided 27 100000000 (asU64 r.txVolume30d).toNat (wholeUnits r.txVolume30d).toNat ∧
        Capped 7 80 (wholeUnits r.txVolume30d).toNat r.honestWitness.volumeScore.toNat
      rw [hvolumeScore, asU64_toNat hvalid.txVolume30d, wholeUnits_toNat hvalid.txVolume30d]
      exact ⟨divided_div (by decide) (by decide), capped_min (by decide)⟩
    case counterparty =>
      change Divided 3 5 r.avgCounterparties.toNat r.honestWitness.qCp.toNat ∧
        Capped 5 20 r.honestWitness.qCp.toNat r.honestWitness.counterpartyBonus.toNat
      rw [hqCp, hbonus]
      exact ⟨divided_div (by decide) (by decide), capped_min (by decide)⟩
    case txScore =>
      change Capped 7 100 (r.honestWitness.volumeScore.toNat + r.honestWitness.counterpartyBonus.toNat)
        r.honestWitness.txScore.toNat
      rw [hvolumeScore, hbonus, htxScore]
      exact capped_min (by decide)
    case repaymentRate =>
      change Rated _ _ (BitVec.ofNat 32 (rateBps r.onTimeCount r.totalCount / 100)).toNat
      rw [hrate]
      exact hrated
    case repaymentVolume =>
      change Divided 27 100000000 (asU64 r.totalRepaid).toNat (wholeUnits r.totalRepaid).toNat ∧
        Capped 7 100 (wholeUnits r.totalRepaid).toNat r.honestWitness.repaymentVolumeScore.toNat
      rw [hrepaid, asU64_toNat hvalid.totalRepaid, wholeUnits_toNat hvalid.totalRepaid]
      exact ⟨divided_div (by decide) (by decide), capped_min (by decide)⟩
    case repayScore =>
      change r.honestWitness.repayScore.toNat * 2 = (BitVec.ofNat 32
        (rateBps r.onTimeCount r.totalCount / 100)).toNat + r.honestWitness.repaymentVolumeScore.toNat
      rw [hrepayScore, hrate, hrepaid, ← ProofRequest.repaySum]
      omega
    case scaled =>
      have hsum : weightedSum (assign (some r.honestWitness) p).toRawInputs r.honestWitness.vcScore.toNat
          r.honestWitness.txScore.toNat r.honestWitness.repayScore.toNat = r.total := by
        rw [hvcScore, htxScore, hrepayScore]
        rfl
      change Scaled (weightedSum (assign (some r.honestWitness) p).toRawInputs r.honestWitness.vcScore.toNat
        r.honestWitness.txScore.toNat r.honestWitness.repayScore.toNat) r.honestWitness.composite.toNat
        r.honestWitness.score.toNat
      rw [hsum, hcomposite, hscore]
      unfold Scaled Divided
      omega

/-- The prover's commitment is the one of its assignment. -/
theorem honestWitness_commitment (p : ScorePublicInputs)
    (hcommitment : p.scoreCommitment = scoreCommitment sha256 r.honestWitness) :
    CommitmentConstraint sha256 (assign (some r.honestWitness) p) := by
  rw [commitmentConstraint_iff]
  refine hcommitment.trans ?_
  have hfields : (assign (some r.honestWitness) p).fields =
      ![(r.honestWitness.score.toNat : Fr), (r.honestWitness.vcCount.toNat : Fr),
        ((asU64 r.honestWitness.txVolume30d).toNat : Fr), (r.honestWitness.avgCounterparties.toNat : Fr),
        (r.honestWitness.repaymentRate.toNat : Fr), (r.honestWitness.lastUpdated.toNat : Fr),
        (r.honestWitness.computedAtLedger.toNat : Fr), (r.honestWitness.stale.toNat : Fr)] := by
    simp only [Assignment.fields, uint32ToFp_eq, uint64ToFp_eq, booleanToFp_eq, assign, Option.elim_some]
  rw [hfields, scoreCommitment]
  rfl

/-! ## Main result -/

/-- The prover is run on that witness when the three byte strings are long enough. -/
theorem generateScoreProof_isSome (hr : r.InOrder) (hsubject : 32 ≤ r.subject.length)
    (horacle : 32 ≤ r.creditOracleId.length) (hdomain : 32 ≤ r.domainSeparator.length) :
    ∃ p, generateScoreProof sha256 r = some (r.honestWitness, p) := by
  simp only [generateScoreProof, scoreWitness_eq hr, publicInputs, bytes32, if_pos hsubject,
    if_pos horacle, if_pos hdomain, Option.bind_eq_bind, Option.bind_some]
  exact ⟨_, rfl⟩

/-- The threshold and the commitment are those of the request. -/
theorem generateScoreProof_spec (hvalid : r.Valid) {w : ScoreWitness} {p : ScorePublicInputs}
    (h : generateScoreProof sha256 r = some (w, p)) : w = r.honestWitness ∧ p.threshold = r.threshold ∧
      p.scoreCommitment = scoreCommitment sha256 r.honestWitness := by
  simp only [generateScoreProof, scoreWitness_eq hvalid.inOrder, publicInputs, Option.bind_eq_bind,
    Option.bind_some, Option.bind_eq_some_iff, Option.some.injEq, Prod.mk.injEq] at h
  obtain ⟨_, ⟨_, -, _, -, _, -, rfl⟩, rfl, rfl⟩ := h
  exact ⟨rfl, rfl, rfl⟩

/-- For every request the prover is made for and every threshold below the score, the witness
and the public inputs satisfy the circuit exactly when the two repayment scores have an even sum. -/
theorem circuit_completeness (sha256 : List UInt8 → List UInt8) (gadget : BitGadget) (r : ProofRequest)
    (hvalid : r.Valid) (hthreshold : r.threshold.toNat < r.pureScore) :
    (∃ w, scoreWitness r = some w) ∧
    (32 ≤ r.subject.length → 32 ≤ r.creditOracleId.length → 32 ≤ r.domainSeparator.length →
      ∃ w p, generateScoreProof sha256 r = some (w, p)) ∧
    ∀ w p, generateScoreProof sha256 r = some (w, p) →
      (GenerateConstraints sha256 gadget (assign (some w) p) ↔
        (repaymentRateScore r.onTimeCount.toNat r.totalCount.toNat + cappedUnits r.totalRepaid 100) % 2 =
          0) := by
  refine ⟨⟨_, scoreWitness_eq hvalid.inOrder⟩, ?_, ?_⟩
  · intro hsubject horacle hdomain
    exact ⟨_, generateScoreProof_isSome hvalid.inOrder hsubject horacle hdomain⟩
  · intro w p hp
    obtain ⟨rfl, hbound, hcommitment⟩ := generateScoreProof_spec hvalid hp
    rw [generateConstraints_iff, honestWitness_numbers hvalid, cappedUnits_eq hvalid.totalRepaid,
      ← ProofRequest.repaySum]
    constructor
    · exact fun h => h.2.1
    · intro heven
      refine ⟨enforceU32GtFp_iff.mpr ?_, heven, honestWitness_commitment p hcommitment⟩
      rw [hvalid.pureScore_eq] at hthreshold
      change p.threshold.toNat < r.honestWitness.score.toNat
      rwa [hbound, hvalid.inOrder.honestWitness_score]

/-- A request for the given repayments, with some credentials and payments. -/
def sampleRequest (onTimeCount totalCount : BitVec 32) (totalRepaid : ℤ) : ProofRequest where
  vcPoints := 50
  txVolume30d := 50000000000
  avgCounterparties := 10
  onTimeCount
  totalCount
  totalRepaid
  vcWeight := 40
  txWeight := 30
  repaymentWeight := 30
  vcCount := 10
  lastUpdated := 1700000000
  computedAtLedger := 1234567
  stale := false
  blinding := 42
  threshold := 600
  subject := List.replicate 32 1
  creditOracleId := List.replicate 32 2
  snapshotLedger := 12345
  domainSeparator := List.replicate 32 3

/-- Half of the repayments on time and a full repayment volume: the sum is 150. -/
theorem circuit_completeness_even : ∃ r : ProofRequest, r.pureScore = 668 ∧ ∀ sha256 gadget, ∃ w p,
    generateScoreProof sha256 r = some (w, p) ∧ GenerateConstraints sha256 gadget (assign (some w) p) := by
  have hvalid : (sampleRequest 50 100 20000000000).Valid := by
    constructor <;> decide
  have hpure : (sampleRequest 50 100 20000000000).pureScore = 668 := by decide
  refine ⟨sampleRequest 50 100 20000000000, hpure, fun sha256 gadget => ?_⟩
  obtain ⟨-, hbuilt, hsatisfied⟩ :=
    circuit_completeness sha256 gadget _ hvalid (by rw [hpure]; decide)
  obtain ⟨w, p, hp⟩ := hbuilt (by decide) (by decide) (by decide)
  exact ⟨w, p, hp, (hsatisfied w p hp).mpr (by decide)⟩

/-- A single repayment on time of one unit: the sum is 101, and the honest witness is rejected. -/
theorem not_circuit_completeness_odd : ∃ r : ProofRequest, r.Valid ∧ r.threshold.toNat < r.pureScore ∧
    ∀ sha256 gadget, ∃ w p, generateScoreProof sha256 r = some (w, p) ∧
      ¬GenerateConstraints sha256 gadget (assign (some w) p) := by
  have hvalid : (sampleRequest 1 1 100000000).Valid := by
    constructor <;> decide
  refine ⟨sampleRequest 1 1 100000000, hvalid, by decide, fun sha256 gadget => ?_⟩
  obtain ⟨p, hp⟩ : ∃ p, generateScoreProof sha256 (sampleRequest 1 1 100000000) = some (_, p) :=
    generateScoreProof_isSome hvalid.inOrder (by decide) (by decide) (by decide)
  refine ⟨_, p, hp, fun hsatisfied => ?_⟩
  have heven := (honestWitness_numbers hvalid p).mp (generateConstraints_iff.mp hsatisfied).2.1
  exact absurd heven (by decide)

end StellarDidCredit.Circuit
