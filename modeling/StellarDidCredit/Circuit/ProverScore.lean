import StellarDidCredit.Scoring.Bounds
import StellarDidCredit.Circuit.Completeness

/-!
# The prover's score and the contract's

The contract caps a whole-unit amount before it converts it to 32 bits, the prover converts it
first. From 2^32 units on the conversion drops all but the low 32 bits, and with them points that
the cap would have kept. The two scores agree exactly when the division by 100 drops what is lost.
-/

namespace StellarDidCredit.Circuit

variable {r : ProofRequest}

/-- The weights of a request. -/
def ProofRequest.weights (r : ProofRequest) : ScoringWeights :=
  ⟨r.vcWeight.toNat, r.txWeight.toNat, r.repaymentWeight.toNat⟩

/-! ## The conversion -/

/-- The conversion keeps the low 32 bits of the whole units. -/
theorem wholeUnits_toNat_eq_mod (amount : ℤ) :
    (wholeUnits amount).toNat = (max (amount.tdiv 100000000) 0).toNat % 2 ^ 32 := by
  rw [wholeUnits, BitVec.toNat_ofInt]
  omega

/-- How far the low 32 bits of the whole units are below a cap that the units reach: nothing while the
units fit in 32 bits. -/
def missedUnits (amount : ℤ) (cap : ℕ) : ℕ :=
  if (max (amount.tdiv 100000000) 0).toNat < 2 ^ 32 then 0
  else cap - (max (amount.tdiv 100000000) 0).toNat % 2 ^ 32

/-- Converting before capping misses these units, and then the units reach the cap. -/
theorem cappedUnits_eq_add (amount : ℤ) {cap : ℕ} (hcap : cap < 2 ^ 32) :
    cappedUnits amount cap = min (wholeUnits amount).toNat cap + missedUnits amount cap ∧
      (missedUnits amount cap = 0 ∨ cappedUnits amount cap = cap) := by
  rw [wholeUnits_toNat_eq_mod, cappedUnits, missedUnits]
  split
  case isTrue hsmall =>
    rw [Nat.mod_eq_of_lt hsmall]
    exact ⟨rfl, Or.inl rfl⟩
  case isFalse hlarge =>
    have hreached : cap ≤ (max (amount.tdiv 100000000) 0).toNat := by omega
    rw [min_eq_right hreached]
    exact ⟨by omega, Or.inr rfl⟩

/-! ## What the prover loses -/

/-- The contract's transaction component. -/
def ProofRequest.pureTxScore (r : ProofRequest) : ℕ := txScoreOf r.txVolume30d r.avgCounterparties.toNat

/-- The contract's repayment component. -/
def ProofRequest.pureRepayScore (r : ProofRequest) : ℕ :=
  repayScoreOf r.onTimeCount.toNat r.totalCount.toNat r.totalRepaid

/-- The contract's weighted sum. -/
def ProofRequest.pureTotal (r : ProofRequest) : ℕ :=
  StellarDidCredit.weightedSum r.vcPoints.toNat r.pureTxScore r.pureRepayScore r.weights

/-- What the missed units weigh. The repaid ones count half, rounded up with an even repayment rate
and down with an odd one. -/
def ProofRequest.lostPoints (r : ProofRequest) : ℕ :=
  missedUnits r.txVolume30d 80 * r.txWeight.toNat +
    (missedUnits r.totalRepaid 100 + 1 -
      repaymentRateScore r.onTimeCount.toNat r.totalCount.toNat % 2) / 2 * r.repaymentWeight.toNat

/-- The transaction score of the formula is the prover's and the units that it misses. -/
theorem ProofRequest.pureTxScore_eq (r : ProofRequest) :
    r.pureTxScore = r.txScore + missedUnits r.txVolume30d 80 := by
  have hunits := (cappedUnits_eq_add r.txVolume30d (by decide : 80 < 2 ^ 32)).1
  have hcapped := cappedUnits_le r.txVolume30d 80
  unfold pureTxScore txScoreOf txScore
  omega

/-- The repayment score of the formula, from the prover's sum and the units that it misses. -/
theorem ProofRequest.pureRepayScore_eq (r : ProofRequest) :
    r.pureRepayScore = r.repaySum / 2 +
      (missedUnits r.totalRepaid 100 + 1 -
        repaymentRateScore r.onTimeCount.toNat r.totalCount.toNat % 2) / 2 := by
  obtain ⟨hunits, hreached⟩ := cappedUnits_eq_add r.totalRepaid (by decide : 100 < 2 ^ 32)
  unfold pureRepayScore repayScoreOf repaySum
  omega

/-- The contract's sum is the prover's and what it loses. -/
theorem ProofRequest.pureTotal_eq (r : ProofRequest) : r.pureTotal = r.total + r.lostPoints := by
  unfold pureTotal StellarDidCredit.weightedSum weights total lostPoints
  dsimp only
  rw [r.pureTxScore_eq, r.pureRepayScore_eq, Nat.add_mul, Nat.add_mul]
  omega

/-- The contract's score scales its weighted sum. -/
theorem ProofRequest.pureScore_eq (r : ProofRequest) : r.pureScore = scaleScore (r.pureTotal / 100) :=
  computeScorePure_eq r.vcPoints.toNat r.txVolume30d r.avgCounterparties.toNat r.onTimeCount.toNat
    r.totalCount.toNat r.totalRepaid r.weights

/-- The prover's score scales its own. -/
theorem ProofRequest.InOrder.score_eq (hr : r.InOrder) :
    (scoreWitness r).map (·.score.toNat) = some (scaleScore (r.total / 100)) := by
  rw [scoreWitness_eq hr, Option.map_some, hr.honestWitness_score, hr.scaleScore_eq]

/-! ## Main result -/

/-- For counters in order and valid weights, the score that the prover computes is the contract's
exactly when the points that its conversions lose are within the remainder of the weighted sum modulo
100. -/
theorem proverScore_eq_iff (r : ProofRequest) (hcounts : r.onTimeCount.toNat ≤ r.totalCount.toNat)
    (hweights : r.weights.Valid) :
    (scoreWitness r).map (·.score.toNat) = some r.pureScore ↔ r.lostPoints ≤ r.pureTotal % 100 := by
  have hr : r.InOrder := ⟨hcounts, hweights.2.2.2⟩
  have hpure : r.pureTotal ≤ 10000 :=
    weightedSum_le hweights r.vcPoints.toNat (txScoreOf_le _ _) (repayScoreOf_le hcounts _)
  have hsplit := r.pureTotal_eq
  have hscale : scaleScore (r.total / 100) = scaleScore (r.pureTotal / 100) ↔
      r.total / 100 = r.pureTotal / 100 := by
    rw [scaleScore_eq (by omega), scaleScore_eq (by omega)]
    omega
  rw [hr.score_eq, r.pureScore_eq, Option.some.injEq, hscale]
  omega

/-- Below 2^32 units nothing is lost. -/
theorem proverScore_eq_iff_sample :
    (scoreWitness (sampleRequest 50 100 20000000000)).map (·.score.toNat) = some 668 := by
  have hpure : (sampleRequest 50 100 20000000000).pureScore = 668 := by decide
  have hlost : (sampleRequest 50 100 20000000000).lostPoints = 0 := by decide
  rw [← hpure]
  refine (proverScore_eq_iff (sampleRequest 50 100 20000000000) (by decide) (by decide)).mpr ?_
  rw [hlost]
  exact Nat.zero_le _

/-- A request with payments of exactly 2^32 units and nothing else. -/
def overflowingRequest : ProofRequest :=
  { sampleRequest 0 0 0 with vcPoints := 0, avgCounterparties := 0, txVolume30d := 429496729600000000 }

/-- The contract gives 80 points for the payments, the prover none. -/
theorem proverScore_overflows :
    I128.min ≤ overflowingRequest.txVolume30d ∧ overflowingRequest.txVolume30d ≤ I128.max ∧
      overflowingRequest.onTimeCount.toNat ≤ overflowingRequest.totalCount.toNat ∧
      overflowingRequest.weights.Valid ∧ overflowingRequest.pureScore = 432 ∧
      (scoreWitness overflowingRequest).map (·.score.toNat) = some 300 := by
  decide

end StellarDidCredit.Circuit
