import StellarDidCredit.Scoring.Types
import StellarDidCredit.Scoring.Formula

/-!
# Bounds of the scoring formula

The component scores are at most 100, so valid weights average them to at most 100, and up to
there the scale from 300 to 850 is strictly increasing. Lost credential points lower the score
exactly when, multiplied by their weight, they exceed what the division by 100 drops.
-/

namespace StellarDidCredit

/-! ## Component scores -/

/-- The transaction component. -/
def txScoreOf (volume30d : ℤ) (avgCounterparties : ℕ) : ℕ :=
  min (cappedUnits volume30d 80 + min (avgCounterparties / 5) 20) 100

/-- The repayment component. -/
def repayScoreOf (onTimeCount totalCount : ℕ) (totalRepaid : ℤ) : ℕ :=
  (repaymentRateScore onTimeCount totalCount + cappedUnits totalRepaid 100) / 2

/-- The sum that the composite score is a hundredth of. -/
def weightedSum (vcPoints txScore repayScore : ℕ) (weights : ScoringWeights) : ℕ :=
  min vcPoints 100 * weights.vcWeight + txScore * weights.txWeight + repayScore * weights.repaymentWeight

/-- The formula in terms of its components. -/
theorem computeScorePure_eq (vcPoints : ℕ) (volume30d : ℤ) (avgCounterparties onTimeCount totalCount : ℕ)
    (totalRepaid : ℤ) (weights : ScoringWeights) :
    computeScorePure vcPoints volume30d avgCounterparties onTimeCount totalCount totalRepaid
        weights.vcWeight weights.txWeight weights.repaymentWeight =
      scaleScore (weightedSum vcPoints (txScoreOf volume30d avgCounterparties)
        (repayScoreOf onTimeCount totalCount totalRepaid) weights / 100) :=
  rfl

/-- A cap holds. -/
theorem cappedUnits_le (amount : ℤ) (cap : ℕ) : cappedUnits amount cap ≤ cap := min_le_right _ _

/-- A transaction score is at most 100. -/
theorem txScoreOf_le (volume30d : ℤ) (avgCounterparties : ℕ) : txScoreOf volume30d avgCounterparties ≤ 100 :=
  min_le_right _ _

/-- The rate is at most 100 percent when no more repayments are on time than there are. -/
theorem repaymentRateScore_le {onTimeCount totalCount : ℕ} (h : onTimeCount ≤ totalCount) :
    repaymentRateScore onTimeCount totalCount ≤ 100 := by
  unfold repaymentRateScore
  split
  · exact Nat.zero_le _
  · have hproduct : U128.saturatingMul onTimeCount 10000 ≤ totalCount * 10000 :=
      (min_le_left _ _).trans (Nat.mul_le_mul_right _ h)
    have hrate : U128.saturatingMul onTimeCount 10000 / totalCount ≤ 10000 :=
      Nat.div_le_of_le_mul hproduct
    omega

/-- So is a repayment score, when no more is repaid in time than is repaid. -/
theorem repayScoreOf_le {onTimeCount totalCount : ℕ} (h : onTimeCount ≤ totalCount) (totalRepaid : ℤ) :
    repayScoreOf onTimeCount totalCount totalRepaid ≤ 100 := by
  have hrate := repaymentRateScore_le h
  have hvolume := cappedUnits_le totalRepaid 100
  unfold repayScoreOf
  omega

/-- Valid weights average components of at most 100 to at most 100. -/
theorem weightedSum_le {weights : ScoringWeights} (hvalid : weights.Valid) (vcPoints : ℕ)
    {txScore repayScore : ℕ} (htx : txScore ≤ 100) (hrepay : repayScore ≤ 100) :
    weightedSum vcPoints txScore repayScore weights ≤ 10000 := by
  obtain ⟨-, -, -, hsum⟩ := hvalid
  have hvcTerm : min vcPoints 100 * weights.vcWeight ≤ 100 * weights.vcWeight :=
    Nat.mul_le_mul_right _ (min_le_right _ _)
  have htxTerm : txScore * weights.txWeight ≤ 100 * weights.txWeight := Nat.mul_le_mul_right _ htx
  have hrepayTerm : repayScore * weights.repaymentWeight ≤ 100 * weights.repaymentWeight :=
    Nat.mul_le_mul_right _ hrepay
  unfold weightedSum
  omega

/-! ## The scale -/

/-- Up to a composite of 100 no bound of the scale is reached. -/
theorem scaleScore_eq {composite : ℕ} (h : composite ≤ 100) :
    scaleScore composite = 300 + composite * 550 / 100 := by
  unfold scaleScore U128.saturatingMul U128.max minScore maxScore
  omega

/-- Up to a composite of 100 the scale is strictly increasing. -/
theorem scaleScore_le_iff {a b : ℕ} (ha : a ≤ 100) (hb : b ≤ 100) : scaleScore a ≤ scaleScore b ↔ a ≤ b := by
  rw [scaleScore_eq ha, scaleScore_eq hb]
  omega

/-! ## Lost points -/

/-- The weighted sum drops by the lost points times their weight. -/
theorem weightedSum_of_lost {before after : ℕ} (h : min after 100 ≤ min before 100) (txScore repayScore : ℕ)
    (weights : ScoringWeights) :
    weightedSum before txScore repayScore weights = weightedSum after txScore repayScore weights +
      (min before 100 - min after 100) * weights.vcWeight := by
  have hterm : min before 100 * weights.vcWeight =
      min after 100 * weights.vcWeight + (min before 100 - min after 100) * weights.vcWeight := by
    rw [← Nat.add_mul, Nat.add_sub_cancel' h]
  unfold weightedSum
  omega

/-- A composite is no lower after points changed exactly when the division by 100 absorbs what
was lost. -/
theorem composite_le_iff (before after txScore repayScore : ℕ) (weights : ScoringWeights) :
    weightedSum before txScore repayScore weights / 100 ≤ weightedSum after txScore repayScore weights / 100 ↔
      (min before 100 - min after 100) * weights.vcWeight ≤
        weightedSum before txScore repayScore weights % 100 := by
  rcases le_total (min before 100) (min after 100) with hgained | hlost
  · have hterm : min before 100 * weights.vcWeight ≤ min after 100 * weights.vcWeight :=
      Nat.mul_le_mul_right _ hgained
    have hsum : weightedSum before txScore repayScore weights ≤
        weightedSum after txScore repayScore weights := by
      unfold weightedSum
      omega
    rw [Nat.sub_eq_zero_of_le hgained, Nat.zero_mul]
    exact iff_of_true (Nat.div_le_div_right hsum) (Nat.zero_le _)
  · have hsum := weightedSum_of_lost hlost txScore repayScore weights
    omega

end StellarDidCredit
