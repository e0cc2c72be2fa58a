import StellarDidCredit.Lib.Average
import StellarDidCredit.Scoring.Arithmetic
import Mathlib.Data.Fintype.Defs

/-!
# The score as a weighted average

The composite is the weighted sum of the three component scores, a hundredth of it. With weights
that make up 100 it is between the least and the greatest of them, and it does not fall when weight
moves to a component with the greatest score. The division and the scale keep the order.
-/

namespace StellarDidCredit

/-- What a score is made of. -/
inductive Component where
  | vc
  | tx
  | repayment
  deriving DecidableEq, Repr

instance : Fintype Component where
  elems := {.vc, .tx, .repayment}
  complete c := by cases c <;> decide

/-- The weight of a component. -/
def ScoringWeights.weight (w : ScoringWeights) : Component → ℕ
  | .vc => w.vcWeight
  | .tx => w.txWeight
  | .repayment => w.repaymentWeight

/-- The score when all components have the same score. -/
def uniformScore (value : ℕ) (w : ScoringWeights) : ℕ :=
  scaleScore (compositeScore value value value w.vcWeight w.txWeight w.repaymentWeight)

namespace ScoreArguments

/-- The weights among the arguments. -/
def weights (a : ScoreArguments) : ScoringWeights := ⟨a.vcWeight.toNat, a.txWeight.toNat, a.repaymentWeight.toNat⟩

/-- The component scores. -/
def component (a : ScoreArguments) : Component → ℕ
  | .vc => min a.vcPoints.toNat 100
  | .tx => txScoreOf a.volume30d.toInt a.avgCounterparties.toNat
  | .repayment => repayScoreOf a.onTimeCount.toNat a.totalCount.toNat a.totalRepaid.toInt

/-- The least component score. -/
def leastComponent (a : ScoreArguments) : ℕ :=
  min (min (a.component .vc) (a.component .tx)) (a.component .repayment)

/-- The greatest component score. -/
def greatestComponent (a : ScoreArguments) : ℕ :=
  max (max (a.component .vc) (a.component .tx)) (a.component .repayment)

/-- The same arguments with other weights. -/
def reweighted (a : ScoreArguments) (vcWeight txWeight repaymentWeight : BitVec 32) : ScoreArguments :=
  { a with vcWeight, txWeight, repaymentWeight }

/-! ## The composite -/

variable {a : ScoreArguments}

/-- The weights of the components add up to 100. -/
theorem sum_weight {w : ScoringWeights} (hvalid : w.Valid) : ∑ c, w.weight c = 100 := by
  obtain ⟨-, -, -, hsum⟩ := hvalid
  have huniv : (Finset.univ : Finset Component) = {.vc, .tx, .repayment} := rfl
  rw [huniv, Finset.sum_insert (by decide), Finset.sum_insert (by decide), Finset.sum_singleton, ← Nat.add_assoc]
  exact hsum

/-- The score scales a hundredth of the weighted sum. -/
theorem score_eq (a : ScoreArguments) : a.score = scaleScore ((∑ c, a.component c * a.weights.weight c) / 100) := by
  have huniv : (Finset.univ : Finset Component) = {.vc, .tx, .repayment} := rfl
  rw [huniv, Finset.sum_insert (by decide), Finset.sum_insert (by decide), Finset.sum_singleton, ← Nat.add_assoc]
  rfl

/-- Components that are all the same are their own average. -/
theorem uniformScore_eq {w : ScoringWeights} (hvalid : w.Valid) (value : ℕ) :
    uniformScore value w = scaleScore value := by
  obtain ⟨-, -, -, hsum⟩ := hvalid
  rw [uniformScore, compositeScore, ← Nat.mul_add, ← Nat.mul_add, hsum, Nat.mul_div_cancel _ (by decide)]

/-- No component is below the least one. -/
theorem leastComponent_le (a : ScoreArguments) (c : Component) : a.leastComponent ≤ a.component c := by
  unfold leastComponent
  cases c <;> omega

/-- No component is above the greatest one. -/
theorem le_greatestComponent (a : ScoreArguments) (c : Component) : a.component c ≤ a.greatestComponent := by
  unfold greatestComponent
  cases c <;> omega

/-- The score is no lower than that of the least component. -/
theorem uniformScore_least_le (hvalid : a.weights.Valid) : uniformScore a.leastComponent a.weights ≤ a.score := by
  have hsum : a.leastComponent * ∑ c, a.weights.weight c ≤ ∑ c, a.component c * a.weights.weight c :=
    mul_sum_le_sum_mul (fun _ _ => Nat.zero_le _) fun c _ => a.leastComponent_le c
  rw [sum_weight hvalid] at hsum
  rw [uniformScore_eq hvalid, score_eq]
  exact scaleScore_mono ((Nat.le_div_iff_mul_le (by decide)).mpr hsum)

/-- It is no higher than that of the greatest. -/
theorem le_uniformScore_greatest (hvalid : a.weights.Valid) :
    a.score ≤ uniformScore a.greatestComponent a.weights := by
  have hsum : ∑ c, a.component c * a.weights.weight c ≤ a.greatestComponent * ∑ c, a.weights.weight c :=
    sum_mul_le_mul_sum (fun _ _ => Nat.zero_le _) fun c _ => a.le_greatestComponent c
  rw [sum_weight hvalid] at hsum
  rw [uniformScore_eq hvalid, score_eq]
  exact scaleScore_mono (Nat.div_le_of_le_mul (hsum.trans_eq (Nat.mul_comm _ _)))

/-- Weight that moves to a component with the greatest score does not lower the score. -/
theorem score_le_of_shift {b : ScoreArguments} (hsame : b.component = a.component) (hvalid : a.weights.Valid)
    (hvalid' : b.weights.Valid) {c : Component} (hmax : ∀ d, a.component d ≤ a.component c)
    (hless : ∀ d, d ≠ c → b.weights.weight d ≤ a.weights.weight d) : a.score ≤ b.score := by
  have hsum : ∑ d, a.component d * a.weights.weight d ≤ ∑ d, a.component d * b.weights.weight d := by
    refine sum_mul_le_of_shift ?_ (fun d _ => hmax d) fun d _ => hless d
    rw [sum_weight hvalid, sum_weight hvalid']
  rw [score_eq, score_eq, hsame]
  exact scaleScore_mono (Nat.div_le_div_right hsum)

/-! ## Main result -/

/-- With valid weights the score is between the scores of its least and its greatest component, and
it does not fall when the weights change to others that are valid and take from all components but
one with the greatest score. -/
theorem score_is_average (a : ScoreArguments) (hvalid : a.weights.Valid) :
    (a.checked = some a.score ∧ uniformScore a.leastComponent a.weights ≤ a.score ∧
      a.score ≤ uniformScore a.greatestComponent a.weights) ∧
    ∀ vcWeight txWeight repaymentWeight, (a.reweighted vcWeight txWeight repaymentWeight).weights.Valid →
      ∀ c, (∀ d, a.component d ≤ a.component c) →
      (∀ d, d ≠ c → (a.reweighted vcWeight txWeight repaymentWeight).weights.weight d ≤ a.weights.weight d) →
      (a.reweighted vcWeight txWeight repaymentWeight).checked =
          some (a.reweighted vcWeight txWeight repaymentWeight).score ∧
        a.score ≤ (a.reweighted vcWeight txWeight repaymentWeight).score := by
  refine ⟨⟨a.checked_eq, uniformScore_least_le hvalid, le_uniformScore_greatest hvalid⟩, ?_⟩
  intro vcWeight txWeight repaymentWeight hvalid' c hmax hless
  exact ⟨checked_eq _, score_le_of_shift rfl hvalid hvalid' hmax hless⟩

/-- The arguments of a subject with 50 credential points and no more than that. -/
def samplePoints : ScoreArguments where
  vcPoints := 50
  volume30d := 0
  avgCounterparties := 0
  onTimeCount := 0
  totalCount := 0
  totalRepaid := 0
  vcWeight := 40
  txWeight := 30
  repaymentWeight := 30

/-- Ten points of weight that move to the credentials raise the score from 410 to 437. -/
theorem score_is_average_shifted :
    samplePoints.score = 410 ∧ (samplePoints.reweighted 50 25 25).score = 437 ∧
      samplePoints.score ≤ (samplePoints.reweighted 50 25 25).score := by
  refine ⟨by decide, by decide, ?_⟩
  exact ((score_is_average samplePoints (by decide)).2 50 25 25 (by decide) .vc (by decide) (by decide)).2

end ScoreArguments

end StellarDidCredit
