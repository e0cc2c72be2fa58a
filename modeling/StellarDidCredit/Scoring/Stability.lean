import StellarDidCredit.Lib.Within
import StellarDidCredit.Scoring.Averaging

/-!
# The stability of the score

A unit step of the points, of an amount or of the counterparties moves its component score by at
most one, hence the weighted sum by at most the weight of that component. That is less than 100,
so the composite moves by at most one, and the score by at most 6.
-/

namespace StellarDidCredit

/-! ## The stages of the formula -/

/-- The whole units of an amount, without the sign of the division. -/
theorem units_eq (amount : ℤ) : (max (amount.tdiv 100000000) 0).toNat = amount.toNat / 100000000 := by
  rcases Int.le_total 0 amount with hpositive | hnegative
  · rw [Int.tdiv_eq_ediv_of_nonneg hpositive]
    omega
  · have hquotient : amount.tdiv 100000000 ≤ 0 :=
      (Int.tdiv_le_tdiv (by decide) hnegative).trans_eq (Int.zero_tdiv _)
    rw [max_eq_right hquotient, Int.toNat_of_nonpos hnegative]
    decide

/-- A unit step of an amount moves its whole units by at most one. -/
theorem cappedUnits_within {amount amount' : ℤ} (h : |amount - amount'| = 1) (cap : ℕ) :
    Within 1 (cappedUnits amount cap) (cappedUnits amount' cap) := by
  obtain ⟨hlower, hupper⟩ := abs_le.mp h.le
  have hamounts : Within 1 amount.toNat amount'.toNat := by
    unfold Within
    omega
  unfold cappedUnits
  rw [units_eq, units_eq]
  exact (hamounts.div (by decide)).min_right cap

/-- The scale stretches a step of the composite to at most 6. -/
theorem scaleScore_within {a b : ℕ} (h : Within 1 a b) : Within 6 (scaleScore a) (scaleScore b) := by
  have hproduct : Within 550 (U128.saturatingMul a 550) (U128.saturatingMul b 550) :=
    (h.mul_right 550).min_right U128.max
  have hscaled : Within 6 (U128.saturatingMul a 550 / 100) (U128.saturatingMul b 550 / 100) :=
    hproduct.div (by decide)
  exact ((hscaled.add_left minScore).min_right maxScore).max_right minScore

namespace ScoreArguments

variable {a b : ScoreArguments}

/-- A step of one component moves the score by at most 6. -/
theorem score_within (hvalid : a.weights.Valid) (hweights : b.weights = a.weights) (c : Component)
    (hstep : Within 1 (a.component c) (b.component c)) (hsame : ∀ d, d ≠ c → a.component d = b.component d) :
    Within 6 a.score b.score := by
  have hweight : a.weights.weight c ≤ 80 := by
    obtain ⟨hvc, htx, hrepay, hsum⟩ := hvalid
    unfold minComponentWeight at *
    cases c <;> simp only [ScoringWeights.weight] <;> omega
  have hterm : Within (1 * a.weights.weight c) (a.component c * a.weights.weight c)
      (b.component c * a.weights.weight c) := hstep.mul_right _
  have hrest : ∑ d ∈ Finset.univ.erase c, a.component d * a.weights.weight d =
      ∑ d ∈ Finset.univ.erase c, b.component d * a.weights.weight d := by
    refine Finset.sum_congr rfl fun d hd => ?_
    rw [hsame d (Finset.ne_of_mem_erase hd)]
  have hsum : Within 80 (∑ d, a.component d * a.weights.weight d) (∑ d, b.component d * a.weights.weight d) := by
    rw [← Finset.add_sum_erase _ _ (Finset.mem_univ c), ← Finset.add_sum_erase _ _ (Finset.mem_univ c), hrest]
    exact (hterm.mono (by omega)).add_right _
  rw [score_eq, score_eq, hweights]
  exact scaleScore_within (hsum.div (by decide))

/-- The arguments that one unit step leads to, of one argument and within its type. -/
inductive UnitStep (a : ScoreArguments) : ScoreArguments → Prop
  | vcPoints (vcPoints : BitVec 32) (h : |(a.vcPoints.toNat : ℤ) - vcPoints.toNat| = 1) :
      UnitStep a { a with vcPoints }
  | volume30d (volume30d : BitVec 128) (h : |a.volume30d.toInt - volume30d.toInt| = 1) :
      UnitStep a { a with volume30d }
  | avgCounterparties (avgCounterparties : BitVec 32)
      (h : |(a.avgCounterparties.toNat : ℤ) - avgCounterparties.toNat| = 1) :
        UnitStep a { a with avgCounterparties }
  | totalRepaid (totalRepaid : BitVec 128) (h : |a.totalRepaid.toInt - totalRepaid.toInt| = 1) :
      UnitStep a { a with totalRepaid }

/-- A unit step moves one component score, by at most one. -/
theorem UnitStep.component (h : UnitStep a b) :
    ∃ c, Within 1 (a.component c) (b.component c) ∧ ∀ d, d ≠ c → a.component d = b.component d := by
  cases h with
  | vcPoints vcPoints h =>
    obtain ⟨hlower, hupper⟩ := abs_le.mp h.le
    have hpoints : Within 1 a.vcPoints.toNat vcPoints.toNat := by
      unfold Within
      omega
    refine ⟨.vc, hpoints.min_right 100, fun d hd => ?_⟩
    cases d with
    | vc => exact absurd rfl hd
    | tx => rfl
    | repayment => rfl
  | volume30d volume30d h =>
    refine ⟨.tx, ((cappedUnits_within h 80).add_right _).min_right 100, fun d hd => ?_⟩
    cases d with
    | vc => rfl
    | tx => exact absurd rfl hd
    | repayment => rfl
  | avgCounterparties avgCounterparties h =>
    obtain ⟨hlower, hupper⟩ := abs_le.mp h.le
    have hcounterparties : Within 1 a.avgCounterparties.toNat avgCounterparties.toNat := by
      unfold Within
      omega
    have hbonus : Within 1 (a.avgCounterparties.toNat / 5) (avgCounterparties.toNat / 5) :=
      hcounterparties.div (by decide)
    refine ⟨.tx, ((hbonus.min_right 20).add_left _).min_right 100, fun d hd => ?_⟩
    cases d with
    | vc => rfl
    | tx => exact absurd rfl hd
    | repayment => rfl
  | totalRepaid totalRepaid h =>
    refine ⟨.repayment, ((cappedUnits_within h 100).add_left _).div (by decide), fun d hd => ?_⟩
    cases d with
    | vc => rfl
    | tx => rfl
    | repayment => exact absurd rfl hd

/-- A unit step leaves the weights. -/
theorem UnitStep.weights (h : UnitStep a b) : b.weights = a.weights := by
  cases h <;> rfl

/-! ## Main result -/

/-- With valid weights a unit step of the points, of an amount or of the counterparties moves the score
by at most 6. -/
theorem score_stable (a b : ScoreArguments) (hvalid : a.weights.Valid) (hstep : UnitStep a b) :
    a.checked = some a.score ∧ b.checked = some b.score ∧ |(a.score : ℤ) - b.score| ≤ 6 := by
  obtain ⟨c, hwithin, hsame⟩ := hstep.component
  obtain ⟨hle, hge⟩ := score_within hvalid hstep.weights c hwithin hsame
  refine ⟨a.checked_eq, b.checked_eq, ?_⟩
  rw [abs_le]
  omega

/-- One credential point more, at a weight of 50, moves the score from 437 to 443. -/
theorem score_stable_point :
    (samplePoints.reweighted 50 25 25).score = 437 ∧
      { samplePoints.reweighted 50 25 25 with vcPoints := 52 }.score = 443 ∧
      |(({ samplePoints.reweighted 50 25 25 with vcPoints := 51 }.score : ℕ) : ℤ) -
        { samplePoints.reweighted 50 25 25 with vcPoints := 52 }.score| ≤ 6 := by
  refine ⟨by decide, by decide, ?_⟩
  exact (score_stable { samplePoints.reweighted 50 25 25 with vcPoints := 51 } _ (by decide)
    (.vcPoints 52 (by decide))).2.2

end ScoreArguments

end StellarDidCredit
