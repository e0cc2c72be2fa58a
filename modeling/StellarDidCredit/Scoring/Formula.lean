import StellarDidCredit.Soroban.Host

/-!
# The scoring formula

`compute_score_pure` as the credit oracle and the circuit crate define it, stage by stage.
All divisions truncate. The unsigned 128-bit intermediate values never come near their
width for 32-bit inputs, so only the two saturating products mention it.
-/

namespace StellarDidCredit

def minScore : ℕ := 300

def maxScore : ℕ := 850

/-- Whole units of 100,000,000 in a signed amount, no less than zero and at most `cap`. -/
def cappedUnits (amount : ℤ) (cap : ℕ) : ℕ := min (max (amount.tdiv 100000000) 0).toNat cap

/-- `on_time_count * 10_000 / total_count / 100`, zero without any repayment. -/
def repaymentRateScore (onTimeCount totalCount : ℕ) : ℕ :=
  if totalCount = 0 then 0 else U128.saturatingMul onTimeCount 10000 / totalCount / 100

/-- The weighted average of the three component scores, rounded down. -/
def compositeScore (vcScore txScore repayScore vcWeight txWeight repaymentWeight : ℕ) : ℕ :=
  (vcScore * vcWeight + txScore * txWeight + repayScore * repaymentWeight) / 100

/-- A composite on the 300..850 scale. -/
def scaleScore (composite : ℕ) : ℕ :=
  max (min (minScore + U128.saturatingMul composite 550 / 100) maxScore) minScore

/-- The pure scoring function. -/
def computeScorePure (vcPoints : ℕ) (volume30d : ℤ) (avgCounterparties onTimeCount totalCount : ℕ)
    (totalRepaid : ℤ) (vcWeight txWeight repaymentWeight : ℕ) : ℕ :=
  let vcScore := min vcPoints 100
  let volumeScore := cappedUnits volume30d 80
  let counterpartyBonus := min (avgCounterparties / 5) 20
  let txScore := min (volumeScore + counterpartyBonus) 100
  let rateScore := repaymentRateScore onTimeCount totalCount
  let repaymentVolumeScore := cappedUnits totalRepaid 100
  let repayScore := (rateScore + repaymentVolumeScore) / 2
  scaleScore (compositeScore vcScore txScore repayScore vcWeight txWeight repaymentWeight)

/-- The documented strong profile. -/
example : computeScorePure 100 8000000000 0 20 20 10000000000 40 30 30 = 817 := by decide

/-- Basis-point denominator: 10,000 is a multiplier of one. -/
def bpsDenominator : ℕ := 10000

def secondsPerDay : ℕ := 86400

/-- Recency multiplier, in basis points, of a credential anchored at the given time. -/
def recencyMultiplierBps (anchoredAt now decayBpsPerDay minRecencyBps : ℕ) : ℕ :=
  let ageDays := (now - anchoredAt) / secondsPerDay
  let decay := U64.saturatingMul ageDays decayBpsPerDay
  let multiplier := bpsDenominator - decay
  let floor := min minRecencyBps bpsDenominator
  max multiplier floor

/-- Scale points by a basis-point multiplier, rounding down. -/
def applyRecencyBps (points recencyBps : ℕ) : ℕ := U64.saturatingMul points recencyBps / bpsDenominator

end StellarDidCredit
