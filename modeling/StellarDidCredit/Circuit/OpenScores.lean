import StellarDidCredit.Circuit.Numbers
import StellarDidCredit.Lib.Spread
import StellarDidCredit.Scoring.Bounds
import Mathlib.Data.Finset.NAry
import Mathlib.Data.Finset.Prod

/-!
# The component scores that the circuit leaves open

A capped value may be the cap even when the source is smaller, and a quotient may be one too small. So may the
repayment rate, which is free without any repayment. The component scores that remain are computed here from
the raw inputs, and so is the range of their weighted sum.
-/

namespace StellarDidCredit.Circuit

variable {raw : RawInputs} {a : Assignment}

/-! ## What the constraints leave open -/

/-- The 32-bit quotients that a range check of the remainder admits: the true one, and one
less when the remainder leaves room for another divisor. -/
def OpenQuotient (bits divisor n q : ℕ) : Prop :=
  q < 2 ^ 32 ∧ (q = n / divisor ∨ q + 1 = n / divisor ∧ n % divisor + divisor < 2 ^ bits)

/-- The credential scores. -/
def OpenVcScore (raw : RawInputs) (vcScore : ℕ) : Prop := Capped 7 100 raw.vcPoints.toNat vcScore

/-- The transaction scores. -/
def OpenTxScore (raw : RawInputs) (txScore : ℕ) : Prop :=
  ∃ qVolume volumeScore qCp bonus, OpenQuotient 27 100000000 raw.txVolume30d.toNat qVolume ∧
    Capped 7 80 qVolume volumeScore ∧ OpenQuotient 3 5 raw.avgCounterparties.toNat qCp ∧
    Capped 5 20 qCp bonus ∧ Capped 7 100 (volumeScore + bonus) txScore

/-- The repayment scores. -/
def OpenRepayScore (raw : RawInputs) (repayScore : ℕ) : Prop :=
  ∃ rate qRv volumeScore, Rated raw.onTimeCount.toNat raw.totalCount.toNat rate ∧
    OpenQuotient 27 100000000 raw.totalRepaid.toNat qRv ∧ Capped 7 100 qRv volumeScore ∧
    repayScore * 2 = rate + volumeScore

/-- The open quotients are those that the range check of the remainder admits. -/
theorem openQuotient_iff {bits divisor n : ℕ} {q : BitVec 32} (hdivisor : divisor ≤ 2 ^ bits)
    (hbits : 2 ^ bits ≤ 2 * divisor) :
    OpenQuotient bits divisor n q.toNat ↔ Divided bits divisor n q.toNat := by
  rw [OpenQuotient, divided_iff hdivisor hbits, and_iff_right q.isLt]

section Satisfied

variable (h : NumberConstraints a)
include h

/-- A credential score that satisfies the constraints is open. -/
theorem NumberConstraints.openVcScore : OpenVcScore a.toRawInputs a.vcScore.toNat := h.vcScore

/-- So is a transaction score. -/
theorem NumberConstraints.openTxScore : OpenTxScore a.toRawInputs a.txScore.toNat :=
  ⟨_, _, _, _, (openQuotient_iff (by decide) (by decide)).mpr h.volume.1, h.volume.2,
    (openQuotient_iff (by decide) (by decide)).mpr h.counterparty.1, h.counterparty.2, h.txScore⟩

/-- So is a repayment score. -/
theorem NumberConstraints.openRepayScore : OpenRepayScore a.toRawInputs a.repayScore.toNat :=
  ⟨_, _, _, h.repaymentRate, (openQuotient_iff (by decide) (by decide)).mpr h.repaymentVolume.1,
    h.repaymentVolume.2, h.repayScore⟩

end Satisfied

/-! ## The open scores of given raw inputs -/

/-- A quotient, and one less if that is left open. -/
def orOneLess (q : ℕ) (loose : Prop) [Decidable loose] : Finset ℕ :=
  if 0 < q ∧ loose then {q, q - 1} else {q}

/-- The number itself, or the one below it where that is allowed. -/
theorem mem_orOneLess {q n : ℕ} {loose : Prop} [Decidable loose] :
    n ∈ orOneLess q loose ↔ n = q ∨ n + 1 = q ∧ loose := by
  unfold orOneLess
  split
  case isTrue hloose =>
    simp only [Finset.mem_insert, Finset.mem_singleton, hloose.2, and_true]
    omega
  case isFalse hstrict =>
    rw [Finset.mem_singleton]
    refine (or_iff_left ?_).symm
    rintro ⟨rfl, hloose⟩
    exact hstrict ⟨Nat.succ_pos n, hloose⟩

def quotients (bits divisor n : ℕ) : Finset ℕ :=
  (orOneLess (n / divisor) (n % divisor + divisor < 2 ^ bits)).filter (· < 2 ^ 32)

/-- The set of the open quotients. -/
theorem mem_quotients {bits divisor n q : ℕ} : q ∈ quotients bits divisor n ↔ OpenQuotient bits divisor n q := by
  rw [quotients, Finset.mem_filter, mem_orOneLess, OpenQuotient, and_comm]

/-- Each of the sources, or the cap. -/
def cappedScores (bits cap : ℕ) (sources : Finset ℕ) : Finset ℕ :=
  sources.biUnion fun source => ({source, cap} : Finset ℕ).filter (· < 2 ^ bits)

/-- The set of what the sources are capped to. -/
theorem mem_cappedScores {bits cap value : ℕ} {sources : Finset ℕ} :
    value ∈ cappedScores bits cap sources ↔ ∃ source ∈ sources, Capped bits cap source value := by
  simp only [cappedScores, Finset.mem_biUnion, Finset.mem_filter, Finset.mem_insert, Finset.mem_singleton, Capped,
    and_comm]

/-- A weighted sum from here on has no composite of seven bits. -/
def sumLimit : ℕ := 12828

namespace RawInputs

def vcScores (raw : RawInputs) : Finset ℕ := cappedScores 7 100 {raw.vcPoints.toNat}

def txScores (raw : RawInputs) : Finset ℕ :=
  cappedScores 7 100 (Finset.image₂ (· + ·)
    (cappedScores 7 80 (quotients 27 100000000 raw.txVolume30d.toNat))
    (cappedScores 5 20 (quotients 3 5 raw.avgCounterparties.toNat)))

/-- The rate may be one too small when the division leaves no remainder. Without any repayment it is free, but
then none can have been on time. -/
def rates (raw : RawInputs) : Finset ℕ :=
  if raw.totalCount.toNat = 0 then
    if raw.onTimeCount.toNat = 0 then Finset.range (2 ^ 7) else ∅
  else
    (orOneLess (raw.onTimeCount.toNat * 100 / raw.totalCount.toNat)
      (raw.onTimeCount.toNat * 100 % raw.totalCount.toNat = 0)).filter (· < 2 ^ 7)

/-- Half of each even sum of a rate and a volume score. -/
def repayScores (raw : RawInputs) : Finset ℕ :=
  ((raw.rates ×ˢ cappedScores 7 100 (quotients 27 100000000 raw.totalRepaid.toNat)).filter
    fun parts => (parts.1 + parts.2) % 2 = 0).image fun parts => (parts.1 + parts.2) / 2

/-- The set of the open credential scores. -/
theorem mem_vcScores {vcScore : ℕ} : vcScore ∈ raw.vcScores ↔ OpenVcScore raw vcScore := by
  simp only [vcScores, mem_cappedScores, Finset.mem_singleton, exists_eq_left, OpenVcScore]

/-- The set of the open transaction scores. -/
theorem mem_txScores {txScore : ℕ} : txScore ∈ raw.txScores ↔ OpenTxScore raw txScore := by
  simp only [txScores, mem_cappedScores, Finset.mem_image₂, mem_quotients, OpenTxScore]
  constructor
  · rintro ⟨_, ⟨volumeScore, ⟨qVolume, hqVolume, hvolume⟩, bonus, ⟨qCp, hqCp, hbonus⟩, rfl⟩, htx⟩
    exact ⟨qVolume, volumeScore, qCp, bonus, hqVolume, hvolume, hqCp, hbonus, htx⟩
  · rintro ⟨qVolume, volumeScore, qCp, bonus, hqVolume, hvolume, hqCp, hbonus, htx⟩
    exact ⟨_, ⟨volumeScore, ⟨qVolume, hqVolume, hvolume⟩, bonus, ⟨qCp, hqCp, hbonus⟩, rfl⟩, htx⟩

/-- The set of the open repayment rates. -/
theorem mem_rates {rate : ℕ} : rate ∈ raw.rates ↔ Rated raw.onTimeCount.toNat raw.totalCount.toNat rate := by
  unfold rates Rated
  split
  case isTrue hnone =>
    rw [hnone]
    split
    case isTrue hzero => simp [hzero]
    case isFalse hpos => simp [hpos]
  case isFalse hsome =>
    have hpositive : 0 < raw.totalCount.toNat := Nat.pos_of_ne_zero hsome
    rw [Finset.mem_filter, mem_orOneLess, and_comm]
    refine and_congr_right fun _ => ?_
    rw [← Nat.le_div_iff_mul_le hpositive]
    have hdivision := Nat.div_add_mod' (raw.onTimeCount.toNat * 100) raw.totalCount.toNat
    have hrem := Nat.mod_lt (raw.onTimeCount.toNat * 100) hpositive
    constructor
    · rintro (rfl | ⟨hnext, hexact⟩)
      · exact ⟨le_rfl, by rw [Nat.add_mul]; omega⟩
      · exact ⟨by omega, by rw [hnext]; omega⟩
    · rintro ⟨hle, hnext⟩
      rcases Nat.eq_or_lt_of_le hle with hsame | hless
      · exact Or.inl hsame
      · have hmul := Nat.mul_le_mul_right raw.totalCount.toNat (Nat.succ_le_of_lt hless)
        rw [Nat.succ_eq_add_one] at hmul
        refine Or.inr ⟨?_, by omega⟩
        refine Nat.eq_of_mul_eq_mul_right hpositive ?_
        omega

/-- The set of the open repayment scores. -/
theorem mem_repayScores {repayScore : ℕ} : repayScore ∈ raw.repayScores ↔ OpenRepayScore raw repayScore := by
  simp only [repayScores, Finset.mem_image, Finset.mem_filter, Finset.mem_product, mem_rates, mem_cappedScores,
    mem_quotients, OpenRepayScore, Prod.exists]
  constructor
  · rintro ⟨rate, volumeScore, ⟨⟨hrate, qRv, hqRv, hvolume⟩, heven⟩, rfl⟩
    exact ⟨rate, qRv, volumeScore, hrate, hqRv, hvolume, by omega⟩
  · rintro ⟨rate, qRv, volumeScore, hrate, hqRv, hvolume, hdouble⟩
    exact ⟨rate, volumeScore, ⟨⟨hrate, qRv, hqRv, hvolume⟩, by omega⟩, by omega⟩

/-! ## The range of the weighted sum -/

/-- The terms of the weighted sum. -/
def terms (raw : RawInputs) : Fin 3 → Finset ℕ :=
  ![raw.vcScores.image (· * raw.vcWeight.toNat), raw.txScores.image (· * raw.txWeight.toNat),
    raw.repayScores.image (· * raw.repaymentWeight.toNat)]

def lowestSum (raw : RawInputs) : ℕ := leastSum raw.terms

def highestSum (raw : RawInputs) : ℕ := greatestSum sumLimit raw.terms

/-- The weighted sum of the scoring formula. -/
def formulaSum (raw : RawInputs) : ℕ :=
  weightedSum raw (min raw.vcPoints.toNat 100) (txScoreOf raw.txVolume30d.toNat raw.avgCounterparties.toNat)
    (repayScoreOf raw.onTimeCount.toNat raw.totalCount.toNat raw.totalRepaid.toNat)

end RawInputs

end StellarDidCredit.Circuit
