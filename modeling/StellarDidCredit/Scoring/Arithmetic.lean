import StellarDidCredit.Scoring.Bounds

/-!
# The arithmetic of the scoring formula

`compute_score_pure` once more, with every operation at its width: an operation that overflows
or divides by zero gives nothing. For arguments of their widths no operation does, so the
function is the one over unbounded numbers. Each stage of that one is monotone in what enters
it, and so is the score.
-/

namespace StellarDidCredit

/-! ## One operation after the other -/

/-- `compute_score_pure` in machine arithmetic. -/
def computeScoreChecked (vcPoints : ℕ) (volume30d : ℤ) (avgCounterparties onTimeCount totalCount : ℕ)
    (totalRepaid : ℤ) (vcWeight txWeight repaymentWeight : ℕ) : Option ℕ := do
  let vcScore := min vcPoints 100
  let volumeUnits ← I128.checkedDiv volume30d 100000000
  let volumeScore := min (U128.ofSigned (max volumeUnits 0)) 80
  let counterpartyUnits ← U128.checkedDiv avgCounterparties 5
  let counterpartyBonus := min counterpartyUnits 20
  let txSum ← U128.checkedAdd volumeScore counterpartyBonus
  let txScore := min txSum 100
  -- without any repayment the division gives nothing and the rate is zero
  let repaymentRateScore :=
    ((U128.checkedDiv (U128.saturatingMul onTimeCount 10000) totalCount).map (· / 100)).getD 0
  let repaidUnits ← I128.checkedDiv totalRepaid 100000000
  let repaymentVolumeScore := min (U128.ofSigned (max repaidUnits 0)) 100
  let repaySum ← U128.checkedAdd repaymentRateScore repaymentVolumeScore
  let repayScore ← U128.checkedDiv repaySum 2
  let vcTerm ← U128.checkedMul vcScore vcWeight
  let txTerm ← U128.checkedMul txScore txWeight
  let repayTerm ← U128.checkedMul repayScore repaymentWeight
  let vcAndTx ← U128.checkedAdd vcTerm txTerm
  let weighted ← U128.checkedAdd vcAndTx repayTerm
  let composite ← U128.checkedDiv weighted 100
  let scaled ← U128.checkedDiv (U128.saturatingMul composite 550) 100
  let score ← U128.checkedAdd minScore scaled
  some (U32.truncate (max (min score maxScore) minScore))

/-- A signed amount in its range. -/
def FitsI128 (amount : ℤ) : Prop := I128.min ≤ amount ∧ amount ≤ I128.max

/-- Whole units of an amount in its range are read without loss. -/
theorem ofSigned_units {amount : ℤ} (hfits : FitsI128 amount) (cap : ℕ) :
    min (U128.ofSigned (max (amount.tdiv 100000000) 0)) cap = cappedUnits amount cap := by
  have hsize := Int.natAbs_tdiv_le_natAbs amount 100000000
  have hexact : U128.ofSigned (max (amount.tdiv 100000000) 0) = (max (amount.tdiv 100000000) 0).toNat := by
    obtain ⟨hlower, hupper⟩ := hfits
    unfold I128.min I128.max at *
    unfold U128.ofSigned
    omega
  rw [hexact, cappedUnits]

/-- The rate is a division where there is a repayment. -/
theorem checkedDiv_rate (onTimeCount totalCount : ℕ) :
    ((U128.checkedDiv (U128.saturatingMul onTimeCount 10000) totalCount).map (· / 100)).getD 0 =
      repaymentRateScore onTimeCount totalCount := by
  unfold U128.checkedDiv repaymentRateScore
  by_cases hnone : totalCount = 0 <;> simp [hnone]

/-- The rate of a 32-bit count fits in 64 bits. -/
theorem repaymentRateScore_le_width {onTimeCount : ℕ} (hfits : onTimeCount ≤ U32.max) (totalCount : ℕ) :
    repaymentRateScore onTimeCount totalCount ≤ U32.max * 100 := by
  unfold repaymentRateScore
  split
  · exact Nat.zero_le _
  · have hproduct : U128.saturatingMul onTimeCount 10000 ≤ U32.max * 10000 :=
      (min_le_left _ _).trans (Nat.mul_le_mul_right _ hfits)
    have hquotient := Nat.div_le_self (U128.saturatingMul onTimeCount 10000) totalCount
    omega

/-- The scale keeps its bounds. -/
theorem scaleScore_bounds (composite : ℕ) : minScore ≤ scaleScore composite ∧ scaleScore composite ≤ maxScore := by
  unfold scaleScore minScore maxScore
  omega

/-- A score fits in 32 bits. -/
theorem truncate_scaleScore (composite : ℕ) : U32.truncate (scaleScore composite) = scaleScore composite := by
  have hbound := (scaleScore_bounds composite).2
  unfold U32.truncate maxScore at *
  omega

/-- For arguments of their widths every operation succeeds. -/
theorem computeScoreChecked_eq {volume30d totalRepaid : ℤ} {onTimeCount vcWeight txWeight repaymentWeight : ℕ}
    (hvolume : FitsI128 volume30d) (hrepaid : FitsI128 totalRepaid) (honTime : onTimeCount ≤ U32.max)
    (hvc : vcWeight ≤ U32.max) (htx : txWeight ≤ U32.max) (hrepay : repaymentWeight ≤ U32.max)
    (vcPoints avgCounterparties totalCount : ℕ) :
    computeScoreChecked vcPoints volume30d avgCounterparties onTimeCount totalCount totalRepaid
        vcWeight txWeight repaymentWeight =
      some (computeScorePure vcPoints volume30d avgCounterparties onTimeCount totalCount totalRepaid
        vcWeight txWeight repaymentWeight) := by
  have hvolumeSum : cappedUnits volume30d 80 + min (avgCounterparties / 5) 20 ≤ U128.max :=
    (Nat.add_le_add (cappedUnits_le _ _) (min_le_right _ _)).trans (by decide)
  have hrepaySum : repaymentRateScore onTimeCount totalCount + cappedUnits totalRepaid 100 ≤
      U32.max * 100 + 100 := Nat.add_le_add (repaymentRateScore_le_width honTime _) (cappedUnits_le _ _)
  have hrepayScore : repayScoreOf onTimeCount totalCount totalRepaid ≤ (U32.max * 100 + 100) / 2 :=
    Nat.div_le_div_right hrepaySum
  have hvcTerm : min vcPoints 100 * vcWeight ≤ 100 * U32.max := Nat.mul_le_mul (min_le_right _ _) hvc
  have htxTerm : txScoreOf volume30d avgCounterparties * txWeight ≤ 100 * U32.max :=
    Nat.mul_le_mul (txScoreOf_le _ _) htx
  have hrepayTerm : repayScoreOf onTimeCount totalCount totalRepaid * repaymentWeight ≤
      (U32.max * 100 + 100) / 2 * U32.max := Nat.mul_le_mul hrepayScore hrepay
  have hvcAndTx := Nat.add_le_add hvcTerm htxTerm
  have hweighted := Nat.add_le_add hvcAndTx hrepayTerm
  -- the saturating product is at most the largest value, and a hundredth of that leaves room
  have hscore (composite : ℕ) : minScore + U128.saturatingMul composite 550 / 100 ≤ U128.max :=
    (Nat.add_le_add_left (Nat.div_le_div_right (min_le_right _ _)) _).trans (by decide)
  unfold txScoreOf repayScoreOf at *
  unfold computeScoreChecked
  simp only [I128.checkedDiv_of_pos hvolume (show (0 : ℤ) < 100000000 by decide),
    I128.checkedDiv_of_pos hrepaid (show (0 : ℤ) < 100000000 by decide), ofSigned_units hvolume,
    ofSigned_units hrepaid, checkedDiv_rate, Option.bind_eq_bind, Option.bind_some,
    U128.checkedDiv_of_ne_zero _ (show 5 ≠ 0 by decide),
    U128.checkedDiv_of_ne_zero _ (show 2 ≠ 0 by decide), U128.checkedDiv_of_ne_zero _ (show 100 ≠ 0 by decide),
    U128.checkedAdd_of_le hvolumeSum le_rfl, U128.checkedAdd_of_le hrepaySum (by decide),
    U128.checkedMul_of_le hvcTerm (by decide), U128.checkedMul_of_le htxTerm (by decide),
    U128.checkedMul_of_le hrepayTerm (by decide), U128.checkedAdd_of_le hvcAndTx (by decide),
    U128.checkedAdd_of_le hweighted (by decide), U128.checkedAdd_of_le (hscore _) le_rfl]
  exact congrArg some (truncate_scaleScore _)

/-! ## Monotonicity -/

/-- More of an amount has more whole units. -/
theorem cappedUnits_mono {a b : ℤ} (h : a ≤ b) (cap : ℕ) : cappedUnits a cap ≤ cappedUnits b cap := by
  have hunits : a.tdiv 100000000 ≤ b.tdiv 100000000 := Int.tdiv_le_tdiv (by decide) h
  have hpositive : max (a.tdiv 100000000) 0 ≤ max (b.tdiv 100000000) 0 := max_le_max_right 0 hunits
  exact min_le_min_right cap (Int.toNat_le_toNat hpositive)

/-- More repayments on time are a better rate. -/
theorem repaymentRateScore_mono {a b : ℕ} (h : a ≤ b) (totalCount : ℕ) :
    repaymentRateScore a totalCount ≤ repaymentRateScore b totalCount := by
  unfold repaymentRateScore
  split
  · exact le_rfl
  · have hproduct : U128.saturatingMul a 10000 ≤ U128.saturatingMul b 10000 :=
      min_le_min_right _ (Nat.mul_le_mul_right _ h)
    exact Nat.div_le_div_right (Nat.div_le_div_right hproduct)

/-- More repayments with as many on time are a worse rate. -/
theorem repaymentRateScore_anti {a b : ℕ} (hpositive : 1 ≤ a) (h : a ≤ b) (onTimeCount : ℕ) :
    repaymentRateScore onTimeCount b ≤ repaymentRateScore onTimeCount a := by
  have ha : a ≠ 0 := Nat.ne_of_gt hpositive
  have hb : b ≠ 0 := Nat.ne_of_gt (hpositive.trans h)
  rw [repaymentRateScore, repaymentRateScore, if_neg ha, if_neg hb]
  exact Nat.div_le_div_right (Nat.div_le_div_left h hpositive)

/-- A higher composite is a higher score. -/
theorem scaleScore_mono {a b : ℕ} (h : a ≤ b) : scaleScore a ≤ scaleScore b := by
  have hproduct : U128.saturatingMul a 550 ≤ U128.saturatingMul b 550 :=
    min_le_min_right _ (Nat.mul_le_mul_right _ h)
  have hscaled : minScore + U128.saturatingMul a 550 / 100 ≤ minScore + U128.saturatingMul b 550 / 100 :=
    Nat.add_le_add_left (Nat.div_le_div_right hproduct) _
  exact max_le_max_right _ (min_le_min_right _ hscaled)

section Monotone

variable {vcPoints vcPoints' avgCounterparties avgCounterparties' onTimeCount onTimeCount' totalCount
  totalCount' : ℕ} {volume30d volume30d' totalRepaid totalRepaid' : ℤ}

/-- The score is monotone in the points, the volume, the counterparties, the repayment rate and
the repaid total. -/
theorem computeScorePure_mono (hpoints : vcPoints ≤ vcPoints') (hvolume : volume30d ≤ volume30d')
    (hcounterparties : avgCounterparties ≤ avgCounterparties')
    (hrate : repaymentRateScore onTimeCount totalCount ≤ repaymentRateScore onTimeCount' totalCount')
    (hrepaid : totalRepaid ≤ totalRepaid') (vcWeight txWeight repaymentWeight : ℕ) :
    computeScorePure vcPoints volume30d avgCounterparties onTimeCount totalCount totalRepaid
        vcWeight txWeight repaymentWeight ≤
      computeScorePure vcPoints' volume30d' avgCounterparties' onTimeCount' totalCount' totalRepaid'
        vcWeight txWeight repaymentWeight := by
  have hvcScore : min vcPoints 100 ≤ min vcPoints' 100 := min_le_min_right _ hpoints
  have hbonus : min (avgCounterparties / 5) 20 ≤ min (avgCounterparties' / 5) 20 :=
    min_le_min_right _ (Nat.div_le_div_right hcounterparties)
  have htxScore : txScoreOf volume30d avgCounterparties ≤ txScoreOf volume30d' avgCounterparties' :=
    min_le_min_right _ (Nat.add_le_add (cappedUnits_mono hvolume 80) hbonus)
  have hrepayScore : repayScoreOf onTimeCount totalCount totalRepaid ≤
      repayScoreOf onTimeCount' totalCount' totalRepaid' :=
    Nat.div_le_div_right (Nat.add_le_add hrate (cappedUnits_mono hrepaid 100))
  have hweighted := Nat.add_le_add (Nat.add_le_add (Nat.mul_le_mul_right vcWeight hvcScore)
    (Nat.mul_le_mul_right txWeight htxScore)) (Nat.mul_le_mul_right repaymentWeight hrepayScore)
  exact scaleScore_mono (Nat.div_le_div_right hweighted)

end Monotone

/-! ## Arguments of their widths -/

/-- The arguments of `compute_score_pure`. -/
structure ScoreArguments where
  vcPoints : BitVec 32
  volume30d : BitVec 128
  avgCounterparties : BitVec 32
  onTimeCount : BitVec 32
  totalCount : BitVec 32
  totalRepaid : BitVec 128
  vcWeight : BitVec 32
  txWeight : BitVec 32
  repaymentWeight : BitVec 32

namespace ScoreArguments

/-- The function in machine arithmetic. -/
def checked (a : ScoreArguments) : Option ℕ :=
  computeScoreChecked a.vcPoints.toNat a.volume30d.toInt a.avgCounterparties.toNat a.onTimeCount.toNat
    a.totalCount.toNat a.totalRepaid.toInt a.vcWeight.toNat a.txWeight.toNat a.repaymentWeight.toNat

/-- The function over unbounded numbers. -/
def score (a : ScoreArguments) : ℕ :=
  computeScorePure a.vcPoints.toNat a.volume30d.toInt a.avgCounterparties.toNat a.onTimeCount.toNat
    a.totalCount.toNat a.totalRepaid.toInt a.vcWeight.toNat a.txWeight.toNat a.repaymentWeight.toNat

/-- No argument makes an operation overflow or divide by zero. -/
theorem checked_eq (a : ScoreArguments) : a.checked = some a.score := by
  have hwidth (x : BitVec 32) : x.toNat ≤ U32.max := Nat.le_pred_of_lt x.isLt
  have hsigned (x : BitVec 128) : FitsI128 x.toInt := by
    have hlower := x.le_two_mul_toInt
    have hupper := x.two_mul_toInt_lt
    unfold FitsI128 I128.min I128.max
    omega
  exact computeScoreChecked_eq (hsigned _) (hsigned _) (hwidth _) (hwidth _) (hwidth _) (hwidth _) _ _ _

/-- For all arguments no operation overflows or divides by zero, the score is between 300 and 850,
and each argument moves it in one direction only. -/
theorem score_total_bounded_monotone (a : ScoreArguments) :
    a.checked = some a.score ∧ (300 ≤ a.score ∧ a.score ≤ 850) ∧
    (∀ vcPoints, a.vcPoints.toNat ≤ vcPoints.toNat → a.score ≤ { a with vcPoints }.score) ∧
    (∀ volume30d, a.volume30d.toInt ≤ volume30d.toInt → a.score ≤ { a with volume30d }.score) ∧
    (∀ avgCounterparties, a.avgCounterparties.toNat ≤ avgCounterparties.toNat →
      a.score ≤ { a with avgCounterparties }.score) ∧
    (∀ onTimeCount, a.onTimeCount.toNat ≤ onTimeCount.toNat → a.score ≤ { a with onTimeCount }.score) ∧
    (∀ totalRepaid, a.totalRepaid.toInt ≤ totalRepaid.toInt → a.score ≤ { a with totalRepaid }.score) ∧
    (∀ totalCount, 1 ≤ a.totalCount.toNat → a.totalCount.toNat ≤ totalCount.toNat →
      { a with totalCount }.score ≤ a.score) := by
  refine ⟨a.checked_eq, scaleScore_bounds _, ?_, ?_, ?_, ?_, ?_, ?_⟩
  · intro vcPoints h
    exact computeScorePure_mono h le_rfl le_rfl le_rfl le_rfl _ _ _
  · intro volume30d h
    exact computeScorePure_mono le_rfl h le_rfl le_rfl le_rfl _ _ _
  · intro avgCounterparties h
    exact computeScorePure_mono le_rfl le_rfl h le_rfl le_rfl _ _ _
  · intro onTimeCount h
    exact computeScorePure_mono le_rfl le_rfl le_rfl (repaymentRateScore_mono h _) le_rfl _ _ _
  · intro totalRepaid h
    exact computeScorePure_mono le_rfl le_rfl le_rfl le_rfl h _ _ _
  · intro totalCount hpositive h
    exact computeScorePure_mono le_rfl le_rfl le_rfl (repaymentRateScore_anti hpositive h _) le_rfl _ _ _

end ScoreArguments

end StellarDidCredit
