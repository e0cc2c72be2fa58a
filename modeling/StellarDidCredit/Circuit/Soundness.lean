import StellarDidCredit.Circuit.OpenScores
import StellarDidCredit.Circuit.Commitment
import StellarDidCredit.Scoring.Arithmetic

/-!
# What a proof says about the score

The composite and the score itself may be one too small, like the quotients below them, unless
the weighted sum is in the last 72 numbers of an odd hundred. So the circuit admits the formula's
score only for those raw inputs whose open weighted sums are all there, in the hundred of the
formula's own weighted sum.
-/

namespace StellarDidCredit.Circuit

variable {sha256 : List UInt8 → List UInt8} {gadget : BitGadget} {raw : RawInputs} {a : Assignment}

/-- The scoring formula on the raw inputs. -/
def RawInputs.pureScore (raw : RawInputs) : ℕ :=
  computeScorePure raw.vcPoints.toNat raw.txVolume30d.toNat raw.avgCounterparties.toNat
    raw.onTimeCount.toNat raw.totalCount.toNat raw.totalRepaid.toNat raw.vcWeight.toNat raw.txWeight.toNat
    raw.repaymentWeight.toNat

/-- The formula never exceeds the largest score. -/
theorem RawInputs.pureScore_le (raw : RawInputs) : raw.pureScore ≤ 850 :=
  max_le (min_le_right _ _) (by decide)

/-! ## From the weighted sum to the score -/

/-- A weighted sum leads to one score only exactly when its composite is odd and its remainder
is at least 28. -/
theorem scaled_pinned_iff {sum score : ℕ} (hsum : sum < 12828) (hscore : score ≤ 850) :
    (∀ composite value, Scaled sum composite value → value = score) ↔
      sum / 100 % 2 = 1 ∧ 28 ≤ sum % 100 ∧ 300 + sum / 100 * 550 / 100 = score := by
  unfold Scaled Divided
  constructor
  · intro hall
    rcases Nat.lt_or_ge sum 12800 with hsmall | hlarge
    · have htrue := hall (sum / 100) (300 + sum / 100 * 550 / 100) (by omega)
      refine ⟨?_, ?_, htrue⟩
      · by_contra heven
        -- an even composite leaves the score room to be one less
        have hless := hall (sum / 100) (299 + sum / 100 * 550 / 100) (by omega)
        omega
      · by_contra hrem
        -- a small remainder leaves the composite room to be one less
        rcases Nat.eq_zero_or_pos (sum / 100) with hzero | hpos
        · have hless := hall (sum / 100) (299 + sum / 100 * 550 / 100) (by omega)
          omega
        · have hless := hall (sum / 100 - 1) (300 + (sum / 100 - 1) * 550 / 100) (by omega)
          omega
    · have hout := hall 127 998 (by omega)
      omega
  · rintro ⟨hodd, hrem, rfl⟩ composite value hscaled
    have hcomposite : composite = sum / 100 := by omega
    subst hcomposite
    omega

/-- The composite has seven bits. -/
theorem Scaled.sum_lt {sum composite score : ℕ} (h : Scaled sum composite score) : sum < 12828 := by
  unfold Scaled Divided at h
  omega

/-! ## Dishonest assignments -/

/-- The intermediate values that a prover chooses. -/
structure Intermediate where
  vcScore : BitVec 32
  qVolume : BitVec 32
  volumeScore : BitVec 32
  qCp : BitVec 32
  counterpartyBonus : BitVec 32
  txScore : BitVec 32
  repaymentRateScore : BitVec 32
  qRv : BitVec 32
  repaymentVolumeScore : BitVec 32
  repayScore : BitVec 32
  composite : BitVec 32
  score : BitVec 32

/-- The assignment with other raw inputs and intermediate values. -/
def Assignment.choose (a : Assignment) (raw : RawInputs) (i : Intermediate) : Assignment :=
  { a with
    toRawInputs := raw
    vcScore := i.vcScore
    qVolume := i.qVolume
    volumeScore := i.volumeScore
    qCp := i.qCp
    counterpartyBonus := i.counterpartyBonus
    txScore := i.txScore
    repaymentRateScore := i.repaymentRateScore
    qRv := i.qRv
    repaymentVolumeScore := i.repaymentVolumeScore
    repayScore := i.repayScore
    composite := i.composite
    score := i.score }

/-- A number below `2 ^ 32` is held by a 32-bit variable. -/
theorem exists_toNat_eq {n : ℕ} (h : n < 2 ^ 32) : ∃ value : BitVec 32, value.toNat = n :=
  ⟨.ofNat 32 n, by rw [BitVec.toNat_ofNat, Nat.mod_eq_of_lt h]⟩

/-- A capped value is below `2 ^ 32`. -/
theorem Capped.lt {bits cap source value : ℕ} (h : Capped bits cap source value) (hbits : bits ≤ 32) :
    value < 2 ^ 32 :=
  h.1.trans_le (Nat.pow_le_pow_right (by decide) hbits)

/-- Every open choice is taken by an assignment that meets the constraints on numbers, whatever
its other variables are. -/
theorem exists_choice {vcScore txScore repayScore composite score : ℕ} (hvc : OpenVcScore raw vcScore)
    (htx : OpenTxScore raw txScore) (hrepay : OpenRepayScore raw repayScore)
    (hscaled : Scaled (weightedSum raw vcScore txScore repayScore) composite score) (a : Assignment) :
    ∃ i : Intermediate, NumberConstraints (a.choose raw i) ∧ i.vcScore.toNat = vcScore ∧
      i.score.toNat = score := by
  obtain ⟨qVolume, volumeScore, qCp, bonus, hqVolume, hvolume, hqCp, hbonus, hsum⟩ := htx
  obtain ⟨rate, qRv, repaid, hrate, hqRv, hrepaid, hdouble⟩ := hrepay
  have hrepayLt : repayScore < 2 ^ 32 := by
    have hrateLt : rate < 2 ^ 7 := hrate.1
    have hrepaidLt : repaid < 2 ^ 7 := hrepaid.1
    omega
  obtain ⟨vcScore, rfl⟩ := exists_toNat_eq (Capped.lt hvc (by decide))
  obtain ⟨qVolume, rfl⟩ := exists_toNat_eq hqVolume.1
  obtain ⟨volumeScore, rfl⟩ := exists_toNat_eq (hvolume.lt (by decide))
  obtain ⟨qCp, rfl⟩ := exists_toNat_eq hqCp.1
  obtain ⟨bonus, rfl⟩ := exists_toNat_eq (hbonus.lt (by decide))
  obtain ⟨txScore, rfl⟩ := exists_toNat_eq (hsum.lt (by decide))
  obtain ⟨rate, rfl⟩ := exists_toNat_eq (hrate.1.trans (by decide))
  obtain ⟨qRv, rfl⟩ := exists_toNat_eq hqRv.1
  obtain ⟨repaid, rfl⟩ := exists_toNat_eq (hrepaid.lt (by decide))
  obtain ⟨repayScore, rfl⟩ := exists_toNat_eq hrepayLt
  obtain ⟨composite, rfl⟩ := exists_toNat_eq (hscaled.1.2.trans (by decide))
  obtain ⟨score, rfl⟩ := exists_toNat_eq (hscaled.2.2.trans (by decide))
  refine ⟨⟨vcScore, qVolume, volumeScore, qCp, bonus, txScore, rate, qRv, repaid, repayScore, composite, score⟩,
    ?_, rfl, rfl⟩
  exact
    { vcScore := hvc
      volume := ⟨(openQuotient_iff (by decide) (by decide)).mp hqVolume, hvolume⟩
      counterparty := ⟨(openQuotient_iff (by decide) (by decide)).mp hqCp, hbonus⟩
      txScore := hsum
      repaymentRate := hrate
      repaymentVolume := ⟨(openQuotient_iff (by decide) (by decide)).mp hqRv, hrepaid⟩
      repayScore := hdouble
      scaled := hscaled }

/-- The setup's assignment, for this threshold: every witness is zero. -/
def blank (threshold : BitVec 32) : Assignment :=
  assign none
    { threshold, subject := 0, creditOracleId := 0, scoreCommitment := 0, snapshotLedger := 0
      domainSeparator := 0 }

/-- The constraints on numbers do not look at the commitment. -/
theorem NumberConstraints.openTo {a : Assignment} (h : NumberConstraints a) (commitment : Fr) :
    NumberConstraints (a.openTo sha256 commitment) :=
  { h with }

/-- Every open choice is taken by an assignment that satisfies the circuit, for any commitment
and any threshold below the score. -/
theorem exists_assignment {vcScore txScore repayScore composite score : ℕ} (hvc : OpenVcScore raw vcScore)
    (htx : OpenTxScore raw txScore) (hrepay : OpenRepayScore raw repayScore)
    (hscaled : Scaled (weightedSum raw vcScore txScore repayScore) composite score) {threshold : BitVec 32}
    (hthreshold : threshold.toNat < score) (commitment : Fr) : ∃ a : Assignment,
      GenerateConstraints sha256 gadget a ∧ a.toRawInputs = raw ∧ a.threshold = (threshold.toNat : Fr) ∧
      a.commitment = commitment ∧ a.score.toNat = score := by
  obtain ⟨i, hnumbers, -, rfl⟩ := exists_choice hvc htx hrepay hscaled (blank threshold)
  have habove : ThresholdConstraint gadget (((blank threshold).choose raw i).openTo sha256 commitment) :=
    enforceU32GtFp_iff.mpr hthreshold
  have hsatisfied :
      GenerateConstraints sha256 gadget (((blank threshold).choose raw i).openTo sha256 commitment) :=
    generateConstraints_iff.mpr ⟨habove, hnumbers.openTo commitment, commitmentConstraint_openTo commitment⟩
  exact ⟨_, hsatisfied, rfl, rfl, rfl, rfl⟩

/-! ## The raw inputs that pin the score -/

/-- No weighted sum below the limit is left. -/
def RawInputs.Unprovable (raw : RawInputs) : Prop :=
  raw.txScores = ∅ ∨ raw.repayScores = ∅ ∨ sumLimit ≤ raw.lowestSum

/-- There is no weighted sum below the limit, or all of them are in the last 72 numbers of the formula's
hundred, which is odd and below the hundredth. -/
def PinsScore (raw : RawInputs) : Prop :=
  raw.Unprovable ∨
    (raw.formulaSum / 100 % 2 = 1 ∧ raw.formulaSum / 100 < 100 ∧
      100 * (raw.formulaSum / 100) + 28 ≤ raw.lowestSum ∧ raw.highestSum ≤ 100 * (raw.formulaSum / 100) + 99)

instance (raw : RawInputs) : Decidable raw.Unprovable := inferInstanceAs (Decidable (_ ∨ _ ∨ _))

instance (raw : RawInputs) : Decidable (PinsScore raw) := inferInstanceAs (Decidable (_ ∨ (_ ∧ _ ∧ _ ∧ _)))

/-- The formula scales its weighted sum. -/
theorem RawInputs.pureScore_eq (raw : RawInputs) : raw.pureScore = scaleScore (raw.formulaSum / 100) := by
  rw [formulaSum, weightedSum]
  rfl

/-- An odd composite of at most seven bits has the formula's score exactly when it is the formula's composite
and that is below 100. -/
theorem scaled_eq_iff {composite pure : ℕ} (hodd : composite % 2 = 1) (hsmall : composite ≤ 128) :
    300 + composite * 550 / 100 = scaleScore pure ↔ composite = pure ∧ pure < 100 := by
  unfold scaleScore U128.saturatingMul minScore maxScore U128.max
  omega

/-- A choice of the three terms is a choice of the three component scores. -/
theorem forall_terms_iff {p : ℕ → Prop} :
    (∀ c : Fin 3 → ℕ, (∀ i, c i ∈ raw.terms i) → p (∑ i, c i)) ↔
      ∀ vcScore txScore repayScore, OpenVcScore raw vcScore → OpenTxScore raw txScore →
        OpenRepayScore raw repayScore → p (weightedSum raw vcScore txScore repayScore) := by
  simp only [← RawInputs.mem_vcScores, ← RawInputs.mem_txScores, ← RawInputs.mem_repayScores]
  constructor
  · intro hall vcScore txScore repayScore hvcScore htxScore hrepayScore
    have hterms := hall ![vcScore * raw.vcWeight.toNat, txScore * raw.txWeight.toNat,
      repayScore * raw.repaymentWeight.toNat] fun i => by
        fin_cases i
        · exact Finset.mem_image_of_mem _ hvcScore
        · exact Finset.mem_image_of_mem _ htxScore
        · exact Finset.mem_image_of_mem _ hrepayScore
    rw [Fin.sum_univ_three] at hterms
    exact hterms
  · intro hall c hc
    obtain ⟨vcScore, hvcScore, hfirst⟩ := Finset.mem_image.mp (hc 0)
    obtain ⟨txScore, htxScore, hsecond⟩ := Finset.mem_image.mp (hc 1)
    obtain ⟨repayScore, hrepayScore, hthird⟩ := Finset.mem_image.mp (hc 2)
    rw [Fin.sum_univ_three, ← hfirst, ← hsecond, ← hthird]
    exact hall vcScore txScore repayScore hvcScore htxScore hrepayScore

/-- The credential score may always be the cap. -/
theorem RawInputs.terms_nonempty (htx : raw.txScores.Nonempty) (hrepay : raw.repayScores.Nonempty) (i : Fin 3) :
    (raw.terms i).Nonempty := by
  fin_cases i
  · exact ⟨_, Finset.mem_image_of_mem _ (RawInputs.mem_vcScores.mpr ⟨by decide, Or.inr rfl⟩)⟩
  · exact htx.image _
  · exact hrepay.image _

/-- The open weighted sums below the limit are in an interval exactly when the lowest and the highest of them
are. -/
theorem sums_pinned_iff {lo hi : ℕ} (hroom : hi + 3 * (hi - lo) < sumLimit) :
    (∀ vcScore txScore repayScore, OpenVcScore raw vcScore → OpenTxScore raw txScore →
      OpenRepayScore raw repayScore → weightedSum raw vcScore txScore repayScore < sumLimit →
      lo ≤ weightedSum raw vcScore txScore repayScore ∧ weightedSum raw vcScore txScore repayScore ≤ hi) ↔
      raw.Unprovable ∨ lo ≤ raw.lowestSum ∧ raw.highestSum ≤ hi := by
  rw [← forall_terms_iff (p := fun sum => sum < sumLimit → lo ≤ sum ∧ sum ≤ hi)]
  rcases Finset.eq_empty_or_nonempty raw.txScores with htx | htx
  · exact iff_of_true (fun c hc => by simpa [RawInputs.terms, htx] using hc 1) (Or.inl (Or.inl htx))
  rcases Finset.eq_empty_or_nonempty raw.repayScores with hrepay | hrepay
  · exact iff_of_true (fun c hc => by simpa [RawInputs.terms, hrepay] using hc 2)
      (Or.inl (Or.inr (Or.inl hrepay)))
  rw [RawInputs.Unprovable, or_iff_right htx.ne_empty, or_iff_right hrepay.ne_empty]
  exact sums_within_iff (RawInputs.terms_nonempty htx hrepay) hroom

/-- There is no open weighted sum below the limit exactly when none is left. -/
theorem unprovable_iff : raw.Unprovable ↔
    ∀ vcScore txScore repayScore, OpenVcScore raw vcScore → OpenTxScore raw txScore →
      OpenRepayScore raw repayScore → sumLimit ≤ weightedSum raw vcScore txScore repayScore := by
  rw [← forall_terms_iff (p := fun sum => sumLimit ≤ sum)]
  rcases Finset.eq_empty_or_nonempty raw.txScores with htx | htx
  · exact iff_of_true (Or.inl htx) (fun c hc => by simpa [RawInputs.terms, htx] using hc 1)
  rcases Finset.eq_empty_or_nonempty raw.repayScores with hrepay | hrepay
  · exact iff_of_true (Or.inr (Or.inl hrepay)) (fun c hc => by simpa [RawInputs.terms, hrepay] using hc 2)
  rw [RawInputs.Unprovable, or_iff_right htx.ne_empty, or_iff_right hrepay.ne_empty]
  exact (limit_le_sums_iff (RawInputs.terms_nonempty htx hrepay)).symm

/-- Raw inputs pin the score exactly when every open weighted sum leads to it alone. -/
theorem pinsScore_iff : PinsScore raw ↔
    ∀ vcScore txScore repayScore, OpenVcScore raw vcScore → OpenTxScore raw txScore →
      OpenRepayScore raw repayScore → weightedSum raw vcScore txScore repayScore < sumLimit →
      ∀ composite value, Scaled (weightedSum raw vcScore txScore repayScore) composite value →
        value = raw.pureScore := by
  have hpinned {sum : ℕ} (hlimit : sum < sumLimit) :
      (∀ composite value, Scaled sum composite value → value = raw.pureScore) ↔
        (raw.formulaSum / 100 % 2 = 1 ∧ raw.formulaSum / 100 < 100) ∧
          100 * (raw.formulaSum / 100) + 28 ≤ sum ∧ sum ≤ 100 * (raw.formulaSum / 100) + 99 := by
    rw [scaled_pinned_iff hlimit raw.pureScore_le, raw.pureScore_eq]
    unfold sumLimit at hlimit
    constructor
    · rintro ⟨hodd, hrem, hscore⟩
      obtain ⟨hsame, hbelow⟩ := (scaled_eq_iff hodd (by omega)).mp hscore
      omega
    · rintro ⟨⟨hodd, hbelow⟩, hlow, hhigh⟩
      have hsame : sum / 100 = raw.formulaSum / 100 := by omega
      exact ⟨by omega, by omega, (scaled_eq_iff (by omega) (by omega)).mpr ⟨hsame, hbelow⟩⟩
  by_cases hgood : raw.formulaSum / 100 % 2 = 1 ∧ raw.formulaSum / 100 < 100
  · -- in an odd hundred of the formula the sums are to be in its last 72 numbers
    have hroom : 100 * (raw.formulaSum / 100) + 99 +
        3 * (100 * (raw.formulaSum / 100) + 99 - (100 * (raw.formulaSum / 100) + 28)) < sumLimit := by
      unfold sumLimit
      omega
    rw [PinsScore, ← and_assoc, and_iff_right hgood, ← sums_pinned_iff hroom]
    refine forall₃_congr fun vcScore txScore repayScore => ?_
    refine imp_congr_right fun _ => imp_congr_right fun _ => imp_congr_right fun _ =>
      imp_congr_right fun hlimit => ?_
    rw [hpinned hlimit, and_iff_right hgood]
  · -- otherwise no sum leads to the formula's score
    rw [PinsScore, ← and_assoc, or_iff_left fun h => hgood h.1, unprovable_iff]
    refine forall₃_congr fun vcScore txScore repayScore => ?_
    refine imp_congr_right fun _ => imp_congr_right fun _ => imp_congr_right fun _ => ?_
    rw [← not_lt]
    exact imp_congr_right fun hlimit => iff_of_false not_false fun hall => hgood ((hpinned hlimit).mp hall).1

/-! ## Main result -/

/-- For given raw inputs the circuit admits the formula's score only, and thresholds below it
only, exactly when they pin the score. -/
theorem circuit_soundness (sha256 : List UInt8 → List UInt8) (gadget : BitGadget) (raw : RawInputs) :
    (∀ a : Assignment, a.toRawInputs = raw → GenerateConstraints sha256 gadget a →
      a.score.toNat = raw.pureScore ∧
        ∀ threshold : BitVec 32, a.threshold = (threshold.toNat : Fr) → threshold.toNat < raw.pureScore) ↔
    PinsScore raw := by
  rw [pinsScore_iff]
  constructor
  · intro hsound vcScore txScore repayScore hvc htx hrepay hsum composite score hscaled
    have hpositive : (0 : BitVec 32).toNat < score := by
      have hscore : composite * 550 + 30000 - score * 100 < 2 ^ 7 := hscaled.2.1.2
      change 0 < score
      omega
    obtain ⟨a, hsatisfied, hraw, -, -, hclaimed⟩ := exists_assignment hvc htx hrepay hscaled hpositive 0
    rw [← hclaimed]
    exact (hsound a hraw hsatisfied).1
  · rintro hpins a rfl hsatisfied
    obtain ⟨hthreshold, hnumbers, -⟩ := generateConstraints_iff.mp hsatisfied
    have hscore : a.score.toNat = a.pureScore :=
      hpins _ _ _ hnumbers.openVcScore hnumbers.openTxScore hnumbers.openRepayScore hnumbers.scaled.sum_lt _ _
        hnumbers.scaled
    refine ⟨hscore, fun threshold hbound => ?_⟩
    rw [ThresholdConstraint, hbound, enforceU32GtFp_iff, hscore] at hthreshold
    exact hthreshold

/-- A subject without credentials, payments and repayments. -/
def sampleRaw : RawInputs where
  vcPoints := 0
  txVolume30d := 0
  avgCounterparties := 0
  onTimeCount := 0
  totalCount := 1
  totalRepaid := 0
  vcWeight := 40
  txWeight := 30
  repaymentWeight := 30

/-- With nearly all weight on a credential score at its cap, and a repayment score from 60 to 80. -/
example : PinsScore { sampleRaw with
    vcPoints := 100, onTimeCount := 60, totalCount := 100, totalRepaid := 6050000000
    vcWeight := 99, txWeight := 0, repaymentWeight := 1 } := by decide +kernel

/-- The circuit leaves that subject a credential score of 100. -/
theorem sampleRaw_open : OpenVcScore sampleRaw 100 ∧ OpenTxScore sampleRaw 0 ∧ OpenRepayScore sampleRaw 0 := by
  refine ⟨⟨by decide, Or.inr rfl⟩, ⟨0, 0, 0, 0, ?_⟩, ⟨0, 0, 0, ?_⟩⟩
  · exact ⟨⟨by decide, Or.inl (by decide)⟩, ⟨by decide, Or.inl rfl⟩, ⟨by decide, Or.inl (by decide)⟩,
      ⟨by decide, Or.inl rfl⟩, ⟨by decide, Or.inl rfl⟩⟩
  · exact ⟨⟨by decide, by decide, by decide⟩, ⟨by decide, Or.inl (by decide)⟩, ⟨by decide, Or.inl rfl⟩, rfl⟩

/-- It leads to a score of 520. -/
theorem sampleRaw_scaled : Scaled (weightedSum sampleRaw 100 0 0) 40 520 :=
  ⟨⟨⟨by decide, by decide⟩, by decide⟩, ⟨by decide, by decide⟩, by decide⟩

/-- With the credential score at its cap, that subject proves a score above 519; the formula
gives 300. -/
theorem not_circuit_soundness_cap : ∃ (raw : RawInputs) (threshold : BitVec 32),
    raw.pureScore ≤ threshold.toNat ∧ ∀ sha256 gadget, ∃ a : Assignment, a.toRawInputs = raw ∧
      a.threshold = (threshold.toNat : Fr) ∧ GenerateConstraints sha256 gadget a ∧
      a.score.toNat ≠ raw.pureScore := by
  have hpure : sampleRaw.pureScore = 300 := by decide
  refine ⟨sampleRaw, 519, by rw [hpure]; decide, fun sha256 gadget => ?_⟩
  obtain ⟨hvc, htx, hrepay⟩ := sampleRaw_open
  obtain ⟨a, hsatisfied, hraw, hthreshold, -, hscore⟩ :=
    exists_assignment hvc htx hrepay sampleRaw_scaled (show (519 : BitVec 32).toNat < 520 by decide) 0
  exact ⟨a, hraw, hthreshold, hsatisfied, by rw [hscore, hpure]; decide⟩

end StellarDidCredit.Circuit
