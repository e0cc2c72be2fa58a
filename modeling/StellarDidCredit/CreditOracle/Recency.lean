import StellarDidCredit.Scoring.Arithmetic
import StellarDidCredit.CreditOracle.Comparison

/-!
# Recency decay

The multiplier of a credential is at most one and does not fall when the credential is anchored
later, whatever the rate and the floor are. So a decayed record is never worth more than the record
itself, and it is worth as much when the rate is zero or the record is not a full day old.
-/

namespace StellarDidCredit

/-! ## The multiplier -/

/-- The multiplier is at most one. -/
theorem recencyMultiplierBps_le (anchoredAt now decayBpsPerDay minRecencyBps : ℕ) :
    recencyMultiplierBps anchoredAt now decayBpsPerDay minRecencyBps ≤ bpsDenominator :=
  max_le (Nat.sub_le _ _) (min_le_right _ _)

/-- A credential that is anchored later does not get a smaller multiplier. -/
theorem recencyMultiplierBps_mono {anchoredAt later : ℕ} (h : anchoredAt ≤ later)
    (now decayBpsPerDay minRecencyBps : ℕ) :
    recencyMultiplierBps anchoredAt now decayBpsPerDay minRecencyBps ≤
      recencyMultiplierBps later now decayBpsPerDay minRecencyBps := by
  have hage : (now - later) / secondsPerDay ≤ (now - anchoredAt) / secondsPerDay :=
    Nat.div_le_div_right (Nat.sub_le_sub_left h now)
  have hdecay : U64.saturatingMul ((now - later) / secondsPerDay) decayBpsPerDay ≤
      U64.saturatingMul ((now - anchoredAt) / secondsPerDay) decayBpsPerDay :=
    min_le_min_right _ (Nat.mul_le_mul_right _ hage)
  exact max_le_max_right _ (Nat.sub_le_sub_left hdecay bpsDenominator)

/-- Without any decay the multiplier is one. -/
theorem recencyMultiplierBps_eq {anchoredAt now decayBpsPerDay : ℕ}
    (h : (now - anchoredAt) / secondsPerDay * decayBpsPerDay = 0) (minRecencyBps : ℕ) :
    recencyMultiplierBps anchoredAt now decayBpsPerDay minRecencyBps = bpsDenominator := by
  have hdecay : U64.saturatingMul ((now - anchoredAt) / secondsPerDay) decayBpsPerDay = 0 := by
    rw [U64.saturatingMul, h, Nat.zero_min]
  rw [recencyMultiplierBps, hdecay, Nat.sub_zero]
  exact max_eq_left (min_le_right _ _)

/-- There is no decay at the rate zero, nor within the first day. -/
theorem decay_eq_zero {anchoredAt now decayBpsPerDay : ℕ}
    (h : decayBpsPerDay = 0 ∨ now - anchoredAt < secondsPerDay) :
    (now - anchoredAt) / secondsPerDay * decayBpsPerDay = 0 := by
  cases h with
  | inl hrate => rw [hrate, Nat.mul_zero]
  | inr hyoung => rw [Nat.div_eq_of_lt hyoung, Nat.zero_mul]

/-! ## Scaled points -/

/-- Points scaled by at most one are no more. -/
theorem applyRecencyBps_le (points : ℕ) {recencyBps : ℕ} (h : recencyBps ≤ bpsDenominator) :
    applyRecencyBps points recencyBps ≤ points := by
  refine Nat.div_le_of_le_mul ((min_le_left _ _).trans ?_)
  rw [Nat.mul_comm bpsDenominator]
  exact Nat.mul_le_mul_left points h

/-- Points scaled by more are no fewer. -/
theorem applyRecencyBps_mono (points : ℕ) {recencyBps recencyBps' : ℕ} (h : recencyBps ≤ recencyBps') :
    applyRecencyBps points recencyBps ≤ applyRecencyBps points recencyBps' :=
  Nat.div_le_div_right (min_le_min_right _ (Nat.mul_le_mul_left points h))

/-- Points of 32 bits scaled by one are the same. -/
theorem applyRecencyBps_one {points : ℕ} (h : points ≤ U32.max) :
    applyRecencyBps points bpsDenominator = points := by
  have hfits : points * bpsDenominator ≤ U64.max :=
    (Nat.mul_le_mul_right bpsDenominator h).trans (by decide)
  rw [applyRecencyBps, U64.saturatingMul, min_eq_left hfits]
  exact Nat.mul_div_cancel points (by decide)

/-! ## Credentials -/

/-- The same credential, anchored no earlier. -/
def IdentityVCRecord.NoEarlier (record record' : IdentityVCRecord) : Prop :=
  record.anchoredAt ≤ record'.anchoredAt ∧ record' = { record with anchoredAt := record'.anchoredAt }

/-- The credential is less than a day old, or is anchored in the future. -/
def IdentityVCRecord.Young (record : IdentityVCRecord) (now : ℕ) : Prop :=
  now < record.anchoredAt + secondsPerDay

/-- A young record is less than a day old. -/
theorem IdentityVCRecord.Young.age_lt {record : IdentityVCRecord} {now : ℕ} (h : record.Young now) :
    now - record.anchoredAt < secondsPerDay := by
  have hday : 0 < secondsPerDay := by decide
  unfold IdentityVCRecord.Young at h
  omega

end StellarDidCredit

namespace StellarDidCredit.CreditOracle

variable {env : Env} {s s' : State} {x : Address} {label : CredentialType}
  {record record' : IdentityVCRecord} {decayBpsPerDay minRecencyBps decayBpsPerDay' minRecencyBps' : ℕ}

/-! ## Configurations -/

/-- The contract with this recency decay. -/
def State.withDecay (s : State) (enabled : Bool) (decayBpsPerDay minRecencyBps : ℕ) : State :=
  { s with
    recencyDecayEnabled := some enabled
    decayBpsPerDay := some decayBpsPerDay
    minRecencyBps := some minRecencyBps }

/-- The decay is not among the other inputs of a computation. -/
theorem sameInputs_withDecay (enabled enabled' : Bool) (x : Address) :
    SameInputs (s.withDecay enabled decayBpsPerDay minRecencyBps)
      (s.withDecay enabled' decayBpsPerDay' minRecencyBps') x :=
  ⟨rfl, rfl, rfl, rfl, rfl, rfl, rfl, rfl⟩

/-! ## Records -/

/-- The points of a type fit in 32 bits. -/
theorem typePoints_le (weight : ℕ) : typePoints weight ≤ U32.max :=
  (Nat.div_le_self _ _).trans (min_le_right _ _)

/-- With the decay, a record counts with its multiplier. -/
theorem recordPoints_enabled : recordPoints env (s.withDecay true decayBpsPerDay minRecencyBps) label record =
    applyRecencyBps (typePoints (getVcTypeWeight s label))
      (recencyMultiplierBps record.anchoredAt env.ledger.timestamp decayBpsPerDay minRecencyBps) := rfl

/-- Without it, a record counts in full. -/
theorem recordPoints_disabled : recordPoints env (s.withDecay false decayBpsPerDay minRecencyBps) label record =
    typePoints (getVcTypeWeight s label) := rfl

/-- A decayed record is not worth more than the record. -/
theorem worthNoMore_enabled (record : IdentityVCRecord) :
    WorthNoMore env (s.withDecay true decayBpsPerDay minRecencyBps)
      (s.withDecay false decayBpsPerDay' minRecencyBps') record record :=
  ⟨rfl, fun _ => applyRecencyBps_le _ (recencyMultiplierBps_le _ _ _ _)⟩

/-- A record that does not decay is not worth more than the decayed record. -/
theorem worthNoMore_disabled
    (h : decayBpsPerDay = 0 ∨ record.Young env.ledger.timestamp) :
    WorthNoMore env (s.withDecay false decayBpsPerDay' minRecencyBps')
      (s.withDecay true decayBpsPerDay minRecencyBps) record record := by
  refine ⟨rfl, fun label => ?_⟩
  rw [recordPoints_enabled, recordPoints_disabled, recencyMultiplierBps_eq (decay_eq_zero (h.imp_right (·.age_lt))),
    applyRecencyBps_one (typePoints_le _)]

/-- A credential that is anchored later is not worth less. -/
theorem worthNoMore_later (h : record.NoEarlier record') : WorthNoMore env s s record record' := by
  obtain ⟨hlater, hsame⟩ := h
  refine ⟨by rw [hsame], fun label => ?_⟩
  unfold recordPoints
  dsimp only
  split
  · exact applyRecencyBps_mono _ (recencyMultiplierBps_mono hlater _ _ _)
  · exact le_rfl

/-! ## Scores -/

/-- A score of no more points is no higher. -/
theorem scoreWith_mono (s : State) (x : Address) (repayment : RepaymentRecord) (weights : ScoringWeights)
    {p q : ℕ} (h : p ≤ q) : scoreWith s x repayment weights p ≤ scoreWith s x repayment weights q :=
  computeScorePure_mono h le_rfl le_rfl le_rfl le_rfl _ _ _

section Hosts

variable {κ κ' : Type} {host : Host κ} {host' : Host κ'} {world : κ} {world' : κ'} {a a' : Address}

/-- Where the credentials have no more points, the score is no higher. -/
theorem scoreOf_le (hsame : SameInputs s s' x)
    (hresolve : Outcome.Lockstep (Option.Rel NoMorePoints) (resolveVcPoints host env world s x)
      (resolveVcPoints host' env world' s' x)) :
    Outcome.Lockstep (· ≤ ·) (scoreOf host env world s x) (scoreOf host' env world' s' x) :=
  scoreOf_lockstep hsame hresolve le_rfl fun _ _ hpq repayment weights =>
    scoreWith_mono s x repayment weights hpq.1

/-- The credentials that the identity oracle reports, each compared with itself. -/
theorem details_self {R : IdentityVCRecord → IdentityVCRecord → Prop} {details : Option (List IdentityVCRecord)}
    (h : ∀ records, details = some records → ∀ record ∈ records, R record record) :
    Option.Rel (List.Forall₂ R) details details := by
  cases details with
  | none => exact .none
  | some records => exact .some (List.forall₂_same.mpr (h records rfl))

/-- With the decay no more points are resolved than without it. -/
theorem resolveVcPoints_decay_le (hlinked : s.identityOracleId = some a) :
    Outcome.Lockstep (Option.Rel NoMorePoints)
      (resolveVcPoints host env world (s.withDecay true decayBpsPerDay minRecencyBps) x)
      (resolveVcPoints host env world (s.withDecay false decayBpsPerDay' minRecencyBps') x) :=
  resolveVcPoints_lockstep hlinked hlinked ⟨rfl, fun _ => rfl, fun _ => rfl⟩
    (details_self fun _ _ record _ => worthNoMore_enabled record)

/-- Credentials that do not decay are resolved as without the decay. -/
theorem resolveVcPoints_decay_eq (hlinked : s.identityOracleId = some a)
    (hyoung : decayBpsPerDay = 0 ∨ ∀ records, host.getVcDetails world a x = some records →
      ∀ record ∈ records, record.Young env.ledger.timestamp) :
    resolveVcPoints host env world (s.withDecay true decayBpsPerDay minRecencyBps) x =
      resolveVcPoints host env world (s.withDecay false decayBpsPerDay' minRecencyBps') x := by
  have hdetails : Option.Rel (List.Forall₂ (WorthNoMore env (s.withDecay false decayBpsPerDay' minRecencyBps')
      (s.withDecay true decayBpsPerDay minRecencyBps))) (host.getVcDetails world a x)
      (host.getVcDetails world a x) :=
    details_self fun records hrecords record hmem =>
      worthNoMore_disabled (hyoung.imp_right fun hall => hall records hrecords record hmem)
  refine Outcome.Lockstep.antisymm ?_ (resolveVcPoints_decay_le hlinked)
    (resolveVcPoints_lockstep hlinked hlinked ⟨rfl, fun _ => rfl, fun _ => rfl⟩ hdetails)
  intro p q hpq hqp
  cases hpq with
  | none => rfl
  | some hpq =>
    cases hqp with
    | some hqp => rw [NoMorePoints.antisymm _ _ hpq hqp]

end Hosts

end StellarDidCredit.CreditOracle
