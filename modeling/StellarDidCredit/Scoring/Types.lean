import StellarDidCredit.Soroban.Host

/-!
# Types the contracts share

The credential record the identity oracle stores and the credit oracle decodes, the typed
errors of the credit oracle, and the scoring weights with their validity check. The weights
are 32-bit values: the sum in the check traps when it does not fit.
-/

namespace StellarDidCredit

/-- An on-chain anchor record for a verifiable credential. -/
structure IdentityVCRecord where
  vcHash : BytesN 32
  issuer : Address
  anchoredAt : ℕ
  revoked : Bool
  deriving DecidableEq, Repr

/-- The label a credential carries for scoring purposes. -/
abbrev CredentialType := Symbol

/-- The typed errors of the credit oracle. -/
inductive CreditOracleError where
  | alreadyInitialized
  | notAuthorized
  | feederNotRegistered
  | lenderNotRegistered
  | invalidWeights
  | noPendingAdmin
  | computeCooldownActive
  | disputeAlreadyPending
  | disputeNotFound
  | invalidInputKey
  | invalidIdentityOracle
  | contractPaused
  | invalidRecencyConfig
  | timelockNotExpired
  | noPendingWeights
  | notInitialized
  | invalidAmount
  | invalidComputeCooldown
  deriving DecidableEq, Repr

/-- The number that the contract declares for an error. -/
def CreditOracleError.code : CreditOracleError → ℕ
  | .alreadyInitialized => 1
  | .notAuthorized => 2
  | .feederNotRegistered => 3
  | .lenderNotRegistered => 4
  | .invalidWeights => 5
  | .noPendingAdmin => 6
  | .computeCooldownActive => 7
  | .disputeAlreadyPending => 8
  | .disputeNotFound => 9
  | .invalidInputKey => 10
  | .invalidIdentityOracle => 11
  | .contractPaused => 12
  | .invalidRecencyConfig => 13
  | .timelockNotExpired => 14
  | .noPendingWeights => 15
  | .notInitialized => 16
  | .invalidAmount => 17
  | .invalidComputeCooldown => 18

/-- Minimum weight of any individual component. -/
def minComponentWeight : ℕ := 10

/-- Weights used in credit score calculation. -/
structure ScoringWeights where
  vcWeight : ℕ
  txWeight : ℕ
  repaymentWeight : ℕ
  deriving DecidableEq, Repr

namespace ScoringWeights

/-- The validity check. The conjunction is evaluated from left to right, so the 32-bit sum
is only taken once every component has passed its own bound. -/
def isValid {E : Type} (w : ScoringWeights) : Outcome E Bool :=
  if minComponentWeight ≤ w.vcWeight ∧ minComponentWeight ≤ w.txWeight ∧
      minComponentWeight ≤ w.repaymentWeight then do
    let partialSum ← .okOr (U32.checkedAdd w.vcWeight w.txWeight) .trap
    let sum ← .okOr (U32.checkedAdd partialSum w.repaymentWeight) .trap
    .ok (sum == 100)
  else .ok false

/-- The exact meaning of the check: the true sum, not a wrapped one, is 100. -/
def Valid (w : ScoringWeights) : Prop :=
  minComponentWeight ≤ w.vcWeight ∧ minComponentWeight ≤ w.txWeight ∧
    minComponentWeight ≤ w.repaymentWeight ∧ w.vcWeight + w.txWeight + w.repaymentWeight = 100

instance (w : ScoringWeights) : Decidable w.Valid := inferInstanceAs (Decidable (_ ∧ _))

/-- The check answers yes exactly on valid weights: a sum that does not fit in 32 bits traps. -/
theorem isValid_eq_true {E : Type} {w : ScoringWeights} :
    (w.isValid : Outcome E Bool) = .ok true ↔ w.Valid := by
  unfold isValid Valid
  split
  case isTrue hmin =>
    obtain ⟨hvc, htx, hrepay⟩ := hmin
    simp only [Outcome.bind_eq_ok, Outcome.okOr_eq_ok, U32.checkedAdd_eq_some, U32.max,
      Except.ok.injEq, beq_iff_eq]
    constructor
    · rintro ⟨_, ⟨_, rfl⟩, _, ⟨_, rfl⟩, hsum⟩
      exact ⟨hvc, htx, hrepay, hsum⟩
    · rintro ⟨_, _, _, hsum⟩
      exact ⟨_, ⟨by omega, rfl⟩, _, ⟨by omega, rfl⟩, hsum⟩
  case isFalse hmin =>
    simp only [Except.ok.injEq, Bool.false_eq_true, false_iff]
    intro hvalid
    exact hmin ⟨hvalid.1, hvalid.2.1, hvalid.2.2.1⟩

end ScoringWeights

end StellarDidCredit
