import StellarDidCredit.Lib.Search
import StellarDidCredit.Lib.BinaryFloat
import StellarDidCredit.IdentityOracle.Model
import StellarDidCredit.CreditOracle.Model
import StellarDidCredit.RevocationRegistry.Model
import StellarDidCredit.Governance.Model

/-!
# Contract errors in the SDK

A failed simulation comes back as a text in which the host writes the error of the contract as
`Error(Contract, #N)`. The SDK searches the text for it and looks the number up in a table of its
own for each contract. What it throws then names the error of the contract, whatever stands around
the number, and a text in which it finds no error of the contract is passed on as it is.
-/

namespace StellarDidCredit.Sdk

/-! ## The errors of the contracts -/

/-- The contracts whose errors the SDK knows. -/
inductive ContractName where
  | identityOracle
  | creditOracle
  | revocationRegistry
  | governance
  deriving DecidableEq, Repr

/-- The typed errors of a contract. -/
abbrev ContractName.Error : ContractName → Type
  | identityOracle => IdentityOracle.Error
  | creditOracle => CreditOracleError
  | revocationRegistry => RevocationRegistry.Error
  | governance => Governance.GovernanceError

/-- The number that a contract declares for an error, and the name of the variant. -/
def identityOracleCode (error : IdentityOracle.Error) : ℕ × String :=
  (error.code, match error with
    | .alreadyInitialized => "AlreadyInitialized"
    | .notAuthorized => "NotAuthorized"
    | .issuerNotRegistered => "IssuerNotRegistered"
    | .invalidCID => "InvalidCID"
    | .noPendingAdmin => "NoPendingAdmin"
    | .duplicateVC => "DuplicateVC"
    | .vcNotFound => "VCNotFound"
    | .contractPaused => "ContractPaused"
    | .invalidRevocationRegistry => "InvalidRevocationRegistry"
    | .vcLimitReached => "VCLimitReached"
    | .invalidIssuerTier => "InvalidIssuerTier")

def creditOracleCode (error : CreditOracleError) : ℕ × String :=
  (error.code, match error with
    | .alreadyInitialized => "AlreadyInitialized"
    | .notAuthorized => "NotAuthorized"
    | .feederNotRegistered => "FeederNotRegistered"
    | .lenderNotRegistered => "LenderNotRegistered"
    | .invalidWeights => "InvalidWeights"
    | .noPendingAdmin => "NoPendingAdmin"
    | .computeCooldownActive => "ComputeCooldownActive"
    | .disputeAlreadyPending => "DisputeAlreadyPending"
    | .disputeNotFound => "DisputeNotFound"
    | .invalidInputKey => "InvalidInputKey"
    | .invalidIdentityOracle => "InvalidIdentityOracle"
    | .contractPaused => "ContractPaused"
    | .invalidRecencyConfig => "InvalidRecencyConfig"
    | .timelockNotExpired => "TimelockNotExpired"
    | .noPendingWeights => "NoPendingWeights"
    | .notInitialized => "NotInitialized"
    | .invalidAmount => "InvalidAmount"
    | .invalidComputeCooldown => "InvalidComputeCooldown")

def revocationRegistryCode : RevocationRegistry.Error → ℕ × String
  | .alreadyInitialized => (1, "AlreadyInitialized")
  | .notAuthorized => (2, "NotAuthorized")
  | .issuerMismatch => (3, "IssuerMismatch")
  | .noPendingAdmin => (4, "NoPendingAdmin")
  | .batchTooLarge => (5, "BatchTooLarge")
  | .contractPaused => (6, "ContractPaused")
  | .reentrancyDetected => (7, "ReentrancyDetected")
  | .invalidBatchLimit => (8, "InvalidBatchLimit")

def governanceCode : Governance.GovernanceError → ℕ × String
  | .alreadyInitialized => (1, "AlreadyInitialized")
  | .notAuthorized => (2, "NotAuthorized")
  | .proposalNotFound => (3, "ProposalNotFound")
  | .proposalExpired => (4, "ProposalExpired")
  | .proposalNotExpired => (5, "ProposalNotExpired")
  | .proposalAlreadyExecuted => (6, "ProposalAlreadyExecuted")
  | .invalidWeights => (7, "InvalidWeights")
  | .invalidQuorum => (8, "InvalidQuorum")
  | .invalidVoteWeight => (9, "InvalidVoteWeight")
  | .quorumNotMet => (10, "QuorumNotMet")
  | .timelockNotExpired => (11, "TimelockNotExpired")
  | .voterNotRegistered => (12, "VoterNotRegistered")
  | .insufficientVoteWeight => (13, "InsufficientVoteWeight")
  | .proposalAlreadyCancelled => (14, "ProposalAlreadyCancelled")
  | .noPendingWeights => (15, "NoPendingWeights")
  | .contractPaused => (16, "ContractPaused")
  | .voteTallyOverflow => (17, "VoteTallyOverflow")
  | .proposalRejected => (18, "ProposalRejected")
  | .invalidVotingPeriod => (19, "InvalidVotingPeriod")

def ContractName.declared : (contractName : ContractName) → contractName.Error → ℕ × String
  | identityOracle => identityOracleCode
  | creditOracle => creditOracleCode
  | revocationRegistry => revocationRegistryCode
  | governance => governanceCode

/-! ## The tables of the SDK -/

def IDENTITY_ORACLE_ERROR_CODES : List (ℕ × String) :=
  [(1, "AlreadyInitialized"), (2, "NotAuthorized"), (3, "IssuerNotRegistered"), (4, "InvalidCID"),
    (5, "NoPendingAdmin"), (6, "DuplicateVC"), (7, "VCNotFound"), (8, "ContractPaused"),
    (9, "InvalidRevocationRegistry"), (10, "VCLimitReached"), (11, "InvalidIssuerTier")]

def CREDIT_ORACLE_ERROR_CODES : List (ℕ × String) :=
  [(1, "AlreadyInitialized"), (2, "NotAuthorized"), (3, "FeederNotRegistered"), (4, "LenderNotRegistered"),
    (5, "InvalidWeights"), (6, "NoPendingAdmin"), (7, "ComputeCooldownActive"), (8, "DisputeAlreadyPending"),
    (9, "DisputeNotFound"), (10, "InvalidInputKey"), (11, "InvalidIdentityOracle"), (12, "ContractPaused"),
    (13, "InvalidRecencyConfig"), (14, "TimelockNotExpired"), (15, "NoPendingWeights"), (16, "NotInitialized"),
    (17, "InvalidAmount"), (18, "InvalidComputeCooldown")]

def REVOCATION_REGISTRY_ERROR_CODES : List (ℕ × String) :=
  [(1, "AlreadyInitialized"), (2, "NotAuthorized"), (3, "IssuerMismatch"), (4, "NoPendingAdmin"),
    (5, "BatchTooLarge"), (6, "ContractPaused"), (7, "ReentrancyDetected"), (8, "InvalidBatchLimit")]

def GOVERNANCE_ERROR_CODES : List (ℕ × String) :=
  [(1, "AlreadyInitialized"), (2, "NotAuthorized"), (3, "ProposalNotFound"), (4, "ProposalExpired"),
    (5, "ProposalNotExpired"), (6, "ProposalAlreadyExecuted"), (7, "InvalidWeights"), (8, "InvalidQuorum"),
    (9, "InvalidVoteWeight"), (10, "QuorumNotMet"), (11, "TimelockNotExpired"), (12, "VoterNotRegistered"),
    (13, "InsufficientVoteWeight"), (14, "ProposalAlreadyCancelled"), (15, "NoPendingWeights"),
    (16, "ContractPaused"), (17, "VoteTallyOverflow"), (18, "ProposalRejected"), (19, "InvalidVotingPeriod")]

def ERROR_CODE_MAPS : ContractName → List (ℕ × String)
  | .identityOracle => IDENTITY_ORACLE_ERROR_CODES
  | .creditOracle => CREDIT_ORACLE_ERROR_CODES
  | .revocationRegistry => REVOCATION_REGISTRY_ERROR_CODES
  | .governance => GOVERNANCE_ERROR_CODES

/-! ## Reading an error text -/

/-- The characters that `\s` matches. -/
def isSpace (c : Char) : Bool :=
  (9 ≤ c.toNat ∧ c.toNat ≤ 13) ∨ (0x2000 ≤ c.toNat ∧ c.toNat ≤ 0x200A) ∨
    c.toNat ∈ [0x20, 0xA0, 0x1680, 0x2028, 0x2029, 0x202F, 0x205F, 0x3000, 0xFEFF]

/-- What stands behind a literal of the pattern, read without regard to case. -/
def afterLiteral : List Char → List Char → Option (List Char)
  | [], text => some text
  | _ :: _, [] => none
  | p :: ps, c :: cs => if p.toLower = c.toLower then afterLiteral ps cs else none

/-- `CONTRACT_ERROR_RE` at one place: `Error(Contract,`, white space, `#`, the digits and `)`. -/
def contractErrorHere (text : List Char) : Option ℕ := do
  let rest ← afterLiteral ['E', 'r', 'r', 'o', 'r', '(', 'C', 'o', 'n', 't', 'r', 'a', 'c', 't', ','] text
  let rest ← afterLiteral ['#'] (rest.dropWhile isSpace)
  let _ ← afterLiteral [')'] (rest.dropWhile Char.isDigit)
  let digits := rest.takeWhile Char.isDigit
  if digits = [] then none else some (Nat.ofDigitChars 10 digits 0)

/-- The first error number in a text, as a double. -/
def parseContractErrorCode (errorString : String) : Option ℕ :=
  (Text.firstMatch contractErrorHere errorString.toList).map (BinaryFloat.roundNat 53)

/-- A typed error of a contract, as the SDK throws it. -/
structure ContractError where
  code : ℕ
  contractName : ContractName
  message : String
  deriving DecidableEq, Repr

/-- What the SDK throws for an error text. -/
def throwContractError (errorString : String) (contractName : ContractName) : ContractError :=
  let code := parseContractErrorCode errorString
  let variantName := code.bind fun code => (ERROR_CODE_MAPS contractName).lookup code
  { code := code.getD 0
    contractName
    message :=
      match code, variantName with
      | some code, some variantName => s!"{variantName} (code {code})"
      | _, _ => errorString }

/-! ## What the host writes -/

/-- The error of a contract in a text of the host. -/
def hostError (code : ℕ) : String := s!"Error(Contract, #{code})"

/-- What the SDK throws when a contract fails with an error. -/
def errorOf (contractName : ContractName) (error : contractName.Error) : ContractError where
  code := (contractName.declared error).1
  contractName
  message := s!"{(contractName.declared error).2} (code {(contractName.declared error).1})"

/-- The tables list what the contracts declare. -/
theorem lookup_declared (contractName : ContractName) (error : contractName.Error) :
    (ERROR_CODE_MAPS contractName).lookup (contractName.declared error).1 =
      some (contractName.declared error).2 := by
  cases contractName <;> cases error <;> rfl

/-- The errors of a contract in the order of their numbers. -/
def ContractName.errors : (contractName : ContractName) → List contractName.Error
  | identityOracle =>
    [.alreadyInitialized, .notAuthorized, .issuerNotRegistered, .invalidCID, .noPendingAdmin, .duplicateVC,
      .vcNotFound, .contractPaused, .invalidRevocationRegistry, .vcLimitReached, .invalidIssuerTier]
  | creditOracle =>
    [.alreadyInitialized, .notAuthorized, .feederNotRegistered, .lenderNotRegistered, .invalidWeights,
      .noPendingAdmin, .computeCooldownActive, .disputeAlreadyPending, .disputeNotFound, .invalidInputKey,
      .invalidIdentityOracle, .contractPaused, .invalidRecencyConfig, .timelockNotExpired, .noPendingWeights,
      .notInitialized, .invalidAmount, .invalidComputeCooldown]
  | revocationRegistry =>
    [.alreadyInitialized, .notAuthorized, .issuerMismatch, .noPendingAdmin, .batchTooLarge, .contractPaused,
      .reentrancyDetected, .invalidBatchLimit]
  | governance =>
    [.alreadyInitialized, .notAuthorized, .proposalNotFound, .proposalExpired, .proposalNotExpired,
      .proposalAlreadyExecuted, .invalidWeights, .invalidQuorum, .invalidVoteWeight, .quorumNotMet,
      .timelockNotExpired, .voterNotRegistered, .insufficientVoteWeight, .proposalAlreadyCancelled,
      .noPendingWeights, .contractPaused, .voteTallyOverflow, .proposalRejected, .invalidVotingPeriod]

/-- They list nothing else. -/
theorem declared_of_lookup {contractName : ContractName} {code : ℕ} {variantName : String}
    (h : (ERROR_CODE_MAPS contractName).lookup code = some variantName) :
    ∃ error, contractName.declared error = (code, variantName) := by
  have htable : ERROR_CODE_MAPS contractName = contractName.errors.map contractName.declared := by
    cases contractName <;> rfl
  obtain ⟨early, late, hsplit, -⟩ := List.lookup_eq_some_iff.mp h
  have hmem : (code, variantName) ∈ contractName.errors.map contractName.declared := by
    rw [← htable, hsplit]
    exact List.mem_append_right _ List.mem_cons_self
  obtain ⟨error, -, herror⟩ := List.mem_map.mp hmem
  exact ⟨error, herror⟩

/-- The numbers of a contract's errors differ, and are numbers that a double holds. -/
theorem declared_injective {contractName : ContractName} {error error' : contractName.Error}
    (h : (contractName.declared error).1 = (contractName.declared error').1) : error = error' := by
  cases contractName <;> cases error <;> cases error' <;> first | rfl | cases h

/-- They are numbers that a double holds. -/
theorem declared_lt (contractName : ContractName) (error : contractName.Error) :
    (contractName.declared error).1 < 2 ^ 53 := by
  cases contractName <;> cases error <;> decide

/-- A literal is found where it stands. -/
theorem afterLiteral_append (literal rest : List Char) : afterLiteral literal (literal ++ rest) = some rest := by
  induction literal with
  | nil => rfl
  | cons p ps ih => rw [List.cons_append, afterLiteral, if_pos rfl, ih]

/-- The characters that the host writes. -/
theorem toList_hostError (code : ℕ) : (hostError code).toList =
    ['E', 'r', 'r', 'o', 'r', '(', 'C', 'o', 'n', 't', 'r', 'a', 'c', 't', ','] ++
      (' ' :: '#' :: (Nat.toDigits 10 code ++ [')'])) := by
  have happend : hostError code = "Error(Contract, #" ++ code.repr ++ ")" := rfl
  rw [happend, String.toList_append, String.toList_append, Nat.toList_repr]
  rfl

/-- The pattern reads back what the host writes. -/
theorem contractErrorHere_hostError (code : ℕ) (rest : List Char) :
    contractErrorHere ((hostError code).toList ++ rest) = some code := by
  have hdigits : ∀ c ∈ Nat.toDigits 10 code, Char.isDigit c = true :=
    fun c hc => Nat.isDigit_of_mem_toDigits (by decide) le_rfl hc
  have htake : (Nat.toDigits 10 code ++ ')' :: rest).takeWhile Char.isDigit = Nat.toDigits 10 code := by
    rw [List.takeWhile_append_of_pos hdigits, List.takeWhile_cons_of_neg (by decide), List.append_nil]
  have hdrop : (Nat.toDigits 10 code ++ ')' :: rest).dropWhile Char.isDigit = ')' :: rest := by
    rw [List.dropWhile_append_of_pos hdigits, List.dropWhile_cons_of_neg (by decide)]
  have hspace : (' ' :: '#' :: (Nat.toDigits 10 code ++ [')']) ++ rest).dropWhile isSpace =
      ['#'] ++ (Nat.toDigits 10 code ++ ')' :: rest) := by
    rw [List.cons_append, List.dropWhile_cons_of_pos (by decide), List.cons_append,
      List.dropWhile_cons_of_neg (by decide), List.append_assoc]
    rfl
  have hclose : afterLiteral [')'] (')' :: rest) = some rest := afterLiteral_append [')'] rest
  rw [toList_hostError, List.append_assoc, contractErrorHere, afterLiteral_append]
  simp only [Option.bind_eq_bind, Option.bind_some, hspace, afterLiteral_append, hdrop, htake]
  rw [hclose, Option.bind_some, if_neg Nat.toDigits_ne_nil, Nat.ofDigitChars_ten_toDigits]

/-- A literal that matches stands in the text, up to case. -/
theorem afterLiteral_getElem? {literal text rest : List Char} (h : afterLiteral literal text = some rest)
    (i : ℕ) (hi : i < literal.length) : text[i]?.map Char.toLower = literal[i]?.map Char.toLower := by
  induction literal generalizing text i with
  | nil => exact absurd hi (Nat.not_lt_zero i)
  | cons p ps ih =>
    cases text with
    | nil => cases h
    | cons c cs =>
      rw [afterLiteral] at h
      split at h
      case isFalse => cases h
      case isTrue hsame =>
        cases i with
        | zero => exact congrArg some hsame.symm
        | succ i => exact ih h i (Nat.lt_of_succ_lt_succ hi)

/-- Only `(` is lowered to itself. -/
theorem eq_paren_of_toLower {c : Char} (h : c.toLower = '(') : c = '(' := by
  by_cases hupper : c.val ≥ 'A'.val ∧ c.val ≤ 'Z'.val
  · have hlower : c.toLower.val = c.val + 32 := congrArg Char.val (dif_pos hupper)
    have hval : c.val + 32 = 40 := hlower.symm.trans (congrArg Char.val h)
    have hc : c.val = 8 := by
      rw [← UInt32.add_sub_cancel c.val 32, hval]
      rfl
    have hle := hupper.1
    rw [hc] at hle
    exact absurd hle (by decide)
  · have hsame : c.toLower = c := dif_neg hupper
    rw [← hsame, h]

/-- A match has its parenthesis in the sixth place. -/
theorem paren_of_contractErrorHere {text : List Char} {code : ℕ} (h : contractErrorHere text = some code) :
    text[5]? = some '(' := by
  simp only [contractErrorHere, Option.bind_eq_bind, Option.bind_eq_some_iff] at h
  obtain ⟨rest, hliteral, -⟩ := h
  have hfifth := afterLiteral_getElem? hliteral 5 (by decide)
  obtain ⟨c, hc, hlower⟩ := Option.map_eq_some_iff.mp hfifth
  rw [hc, eq_paren_of_toLower hlower]

/-- The number of the first error is found behind a text without a parenthesis: a match that began in it
would have one there, or among the letters of `Error`. -/
theorem parseContractErrorCode_hostError {code : ℕ} (hcode : code < 2 ^ 53) {front rest : String}
    (hfront : '(' ∉ front.toList) : parseContractErrorCode (front ++ hostError code ++ rest) = some code := by
  have hfound : Text.firstMatch contractErrorHere ((hostError code).toList ++ rest.toList) = some code :=
    Text.firstMatch_of_here (contractErrorHere_hostError code rest.toList)
  have hbehind : ∀ early late, front.toList = early ++ late → late ≠ [] →
      contractErrorHere (late ++ ((hostError code).toList ++ rest.toList)) = none := by
    intro early late hsplit hne
    rw [Option.eq_none_iff_forall_ne_some]
    intro found hmatch
    have hparen := paren_of_contractErrorHere hmatch
    by_cases hlate : 5 < late.length
    · rw [List.getElem?_append_left hlate] at hparen
      refine hfront ?_
      rw [hsplit]
      exact List.mem_append_right _ (List.mem_of_getElem? hparen)
    · obtain ⟨k, hk⟩ : ∃ k, late.length = k + 1 := Nat.exists_eq_succ_of_ne_zero (by simpa using hne)
      rw [List.getElem?_append_right (by omega), toList_hostError, hk] at hparen
      rcases (by omega : k = 0 ∨ k = 1 ∨ k = 2 ∨ k = 3 ∨ k = 4) with rfl | rfl | rfl | rfl | rfl <;> cases hparen
  have hlist : (front ++ hostError code ++ rest).toList =
      front.toList ++ ((hostError code).toList ++ rest.toList) := by
    rw [String.toList_append, String.toList_append, List.append_assoc]
  rw [parseContractErrorCode, hlist, Text.firstMatch_append hbehind, hfound, Option.map_some,
    BinaryFloat.roundNat_of_lt (by decide) hcode]

/-- A number that the contract declares is thrown as its error. -/
theorem throwContractError_of_parse {contractName : ContractName} {errorString : String}
    {error : contractName.Error}
    (h : parseContractErrorCode errorString = some (contractName.declared error).1) :
    throwContractError errorString contractName = errorOf contractName error := by
  simp only [throwContractError, h, Option.bind_some, lookup_declared, Option.getD_some, errorOf]

/-- The error that the host writes first is thrown. -/
theorem throwContractError_hostError (contractName : ContractName) (error : contractName.Error)
    {front rest : String} (hfront : '(' ∉ front.toList) :
    throwContractError (front ++ hostError (contractName.declared error).1 ++ rest) contractName =
      errorOf contractName error :=
  throwContractError_of_parse (parseContractErrorCode_hostError (declared_lt contractName error) hfront)

/-- The SDK throws the error that the contract failed with, wherever the host writes it first; different
errors are thrown differently; and a text in which no error of the contract is found is passed on. -/
theorem contract_errors_decoded (contractName : ContractName) :
    (∀ error front rest, '(' ∉ String.toList front →
      throwContractError (front ++ hostError (contractName.declared error).1 ++ rest) contractName =
        errorOf contractName error) ∧
    (∀ error error', errorOf contractName error = errorOf contractName error' → error = error') ∧
    (∀ errorString, (∃ error, parseContractErrorCode errorString = some (contractName.declared error).1 ∧
        throwContractError errorString contractName = errorOf contractName error) ∨
      ((∀ error, parseContractErrorCode errorString ≠ some (contractName.declared error).1) ∧
        (throwContractError errorString contractName).message = errorString)) := by
  refine ⟨?_, ?_, ?_⟩
  · intro error front rest hfront
    exact throwContractError_hostError contractName error hfront
  · intro error error' h
    exact declared_injective (congrArg ContractError.code h)
  · intro errorString
    by_cases hknown : ∃ error, parseContractErrorCode errorString = some (contractName.declared error).1
    · obtain ⟨error, hparse⟩ := hknown
      exact Or.inl ⟨error, hparse, throwContractError_of_parse hparse⟩
    · refine Or.inr ⟨fun error hparse => hknown ⟨error, hparse⟩, ?_⟩
      have hlookup (code : ℕ) (hparse : parseContractErrorCode errorString = some code) :
          (ERROR_CODE_MAPS contractName).lookup code = none := by
        rw [Option.eq_none_iff_forall_ne_some]
        intro variantName hfound
        obtain ⟨error, herror⟩ := declared_of_lookup hfound
        exact hknown ⟨error, by rw [herror, hparse]⟩
      rw [throwContractError]
      cases hparse : parseContractErrorCode errorString with
      | none => rfl
      | some code => simp only [Option.bind_some, hlookup code hparse]

/-- The error of a revocation of another issuer's hash, as a simulation reports it. -/
theorem contract_errors_decoded_mismatch :
    throwContractError "HostError: Error(Contract, #3)\n\nEvent log (newest first):" .revocationRegistry =
      ⟨3, .revocationRegistry, "IssuerMismatch (code 3)"⟩ :=
  (contract_errors_decoded .revocationRegistry).1 .issuerMismatch "HostError: " "\n\nEvent log (newest first):"
    (by decide)

end StellarDidCredit.Sdk
