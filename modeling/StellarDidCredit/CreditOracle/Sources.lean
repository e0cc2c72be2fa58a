import StellarDidCredit.CreditOracle.Comparison

/-!
# The sources of the credentials

Without type weights and without the decay every credential is worth 20 points, wherever it comes
from: the records of an identity oracle and the entries of a stored list are added up one by one,
a cached count is multiplied. Only the first 100 points count, so the sums agree where they saturate
as well.
-/

namespace StellarDidCredit.CreditOracle

variable {κ κ' : Type} {host : Host κ} {host' : Host κ'} {env : Env} {s s' t : State} {world : κ} {world' : κ'}
  {a x : Address} {n v : ℕ}

/-- No type weight is registered, and the decay is disabled. -/
structure Plain (s : State) : Prop where
  unweighted : s.vcWeight = Storage.empty
  undecayed : (loadRecencyConfig s).enabled = false

/-- Every type has the weight by which a credential is worth 20 points. -/
theorem Plain.typePoints_eq (h : Plain s) (typeName : CredentialType) :
    typePoints (getVcTypeWeight s typeName) = 20 := by
  have hweight : getVcTypeWeight s typeName = defaultVcTypeWeight := by
    rw [getVcTypeWeight, h.unweighted]
    rfl
  rw [hweight]
  decide

/-- A credential counts 20 points when neither weights nor decay are set. -/
theorem Plain.recordPoints_eq (h : Plain s) (label : CredentialType) (record : IdentityVCRecord) :
    recordPoints env s label record = 20 := by
  unfold recordPoints
  dsimp only
  rw [h.undecayed, if_neg Bool.false_ne_true, h.typePoints_eq]

/-- The first 100 of 20 points for each element. -/
theorem min_foldl_plain {α : Type} {f : α → ℕ} (hf : ∀ entry, f entry = 20) (list : List α) :
    min (list.foldl (fun vcPoints entry => U32.saturatingAdd vcPoints (f entry)) 0) 100 =
      min (20 * list.length) 100 := by
  rw [U32.min_foldl_saturatingAdd (by decide), Nat.zero_add, List.map_congr_left fun entry _ => hf entry,
    List.map_const', List.sum_replicate, smul_eq_mul, Nat.mul_comm]

/-! ## Resolved counts -/

/-- A computation resolves `n` credentials that are worth 20 points each, as far as they count. -/
def ResolvesPlain (host : Host κ) (env : Env) (world : κ) (s : State) (x : Address) (n : ℕ) : Prop :=
  ∃ vcPoints, resolveVcPoints host env world s x = .ok (some (vcPoints, n)) ∧
    min vcPoints 100 = min (20 * n) 100

/-- The records of a linked identity oracle. -/
theorem resolvesPlain_linked {records : List IdentityVCRecord} {label : BytesN 32 → CredentialType}
    (hplain : Plain s) (hlinked : s.identityOracleId = some a)
    (hanswers : Answers host world a x false records label) :
    ResolvesPlain host env world s x records.length := by
  have hpoints (record : IdentityVCRecord) : recordPoints env s (label record.vcHash) record = 20 :=
    hplain.recordPoints_eq _ _
  refine ⟨records.foldl (fun total record =>
    U32.saturatingAdd total (recordPoints env s (label record.vcHash) record)) 0, ?_, ?_⟩
  · rw [resolveVcPoints_eq hlinked hanswers, if_neg Bool.false_ne_true]
  · exact min_foldl_plain hpoints records

/-- The entries of a stored list. -/
theorem resolvesPlain_listed (hplain : Plain s) (hunlinked : s.identityOracleId = none)
    (hlisted : getVcList s x ≠ []) : ResolvesPlain host env world s x (getVcList s x).length := by
  obtain ⟨entry, rest, hlist⟩ := List.exists_cons_of_ne_nil hlisted
  have hweight (entry : VcEntry) :
      typePoints (entry.vcType.elim defaultVcTypeWeight (getVcTypeWeight s)) = 20 := by
    cases entry.vcType with
    | none =>
      change typePoints defaultVcTypeWeight = 20
      decide
    | some typeName => exact hplain.typePoints_eq typeName
  refine ⟨(localVcPoints s x).1, ?_, ?_⟩
  · simp only [resolveVcPoints, hunlinked, localVcPoints, hlist]
  · simp only [localVcPoints, hlist]
    exact min_foldl_plain hweight (entry :: rest)

/-- A cached count, where the stored list is empty. -/
theorem resolvesPlain_cached (hunlinked : s.identityOracleId = none) (hempty : getVcList s x = []) :
    ResolvesPlain host env world s x ((s.vcCount x).getD 0) := by
  refine ⟨(localVcPoints s x).1, ?_, ?_⟩
  · simp only [resolveVcPoints, hunlinked, localVcPoints, hempty]
  · have hfits : 100 ≤ U32.max := by decide
    simp only [localVcPoints, hempty, U32.saturatingMul]
    omega

/-! ## Scores -/

/-- Where as many credentials are resolved, the scores are the same. -/
theorem ResolvesPlain.scoreOf_eq (h : ResolvesPlain host env world s x n)
    (h' : ResolvesPlain host' env world' s' x n) (hsame : SameInputs s s' x) :
    scoreOf host env world s x = scoreOf host' env world' s' x := by
  obtain ⟨points, hresolve, hcapped⟩ := h
  obtain ⟨points', hresolve', hcapped'⟩ := h'
  refine (scoreOf_lockstep (P := fun p q => min p.1 100 = min q.1 100) hsame ?_ rfl ?_).eq
  · rw [hresolve, hresolve']
    exact .ok (.some (hcapped.trans hcapped'.symm))
  · intro p q hpq repayment weights
    exact scoreWith_congr hpq

/-- The record that a computation leaves has the count that was resolved. -/
theorem ResolvesPlain.stored (h : ResolvesPlain host env world s x n)
    (hcompute : computeScore host env x s world = .ok (v, t)) :
    ∃ record, t.score x = some record ∧ record.vcCount = n := by
  obtain ⟨points, hresolve, -⟩ := h
  obtain ⟨-, -, repayment, -, ⟨-, -, hnone⟩ | ⟨vcPoints, vcCount, weights, hsome, -, -, hstored⟩⟩ :=
    computeScore_spec hcompute
  · cases hresolve.symm.trans hnone
  · cases hresolve.symm.trans hsome
    rcases storeScore_spec hstored with ⟨rfl, prev, hprev, -, hcount, -⟩ | ⟨-, protocolStats, rfl⟩
    · exact ⟨prev, hprev, hcount⟩
    · exact ⟨_, Storage.set_self _ _ _, rfl⟩

end StellarDidCredit.CreditOracle
