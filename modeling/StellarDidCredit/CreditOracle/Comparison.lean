import StellarDidCredit.Lib.Lockstep
import StellarDidCredit.CreditOracle.Points

/-!
# Two computations side by side

A computation reads the credentials of the subject and a few other inputs. When two contracts
agree on the other inputs, their computations fail alike, and their scores compare as the scores
of the resolved credentials do. Credentials read from identity oracles that give the same answers
compare as their points do one by one.
-/

namespace StellarDidCredit.CreditOracle

variable {κ κ' : Type} {host : Host κ} {host' : Host κ'} {env : Env} {s s' : State} {world : κ} {world' : κ'}
  {a a' x : Address}

/-! ## The other inputs -/

/-- Two contracts agree on everything that a computation for the subject reads besides the
credentials. -/
structure SameInputs (s s' : State) (x : Address) : Prop where
  paused : s'.paused = s.paused
  cooldown : s'.computeCooldownLedgers = s.computeCooldownLedgers
  score : s'.score x = s.score x
  txStats : s'.txStats x = s.txStats x
  repaymentRecord : s'.repaymentRecord x = s.repaymentRecord x
  storageVersion : s'.storageVersion = s.storageVersion
  config : s'.config = s.config
  subjectsScored : s'.protocolStats.totalSubjectsScored = s.protocolStats.totalSubjectsScored

namespace SameInputs

/-- A state has the inputs that it has. -/
theorem refl (s : State) (x : Address) : SameInputs s s x := ⟨rfl, rfl, rfl, rfl, rfl, rfl, rfl, rfl⟩

/-- The pause flag is an input. -/
theorem ensureNotPaused_eq (h : SameInputs s s' x) : ensureNotPaused s' = ensureNotPaused s := by
  rw [ensureNotPaused, ensureNotPaused, h.paused]

/-- So is what the cooldown compares. -/
theorem checkComputeCooldown_eq (h : SameInputs s s' x) :
    checkComputeCooldown env s' x = checkComputeCooldown env s x := by
  simp only [checkComputeCooldown, h.cooldown, h.score]

/-- So are the statistics. -/
theorem loadTxStats_eq (h : SameInputs s s' x) : loadTxStats s' x = loadTxStats s x := by
  rw [loadTxStats, loadTxStats, h.txStats]

/-- So is the repayment record. -/
theorem loadRepaymentForScore_eq (h : SameInputs s s' x) :
    loadRepaymentForScore s' x = loadRepaymentForScore s x := by
  simp only [loadRepaymentForScore, loadRepaymentV1, loadRepayment, h.storageVersion, h.repaymentRecord]

/-- A score can be stored in both contracts or in neither, whatever it is. -/
theorem storeScore (h : SameInputs s s' x) (v v' n n' r r' : ℕ) (t t' : ℤ) :
    Outcome.Lockstep (fun _ _ => True) (CreditOracle.storeScore env x v n r t s)
      (CreditOracle.storeScore env x v' n' r' t' s') := by
  cases hprev : s.score x with
  | none =>
    have hprev' : s'.score x = none := h.score.trans hprev
    simp only [CreditOracle.storeScore, hprev, hprev', incrementSubjectsScored, h.subjectsScored]
    cases U64.checkedAdd s.protocolStats.totalSubjectsScored 1 with
    | none => exact .error .trap
    | some total => exact .ok trivial
  | some prev =>
    have hprev' : s'.score x = some prev := h.score.trans hprev
    have hreturns {score vcCount repaymentRate : ℕ} {txVolume30d : ℤ} {t : State} (ht : t.score x = some prev) :
        ∃ t', CreditOracle.storeScore env x score vcCount repaymentRate txVolume30d t = .ok t' :=
      storeScore_succeeds.mpr fun hnone => by cases ht.symm.trans hnone
    obtain ⟨t, ht⟩ := hreturns hprev
    obtain ⟨t', ht'⟩ := hreturns hprev'
    rw [ht, ht']
    exact .ok trivial

end SameInputs

/-- The computed score, without the state. -/
def scoreOf (host : Host κ) (env : Env) (world : κ) (s : State) (x : Address) : Outcome CreditOracleError ℕ :=
  (computeScore host env x s world).map Prod.fst

/-- When the other inputs agree, the computations fail alike or return scores that compare as the
scores of the credentials do. -/
theorem scoreOf_lockstep {P : ℕ × ℕ → ℕ × ℕ → Prop} {R : ℕ → ℕ → Prop} (hsame : SameInputs s s' x)
    (hresolve : Outcome.Lockstep (Option.Rel P) (resolveVcPoints host env world s x)
      (resolveVcPoints host' env world' s' x)) (hmin : R minScore minScore)
    (hscore : ∀ p q, P p q → ∀ repayment weights,
      R (scoreWith s x repayment weights p.1) (scoreWith s x repayment weights q.1)) :
    Outcome.Lockstep R (scoreOf host env world s x) (scoreOf host' env world' s' x) := by
  refine Outcome.Lockstep.map (R := fun r q => R r.1 q.1) ?_ fun _ _ h => h
  simp only [computeScore, hsame.ensureNotPaused_eq, hsame.checkComputeCooldown_eq, hsame.loadTxStats_eq,
    hsame.loadRepaymentForScore_eq, hsame.config]
  refine .bind_same _ fun _ => .bind_same _ fun _ => .bind_same _ fun repayment => hresolve.bind ?_
  intro resolved resolved' hresolved
  cases hresolved with
  | none => exact .ok hmin
  | @some p q hpq =>
    obtain ⟨points, count⟩ := p
    obtain ⟨points', count'⟩ := q
    have hcapped (n : ℕ) : min (min n 100) 100 = min n 100 := by rw [min_assoc, min_self]
    refine .bind_same _ fun weights => (hsame.storeScore _ _ _ _ _ _ _ _).bind fun t t' _ => .ok ?_
    have hweighted : R (scoreWith s x repayment weights points) (scoreWith s x repayment weights points') :=
      hscore _ _ hpq repayment weights
    rw [scoreWith_congr (hcapped points).symm, scoreWith_congr (hcapped points').symm] at hweighted
    exact hweighted

/-- Where the other inputs agree and the credentials are the same, so are the scores. -/
theorem scoreOf_congr (hsame : SameInputs s s' x)
    (hresolve : resolveVcPoints host' env world' s' x = resolveVcPoints host env world s x) :
    scoreOf host' env world' s' x = scoreOf host env world s x := by
  have hlockstep : Outcome.Lockstep (Option.Rel Eq) (resolveVcPoints host env world s x)
      (resolveVcPoints host' env world' s' x) := by
    rw [hresolve]
    refine .refl (fun resolved => ?_) _
    cases resolved with
    | none => exact .none
    | some acc => exact .some rfl
  refine (scoreOf_lockstep hsame hlockstep rfl fun p q hpq repayment weights => ?_).eq.symm
  rw [hpq]

/-! ## Credentials of an identity oracle -/

/-- No more points, and as many credentials. -/
def NoMorePoints (p q : ℕ × ℕ) : Prop := p.1 ≤ q.1 ∧ p.2 = q.2

/-- Points that are not above each other are the same. -/
theorem NoMorePoints.antisymm (p q : ℕ × ℕ) (hpq : NoMorePoints p q) (hqp : NoMorePoints q p) : p = q :=
  Prod.ext (le_antisymm hpq.1 hqp.1) hpq.2

/-- A record is not worth more than the other one of the same hash, whatever its label. -/
def WorthNoMore (env : Env) (s s' : State) (record record' : IdentityVCRecord) : Prop :=
  record'.vcHash = record.vcHash ∧ ∀ label, recordPoints env s label record ≤ recordPoints env s' label record'

/-- The identity oracle at an address answers for the subject's hashes as another one does. -/
structure SameAnswers (host : Host κ) (host' : Host κ') (world : κ) (world' : κ') (a a' x : Address) :
    Prop where
  isDeactivated : host'.isDeactivated world' a' x = host.isDeactivated world a x
  verifyVc (vcHash : BytesN 32) : host'.verifyVc world' a' x vcHash = host.verifyVc world a x vcHash
  getVcCredentialType (vcHash : BytesN 32) :
    host'.getVcCredentialType world' a' x vcHash = host.getVcCredentialType world a x vcHash

/-- The loops over records that are worth no more one by one. -/
theorem linkedVcLoop_lockstep (hsame : SameAnswers host host' world world' a a' x)
    {records records' : List IdentityVCRecord} (h : List.Forall₂ (WorthNoMore env s s') records records')
    {acc acc' : ℕ × ℕ} (hacc : NoMorePoints acc acc') :
    Outcome.Lockstep NoMorePoints (linkedVcLoop host env world s a x records acc)
      (linkedVcLoop host' env world' s' a' x records' acc') := by
  induction h generalizing acc acc' with
  | nil => exact .ok hacc
  | @cons record record' records records' hrecord _ ih =>
    obtain ⟨points, count⟩ := acc
    obtain ⟨points', count'⟩ := acc'
    obtain ⟨hpoints, rfl⟩ := hacc
    obtain ⟨hhash, hworth⟩ := hrecord
    rw [linkedVcLoop, linkedVcLoop, hhash, hsame.verifyVc, hsame.getVcCredentialType]
    refine .bind_same _ fun verified => ?_
    cases verified with
    | false => exact ih ⟨hpoints, rfl⟩
    | true =>
      refine .bind_same _ fun count => .bind_same _ fun label => ih ⟨?_, rfl⟩
      exact min_le_min_right _ (Nat.add_le_add hpoints (hworth label))

/-- The credentials that are resolved from records that are worth no more one by one. -/
theorem resolveVcPoints_lockstep (hlinked : s.identityOracleId = some a) (hlinked' : s'.identityOracleId = some a')
    (hsame : SameAnswers host host' world world' a a' x)
    (hdetails : Option.Rel (List.Forall₂ (WorthNoMore env s s')) (host.getVcDetails world a x)
      (host'.getVcDetails world' a' x)) :
    Outcome.Lockstep (Option.Rel NoMorePoints) (resolveVcPoints host env world s x)
      (resolveVcPoints host' env world' s' x) := by
  simp only [resolveVcPoints, hlinked, hlinked', hsame.isDeactivated]
  refine .bind_same _ fun deactivated => ?_
  cases deactivated with
  | true => exact .ok .none
  | false =>
    refine (Outcome.Lockstep.okOr hdetails .trap).bind fun records records' hrecords => ?_
    exact (linkedVcLoop_lockstep hsame hrecords ⟨le_rfl, rfl⟩).bind fun acc acc' hacc => .ok (.some hacc)

end StellarDidCredit.CreditOracle
