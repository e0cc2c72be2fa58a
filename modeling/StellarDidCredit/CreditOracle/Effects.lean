import StellarDidCredit.CreditOracle.Model

/-!
# What a credit-oracle call can do

The guards and the entry points are inverted here, once. What they do to the scoring weights
and to the admin role is collected in one relation; every other call leaves these slots alone.
-/

namespace StellarDidCredit.CreditOracle

variable {κ : Type} {host : Host κ} {env : Env} {call : Call} {s s' : State} {world world' : κ}

/-! ## Guards -/

/-- The contract is not paused. -/
@[simp] theorem ensureNotPaused_eq_ok {u : Unit} :
    ensureNotPaused s = .ok u ↔ s.paused.getD false = false :=
  Outcome.require_eq_ok

/-- The named admin is the stored one and has authorised the call. -/
@[simp] theorem requireNamedAdmin_eq_ok {missing : Fault CreditOracleError} {admin : Address} {u : Unit} :
    requireNamedAdmin missing env admin s = .ok u ↔ s.admin = some admin ∧ env.Authorized admin := by
  simp only [requireNamedAdmin, Outcome.bind_eq_ok, Outcome.okOr_eq_ok, Outcome.require_eq_ok,
    requireAuth_eq_ok]
  constructor
  · rintro ⟨storedAdmin, hstored, _, rfl, hauth⟩
    exact ⟨hstored, hauth⟩
  · rintro ⟨hstored, hauth⟩
    exact ⟨admin, hstored, (), rfl, hauth⟩

/-- The stored admin has authorised the call. -/
@[simp] theorem requireStoredAdmin_eq_ok {missing : Fault CreditOracleError} {u : Unit} :
    requireStoredAdmin missing env s = .ok u ↔ ∃ admin, s.admin = some admin ∧ env.Authorized admin := by
  simp only [requireStoredAdmin, Outcome.bind_eq_ok, Outcome.okOr_eq_ok, requireAuth_eq_ok]

/-- The feeder is trusted and has authorised the call, and the contract is not paused. -/
@[simp] theorem requireFeeder_eq_ok {feeder : Address} {u : Unit} :
    requireFeeder env feeder s = .ok u ↔
      s.paused.getD false = false ∧ env.Authorized feeder ∧ isTrustedFeeder s feeder = true := by
  simp only [requireFeeder, Outcome.bind_eq_ok, ensureNotPaused_eq_ok, requireAuth_eq_ok,
    Outcome.require_eq_ok, exists_and_left, exists_const]

/-- A call that stays inside the contract leaves the rest of the ledger alone. -/
@[simp] theorem alone_eq_ok {result : Outcome CreditOracleError State} :
    alone result world = .ok (s', world') ↔ result = .ok s' ∧ world' = world :=
  Outcome.bind_pair_eq_ok

/-! ## Weights and administration -/

section Administration

variable {admin newAdmin : Address}

/-- The first admin authorises, and stays. -/
theorem initializeContract_spec (h : initializeContract env admin s = .ok s') :
    s.admin = none ∧ env.Authorized admin ∧ s' = { s with
      admin := some admin
      config := some { vcWeight := 40, txWeight := 30, repaymentWeight := 30 }
      computeCooldownLedgers := some defaultComputeCooldownLedgers
      storageVersion := some 2 } := by
  simp only [initializeContract, Outcome.bind_eq_ok, Outcome.require_eq_ok, requireAuth_eq_ok,
    Except.ok.injEq] at h
  obtain ⟨_, hadmin, _, hauth, rfl⟩ := h
  exact ⟨hadmin, hauth, rfl⟩

/-- The admin names a successor. -/
theorem proposeNewAdmin_spec (h : proposeNewAdmin env newAdmin s = .ok s') :
    (∃ admin, s.admin = some admin ∧ env.Authorized admin) ∧
      s' = { s with pendingAdmin := some newAdmin } := by
  simp only [proposeNewAdmin, Outcome.bind_eq_ok, requireStoredAdmin_eq_ok, Except.ok.injEq] at h
  obtain ⟨_, hadmin, rfl⟩ := h
  exact ⟨hadmin, rfl⟩

/-- The successor takes over. -/
theorem acceptAdmin_spec (h : acceptAdmin env newAdmin s = .ok s') :
    env.Authorized newAdmin ∧ s.pendingAdmin = some newAdmin ∧ s' = { s with
      admin := some newAdmin
      pendingAdmin := none
      governanceId := if newAdmin.isContract then some newAdmin else none } := by
  simp only [acceptAdmin, Outcome.bind_eq_ok, requireAuth_eq_ok, Outcome.okOr_eq_ok,
    Outcome.require_eq_ok, Except.ok.injEq] at h
  obtain ⟨_, hauth, _, hpending, _, rfl, rfl⟩ := h
  exact ⟨hauth, hpending, rfl⟩

/-- The admin queues valid weights, for a timelock later. -/
theorem proposeWeights_spec {weights : ScoringWeights} (h : proposeWeights env weights s = .ok s') :
    weights.Valid ∧ (∃ admin, s.admin = some admin ∧ env.Authorized admin) ∧ s' = { s with
      pendingWeights := some weights
      pendingWeightsEffectiveLedger := some (env.ledger.sequence + timelockLedgers) } := by
  simp only [proposeWeights, Outcome.bind_eq_ok, Outcome.require_eq_ok, requireStoredAdmin_eq_ok,
    Outcome.okOr_eq_ok, U32.checkedAdd_eq_some, Except.ok.injEq] at h
  obtain ⟨valid, hvalid, _, rfl, _, hadmin, _, ⟨_, rfl⟩, rfl⟩ := h
  exact ⟨ScoringWeights.isValid_eq_true.mp hvalid, hadmin, rfl⟩

/-- Queued weights become active when they are due, whoever calls. -/
theorem applyWeights_spec (h : applyWeights env s = .ok s') :
    s.paused.getD false = false ∧ ∃ weights effectiveLedger, s.pendingWeights = some weights ∧
      s.pendingWeightsEffectiveLedger = some effectiveLedger ∧ effectiveLedger ≤ env.ledger.sequence ∧
      s' = { s with
        config := some weights
        pendingWeights := none
        pendingWeightsEffectiveLedger := none } := by
  simp only [applyWeights, Outcome.bind_eq_ok, ensureNotPaused_eq_ok, Outcome.okOr_eq_ok,
    Outcome.require_eq_ok, Except.ok.injEq] at h
  obtain ⟨_, hpaused, effectiveLedger, heffective, _, htime, weights, hweights, rfl⟩ := h
  exact ⟨hpaused, weights, effectiveLedger, hweights, heffective, htime, rfl⟩

/-- The admin links an identity oracle that answers. -/
theorem setIdentityOracle_spec {identityOracleId : Address}
    (h : setIdentityOracle host env admin identityOracleId s world = .ok (s', world')) :
    (s.admin = some admin ∧ env.Authorized admin) ∧
      (∃ count, host.getActiveVcCount world identityOracleId env.currentContract = some (count, world')) ∧
      s' = { s with identityOracleId := some identityOracleId } := by
  simp only [setIdentityOracle, Outcome.bind_eq_ok, requireNamedAdmin_eq_ok, Outcome.okOr_eq_ok,
    Except.ok.injEq, Prod.mk.injEq] at h
  obtain ⟨_, hadmin, ⟨count, _⟩, hprobe, rfl, rfl⟩ := h
  exact ⟨hadmin, ⟨count, hprobe⟩, rfl⟩

end Administration

/-! ## Score computation -/

/-- The counters of the protocol are the only other thing the bookkeeping touches. -/
theorem incrementSubjectsScored_spec (h : incrementSubjectsScored s = .ok s') :
    ∃ protocolStats, s' = { s with protocolStats } := by
  simp only [incrementSubjectsScored, Outcome.bind_eq_ok, Except.ok.injEq] at h
  obtain ⟨total, _, rfl⟩ := h
  exact ⟨_, rfl⟩

/-- The repayments are counted while there is room. -/
theorem incrementRepaymentsRecorded_spec (h : incrementRepaymentsRecorded s = .ok s') :
    s.protocolStats.totalRepaymentsRecorded + 1 ≤ U64.max ∧ s' = { s with
      protocolStats := { s.protocolStats with
        totalRepaymentsRecorded := s.protocolStats.totalRepaymentsRecorded + 1 } } := by
  simp only [incrementRepaymentsRecorded, Outcome.bind_eq_ok, Outcome.okOr_eq_ok,
    U64.checkedAdd_eq_some, Except.ok.injEq] at h
  obtain ⟨_, ⟨hroom, rfl⟩, rfl⟩ := h
  exact ⟨hroom, rfl⟩

/-- When every record that is asked for is verified, the loop counts them all. -/
theorem linkedVcLoop_count {identityOracleId subject : Address} {records : List IdentityVCRecord}
    (hverified : ∀ record ∈ records, ∀ verified,
      host.verifyVc world identityOracleId subject record.vcHash = some verified → verified = true)
    {vcPoints vcCount vcPoints' vcCount' : ℕ}
    (h : linkedVcLoop host env world s identityOracleId subject records (vcPoints, vcCount) =
      .ok (vcPoints', vcCount')) : vcCount' = vcCount + records.length := by
  induction records generalizing vcPoints vcCount with
  | nil => exact (Prod.mk.inj (Except.ok.inj h)).2.symm
  | cons record rest ih =>
    simp only [linkedVcLoop, Outcome.bind_eq_ok, Outcome.okOr_eq_ok] at h
    obtain ⟨verified, hanswer, h⟩ := h
    obtain rfl := hverified record List.mem_cons_self verified hanswer
    simp only [if_true, Outcome.bind_eq_ok, Outcome.okOr_eq_ok, U32.checkedAdd_eq_some] at h
    obtain ⟨_, ⟨_, rfl⟩, _, _, hrest⟩ := h
    have htail := ih (fun other hother => hverified other (List.mem_cons_of_mem _ hother)) hrest
    rw [htail, List.length_cons]
    omega

/-- The loop depends on what the identity oracle answers and on the points of a record. -/
theorem linkedVcLoop_congr {κ' : Type} {host' : Host κ'} {world' : κ'} {t : State} {a x : Address}
    (hverify : ∀ vcHash, host'.verifyVc world' a x vcHash = host.verifyVc world a x vcHash)
    (htype : ∀ vcHash,
      host'.getVcCredentialType world' a x vcHash = host.getVcCredentialType world a x vcHash)
    (hpoints : ∀ vcType record, recordPoints env t vcType record = recordPoints env s vcType record)
    (records : List IdentityVCRecord) (acc : ℕ × ℕ) :
    linkedVcLoop host' env world' t a x records acc = linkedVcLoop host env world s a x records acc := by
  induction records generalizing acc with
  | nil => rfl
  | cons record rest ih => simp only [linkedVcLoop, hverify, htype, hpoints, ih]

/-- With an identity oracle linked, points and count come from the records it verifies. -/
theorem resolveVcPoints_linked {identityOracleId subject : Address}
    (hlinked : s.identityOracleId = some identityOracleId) {resolved : Option (ℕ × ℕ)}
    (h : resolveVcPoints host env world s subject = .ok resolved) :
    ∃ deactivated, host.isDeactivated world identityOracleId subject = some deactivated ∧
      ((deactivated = true ∧ resolved = none) ∨
      (deactivated = false ∧ ∃ records acc, host.getVcDetails world identityOracleId subject = some records ∧
        linkedVcLoop host env world s identityOracleId subject records (0, 0) = .ok acc ∧
        resolved = some acc)) := by
  simp only [resolveVcPoints, hlinked, Outcome.bind_eq_ok, Outcome.okOr_eq_ok] at h
  obtain ⟨deactivated, hanswer, h⟩ := h
  refine ⟨deactivated, hanswer, ?_⟩
  cases deactivated with
  | true => exact Or.inl ⟨rfl, (Except.ok.inj h).symm⟩
  | false =>
    simp only [Bool.false_eq_true, if_false, Outcome.bind_eq_ok, Outcome.okOr_eq_ok, Except.ok.injEq] at h
    obtain ⟨records, hrecords, acc, hloop, rfl⟩ := h
    exact Or.inr ⟨rfl, records, acc, hrecords, hloop, rfl⟩

/-- A computed score agrees with the stored record on the four compared fields, or replaces it. -/
theorem storeScore_spec {subject : Address} {score vcCount repaymentRate : ℕ} {txVolume30d : ℤ}
    (h : storeScore env subject score vcCount repaymentRate txVolume30d s = .ok s') :
    (s' = s ∧ ∃ prev, s.score subject = some prev ∧ prev.score = score ∧ prev.vcCount = vcCount ∧
      prev.repaymentRate = repaymentRate ∧ prev.txVolume30d = txVolume30d) ∨
    ((∀ prev, s.score subject = some prev → ¬(prev.score = score ∧ prev.vcCount = vcCount ∧
      prev.repaymentRate = repaymentRate ∧ prev.txVolume30d = txVolume30d)) ∧
      ∃ protocolStats, s' = { s with
        protocolStats
        score := s.score.set subject
          { score, lastUpdated := env.ledger.timestamp, vcCount, repaymentRate, txVolume30d
            previousScore := (s.score subject).map (·.score)
            computedAtLedger := env.ledger.sequence, stale := false } }) := by
  unfold storeScore at h
  cases hprev : s.score subject with
  | none =>
    simp only [hprev, Outcome.bind_eq_ok, Except.ok.injEq] at h
    obtain ⟨counted, hcounted, rfl⟩ := h
    obtain ⟨protocolStats, rfl⟩ := incrementSubjectsScored_spec hcounted
    exact Or.inr ⟨by simp, protocolStats, rfl⟩
  | some prev =>
    simp only [hprev] at h
    split at h
    case isTrue hsame =>
      cases h
      exact Or.inl ⟨rfl, prev, rfl, hsame⟩
    case isFalse hdiffer =>
      cases h
      refine Or.inr ⟨?_, s.protocolStats, rfl⟩
      rintro _ ⟨⟩
      exact hdiffer

/-- A computation returns the minimum for a deactivated identity and changes nothing, or it
resolves the credentials, computes the score from the stored inputs and stores it. -/
theorem computeScore_spec {subject : Address} {v : ℕ}
    (h : computeScore host env subject s world = .ok (v, s')) :
    s.paused.getD false = false ∧ checkComputeCooldown env s subject = .ok () ∧
      ∃ repayment, loadRepaymentForScore s subject = .ok repayment ∧
        ((v = minScore ∧ s' = s ∧ resolveVcPoints host env world s subject = .ok none) ∨
        ∃ vcPoints vcCount weights,
          resolveVcPoints host env world s subject = .ok (some (vcPoints, vcCount)) ∧
          s.config = some weights ∧
          v = computeScorePure (min vcPoints 100) (loadTxStats s subject).volume30d
            (loadTxStats s subject).avgCounterparties repayment.onTimeCount repayment.totalCount
            repayment.totalRepaid weights.vcWeight weights.txWeight weights.repaymentWeight ∧
          storeScore env subject v vcCount (repaymentRateOf repayment) (loadTxStats s subject).volume30d s =
            .ok s') := by
  simp only [computeScore, Outcome.bind_eq_ok, ensureNotPaused_eq_ok] at h
  obtain ⟨_, hpaused, _, hcooldown, repayment, hrepayment, resolved, hresolved, h⟩ := h
  refine ⟨hpaused, hcooldown, repayment, hrepayment, ?_⟩
  cases resolved with
  | none =>
    cases h
    exact Or.inl ⟨rfl, rfl, hresolved⟩
  | some acc =>
    obtain ⟨vcPoints, vcCount⟩ := acc
    simp only [Outcome.bind_eq_ok, Outcome.okOr_eq_ok, Except.ok.injEq, Prod.mk.injEq] at h
    obtain ⟨weights, hweights, stored, hstored, rfl, rfl⟩ := h
    exact Or.inr ⟨vcPoints, vcCount, weights, hresolved, hweights, rfl, hstored⟩

/-- A computation writes the score and the counters only. -/
theorem computeScore_writes {subject : Address} {v : ℕ}
    (h : computeScore host env subject s world = .ok (v, s')) :
    ∃ score protocolStats, s' = { s with score, protocolStats } := by
  obtain ⟨-, -, repayment, -, ⟨-, rfl, -⟩ | ⟨vcPoints, vcCount, weights, -, -, -, hstored⟩⟩ :=
    computeScore_spec h
  · exact ⟨s'.score, s'.protocolStats, rfl⟩
  · rcases storeScore_spec hstored with ⟨rfl, -⟩ | ⟨-, protocolStats, rfl⟩
    · exact ⟨s'.score, s'.protocolStats, rfl⟩
    · exact ⟨_, protocolStats, rfl⟩

/-! ## One call -/

/-- The admin role, the weights, the linked identity oracle and the scores. -/
structure Core where
  admin : Option Address
  pendingAdmin : Option Address
  config : Option ScoringWeights
  pendingWeights : Option ScoringWeights
  pendingWeightsEffectiveLedger : Option ℕ
  identityOracleId : Option Address
  score : Storage Address ScoreRecord

def State.core (s : State) : Core where
  admin := s.admin
  pendingAdmin := s.pendingAdmin
  config := s.config
  pendingWeights := s.pendingWeights
  pendingWeightsEffectiveLedger := s.pendingWeightsEffectiveLedger
  identityOracleId := s.identityOracleId
  score := s.score

/-- A computation only touches the scores. -/
theorem computeScore_core {subject : Address} {v : ℕ}
    (h : computeScore host env subject s world = .ok (v, s')) :
    s'.core = { s.core with score := s'.score } := by
  obtain ⟨score, protocolStats, rfl⟩ := computeScore_writes h
  rfl

/-- The calls that write score inputs, registrations, disputes and settings only. -/
def Call.IsOther : Call → Prop
  | .setComputeCooldownLedgers _ _ | .registerFeeder _ _ | .deregisterFeeder _ _ => True
  | .registerLender _ _ | .deregisterLender _ _ | .pause _ | .unpause _ => True
  | .updateTxStats _ _ _ | .recordRepayment _ _ _ _ | .migrate _ | .setVcCount _ _ _ => True
  | .setVcTypeWeight _ _ _ | .setRecencyDecay _ _ _ _ | .anchorVc _ _ _ _ => True
  | .flagScoreInput _ _ _ | .resolveDispute _ _ _ => True
  | _ => False

/-- What these calls write, with the gates they passed. -/
inductive Writes (env : Env) (s : State) : Call → State → Prop
  | cooldownSet {admin : Address} {ledgers : ℕ} (hadmin : s.admin = some admin)
      (hauth : env.Authorized admin) (hledgers : ledgers ≠ 0 ∧ ledgers ≤ maxComputeCooldownLedgers) :
      Writes env s (.setComputeCooldownLedgers admin ledgers)
        { s with computeCooldownLedgers := some ledgers }
  | feederRegistered {admin feeder : Address} (hadmin : s.admin = some admin)
      (hauth : env.Authorized admin) :
      Writes env s (.registerFeeder admin feeder) { s with
        feedersIndex := indexAdd s.feedersIndex feeder
        trustedFeeder := s.trustedFeeder.set feeder true }
  | feederDeregistered {admin feeder : Address} (hadmin : s.admin = some admin)
      (hauth : env.Authorized admin) :
      Writes env s (.deregisterFeeder admin feeder)
        { s with trustedFeeder := s.trustedFeeder.set feeder false }
  | lenderRegistered {admin lender : Address} (hadmin : s.admin = some admin)
      (hauth : env.Authorized admin) :
      Writes env s (.registerLender admin lender) { s with
        lendersIndex := indexAdd s.lendersIndex lender
        trustedLender := s.trustedLender.set lender true }
  | lenderDeregistered {admin lender : Address} (hadmin : s.admin = some admin)
      (hauth : env.Authorized admin) :
      Writes env s (.deregisterLender admin lender)
        { s with trustedLender := s.trustedLender.set lender false }
  | paused {admin : Address} (hadmin : s.admin = some admin) (hauth : env.Authorized admin) :
      Writes env s (.pause admin) { s with paused := some true }
  | unpaused {admin : Address} (hadmin : s.admin = some admin) (hauth : env.Authorized admin) :
      Writes env s (.unpause admin) { s with paused := some false }
  | typeWeightSet {admin : Address} {typeName : CredentialType} {weight : ℕ}
      (hadmin : s.admin = some admin) (hauth : env.Authorized admin) :
      Writes env s (.setVcTypeWeight admin typeName weight)
        { s with vcWeight := s.vcWeight.set typeName weight }
  | recencyDecaySet {admin : Address} {enabled : Bool} {decayBpsPerDay minRecencyBps : ℕ}
      (hadmin : s.admin = some admin) (hauth : env.Authorized admin)
      (hfloor : minRecencyBps ≤ bpsDenominator) :
      Writes env s (.setRecencyDecay admin enabled decayBpsPerDay minRecencyBps) { s with
        recencyDecayEnabled := some enabled
        decayBpsPerDay := some decayBpsPerDay
        minRecencyBps := some minRecencyBps }
  | txStatsUpdated {feeder subject : Address} {stats : TxStats} (hpaused : s.paused.getD false = false)
      (hauth : env.Authorized feeder) (htrusted : isTrustedFeeder s feeder = true) :
      Writes env s (.updateTxStats feeder subject stats)
        { s with txStats := s.txStats.set subject stats }
  | vcCountSet {feeder subject : Address} {count : ℕ} (hpaused : s.paused.getD false = false)
      (hauth : env.Authorized feeder) (htrusted : isTrustedFeeder s feeder = true) :
      Writes env s (.setVcCount feeder subject count) { s with vcCount := s.vcCount.set subject count }
  | vcListed {feeder user : Address} {vcId : BytesN 32} {vcType : Option Symbol}
      (hpaused : s.paused.getD false = false) (hauth : env.Authorized feeder)
      (htrusted : isTrustedFeeder s feeder = true)
      (hnew : (getVcList s user).any (fun entry => entry.vcId = vcId) = false) :
      Writes env s (.anchorVc feeder user vcId vcType)
        { s with vcList := s.vcList.set user (getVcList s user ++ [{ vcId, vcType }]) }
  | vcKept {feeder user : Address} {vcId : BytesN 32} {vcType : Option Symbol}
      (hpaused : s.paused.getD false = false) (hauth : env.Authorized feeder)
      (htrusted : isTrustedFeeder s feeder = true)
      (hold : (getVcList s user).any (fun entry => entry.vcId = vcId) = true) :
      Writes env s (.anchorVc feeder user vcId vcType) s
  | repaymentRecorded {lender subject : Address} {amount : ℤ} {onTime : Bool} {entry : StoredRepayment}
      (hamount : 0 < amount) (hpaused : s.paused.getD false = false) (hauth : env.Authorized lender)
      (htrusted : isTrustedLender s lender = true)
      (hentry : addRepayment subject amount onTime s = .ok entry)
      (hroom : s.protocolStats.totalRepaymentsRecorded + 1 ≤ U64.max) :
      Writes env s (.recordRepayment lender subject amount onTime) { s with
        repaymentRecord := s.repaymentRecord.set subject entry
        protocolStats := { s.protocolStats with
          totalRepaymentsRecorded := s.protocolStats.totalRepaymentsRecorded + 1 } }
  | migrated {subjects : List Address} {admin : Address} {entries : Storage Address StoredRepayment}
      (hadmin : s.admin = some admin) (hauth : env.Authorized admin)
      (hloop : migrateLoop subjects s.repaymentRecord = .ok entries) :
      Writes env s (.migrate subjects) { s with repaymentRecord := entries, storageVersion := some 2 }
  | disputeFiled {subject : Address} {inputKey : Symbol} {reason : HostString}
      (hauth : env.Authorized subject) (hkey : inputKey ∈ inputKeys)
      (hclosed : (s.dispute (subject, inputKey)).all (fun existing => existing.status ≠ .pending) = true) :
      Writes env s (.flagScoreInput subject inputKey reason) { s with
        dispute := s.dispute.set (subject, inputKey)
          { subject, inputKey, reason, filedAtLedger := env.ledger.sequence, status := .pending }
        disputeIndex :=
          if inputKey ∈ (s.disputeIndex subject).getD [] then s.disputeIndex
          else s.disputeIndex.set subject ((s.disputeIndex subject).getD [] ++ [inputKey]) }
  | disputeResolved {subject : Address} {inputKey : Symbol} {accepted : Bool} {admin : Address}
      {record : DisputeRecord} (hadmin : s.admin = some admin) (hauth : env.Authorized admin)
      (hrecord : s.dispute (subject, inputKey) = some record) (hpending : record.status = .pending) :
      Writes env s (.resolveDispute subject inputKey accepted) { s with
        dispute := s.dispute.set (subject, inputKey)
          { record with status := if accepted then .resolved else .rejected } }

/-- They leave the admin role, the weights, the linked identity oracle and the scores alone. -/
theorem Writes.core (h : Writes env s call s') : s'.core = s.core := by
  cases h <;> rfl

/-- These calls write what their name says. -/
theorem exec_writes (hcall : call.IsOther) (h : exec host env call s world = .ok (s', world')) :
    Writes env s call s' := by
  cases call <;> simp only [exec, alone_eq_ok, Outcome.map_snd_eq_ok] at h
  case setComputeCooldownLedgers admin ledgers =>
    simp only [setComputeCooldownLedgers, Outcome.bind_eq_ok, Outcome.okOr_eq_ok,
      Outcome.require_eq_ok, requireAuth_eq_ok, Except.ok.injEq] at h
    obtain ⟨⟨_, hadmin, _, rfl, _, hledgers, _, hauth, rfl⟩, -⟩ := h
    exact .cooldownSet hadmin hauth hledgers
  case registerFeeder admin feeder =>
    simp only [registerFeeder, Outcome.bind_eq_ok, requireNamedAdmin_eq_ok, Except.ok.injEq] at h
    obtain ⟨⟨_, ⟨hadmin, hauth⟩, rfl⟩, -⟩ := h
    exact .feederRegistered hadmin hauth
  case deregisterFeeder admin feeder =>
    simp only [deregisterFeeder, Outcome.bind_eq_ok, requireNamedAdmin_eq_ok, Except.ok.injEq] at h
    obtain ⟨⟨_, ⟨hadmin, hauth⟩, rfl⟩, -⟩ := h
    exact .feederDeregistered hadmin hauth
  case registerLender admin lender =>
    simp only [registerLender, Outcome.bind_eq_ok, requireNamedAdmin_eq_ok, Except.ok.injEq] at h
    obtain ⟨⟨_, ⟨hadmin, hauth⟩, rfl⟩, -⟩ := h
    exact .lenderRegistered hadmin hauth
  case deregisterLender admin lender =>
    simp only [deregisterLender, Outcome.bind_eq_ok, requireNamedAdmin_eq_ok, Except.ok.injEq] at h
    obtain ⟨⟨_, ⟨hadmin, hauth⟩, rfl⟩, -⟩ := h
    exact .lenderDeregistered hadmin hauth
  case pause admin =>
    simp only [pause, setPaused, Outcome.bind_eq_ok, requireNamedAdmin_eq_ok, Except.ok.injEq] at h
    obtain ⟨⟨_, ⟨hadmin, hauth⟩, rfl⟩, -⟩ := h
    exact .paused hadmin hauth
  case unpause admin =>
    simp only [unpause, setPaused, Outcome.bind_eq_ok, requireNamedAdmin_eq_ok, Except.ok.injEq] at h
    obtain ⟨⟨_, ⟨hadmin, hauth⟩, rfl⟩, -⟩ := h
    exact .unpaused hadmin hauth
  case setVcTypeWeight admin typeName weight =>
    simp only [setVcTypeWeight, Outcome.bind_eq_ok, requireNamedAdmin_eq_ok, Except.ok.injEq] at h
    obtain ⟨⟨_, ⟨hadmin, hauth⟩, rfl⟩, -⟩ := h
    exact .typeWeightSet hadmin hauth
  case setRecencyDecay admin enabled decayBpsPerDay minRecencyBps =>
    simp only [setRecencyDecay, Outcome.bind_eq_ok, requireNamedAdmin_eq_ok, Outcome.require_eq_ok,
      Except.ok.injEq] at h
    obtain ⟨⟨_, ⟨hadmin, hauth⟩, _, hfloor, rfl⟩, -⟩ := h
    exact .recencyDecaySet hadmin hauth hfloor
  case updateTxStats feeder subject stats =>
    simp only [updateTxStats, Outcome.bind_eq_ok, requireFeeder_eq_ok, Except.ok.injEq] at h
    obtain ⟨⟨_, ⟨hpaused, hauth, htrusted⟩, rfl⟩, -⟩ := h
    exact .txStatsUpdated hpaused hauth htrusted
  case setVcCount feeder subject count =>
    simp only [setVcCount, Outcome.bind_eq_ok, requireFeeder_eq_ok, Except.ok.injEq] at h
    obtain ⟨⟨_, ⟨hpaused, hauth, htrusted⟩, rfl⟩, -⟩ := h
    exact .vcCountSet hpaused hauth htrusted
  case anchorVc feeder user vcId vcType =>
    simp only [anchorVc, Outcome.bind_eq_ok, requireFeeder_eq_ok] at h
    obtain ⟨⟨_, ⟨hpaused, hauth, htrusted⟩, h⟩, -⟩ := h
    split at h
    case isTrue hold =>
      cases h
      exact .vcKept hpaused hauth htrusted hold
    case isFalse hnew =>
      cases h
      exact .vcListed hpaused hauth htrusted (Bool.eq_false_of_not_eq_true hnew)
  case recordRepayment lender subject amount onTime =>
    simp only [recordRepayment, Outcome.bind_eq_ok, Outcome.require_eq_ok, ensureNotPaused_eq_ok,
      requireAuth_eq_ok] at h
    obtain ⟨⟨_, hamount, _, hpaused, _, hauth, _, htrusted, entry, hentry, hcounted⟩, -⟩ := h
    obtain ⟨hroom, rfl⟩ := incrementRepaymentsRecorded_spec hcounted
    exact .repaymentRecorded hamount hpaused hauth htrusted hentry hroom
  case migrate subjects =>
    simp only [migrate, Outcome.bind_eq_ok, requireStoredAdmin_eq_ok, Except.ok.injEq] at h
    obtain ⟨⟨_, ⟨admin, hadmin, hauth⟩, entries, hloop, rfl⟩, -⟩ := h
    exact .migrated hadmin hauth hloop
  case flagScoreInput subject inputKey reason =>
    simp only [flagScoreInput, Outcome.bind_eq_ok, Outcome.require_eq_ok, requireAuth_eq_ok] at h
    obtain ⟨⟨_, hauth, _, hkey, _, hclosed, h⟩, -⟩ := h
    have hfiled : Writes env s (.flagScoreInput subject inputKey reason) _ :=
      .disputeFiled hauth hkey hclosed
    split at h
    case isTrue hindexed =>
      cases h
      rwa [if_pos hindexed] at hfiled
    case isFalse hindexed =>
      cases h
      rwa [if_neg hindexed] at hfiled
  case resolveDispute subject inputKey accepted =>
    simp only [resolveDispute, Outcome.bind_eq_ok, requireStoredAdmin_eq_ok, Outcome.okOr_eq_ok,
      Outcome.require_eq_ok, Except.ok.injEq] at h
    obtain ⟨⟨_, ⟨admin, hadmin, hauth⟩, record, hrecord, _, hpending, rfl⟩, -⟩ := h
    exact .disputeResolved hadmin hauth hrecord hpending
  all_goals exact hcall.elim

/-- What a successful call does to the state, with the gates it passed. -/
inductive Effect (host : Host κ) (env : Env) (s : State) (world : κ) : Call → State → Prop
  | initialized {admin : Address} (hadmin : s.admin = none) :
      Effect host env s world (.initializeContract admin) { s with
        admin := some admin
        config := some { vcWeight := 40, txWeight := 30, repaymentWeight := 30 }
        computeCooldownLedgers := some defaultComputeCooldownLedgers
        storageVersion := some 2 }
  | weightsProposed {weights : ScoringWeights} {admin : Address} (hvalid : weights.Valid)
      (hadmin : s.admin = some admin) (hauth : env.Authorized admin) :
      Effect host env s world (.proposeWeights weights) { s with
        pendingWeights := some weights
        pendingWeightsEffectiveLedger := some (env.ledger.sequence + timelockLedgers) }
  | weightsApplied {weights : ScoringWeights} {effectiveLedger : ℕ}
      (hpending : s.pendingWeights = some weights)
      (heffective : s.pendingWeightsEffectiveLedger = some effectiveLedger)
      (htime : effectiveLedger ≤ env.ledger.sequence) :
      Effect host env s world .applyWeights { s with
        config := some weights
        pendingWeights := none
        pendingWeightsEffectiveLedger := none }
  | adminProposed {newAdmin admin : Address} (hadmin : s.admin = some admin)
      (hauth : env.Authorized admin) :
      Effect host env s world (.proposeNewAdmin newAdmin) { s with pendingAdmin := some newAdmin }
  | adminAccepted {newAdmin : Address} (hauth : env.Authorized newAdmin)
      (hpending : s.pendingAdmin = some newAdmin) :
      Effect host env s world (.acceptAdmin newAdmin) { s with
        admin := some newAdmin
        pendingAdmin := none
        governanceId := if newAdmin.isContract then some newAdmin else none }
  | identityLinked {admin identityOracleId : Address} (hadmin : s.admin = some admin) :
      Effect host env s world (.setIdentityOracle admin identityOracleId)
        { s with identityOracleId := some identityOracleId }
  | scoreComputed {subject : Address} {v : ℕ} {s' : State}
      (hcompute : computeScore host env subject s world = .ok (v, s')) :
      Effect host env s world (.computeScore subject) s'
  | other {call : Call} {s' : State} (hcall : call.IsOther) (hcore : s'.core = s.core) :
      Effect host env s world call s'

/-- A successful call has one of these effects. -/
theorem exec_effect (h : exec host env call s world = .ok (s', world')) :
    Effect host env s world call s' := by
  by_cases hother : call.IsOther
  · exact .other hother (exec_writes hother h).core
  cases call <;> simp only [exec, alone_eq_ok, Outcome.map_snd_eq_ok] at h
  case initializeContract admin =>
    obtain ⟨hadmin, -, rfl⟩ := initializeContract_spec h.1
    exact .initialized hadmin
  case proposeWeights weights =>
    obtain ⟨hvalid, ⟨admin, hadmin, hauth⟩, rfl⟩ := proposeWeights_spec h.1
    exact .weightsProposed hvalid hadmin hauth
  case applyWeights =>
    obtain ⟨-, weights, effectiveLedger, hpending, heffective, htime, rfl⟩ := applyWeights_spec h.1
    exact .weightsApplied hpending heffective htime
  case proposeNewAdmin newAdmin =>
    obtain ⟨⟨admin, hadmin, hauth⟩, rfl⟩ := proposeNewAdmin_spec h.1
    exact .adminProposed hadmin hauth
  case acceptAdmin newAdmin =>
    obtain ⟨hauth, hpending, rfl⟩ := acceptAdmin_spec h.1
    exact .adminAccepted hauth hpending
  case setIdentityOracle admin identityOracleId =>
    obtain ⟨⟨hadmin, -⟩, -, rfl⟩ := setIdentityOracle_spec h
    exact .identityLinked hadmin
  case computeScore subject =>
    obtain ⟨⟨v, hcompute⟩, -⟩ := h
    exact .scoreComputed hcompute
  all_goals exact absurd trivial hother

/-- A score only changes by a computation, which remembers its ledger. -/
theorem Effect.score_cases (heffect : Effect host env s world call s') (x : Address) :
    s'.score x = s.score x ∨
      ∃ record, s'.score x = some record ∧ record.computedAtLedger = env.ledger.sequence := by
  cases heffect with
  | @scoreComputed subject v _ hcompute =>
    obtain ⟨-, -, repayment, -, ⟨-, rfl, -⟩ | ⟨vcPoints, vcCount, weights, -, -, -, hstored⟩⟩ :=
      computeScore_spec hcompute
    · exact Or.inl rfl
    · rcases storeScore_spec hstored with ⟨rfl, -⟩ | ⟨-, protocolStats, rfl⟩
      · exact Or.inl rfl
      · by_cases hx : x = subject
        · subst hx
          exact Or.inr ⟨_, Storage.set_self _ _ _, rfl⟩
        · exact Or.inl (Storage.set_of_ne _ _ hx)
  | other hcall hcore => exact Or.inl (congrFun (congrArg Core.score hcore) x)
  | _ => exact Or.inl rfl

/-- Nothing but the probe of `set_identity_oracle` can change the rest of the ledger. -/
theorem exec_world (h : exec host env call s world = .ok (s', world')) :
    (world' = world ∧ ∀ admin identityOracleId, call ≠ .setIdentityOracle admin identityOracleId) ∨
    ∃ admin identityOracleId count, call = .setIdentityOracle admin identityOracleId ∧
      host.getActiveVcCount world identityOracleId env.currentContract = some (count, world') := by
  cases call <;> simp only [exec, alone_eq_ok] at h
  case setIdentityOracle admin identityOracleId =>
    obtain ⟨-, ⟨count, hprobe⟩, -⟩ := setIdentityOracle_spec h
    exact Or.inr ⟨admin, identityOracleId, count, rfl, hprobe⟩
  all_goals exact Or.inl ⟨h.2, by simp⟩

end StellarDidCredit.CreditOracle
