import StellarDidCredit.Lib.Journal
import StellarDidCredit.CreditOracle.Disputes
import StellarDidCredit.CreditOracle.Registries

/-!
# The events of the credit oracle

What the entry points publish, and what a reader of the events knows about the contract. Reading
the whole log in order gives the admin role, the active and the pending weights with their ledger,
the trusted feeders and lenders in order, the settings, the types of the credentials of each user,
the stored score of each subject and the status of each dispute. The score inputs are not told.

A computation publishes its score also when the stored record stays as it is, and nothing for a
deactivated identity.
-/

namespace StellarDidCredit.CreditOracle

variable {κ : Type} {host : Host κ} {env : Env} {call : Call} {s s' : State} {world world' : κ}
  {subject : Address} {inputKey : Symbol}

/-- An event that the contract publishes. -/
inductive Notice where
  | initialized (admin : Address)
  | cooldownUpdated (ledgers : ℕ)
  | feederRegistered (feeder : Address)
  | feederDeregistered (feeder : Address)
  | lenderRegistered (lender : Address)
  | lenderDeregistered (lender : Address)
  | paused
  | unpaused
  | vcCountDeprecated (subject : Address) (count : ℕ)
  | vcTypeWeightSet (typeName : CredentialType) (weight : ℕ)
  | recencyDecaySet (enabled : Bool) (decayBpsPerDay minRecencyBps : ℕ)
  | vcAnchored (user : Address) (vcType : Option Symbol)
  | score (subject : Address) (score : ℕ)
  | weightsProposed (vcWeight txWeight repaymentWeight effectiveLedger : ℕ)
  | weightsApplied (vcWeight txWeight repaymentWeight : ℕ)
  | identityOracleUpdated (identityOracleId : Address)
  | adminProposed (newAdmin : Address)
  | adminAccepted (newAdmin : Address)
  | disputeFiled (subject : Address) (inputKey : Symbol)
  | disputeResolved (subject : Address) (inputKey : Symbol)
  | disputeRejected (subject : Address) (inputKey : Symbol)
  deriving DecidableEq, Repr

/-- A computation for a deactivated identity returns before it publishes. -/
def scoreNotices (host : Host κ) (env : Env) (subject : Address) (s : State) (world : κ) : List Notice :=
  match computeScore host env subject s world, resolveVcPoints host env world s subject with
  | .ok (score, _), .ok (some _) => [.score subject score]
  | _, _ => []

/-- What a successful call publishes. -/
def Call.notices (host : Host κ) (env : Env) (s : State) (world : κ) : Call → List Notice
  | .initializeContract admin => [.initialized admin]
  | .setComputeCooldownLedgers _ ledgers => [.cooldownUpdated ledgers]
  | .registerFeeder _ feeder => [.feederRegistered feeder]
  | .deregisterFeeder _ feeder => [.feederDeregistered feeder]
  | .registerLender _ lender => [.lenderRegistered lender]
  | .deregisterLender _ lender => [.lenderDeregistered lender]
  | .pause _ => [.paused]
  | .unpause _ => [.unpaused]
  | .updateTxStats _ _ _ => []
  | .recordRepayment _ _ _ _ => []
  | .migrate _ => []
  | .setVcCount _ subject count =>
    if s.identityOracleId.isSome then [.vcCountDeprecated subject count] else []
  | .setVcTypeWeight _ typeName weight => [.vcTypeWeightSet typeName weight]
  | .setRecencyDecay _ enabled decayBpsPerDay minRecencyBps =>
    [.recencyDecaySet enabled decayBpsPerDay minRecencyBps]
  | .anchorVc _ user vcId vcType =>
    if (getVcList s user).any (fun entry => entry.vcId = vcId) then [] else [.vcAnchored user vcType]
  | .computeScore subject => scoreNotices host env subject s world
  | .proposeWeights weights =>
    [.weightsProposed weights.vcWeight weights.txWeight weights.repaymentWeight
      (env.ledger.sequence + timelockLedgers)]
  | .applyWeights =>
    s.pendingWeights.elim [] fun weights =>
      [.weightsApplied weights.vcWeight weights.txWeight weights.repaymentWeight]
  | .setIdentityOracle _ identityOracleId => [.identityOracleUpdated identityOracleId]
  | .proposeNewAdmin newAdmin => [.adminProposed newAdmin]
  | .acceptAdmin newAdmin => [.adminAccepted newAdmin]
  | .flagScoreInput subject inputKey _ => [.disputeFiled subject inputKey]
  | .resolveDispute subject inputKey accepted =>
    [if accepted then .disputeResolved subject inputKey else .disputeRejected subject inputKey]

/-- The events of a history, in order. -/
def noticesOf (history : List Move) : List Notice :=
  journal (fun c e => e.call.notices e.host e.env c.state ()) history

/-! ## Reading them -/

/-- What a reader of the events knows. -/
structure View where
  paused : Bool := false
  admin : Option Address := none
  pendingAdmin : Option Address := none
  governanceId : Option Address := none
  config : Option ScoringWeights := none
  pendingWeights : Option ScoringWeights := none
  pendingWeightsEffectiveLedger : Option ℕ := none
  computeCooldownLedgers : Option ℕ := none
  recencyDecay : RecencyDecayConfig :=
    { enabled := false, decayBpsPerDay := defaultDecayBpsPerDay, minRecencyBps := defaultMinRecencyBps }
  identityOracleId : Option Address := none
  vcWeight : Storage CredentialType ℕ := Storage.empty
  feeders : FlagIndex Address := ⟨Storage.empty, []⟩
  lenders : FlagIndex Address := ⟨Storage.empty, []⟩
  /-- The type tags of the credentials of a user, in order. -/
  vcTypes : Address → List (Option Symbol) := fun _ => []
  scores : Storage Address ℕ := Storage.empty
  subjectsScored : ℕ := 0
  disputes : Storage (Address × Symbol) DisputeStatus := Storage.empty
  disputedKeys : Address → List Symbol := fun _ => []

/-- The same of the stored entries. -/
def State.view (s : State) : View where
  paused := s.paused.getD false
  admin := s.admin
  pendingAdmin := s.pendingAdmin
  governanceId := s.governanceId
  config := s.config
  pendingWeights := s.pendingWeights
  pendingWeightsEffectiveLedger := s.pendingWeightsEffectiveLedger
  computeCooldownLedgers := s.computeCooldownLedgers
  recencyDecay := loadRecencyConfig s
  identityOracleId := s.identityOracleId
  vcWeight := s.vcWeight
  feeders := s.feeders
  lenders := s.lenders
  vcTypes user := (getVcList s user).map (·.vcType)
  scores := s.score.mapValues (·.score)
  subjectsScored := s.protocolStats.totalSubjectsScored
  disputes := s.dispute.mapValues (·.status)
  disputedKeys := CreditOracle.disputedKeys s

/-- One more event. -/
def View.read (v : View) : Notice → View
  | .initialized admin =>
    { v with
      admin := some admin
      config := some { vcWeight := 40, txWeight := 30, repaymentWeight := 30 }
      computeCooldownLedgers := some defaultComputeCooldownLedgers }
  | .cooldownUpdated ledgers => { v with computeCooldownLedgers := some ledgers }
  | .feederRegistered feeder => { v with feeders := v.feeders.tombstoned (some ⟨feeder, true⟩) }
  | .feederDeregistered feeder => { v with feeders := v.feeders.tombstoned (some ⟨feeder, false⟩) }
  | .lenderRegistered lender => { v with lenders := v.lenders.tombstoned (some ⟨lender, true⟩) }
  | .lenderDeregistered lender => { v with lenders := v.lenders.tombstoned (some ⟨lender, false⟩) }
  | .paused => { v with paused := true }
  | .unpaused => { v with paused := false }
  | .vcCountDeprecated _ _ => v
  | .vcTypeWeightSet typeName weight => { v with vcWeight := v.vcWeight.set typeName weight }
  | .recencyDecaySet enabled decayBpsPerDay minRecencyBps =>
    { v with recencyDecay := { enabled, decayBpsPerDay, minRecencyBps } }
  | .vcAnchored user vcType => { v with vcTypes := Function.update v.vcTypes user (v.vcTypes user ++ [vcType]) }
  | .score subject score =>
    { v with
      scores := v.scores.set subject score
      subjectsScored := if (v.scores subject).isSome then v.subjectsScored else v.subjectsScored + 1 }
  | .weightsProposed vcWeight txWeight repaymentWeight effectiveLedger =>
    { v with
      pendingWeights := some { vcWeight, txWeight, repaymentWeight }
      pendingWeightsEffectiveLedger := some effectiveLedger }
  | .weightsApplied vcWeight txWeight repaymentWeight =>
    { v with
      config := some { vcWeight, txWeight, repaymentWeight }
      pendingWeights := none
      pendingWeightsEffectiveLedger := none }
  | .identityOracleUpdated identityOracleId => { v with identityOracleId := some identityOracleId }
  | .adminProposed newAdmin => { v with pendingAdmin := some newAdmin }
  | .adminAccepted newAdmin =>
    { v with
      admin := some newAdmin
      pendingAdmin := none
      governanceId := if newAdmin.isContract then some newAdmin else none }
  | .disputeFiled subject inputKey =>
    { v with
      disputes := v.disputes.set (subject, inputKey) .pending
      disputedKeys := Function.update v.disputedKeys subject (enlist (v.disputedKeys subject) inputKey) }
  | .disputeResolved subject inputKey => { v with disputes := v.disputes.set (subject, inputKey) .resolved }
  | .disputeRejected subject inputKey => { v with disputes := v.disputes.set (subject, inputKey) .rejected }

/-- The event is one that the contract could publish in what was read before it. -/
def View.Allows (v : View) : Notice → Prop
  | .initialized _ => v.admin = none
  | .cooldownUpdated ledgers => v.admin.isSome ∧ ledgers ≠ 0 ∧ ledgers ≤ maxComputeCooldownLedgers
  | .feederRegistered _ | .feederDeregistered _ | .lenderRegistered _ | .lenderDeregistered _ => v.admin.isSome
  | .paused | .unpaused => v.admin.isSome
  | .vcCountDeprecated _ _ => v.paused = false ∧ v.identityOracleId.isSome
  | .vcTypeWeightSet _ _ => v.admin.isSome
  | .recencyDecaySet _ _ minRecencyBps => v.admin.isSome ∧ minRecencyBps ≤ bpsDenominator
  | .vcAnchored _ _ => v.paused = false
  | .score _ _ => v.paused = false ∧ v.config.isSome
  | .weightsProposed vcWeight txWeight repaymentWeight _ =>
    v.admin.isSome ∧ (ScoringWeights.mk vcWeight txWeight repaymentWeight).Valid
  | .weightsApplied vcWeight txWeight repaymentWeight =>
    v.paused = false ∧ v.pendingWeights = some { vcWeight, txWeight, repaymentWeight }
  | .identityOracleUpdated _ | .adminProposed _ => v.admin.isSome
  | .adminAccepted newAdmin => v.pendingAdmin = some newAdmin
  | .disputeFiled subject inputKey => inputKey ∈ inputKeys ∧ v.disputes (subject, inputKey) ≠ some .pending
  | .disputeResolved subject inputKey | .disputeRejected subject inputKey =>
    v.admin.isSome ∧ v.disputes (subject, inputKey) = some .pending

/-! ## One call -/

/-- A computation of a subject that is not deactivated publishes its score. -/
theorem scoreNotices_eq {score : ℕ} {acc : ℕ × ℕ} (h : computeScore host env subject s world = .ok (score, s'))
    (hresolved : resolveVcPoints host env world s subject = .ok (some acc)) :
    scoreNotices host env subject s world = [.score subject score] := by
  rw [scoreNotices, h, hresolved]

/-- A stored score moves the view as its event does. -/
theorem storeScore_view {score vcCount repaymentRate : ℕ} {txVolume30d : ℤ}
    (h : storeScore env subject score vcCount repaymentRate txVolume30d s = .ok s') :
    s'.view = s.view.read (.score subject score) := by
  unfold storeScore at h
  cases hprev : s.score subject with
  | none =>
    have hfirst : s.score.mapValues (·.score) subject = none := by rw [Storage.mapValues, hprev]; rfl
    simp only [hprev, incrementSubjectsScored, Outcome.bind_eq_ok, Outcome.okOr_eq_ok, U64.checkedAdd_eq_some,
      Except.ok.injEq] at h
    obtain ⟨_, ⟨total, ⟨-, rfl⟩, rfl⟩, rfl⟩ := h
    simp only [State.view, View.read, Storage.mapValues_set, hfirst]
    rfl
  | some prev =>
    have hsome : s.score.mapValues (·.score) subject = some prev.score := by rw [Storage.mapValues, hprev]; rfl
    simp only [hprev] at h
    split at h
    case isTrue hsame =>
      obtain rfl := Except.ok.inj h
      have hkept : s.score.mapValues (·.score) subject = some score := hsame.1 ▸ hsome
      simp only [State.view, View.read, Storage.set_eq_self hkept, hkept]
      rfl
    case isFalse =>
      obtain rfl := Except.ok.inj h
      simp only [State.view, View.read, Storage.mapValues_set, hsome]
      rfl

/-- A computation moves the view as its event does, if it has one. -/
theorem computeScore_view {score : ℕ} (h : computeScore host env subject s world = .ok (score, s')) :
    s'.view = (scoreNotices host env subject s world).foldl View.read s.view := by
  obtain ⟨-, -, repayment, -, ⟨-, rfl, hresolved⟩ | ⟨vcPoints, vcCount, weights, hresolved, -, -, hstored⟩⟩ :=
    computeScore_spec h
  · rw [scoreNotices, h, hresolved]
    rfl
  · rw [scoreNotices_eq h hresolved, storeScore_view hstored]
    rfl

/-- A filing moves the view as its event does. -/
theorem Filed.view {reason : HostString} (h : Filed env s subject inputKey reason s') :
    s'.view = s.view.read (.disputeFiled subject inputKey) := by
  have hkeys : CreditOracle.disputedKeys s' =
      Function.update (CreditOracle.disputedKeys s) subject
        (enlist (CreditOracle.disputedKeys s subject) inputKey) := by
    funext x
    rw [h.keys, Function.update_apply]
    split
    case isTrue hx => rw [hx]
    case isFalse => rfl
  have hview : s'.view = { s.view with disputes := s'.view.disputes, disputedKeys := s'.view.disputedKeys } := by
    rw [h.inputs]
    rfl
  rw [hview]
  simp only [State.view, View.read, h.dispute, Storage.mapValues_set, hkeys]

/-- A resolution moves the view as its event does. -/
theorem Settled.view {accepted : Bool} (h : Settled env s subject inputKey accepted s') :
    s'.view = s.view.read
      (if accepted then .disputeResolved subject inputKey else .disputeRejected subject inputKey) := by
  obtain ⟨record, -, -, hdispute⟩ := h.pending
  rw [h.inputs]
  cases accepted <;> simp only [State.view, hdispute, Storage.mapValues_set] <;> rfl

/-- A listed credential moves the view as its event does. -/
theorem vcListed_view {user : Address} {vcId : BytesN 32} {vcType : Option Symbol}
    (h : s' = { s with vcList := s.vcList.set user (getVcList s user ++ [{ vcId, vcType }]) }) :
    s'.view = s.view.read (.vcAnchored user vcType) := by
  subst h
  have hlists : (State.view { s with vcList := s.vcList.set user (getVcList s user ++ [⟨vcId, vcType⟩]) }).vcTypes =
      Function.update s.view.vcTypes user (s.view.vcTypes user ++ [vcType]) := by
    funext x
    simp only [State.view, getVcList, Storage.set_apply, Function.update_apply]
    split
    case isTrue => rw [Option.getD_some, List.map_append]; rfl
    case isFalse => rfl
  exact congrArg (fun vcTypes => { s.view with vcTypes }) hlists

/-- A successful call moves the view as its events do. -/
theorem view_of_exec (h : exec host env call s world = .ok (s', world')) :
    s'.view = (call.notices host env s world).foldl View.read s.view := by
  have hdisputes := exec_disputes h
  cases exec_effect h with
  | initialized | weightsProposed | adminProposed | adminAccepted | identityLinked => rfl
  | weightsApplied hpending =>
    rw [Call.notices, hpending]
    rfl
  | scoreComputed hcompute => exact computeScore_view hcompute
  | other hcall hcore =>
    cases exec_writes hcall h with
    | feederRegistered | lenderRegistered =>
      simp only [State.view, State.feeders, State.lenders, indexAdd_getD]
      rfl
    | vcCountSet =>
      rw [Call.notices]
      split <;> rfl
    | @vcListed feeder user vcId vcType hpaused hauth htrusted hnew =>
      simp only [Call.notices, hnew]
      exact vcListed_view rfl
    | vcKept hpaused hauth htrusted hold =>
      simp only [Call.notices, hold]
      rfl
    | disputeFiled =>
      cases hdisputes with
      | filed hfiled => exact hfiled.view
      | untouched hfiled => exact absurd rfl (hfiled _ _ _)
    | disputeResolved =>
      cases hdisputes with
      | settled hsettled => exact hsettled.view
      | untouched _ hsettled => exact absurd rfl (hsettled _ _ _)
    | _ => rfl

/-- What these calls publish is allowed. -/
theorem Writes.allows (h : Writes env s call s') :
    Checked View.read View.Allows s.view (call.notices host env s world) := by
  cases h with
  | cooldownSet hadmin hauth hledgers => exact ⟨⟨Option.isSome_of_eq_some hadmin, hledgers⟩, trivial⟩
  | recencyDecaySet hadmin hauth hfloor => exact ⟨⟨Option.isSome_of_eq_some hadmin, hfloor⟩, trivial⟩
  | vcCountSet hpaused =>
    rw [Call.notices]
    split
    case isTrue hlinked => exact ⟨⟨hpaused, hlinked⟩, trivial⟩
    case isFalse => trivial
  | vcListed hpaused hauth htrusted hnew =>
    simp only [Call.notices, hnew]
    exact ⟨hpaused, trivial⟩
  | vcKept hpaused hauth htrusted hold =>
    simp only [Call.notices, hold]
    trivial
  | txStatsUpdated | repaymentRecorded | migrated => trivial
  | disputeFiled hauth hkey hclosed =>
    refine ⟨⟨hkey, fun hopen => ?_⟩, trivial⟩
    obtain ⟨record, hrecord, hpending⟩ := Option.map_eq_some_iff.mp hopen
    simp [hrecord, hpending] at hclosed
  | @disputeResolved x k accepted admin record hadmin hauth hrecord hpending =>
    have hopen : s.view.disputes (x, k) = some .pending := Option.map_eq_some_iff.mpr ⟨record, hrecord, hpending⟩
    cases accepted <;> exact ⟨⟨Option.isSome_of_eq_some hadmin, hopen⟩, trivial⟩
  | feederRegistered hadmin | feederDeregistered hadmin | lenderRegistered hadmin | lenderDeregistered hadmin =>
    exact ⟨Option.isSome_of_eq_some hadmin, trivial⟩
  | paused hadmin | unpaused hadmin | typeWeightSet hadmin => exact ⟨Option.isSome_of_eq_some hadmin, trivial⟩

/-- What a successful call publishes is allowed. -/
theorem allows_of_exec (h : exec host env call s world = .ok (s', world')) :
    Checked View.read View.Allows s.view (call.notices host env s world) := by
  cases exec_effect h with
  | initialized hadmin => exact ⟨hadmin, trivial⟩
  | weightsProposed hvalid hadmin => exact ⟨⟨Option.isSome_of_eq_some hadmin, hvalid⟩, trivial⟩
  | weightsApplied hpending =>
    obtain ⟨hpaused, -⟩ := applyWeights_spec (alone_eq_ok.mp h).1
    rw [Call.notices, hpending]
    exact ⟨⟨hpaused, hpending⟩, trivial⟩
  | adminProposed hadmin => exact ⟨Option.isSome_of_eq_some hadmin, trivial⟩
  | adminAccepted hauth hpending => exact ⟨hpending, trivial⟩
  | identityLinked hadmin => exact ⟨Option.isSome_of_eq_some hadmin, trivial⟩
  | scoreComputed hcompute =>
    obtain ⟨hpaused, -, repayment, -, ⟨-, -, hresolved⟩ | ⟨vcPoints, vcCount, weights, hresolved, hweights, -⟩⟩ :=
      computeScore_spec hcompute
    · rw [Call.notices, scoreNotices, hcompute, hresolved]
      trivial
    · rw [Call.notices, scoreNotices_eq hcompute hresolved]
      exact ⟨⟨hpaused, Option.isSome_of_eq_some hweights⟩, trivial⟩
  | other hcall hcore => exact (exec_writes hcall h).allows

/-- The events of a successful call lead from the view before it to the one after it. -/
theorem reads_of_exec (h : exec host env call s world = .ok (s', world')) :
    Reads View.read View.Allows s.view (call.notices host env s world) s'.view :=
  ⟨view_of_exec h, allows_of_exec h⟩

/-! ## Filings and settlements -/

/-- One for an open dispute. -/
def openDispute (s : State) (subject : Address) (inputKey : Symbol) : ℕ :=
  if (getDispute s subject inputKey).map (·.status) = some .pending then 1 else 0

/-- Every filing of a dispute is settled, but for an open one. -/
def DisputesSettled (notices : List Notice) (s : State) : Prop :=
  ∀ subject inputKey, notices.count (.disputeFiled subject inputKey) =
    notices.count (.disputeResolved subject inputKey) + notices.count (.disputeRejected subject inputKey) +
      openDispute s subject inputKey

/-- A pending dispute is open. -/
theorem openDispute_of_pending {record : DisputeRecord} (hrecord : s.dispute (subject, inputKey) = some record)
    (hpending : record.status = .pending) : openDispute s subject inputKey = 1 := by
  rw [openDispute, getDispute, hrecord, Option.map_some, hpending, if_pos rfl]

/-- Nothing else is. -/
theorem openDispute_of_not_pending (h : ¬Pending s subject inputKey) : openDispute s subject inputKey = 0 := by
  refine if_neg fun hopen => h ?_
  obtain ⟨record, hrecord, hpending⟩ := Option.map_eq_some_iff.mp hopen
  exact ⟨record, hrecord, hpending⟩

/-- The open disputes after one was written. -/
theorem openDispute_set {x : Address} {k : Symbol} {record : DisputeRecord}
    (h : s'.dispute = s.dispute.set (x, k) record) (subject : Address) (inputKey : Symbol) :
    openDispute s' subject inputKey =
      if (subject, inputKey) = (x, k) then if record.status = .pending then 1 else 0
      else openDispute s subject inputKey := by
  simp only [openDispute, getDispute, h, Storage.set_apply]
  split <;> simp

/-- Calls about anything else publish nothing about disputes. -/
theorem count_notices_of_untouched (host : Host κ) (env : Env) (s : State) (world : κ)
    (hfiled : ∀ subject inputKey reason, call ≠ .flagScoreInput subject inputKey reason)
    (hsettled : ∀ subject inputKey accepted, call ≠ .resolveDispute subject inputKey accepted)
    (subject : Address) (inputKey : Symbol) :
    (call.notices host env s world).count (.disputeFiled subject inputKey) = 0 ∧
    (call.notices host env s world).count (.disputeResolved subject inputKey) = 0 ∧
    (call.notices host env s world).count (.disputeRejected subject inputKey) = 0 := by
  cases call
  case flagScoreInput x k reason => exact absurd rfl (hfiled x k reason)
  case resolveDispute x k accepted => exact absurd rfl (hsettled x k accepted)
  case setVcCount feeder x count =>
    rw [Call.notices]
    split <;> simp
  case anchorVc feeder user vcId vcType =>
    rw [Call.notices]
    split <;> simp
  case computeScore x =>
    rw [Call.notices, scoreNotices]
    split <;> simp
  case applyWeights =>
    rw [Call.notices]
    cases s.pendingWeights <;> simp
  all_goals simp [Call.notices]

/-- A successful call keeps every filing settled but for the open ones. -/
theorem DisputesSettled.step {notices : List Notice} (h : DisputesSettled notices s)
    (hexec : exec host env call s world = .ok (s', world')) :
    DisputesSettled (notices ++ call.notices host env s world) s' := by
  intro subject inputKey
  have hbefore := h subject inputKey
  simp only [List.count_append]
  cases exec_disputes hexec with
  | @filed x k reason hfiled =>
    have hclosed := openDispute_of_not_pending hfiled.closed
    simp only [Call.notices, List.count_singleton, openDispute_set hfiled.dispute]
    by_cases hsame : (subject, inputKey) = (x, k)
    · obtain ⟨rfl, rfl⟩ := Prod.mk.inj hsame
      simp
      omega
    · have hother : ¬(x = subject ∧ k = inputKey) := fun ⟨hx, hk⟩ => hsame (by rw [hx, hk])
      simp [hsame, hother]
      omega
  | @settled x k accepted hsettled =>
    obtain ⟨record, hrecord, hpending, hdispute⟩ := hsettled.pending
    have hopen := openDispute_of_pending hrecord hpending
    simp only [Call.notices, List.count_singleton, openDispute_set hdispute]
    by_cases hsame : (subject, inputKey) = (x, k)
    · obtain ⟨rfl, rfl⟩ := Prod.mk.inj hsame
      cases accepted <;> simp [outcomeStatus] <;> omega
    · have hother : ¬(x = subject ∧ k = inputKey) := fun ⟨hx, hk⟩ => hsame (by rw [hx, hk])
      cases accepted <;> simp [hsame, hother] <;> omega
  | untouched hfiled hsettled hdispute hindex =>
    obtain ⟨hnone, hresolved, hrejected⟩ :=
      count_notices_of_untouched host env s world hfiled hsettled subject inputKey
    have hsame : openDispute s' subject inputKey = openDispute s subject inputKey := by
      rw [openDispute, getDispute, hdispute]
      rfl
    omega

/-! ## The whole log -/

/-- A reader of all events of a credit oracle knows the admin role, the weights, the settings, the
feeders and lenders in order, the stored scores and the disputes; every event is one that the contract
could publish in what was read before it; and for every score input of every subject the filings are one
more than the settlements while a dispute is open, and as many otherwise. -/
theorem credit_notices_tell {ledger : Ledger} {history : List Move} {final : Config}
    (hrun : Run (StepOf Config.next) (.fresh ledger) history final) :
    (noticesOf history).foldl View.read {} = final.state.view ∧
    Checked View.read View.Allows {} (noticesOf history) ∧
    ∀ subject inputKey, (noticesOf history).count (.disputeFiled subject inputKey) =
      (noticesOf history).count (.disputeResolved subject inputKey) +
        (noticesOf history).count (.disputeRejected subject inputKey) +
          openDispute final.state subject inputKey := by
  have hreads : ∀ c (e : Event) c', True → StepOf Config.next c e c' →
      Reads View.read View.Allows c.state.view (e.call.notices e.host e.env c.state ()) c'.state.view :=
    fun _ _ _ _ hstep => reads_of_exec (Config.step_iff.mp hstep).2.2
  have hsettle : ∀ c (e : Event) c' notices, True → StepOf Config.next c e c' → DisputesSettled notices c.state →
      DisputesSettled (notices ++ e.call.notices e.host e.env c.state ()) c'.state :=
    fun _ _ _ _ _ hstep hbefore => hbefore.step (Config.step_iff.mp hstep).2.2
  have htold : Reads View.read View.Allows {} (noticesOf history) final.state.view :=
    hrun.reads_journal (fun c => c.state.view) _ (fun _ _ _ _ _ => trivial) hreads trivial
  have hstart : DisputesSettled [] (Config.fresh ledger).state := fun _ _ => rfl
  let Settled (notices : List Notice) (c : Config) : Prop := DisputesSettled notices c.state
  exact ⟨htold.view.symm, htold.checked,
    hrun.journal_invariant (P := Settled) _ (fun _ _ _ _ _ => trivial) hsettle trivial hstart⟩

/-- Disputes of one subject and a score of another. -/
theorem credit_notices_tell_sample : ∃ history final,
    Run (StepOf Config.next) (.fresh (.numbered 0)) history final ∧
    noticesOf history = [.initialized (.account 1), .disputeFiled (.account 1) "tx_stats",
      .disputeFiled (.account 1) "vc_count", .disputeRejected (.account 1) "tx_stats",
      .disputeFiled (.account 1) "tx_stats", .score (.account 3) 300] ∧
    (noticesOf history).foldl View.read {} = final.state.view := by
  obtain ⟨history, final, hrun, hobserved⟩ := Run.exists_of_replay
    (show (replay Config.next (.fresh (.numbered 0))
      (sampleDisputes ++ [sampleEvent 5 (.computeScore (.account 3))])).map (fun r => noticesOf r.1) =
      some [.initialized (.account 1), .disputeFiled (.account 1) "tx_stats",
        .disputeFiled (.account 1) "vc_count", .disputeRejected (.account 1) "tx_stats",
        .disputeFiled (.account 1) "tx_stats", .score (.account 3) 300] from by decide +kernel)
  exact ⟨history, final, hrun, hobserved, (credit_notices_tell hrun).1⟩

end StellarDidCredit.CreditOracle
