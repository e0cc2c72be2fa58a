import StellarDidCredit.Lib.Purge
import StellarDidCredit.CreditOracle.Disputes
import StellarDidCredit.CreditOracle.Statistics

/-!
# One subject among the others

Statistics, repayments, credentials, scores and disputes are stored per subject, and most calls are
about one subject. A run without its calls about other subjects is again a run of the contract: each
call left in it succeeds as before, and the settings and all that is stored about the subject are the
same at the end. Only the counters of the protocol are shared, and they can only be lower.
-/

namespace StellarDidCredit.CreditOracle

variable {κ : Type} {host : Host κ} {env : Env} {call : Call} {s s' t : State} {world world' : κ} {x : Address}
  {stats : ProtocolStats}

/-- The subject that a call is about, where it is about one. -/
def Call.about : Call → Option Address
  | .updateTxStats _ subject _ => some subject
  | .recordRepayment _ subject _ _ => some subject
  | .setVcCount _ subject _ => some subject
  | .anchorVc _ user _ _ => some user
  | .computeScore subject => some subject
  | .flagScoreInput subject _ _ => some subject
  | .resolveDispute subject _ _ => some subject
  | _ => none

/-- The calls that a subject can notice: those about it and those about no subject. -/
def Call.Concerns (x : Address) (call : Call) : Prop := call.about = none ∨ call.about = some x

instance : DecidablePred (Call.Concerns x) := fun _ => inferInstanceAs (Decidable (_ ∨ _))

/-- The settings and the entries of one subject, with the given counters. -/
def State.only (x : Address) (stats : ProtocolStats) (s : State) : State :=
  { s with
    txStats := s.txStats.restrict (· = x)
    repaymentRecord := s.repaymentRecord.restrict (· = x)
    score := s.score.restrict (· = x)
    vcCount := s.vcCount.restrict (· = x)
    vcList := s.vcList.restrict (· = x)
    dispute := s.dispute.restrict (·.1 = x)
    disputeIndex := s.disputeIndex.restrict (· = x)
    protocolStats := stats }

/-! ## What a call about the subject reads -/

section Reads

/-- The statistics of the subject are in its part of the state. -/
theorem txStats_only : (s.only x stats).txStats x = s.txStats x := Storage.restrict_of _ rfl

/-- So is its repayment record. -/
theorem repaymentRecord_only : (s.only x stats).repaymentRecord x = s.repaymentRecord x :=
  Storage.restrict_of _ rfl

/-- So is its score. -/
theorem score_only : (s.only x stats).score x = s.score x := Storage.restrict_of _ rfl

/-- So is its credential count. -/
theorem vcCount_only : (s.only x stats).vcCount x = s.vcCount x := Storage.restrict_of _ rfl

/-- So is its list of credentials. -/
theorem vcList_only : (s.only x stats).vcList x = s.vcList x := Storage.restrict_of _ rfl

/-- So are its disputes. -/
theorem dispute_only (key : Symbol) : (s.only x stats).dispute (x, key) = s.dispute (x, key) :=
  Storage.restrict_of (P := fun k : Address × Symbol => k.1 = x) s.dispute rfl

/-- To file a dispute of the subject is to file it in its part of the state. -/
theorem dispute_set_only (x : Address) (key : Symbol) (v : DisputeRecord) :
    (s.dispute.set (x, key) v).restrict (·.1 = x) = (s.dispute.restrict (·.1 = x)).set (x, key) v :=
  Storage.restrict_set_of (P := fun k : Address × Symbol => k.1 = x) s.dispute v rfl

/-- A dispute of somebody else is not in that part. -/
theorem dispute_set_ne {y : Address} (key : Symbol) (v : DisputeRecord) (h : y ≠ x) :
    (s.dispute.set (y, key) v).restrict (·.1 = x) = s.dispute.restrict (·.1 = x) :=
  Storage.restrict_set_of_not (P := fun k : Address × Symbol => k.1 = x) s.dispute v h

/-- The subject's index of disputes is. -/
theorem disputeIndex_only : (s.only x stats).disputeIndex x = s.disputeIndex x := Storage.restrict_of _ rfl

/-- So the subject's credentials are read alike in it. -/
theorem getVcList_only : getVcList (s.only x stats) x = getVcList s x := by
  rw [getVcList, vcList_only, getVcList]

/-- And its statistics. -/
theorem loadTxStats_only : loadTxStats (s.only x stats) x = loadTxStats s x := by
  rw [loadTxStats, txStats_only, loadTxStats]

/-- A repayment is added to the same record. -/
theorem addRepayment_only {amount : ℤ} {onTime : Bool} :
    addRepayment x amount onTime (s.only x stats) = addRepayment x amount onTime s := by
  simp only [addRepayment, loadRepaymentV1, loadRepayment, repaymentRecord_only]
  rfl

/-- The record is read alike for a score. -/
theorem loadRepaymentForScore_only : loadRepaymentForScore (s.only x stats) x = loadRepaymentForScore s x := by
  simp only [loadRepaymentForScore, loadRepaymentV1, loadRepayment, repaymentRecord_only]
  rfl

/-- The cooldown compares the same ledgers. -/
theorem checkComputeCooldown_only :
    checkComputeCooldown env (s.only x stats) x = checkComputeCooldown env s x := by
  simp only [checkComputeCooldown, score_only]
  rfl

/-- The points of local credentials are the same. -/
theorem localVcPoints_only : localVcPoints (s.only x stats) x = localVcPoints s x := by
  simp only [localVcPoints, getVcList_only, vcCount_only]
  rfl

/-- The credentials of the subject are resolved from its own entries, the settings and what the linked
identity oracle answers. -/
theorem resolveVcPoints_only :
    resolveVcPoints host env world (s.only x stats) x = resolveVcPoints host env world s x := by
  have hlinked : (s.only x stats).identityOracleId = s.identityOracleId := rfl
  have hloop (a : Address) : linkedVcLoop host env world (s.only x stats) a x = linkedVcLoop host env world s a x :=
    funext fun records => funext fun acc =>
      linkedVcLoop_congr (s := s) (t := s.only x stats) (fun _ => rfl) (fun _ => rfl) (fun _ _ => rfl) records acc
  simp only [resolveVcPoints, localVcPoints_only, hlinked, hloop]

/-- The score reads the same. -/
theorem getScore_only : getScore host env world (s.only x stats) x = getScore host env world s x := by
  rw [getScore, score_only, getScore]
  rfl

/-- The disputes read the same. -/
theorem listDisputes_only : listDisputes (s.only x stats) x = listDisputes s x := by
  simp only [listDisputes, disputeIndex_only, dispute_only]

end Reads

/-! ## Calls that concern the subject -/

/-- A call that stays inside the contract does so on a part of the state. -/
theorem alone_of_map {f : State → State} {result result' : Outcome CreditOracleError State}
    (h : result' = result.map f) : alone result' world = (alone result world).map (Prod.map f id) := by
  subst h
  cases result <;> rfl

/-- A call about a subject that concerns another one is about that one. -/
theorem Call.Concerns.eq {y : Address} (h : call.Concerns x) (habout : call.about = some y) : y = x := by
  have hx : call.about = some x := h.resolve_left (by rw [habout]; exact Option.some_ne_none y)
  exact Option.some.inj (habout.symm.trans hx)

/-- Calls that neither count nor migrate do the same on the part of one subject, failures included. -/
theorem exec_only (hcall : call.Concerns x) (hmigrate : ∀ subjects, call ≠ .migrate subjects)
    (hcompute : ∀ subject, call ≠ .computeScore subject)
    (hrepay : ∀ lender subject amount onTime, call ≠ .recordRepayment lender subject amount onTime) :
    exec host env call (s.only x stats) world =
      (exec host env call s world).map (Prod.map (State.only x stats) id) := by
  cases call
  case migrate subjects => exact absurd rfl (hmigrate subjects)
  case computeScore subject => exact absurd rfl (hcompute subject)
  case recordRepayment lender subject amount onTime => exact absurd rfl (hrepay lender subject amount onTime)
  case setIdentityOracle admin identityOracleId =>
    simp only [exec, setIdentityOracle, Outcome.map_bind]
    rfl
  case updateTxStats feeder subject txStats =>
    obtain rfl := hcall.eq rfl
    refine alone_of_map ?_
    simp only [updateTxStats, Outcome.map_bind]
    refine bind_congr fun _ => ?_
    exact congrArg (fun entries => Except.ok { s.only subject stats with txStats := entries })
      (Storage.restrict_set_self s.txStats subject txStats).symm
  case setVcCount feeder subject count =>
    obtain rfl := hcall.eq rfl
    refine alone_of_map ?_
    simp only [setVcCount, Outcome.map_bind]
    refine bind_congr fun _ => ?_
    exact congrArg (fun entries => Except.ok { s.only subject stats with vcCount := entries })
      (Storage.restrict_set_self s.vcCount subject count).symm
  case anchorVc feeder user vcId vcType =>
    obtain rfl := hcall.eq rfl
    refine alone_of_map ?_
    simp only [anchorVc, Outcome.map_bind, getVcList_only]
    refine bind_congr fun _ => ?_
    split
    case isTrue => rfl
    case isFalse =>
      exact congrArg (fun entries => Except.ok { s.only user stats with vcList := entries })
        (Storage.restrict_set_self s.vcList user _).symm
  case flagScoreInput subject inputKey reason =>
    obtain rfl := hcall.eq rfl
    refine alone_of_map ?_
    simp only [flagScoreInput, Outcome.map_bind, dispute_only, disputeIndex_only]
    refine bind_congr fun _ => bind_congr fun _ => bind_congr fun _ => ?_
    have hdispute := dispute_set_only (s := s) subject inputKey
      { subject, inputKey, reason, filedAtLedger := env.ledger.sequence, status := .pending }
    split
    case isTrue =>
      exact congrArg (fun entries => Except.ok { s.only subject stats with dispute := entries }) hdispute.symm
    case isFalse =>
      have hindex := Storage.restrict_set_self s.disputeIndex subject
        ((s.disputeIndex subject).getD [] ++ [inputKey])
      exact congrArg₂ (fun entries index => Except.ok
        { s.only subject stats with dispute := entries, disputeIndex := index }) hdispute.symm hindex.symm
  case resolveDispute subject inputKey accepted =>
    obtain rfl := hcall.eq rfl
    refine alone_of_map ?_
    simp only [resolveDispute, Outcome.map_bind, dispute_only]
    refine bind_congr fun _ => bind_congr fun record => bind_congr fun _ => ?_
    exact congrArg (fun entries => Except.ok { s.only subject stats with dispute := entries })
      (dispute_set_only subject inputKey
        { record with status := if accepted then DisputeStatus.resolved else .rejected }).symm
  all_goals
    refine alone_of_map ?_
    simp only [initializeContract, setComputeCooldownLedgers, registerFeeder, deregisterFeeder, registerLender,
      deregisterLender, pause, unpause, setPaused, setVcTypeWeight, setRecencyDecay, proposeNewAdmin, acceptAdmin,
      proposeWeights, applyWeights, Outcome.map_bind]
    rfl

/-- Migrated entries of the subject are migrated without those of others. -/
theorem migrateLoop_restrict {subjects : List Address} {entries entries' : Storage Address StoredRepayment}
    (h : migrateLoop subjects entries = .ok entries') :
    migrateLoop subjects (entries.restrict (· = x)) = .ok (entries'.restrict (· = x)) := by
  induction subjects generalizing entries with
  | nil =>
    cases h
    rfl
  | cons subject rest ih =>
    by_cases hx : subject = x
    · subst hx
      have hentry : entries.restrict (· = subject) subject = entries subject := Storage.restrict_of _ rfl
      rw [migrateLoop, hentry]
      rw [migrateLoop] at h
      split at h
      case h_1 hnone => exact ih h
      case h_2 record hv1 =>
        rw [← Storage.restrict_set_self]
        exact ih h
      case h_3 => cases h
    · have hnone : entries.restrict (· = x) subject = none := Storage.restrict_of_not _ hx
      rw [migrateLoop, hnone]
      rw [migrateLoop] at h
      split at h
      case h_1 => exact ih h
      case h_2 =>
        have hrest := ih h
        rwa [Storage.restrict_set_ne _ _ hx] at hrest
      case h_3 => cases h

/-! ## The shared counters -/

/-- Counters that are not above others. -/
structure ProtocolStats.Within (stats stats' : ProtocolStats) : Prop where
  scored : stats.totalSubjectsScored ≤ stats'.totalSubjectsScored
  repayments : stats.totalRepaymentsRecorded ≤ stats'.totalRepaymentsRecorded

/-- Counters are not above themselves. -/
theorem ProtocolStats.Within.refl (stats : ProtocolStats) : stats.Within stats := ⟨le_rfl, le_rfl⟩

/-- The order of counters is transitive. -/
theorem ProtocolStats.Within.trans {a b c : ProtocolStats} (hab : a.Within b) (hbc : b.Within c) : a.Within c :=
  ⟨hab.scored.trans hbc.scored, hab.repayments.trans hbc.repayments⟩

/-- No call lowers the counters. -/
theorem protocolStats_mono (h : exec host env call s world = .ok (s', world')) :
    s.protocolStats.Within s'.protocolStats := by
  cases exec_effect h with
  | scoreComputed hcompute =>
    obtain ⟨-, -, repayment, -, ⟨-, rfl, -⟩ | ⟨vcPoints, vcCount, weights, -, -, -, hstored⟩⟩ :=
      computeScore_spec hcompute
    · exact .refl _
    · obtain ⟨-, hrepayments, -, hscored⟩ := storeScore_statistics hstored
      exact ⟨by omega, hrepayments.ge⟩
  | other hcall hcore =>
    cases exec_writes hcall h with
    | repaymentRecorded => exact ⟨le_rfl, Nat.le_succ _⟩
    | _ => exact .refl _
  | _ => exact .refl _

/-! ## Calls about another subject -/

/-- A call that does not concern the subject leaves its part alone. -/
theorem only_of_not_concerns (hnot : ¬call.Concerns x) (h : exec host env call s world = .ok (s', world')) :
    s'.only x stats = s.only x stats := by
  have hne {y : Address} (habout : call.about = some y) : y ≠ x := fun heq => hnot (Or.inr (heq ▸ habout))
  cases exec_effect h with
  | scoreComputed hcompute =>
    obtain ⟨-, -, repayment, -, ⟨-, rfl, -⟩ | ⟨vcPoints, vcCount, weights, -, -, -, hstored⟩⟩ :=
      computeScore_spec hcompute
    · rfl
    · rcases storeScore_spec hstored with ⟨rfl, -⟩ | ⟨-, protocolStats, rfl⟩
      · rfl
      · exact congrArg (fun entries => { s.only x stats with score := entries })
          (Storage.restrict_set_ne s.score _ (hne rfl))
  | other hcall hcore =>
    cases exec_writes hcall h with
    | txStatsUpdated =>
      exact congrArg (fun entries => { s.only x stats with txStats := entries })
        (Storage.restrict_set_ne s.txStats _ (hne rfl))
    | vcCountSet =>
      exact congrArg (fun entries => { s.only x stats with vcCount := entries })
        (Storage.restrict_set_ne s.vcCount _ (hne rfl))
    | vcListed =>
      exact congrArg (fun entries => { s.only x stats with vcList := entries })
        (Storage.restrict_set_ne s.vcList _ (hne rfl))
    | vcKept => rfl
    | repaymentRecorded =>
      exact congrArg (fun entries => { s.only x stats with repaymentRecord := entries })
        (Storage.restrict_set_ne s.repaymentRecord _ (hne rfl))
    | @disputeFiled subject inputKey reason =>
      have hsubject := hne rfl
      have hindex : (if inputKey ∈ (s.disputeIndex subject).getD [] then s.disputeIndex
          else s.disputeIndex.set subject ((s.disputeIndex subject).getD [] ++ [inputKey])).restrict (· = x) =
          s.disputeIndex.restrict (· = x) := by
        split
        case isTrue => rfl
        case isFalse => exact Storage.restrict_set_ne s.disputeIndex _ hsubject
      exact congrArg₂ (fun entries index => { s.only x stats with dispute := entries, disputeIndex := index })
        (dispute_set_ne inputKey _ hsubject) hindex
    | @disputeResolved subject inputKey =>
      exact congrArg (fun entries => { s.only x stats with dispute := entries })
        (dispute_set_ne inputKey _ (hne rfl))
    | _ => exact absurd (Or.inl rfl) hnot
  | _ => exact absurd (Or.inl rfl) hnot

/-! ## Calls that count -/

/-- A repayment is counted while there is room. -/
theorem incrementRepaymentsRecorded_of_room (h : s.protocolStats.totalRepaymentsRecorded + 1 ≤ U64.max) :
    incrementRepaymentsRecorded s = .ok { s with
      protocolStats := { s.protocolStats with
        totalRepaymentsRecorded := s.protocolStats.totalRepaymentsRecorded + 1 } } := by
  rw [incrementRepaymentsRecorded, U64.checkedAdd_eq_some.mpr ⟨h, rfl⟩]
  rfl

/-- So is a subject that is scored for the first time. -/
theorem incrementSubjectsScored_of_room (h : s.protocolStats.totalSubjectsScored + 1 ≤ U64.max) :
    incrementSubjectsScored s = .ok { s with
      protocolStats :=
        { s.protocolStats with totalSubjectsScored := s.protocolStats.totalSubjectsScored + 1 } } := by
  rw [incrementSubjectsScored, U64.checkedAdd_eq_some.mpr ⟨h, rfl⟩]
  rfl

/-- Where there is room for one more repayment of anybody, there is room for one of the subject. -/
theorem recordRepayment_only {lender : Address} {amount : ℤ} {onTime : Bool}
    (h : recordRepayment env lender x amount onTime s = .ok s') (hstats : stats.Within s.protocolStats) :
    ∃ stats', stats'.Within s'.protocolStats ∧
      recordRepayment env lender x amount onTime (s.only x stats) = .ok (s'.only x stats') := by
  simp only [recordRepayment, Outcome.bind_eq_ok, Outcome.require_eq_ok, ensureNotPaused_eq_ok,
    requireAuth_eq_ok] at h
  obtain ⟨_, hamount, _, hpaused, _, hauth, _, htrusted, entry, hentry, hcounted⟩ := h
  obtain ⟨hroom, rfl⟩ := incrementRepaymentsRecorded_spec hcounted
  have hle : stats.totalRepaymentsRecorded + 1 ≤ s.protocolStats.totalRepaymentsRecorded + 1 :=
    Nat.succ_le_succ hstats.repayments
  refine ⟨{ stats with totalRepaymentsRecorded := stats.totalRepaymentsRecorded + 1 },
    ⟨hstats.scored, hle⟩, ?_⟩
  simp only [recordRepayment, Outcome.bind_eq_ok, Outcome.require_eq_ok, ensureNotPaused_eq_ok,
    requireAuth_eq_ok, addRepayment_only]
  refine ⟨(), hamount, (), hpaused, (), hauth, (), htrusted, entry, hentry, ?_⟩
  rw [incrementRepaymentsRecorded_of_room (hle.trans hroom)]
  exact congrArg (fun entries => Except.ok
    { s.only x { stats with totalRepaymentsRecorded := stats.totalRepaymentsRecorded + 1 } with
      repaymentRecord := entries }) (Storage.restrict_set_self s.repaymentRecord x entry).symm

/-- Where there is room for one more subject, there is room for this one. -/
theorem storeScore_only {score vcCount repaymentRate : ℕ} {txVolume30d : ℤ}
    (h : storeScore env x score vcCount repaymentRate txVolume30d s = .ok s')
    (hstats : stats.Within s.protocolStats) :
    ∃ stats', stats'.Within s'.protocolStats ∧
      storeScore env x score vcCount repaymentRate txVolume30d (s.only x stats) = .ok (s'.only x stats') := by
  rw [storeScore] at h
  rw [storeScore, score_only]
  cases hprev : s.score x with
  | none =>
    simp only [hprev, incrementSubjectsScored, Outcome.bind_eq_ok, Outcome.okOr_eq_ok,
      U64.checkedAdd_eq_some, Except.ok.injEq] at h
    obtain ⟨_, ⟨_, ⟨hroom, rfl⟩, rfl⟩, rfl⟩ := h
    have hle : stats.totalSubjectsScored + 1 ≤ s.protocolStats.totalSubjectsScored + 1 :=
      Nat.succ_le_succ hstats.scored
    refine ⟨{ stats with totalSubjectsScored := stats.totalSubjectsScored + 1 }, ⟨hle, hstats.repayments⟩, ?_⟩
    simp only [incrementSubjectsScored_of_room (s := s.only x stats) (hle.trans hroom)]
    exact congrArg (fun entries => Except.ok
      { s.only x { stats with totalSubjectsScored := stats.totalSubjectsScored + 1 } with score := entries })
      (Storage.restrict_set_self s.score x _).symm
  | some prev =>
    simp only [hprev] at h
    split at h
    case isTrue hsame =>
      cases h
      exact ⟨stats, hstats, if_pos hsame⟩
    case isFalse hdiffer =>
      cases h
      refine ⟨stats, hstats, (if_neg hdiffer).trans ?_⟩
      exact congrArg (fun entries => Except.ok { s.only x stats with score := entries })
        (Storage.restrict_set_self s.score x _).symm

/-- A computation of the subject's score has the same result without the others. -/
theorem computeScore_only {v : ℕ} (h : computeScore host env x s world = .ok (v, s'))
    (hstats : stats.Within s.protocolStats) :
    ∃ stats', stats'.Within s'.protocolStats ∧
      computeScore host env x (s.only x stats) world = .ok (v, s'.only x stats') := by
  obtain ⟨hpaused, hcooldown, repayment, hload, hresult⟩ := computeScore_spec h
  simp only [computeScore, Outcome.bind_eq_ok, ensureNotPaused_eq_ok, checkComputeCooldown_only,
    loadRepaymentForScore_only, resolveVcPoints_only, loadTxStats_only]
  rcases hresult with ⟨rfl, rfl, hnone⟩ | ⟨vcPoints, vcCount, weights, hsome, hweights, rfl, hstored⟩
  · exact ⟨stats, hstats, (), hpaused, (), hcooldown, repayment, hload, none, hnone, rfl⟩
  · obtain ⟨stats', hstats', hstored'⟩ := storeScore_only hstored hstats
    refine ⟨stats', hstats', (), hpaused, (), hcooldown, repayment, hload, some (vcPoints, vcCount), hsome, ?_⟩
    simp only [Outcome.bind_eq_ok, Outcome.okOr_eq_ok, Except.ok.injEq, Prod.mk.injEq]
    exact ⟨weights, hweights, s'.only x stats', hstored', rfl, rfl⟩

/-- A call that concerns the subject does the same to its part. -/
theorem exec_of_concerns (hcall : call.Concerns x) (h : exec host env call s world = .ok (s', world'))
    (hstats : stats.Within s.protocolStats) : ∃ stats', stats'.Within s'.protocolStats ∧
      exec host env call (s.only x stats) world = .ok (s'.only x stats', world') := by
  have hplain (hmigrate : ∀ subjects, call ≠ .migrate subjects) (hcompute : ∀ subject, call ≠ .computeScore subject)
      (hrepay : ∀ lender subject amount onTime, call ≠ .recordRepayment lender subject amount onTime) :
      ∃ stats', stats'.Within s'.protocolStats ∧
        exec host env call (s.only x stats) world = .ok (s'.only x stats', world') := by
    refine ⟨stats, hstats.trans (protocolStats_mono h), ?_⟩
    rw [exec_only hcall hmigrate hcompute hrepay, h]
    rfl
  cases call
  case migrate subjects =>
    simp only [exec, alone_eq_ok, migrate, Outcome.bind_eq_ok, requireStoredAdmin_eq_ok, Except.ok.injEq] at h
    obtain ⟨⟨_, hadmin, entries, hloop, rfl⟩, rfl⟩ := h
    refine ⟨stats, hstats, ?_⟩
    simp only [exec, alone_eq_ok, migrate, Outcome.bind_eq_ok, requireStoredAdmin_eq_ok, Except.ok.injEq]
    exact ⟨⟨(), hadmin, entries.restrict (· = x), migrateLoop_restrict hloop, rfl⟩, trivial⟩
  case recordRepayment lender subject amount onTime =>
    obtain rfl := hcall.eq rfl
    simp only [exec, alone_eq_ok] at h ⊢
    obtain ⟨stats', hstats', hrepaid⟩ := recordRepayment_only h.1 hstats
    exact ⟨stats', hstats', hrepaid, h.2⟩
  case computeScore subject =>
    obtain rfl := hcall.eq rfl
    simp only [exec, alone_eq_ok, Outcome.map_snd_eq_ok] at h ⊢
    obtain ⟨⟨v, hcompute⟩, hworld⟩ := h
    obtain ⟨stats', hstats', hcomputed⟩ := computeScore_only hcompute hstats
    exact ⟨stats', hstats', ⟨v, hcomputed⟩, hworld⟩
  all_goals
    refine hplain ?_ ?_ ?_ <;> simp only [ne_eq, reduceCtorEq, not_false_eq_true, implies_true]

/-! ## Runs -/

/-- What a run and the run without other subjects have in common. -/
structure Isolated (x : Address) (c t : Config) : Prop where
  state : t.state = c.state.only x t.state.protocolStats
  counters : t.state.protocolStats.Within c.state.protocolStats
  ledger : t.ledger.NotAfter c.ledger

/-- Two fresh contracts have the subject's part in common. -/
theorem isolated_start (ledger : Ledger) : Isolated x (.fresh ledger) (.fresh ledger) where
  state := by
    have hempty {K V : Type} (P : K → Prop) [DecidablePred P] : (Storage.empty : Storage K V).restrict P = .empty :=
      funext fun _ => ite_self none
    simp only [Config.fresh, State.only, hempty]
  counters := .refl _
  ledger := .refl _

/-- A call about another subject is one that the other run leaves out. -/
theorem Isolated.skip {c c' t : Config} {e : Event} (h : Isolated x c t) (hstep : StepOf Config.next c e c')
    (hnot : ¬e.call.Concerns x) : Isolated x c' t := by
  obtain ⟨hledger, hafter, hexec⟩ := Config.step_iff.mp hstep
  exact ⟨h.state.trans (only_of_not_concerns hnot hexec).symm, h.counters.trans (protocolStats_mono hexec),
    h.ledger.trans (hafter ▸ hledger)⟩

/-- A call that concerns the subject succeeds in the other run as well. -/
theorem Isolated.follow {c c' t : Config} {e : Event} (h : Isolated x c t) (hstep : StepOf Config.next c e c')
    (hconcerns : e.call.Concerns x) : ∃ t', StepOf Config.next t e t' ∧ Isolated x c' t' := by
  obtain ⟨hledger, hafter, hexec⟩ := Config.step_iff.mp hstep
  obtain ⟨stats', hstats', hexec'⟩ := exec_of_concerns hconcerns hexec h.counters
  rw [← h.state] at hexec'
  refine ⟨⟨c'.state.only x stats', e.env.ledger⟩, ?_, rfl, hstats', hafter ▸ .refl _⟩
  exact Config.step_iff.mpr ⟨h.ledger.trans hledger, rfl, hexec'⟩

/-- Without the calls about other subjects a run of the contract is again one: every call left in it
succeeds, and at its end are the settings, the entries of the subject and counters that are not higher.
So the subject's score and disputes read the same, and a computation of its score returns the same. -/
theorem subject_isolated {ledger : Ledger} {history : List Move} {final : Config}
    (hrun : Run (StepOf Config.next) (.fresh ledger) history final) (x : Address) :
    ∃ history' final', Run (StepOf Config.next) (.fresh ledger) history' final' ∧
      history'.map (·.event) = (history.map (·.event)).filter (fun e => e.call.Concerns x) ∧
      final'.state = final.state.only x final'.state.protocolStats ∧
      final'.state.protocolStats.Within final.state.protocolStats ∧
      listDisputes final'.state x = listDisputes final.state x ∧
      ∀ (κ : Type) (host : Host κ) env world,
        getScore host env world final'.state x = getScore host env world final.state x ∧
        ∀ v after, computeScore host env x final.state world = .ok (v, after) →
          ∃ after', computeScore host env x final'.state world = .ok (v, after') := by
  have hskip : ∀ c (e : Event) c' t, Isolated x c t → StepOf Config.next c e c' → ¬e.call.Concerns x →
      Isolated x c' t := fun _ _ _ _ h hstep hnot => h.skip hstep hnot
  have hfollow : ∀ c (e : Event) c' t, Isolated x c t → StepOf Config.next c e c' → e.call.Concerns x →
      ∃ t', StepOf Config.next t e t' ∧ Isolated x c' t' :=
    fun _ _ _ _ h hstep hconcerns => h.follow hstep hconcerns
  have hpurged : ∃ history' final', Run (StepOf Config.next) (.fresh ledger) history' final' ∧
      history'.map (·.event) = (history.map (·.event)).filter (fun e => e.call.Concerns x) ∧
      Isolated x final final' := hrun.purge _ _ hskip hfollow (isolated_start ledger)
  obtain ⟨history', final', hrun', hevents, hsame⟩ := hpurged
  refine ⟨history', final', hrun', hevents, hsame.state, hsame.counters, ?_, fun κ host env world => ⟨?_, ?_⟩⟩
  · rw [hsame.state, listDisputes_only]
  · rw [hsame.state, getScore_only]
  · intro v after hcompute
    obtain ⟨stats', -, hcomputed⟩ := computeScore_only hcompute hsame.counters
    rw [← hsame.state] at hcomputed
    exact ⟨_, hcomputed⟩

/-- Two subjects are scored in turn. -/
def twoSubjects : List Event :=
  [ sampleEvent 0 (.initializeContract (.account 1)),
    sampleEvent 1 (.registerFeeder (.account 1) (.account 1)),
    sampleEvent 2 (.setVcCount (.account 1) (.account 3) 2),
    sampleEvent 3 (.setVcCount (.account 1) (.account 4) 5),
    sampleEvent 4 (.computeScore (.account 4)),
    sampleEvent 5 (.computeScore (.account 3)) ]

/-- Two subjects, and the run of one of them alone. -/
theorem subject_isolated_twoSubjects : ∃ history final history' final',
    Run (StepOf Config.next) (.fresh (.numbered 0)) history final ∧
    history.map (·.event.call) = twoSubjects.map (·.call) ∧
    Run (StepOf Config.next) (.fresh (.numbered 0)) history' final' ∧
    history'.map (·.event.call) = [.initializeContract (.account 1), .registerFeeder (.account 1) (.account 1),
      .setVcCount (.account 1) (.account 3) 2, .computeScore (.account 3)] ∧
    final'.state.score (.account 3) = final.state.score (.account 3) := by
  obtain ⟨history, final, hrun, hcalls⟩ := Run.exists_of_replay
    (show (replay Config.next (.fresh (.numbered 0)) twoSubjects).map (fun r => r.1.map (·.event.call)) =
      some (twoSubjects.map (·.call)) by decide +kernel)
  obtain ⟨history', final', hrun', hevents, hstate, -⟩ := subject_isolated hrun (.account 3)
  have hfiltered : history'.map (·.event.call) =
      (history.map (·.event.call)).filter (fun call => call.Concerns (.account 3)) := by
    calc history'.map (·.event.call)
        = (history'.map (·.event)).map Event.call := List.map_map.symm
      _ = ((history.map (·.event)).filter fun e => e.call.Concerns (.account 3)).map Event.call := by rw [hevents]
      _ = ((history.map (·.event)).map Event.call).filter fun call => call.Concerns (.account 3) :=
          (List.filter_map (f := Event.call) (p := fun call => call.Concerns (.account 3))).symm
      _ = (history.map (·.event.call)).filter fun call => call.Concerns (.account 3) := by
          rw [List.map_map]
          rfl
  refine ⟨history, final, history', final', hrun, hcalls, hrun', ?_, ?_⟩
  · rw [hfiltered, hcalls]
    rfl
  · rw [hstate]
    exact score_only

end StellarDidCredit.CreditOracle
