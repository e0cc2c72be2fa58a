import StellarDidCredit.Lib.FlagIndex
import StellarDidCredit.CreditOracle.Timelock

/-!
# Feeders and lenders

Both registries keep every address that ever entered in an index and drop members by a flag. In
every run the listed addresses are those of which the latest operation was a registration, and
they are the ones that the operations of feeders and lenders let through.
-/

namespace StellarDidCredit.CreditOracle

variable {κ : Type} {host : Host κ} {env : Env} {call : Call} {s s' : State} {world world' : κ}
  {feeder lender subject : Address}

/-- The trusted feeders and their index. -/
def State.feeders (s : State) : FlagIndex Address := ⟨s.trustedFeeder, s.feedersIndex.getD []⟩

/-- The trusted lenders and their index. -/
def State.lenders (s : State) : FlagIndex Address := ⟨s.trustedLender, s.lendersIndex.getD []⟩

/-- What a call says about a feeder. -/
def Call.feederOp : Call → Option (RegistryOp Address)
  | .registerFeeder _ feeder => some ⟨feeder, true⟩
  | .deregisterFeeder _ feeder => some ⟨feeder, false⟩
  | _ => none

/-- What a call says about a lender. -/
def Call.lenderOp : Call → Option (RegistryOp Address)
  | .registerLender _ lender => some ⟨lender, true⟩
  | .deregisterLender _ lender => some ⟨lender, false⟩
  | _ => none

/-- An entry is put in an index once. -/
theorem indexAdd_getD {α : Type} [DecidableEq α] (index : Option (List α)) (entry : α) :
    (indexAdd index entry).getD [] = enlist (index.getD []) entry := by
  unfold indexAdd enlist
  split <;> rfl

/-- Every call treats the feeders as an index with tombstones. -/
theorem exec_feeders (h : exec host env call s world = .ok (s', world')) :
    s'.feeders = s.feeders.tombstoned call.feederOp := by
  cases exec_effect h with
  | scoreComputed hcompute =>
    obtain ⟨score, protocolStats, rfl⟩ := computeScore_writes hcompute
    rfl
  | other hcall hcore =>
    cases exec_writes hcall h with
    | @feederRegistered admin feeder hadmin hauth =>
      simp only [State.feeders, Call.feederOp, FlagIndex.tombstoned, indexAdd_getD]
    | _ => rfl
  | _ => rfl

/-- Every call treats the lenders as an index with tombstones. -/
theorem exec_lenders (h : exec host env call s world = .ok (s', world')) :
    s'.lenders = s.lenders.tombstoned call.lenderOp := by
  cases exec_effect h with
  | scoreComputed hcompute =>
    obtain ⟨score, protocolStats, rfl⟩ := computeScore_writes hcompute
    rfl
  | other hcall hcore =>
    cases exec_writes hcall h with
    | @lenderRegistered admin lender hadmin hauth =>
      simp only [State.lenders, Call.lenderOp, FlagIndex.tombstoned, indexAdd_getD]
    | _ => rfl
  | _ => rfl

/-! ## Refused callers -/

/-- A feeder that signed is refused by an unpaused contract exactly if it is not trusted. -/
theorem requireFeeder_refused_iff (hpaused : s.paused.getD false = false) (hauth : env.Authorized feeder) :
    requireFeeder env feeder s = .error (.error .feederNotRegistered) ↔ ¬isTrustedFeeder s feeder = true := by
  have hunpaused : ensureNotPaused s = .ok () := ensureNotPaused_eq_ok.mpr hpaused
  have hsigned : (requireAuth env feeder : Outcome CreditOracleError Unit) = .ok () := requireAuth_eq_ok.mpr hauth
  unfold requireFeeder
  rw [hunpaused, hsigned]
  exact Outcome.require_eq_error.trans (and_iff_left rfl)

/-- An operation that starts with the checks of a feeder and then cannot fail. -/
theorem feeder_operation_refused_iff {rest : Unit → Outcome CreditOracleError State}
    (hpaused : s.paused.getD false = false) (hauth : env.Authorized feeder) (hrest : ∃ s', rest () = .ok s') :
    (requireFeeder env feeder s >>= rest) = .error (.error .feederNotRegistered) ↔
      ¬isTrustedFeeder s feeder = true := by
  rw [Outcome.bind_eq_error, requireFeeder_refused_iff hpaused hauth]
  obtain ⟨s', hs'⟩ := hrest
  constructor
  · rintro (hnot | ⟨_, -, herror⟩)
    · exact hnot
    · cases hs'.symm.trans herror
  · exact Or.inl

/-- Reading an old record traps, or succeeds. -/
theorem onlyTraps_loadRepaymentV1 : Outcome.OnlyTraps (loadRepaymentV1 s subject) := by
  unfold loadRepaymentV1
  split
  · exact Outcome.onlyTraps_ok _
  · exact Outcome.onlyTraps_ok _
  · exact Outcome.onlyTraps_trap

/-- So does reading a record. -/
theorem onlyTraps_loadRepayment : Outcome.OnlyTraps (loadRepayment s subject) := by
  unfold loadRepayment
  split
  · exact Outcome.onlyTraps_ok _
  · exact Outcome.onlyTraps_ok _
  · exact Outcome.onlyTraps_trap

/-- A new repayment can only trap. -/
theorem onlyTraps_addRepayment {amount : ℤ} {onTime : Bool} :
    Outcome.OnlyTraps (addRepayment subject amount onTime s) := by
  by_cases hversion : s.storageVersion.getD 1 < 2
  · simp only [addRepayment, if_pos hversion]
    exact onlyTraps_loadRepaymentV1.bind fun _ => Outcome.onlyTraps_ok _
  · simp only [addRepayment, if_neg hversion]
    exact onlyTraps_loadRepayment.bind fun _ => Outcome.onlyTraps_ok _

/-- A lender that signed a positive repayment is refused by an unpaused contract exactly if it is not
trusted. -/
theorem recordRepayment_refused_iff {amount : ℤ} {onTime : Bool} (hamount : 0 < amount)
    (hpaused : s.paused.getD false = false) (hauth : env.Authorized lender) :
    recordRepayment env lender subject amount onTime s = .error (.error .lenderNotRegistered) ↔
      ¬isTrustedLender s lender = true := by
  have hpositive : Outcome.require (0 < amount) (.error CreditOracleError.invalidAmount) = .ok () :=
    Outcome.require_eq_ok.mpr hamount
  have hunpaused : ensureNotPaused s = .ok () := ensureNotPaused_eq_ok.mpr hpaused
  have hsigned : (requireAuth env lender : Outcome CreditOracleError Unit) = .ok () := requireAuth_eq_ok.mpr hauth
  unfold recordRepayment
  rw [hpositive, hunpaused, hsigned]
  refine Outcome.require_bind_eq_error_iff ?_
  refine Outcome.OnlyTraps.avoids (onlyTraps_addRepayment.bind fun entry => ?_) _
  exact (Outcome.onlyTraps_okOr _).bind fun _ => Outcome.onlyTraps_ok _

/-! ## Every run -/

/-- A list and an index agree with the operations: the list has the addresses of which the latest
operation was a registration, the index has those that were ever registered, both without
repetitions. -/
structure ListsRegistered (listed index : List Address) (log : List (RegistryOp Address)) : Prop where
  nodup_listed : listed.Nodup
  mem_listed : ∀ a, a ∈ listed ↔ Registered log a
  nodup_index : index.Nodup
  mem_index : ∀ a, a ∈ index ↔ ⟨a, true⟩ ∈ log

/-- In every run both registries agree with their operations, both indexes only grow at their end,
and the operations of feeders and lenders refuse exactly the callers that are not listed. -/
theorem feeder_and_lender_registries {ledger : Ledger} {history : List Move} {final : Config}
    (hrun : Run (StepOf Config.next) (.fresh ledger) history final) :
    ListsRegistered (listFeeders final.state) (final.state.feedersIndex.getD [])
      (registryLog (·.call.feederOp) history) ∧
    ListsRegistered (listLenders final.state) (final.state.lendersIndex.getD [])
      (registryLog (·.call.lenderOp) history) ∧
    (∀ t ∈ history,
      t.before.state.feedersIndex.getD [] <+: t.after.state.feedersIndex.getD [] ∧
      t.after.state.feedersIndex.getD [] <+: final.state.feedersIndex.getD [] ∧
      t.before.state.lendersIndex.getD [] <+: t.after.state.lendersIndex.getD [] ∧
      t.after.state.lendersIndex.getD [] <+: final.state.lendersIndex.getD []) ∧
    (final.state.paused.getD false = false →
      (∀ env feeder subject, env.Authorized feeder →
        (∀ stats, updateTxStats env feeder subject stats final.state = .error (.error .feederNotRegistered) ↔
          feeder ∉ listFeeders final.state) ∧
        (∀ count, setVcCount env feeder subject count final.state = .error (.error .feederNotRegistered) ↔
          feeder ∉ listFeeders final.state) ∧
        ∀ vcId vcType, anchorVc env feeder subject vcId vcType final.state =
          .error (.error .feederNotRegistered) ↔ feeder ∉ listFeeders final.state) ∧
      ∀ env lender subject amount onTime, env.Authorized lender → 0 < amount →
        (recordRepayment env lender subject amount onTime final.state = .error (.error .lenderNotRegistered) ↔
          lender ∉ listLenders final.state)) := by
  have hfeeders {c c' : Config} {e : Event} (hstep : StepOf Config.next c e c') :
      c'.state.feeders = c.state.feeders.tombstoned e.call.feederOp :=
    exec_feeders (Config.step_iff.mp hstep).2.2
  have hlenders {c c' : Config} {e : Event} (hstep : StepOf Config.next c e c') :
      c'.state.lenders = c.state.lenders.tombstoned e.call.lenderOp :=
    exec_lenders (Config.step_iff.mp hstep).2.2
  obtain ⟨hfeeder, hfeederIndex⟩ := hrun.tombstoned (·.state.feeders) rfl fun _ _ _ => hfeeders
  obtain ⟨hlender, hlenderIndex⟩ := hrun.tombstoned (·.state.lenders) rfl fun _ _ _ => hlenders
  have htrustedFeeder (a : Address) : isTrustedFeeder final.state a = true ↔ a ∈ listFeeders final.state :=
    (hfeeder.flagged_iff a).trans hfeeder.mem_listed.symm
  have htrustedLender (a : Address) : isTrustedLender final.state a = true ↔ a ∈ listLenders final.state :=
    (hlender.flagged_iff a).trans hlender.mem_listed.symm
  refine ⟨⟨hfeeder.nodup_listed, fun _ => hfeeder.mem_listed, hfeeder.nodup, hfeederIndex⟩,
    ⟨hlender.nodup_listed, fun _ => hlender.mem_listed, hlender.nodup, hlenderIndex⟩, ?_, ?_⟩
  · intro t ht
    obtain ⟨hfeederStep, hfeederLater⟩ := hrun.prefix_tombstoned (·.state.feeders) (fun _ _ _ => hfeeders) ht
    obtain ⟨hlenderStep, hlenderLater⟩ := hrun.prefix_tombstoned (·.state.lenders) (fun _ _ _ => hlenders) ht
    exact ⟨hfeederStep, hfeederLater, hlenderStep, hlenderLater⟩
  · intro hpaused
    refine ⟨?_, ?_⟩
    · intro env feeder subject hauth
      refine ⟨fun stats => ?_, fun count => ?_, fun vcId vcType => ?_⟩
      · exact (feeder_operation_refused_iff hpaused hauth ⟨_, rfl⟩).trans (htrustedFeeder feeder).not
      · exact (feeder_operation_refused_iff hpaused hauth ⟨_, rfl⟩).trans (htrustedFeeder feeder).not
      · refine (feeder_operation_refused_iff hpaused hauth ?_).trans (htrustedFeeder feeder).not
        dsimp only
        split <;> exact ⟨_, rfl⟩
    · intro env lender subject amount onTime hauth hamount
      exact (recordRepayment_refused_iff hamount hpaused hauth).trans (htrustedLender lender).not

/-- A feeder is registered, deregistered and registered again, and a lender is deregistered that never
was registered. -/
def sampleRegistrations : List Event :=
  [ sampleEvent 0 (.initializeContract (.account 1)),
    sampleEvent 1 (.registerFeeder (.account 1) (.account 2)),
    sampleEvent 2 (.registerFeeder (.account 1) (.account 3)),
    sampleEvent 3 (.deregisterFeeder (.account 1) (.account 2)),
    sampleEvent 4 (.registerFeeder (.account 1) (.account 2)),
    sampleEvent 5 (.deregisterFeeder (.account 1) (.account 3)),
    sampleEvent 6 (.deregisterLender (.account 1) (.account 4)) ]

/-- Two feeders and a lender, of whom one feeder stays. -/
theorem feeder_and_lender_registries_sample :
    ∃ history final, Run (StepOf Config.next) (.fresh (.numbered 0)) history final ∧
      listFeeders final.state = [.account 2] ∧
      Registered (registryLog (·.call.feederOp) history) (.account 2) ∧
      ¬Registered (registryLog (·.call.feederOp) history) (.account 3) ∧
      recordRepayment (.signedBy (.numbered 7) (.contract 11) [.account 4]) (.account 4) (.account 5) 1 true
        final.state = .error (.error .lenderNotRegistered) := by
  obtain ⟨history, final, hrun, hobserved⟩ := Run.exists_of_replay
    (show (replay Config.next (.fresh (.numbered 0)) sampleRegistrations).map (fun r =>
      (r.2.state.paused.getD false, listFeeders r.2.state, listLenders r.2.state)) =
      some (false, [.account 2], []) from rfl)
  simp only [Prod.mk.injEq] at hobserved
  obtain ⟨hpaused, hlistedFeeders, hlistedLenders⟩ := hobserved
  obtain ⟨hfeeders, -, -, hrefused⟩ := feeder_and_lender_registries hrun
  refine ⟨history, final, hrun, hlistedFeeders, ?_, ?_, ?_⟩
  · exact (hfeeders.mem_listed _).mp (by simp [hlistedFeeders])
  · exact fun h => absurd ((hfeeders.mem_listed _).mpr h) (by simp [hlistedFeeders])
  · exact ((hrefused hpaused).2 _ _ _ _ _ (by decide) (by decide)).mpr (by simp [hlistedLenders])

end StellarDidCredit.CreditOracle
