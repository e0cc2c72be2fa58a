import StellarDidCredit.Lib.RoleTransfer
import StellarDidCredit.CreditOracle.Timelock
import StellarDidCredit.IdentityOracle.Issuers
import StellarDidCredit.RevocationRegistry.Index

/-!
# The admin role of the three contracts

The three contracts hand their admin role over by the same two entry points, which check in
different orders and of which one refuses to propose while the contract is paused. Each of them
is an instance of a transfer in two steps. The credit oracle also records an admin that is a
contract as its governance contract.
-/

namespace StellarDidCredit

/-! ## The credit oracle -/

namespace CreditOracle

variable {κ : Type} {host : Host κ} {env : Env} {call : Call} {s s' : State} {world world' : κ}

/-- The admin and the proposed one. -/
def State.adminRole (s : State) : Role Address := ⟨s.admin, s.pendingAdmin⟩

/-- What a call has to do with the admin role. -/
def Call.adminAct : Call → RoleAct Address
  | .initializeContract admin => .install admin
  | .proposeNewAdmin newAdmin => .propose newAdmin
  | .acceptAdmin newAdmin => .accept newAdmin
  | _ => .other

/-- Every call treats the admin role as one that is handed over in two steps. -/
theorem exec_adminRole (h : exec host env call s world = .ok (s', world')) :
    s.adminRole.Step env.Authorized call.adminAct s'.adminRole := by
  cases exec_effect h with
  | @initialized admin hadmin =>
    obtain ⟨-, hauth, -⟩ := initializeContract_spec (alone_eq_ok.mp h).1
    exact .installed hadmin hauth
  | adminProposed hadmin hauth => exact .proposed hadmin hauth
  | adminAccepted hauth hpending => exact .accepted hpending hauth
  | scoreComputed hcompute =>
    obtain ⟨score, protocolStats, rfl⟩ := computeScore_writes hcompute
    exact .other
  | other hcall hcore =>
    cases exec_writes hcall h <;> exact .other
  | _ => exact .other

/-- The governance contract is written by an acceptance, and by nothing else. -/
theorem exec_governance (h : exec host env call s world = .ok (s', world')) :
    (∃ newAdmin, call = .acceptAdmin newAdmin ∧ s'.admin = some newAdmin ∧
      s'.governanceId = if newAdmin.isContract then some newAdmin else none) ∨
    ((∀ newAdmin, call ≠ .acceptAdmin newAdmin) ∧ s'.governanceId = s.governanceId ∧
      (s'.admin = s.admin ∨ s.admin = none)) := by
  cases exec_effect h with
  | adminAccepted => exact Or.inl ⟨_, rfl, rfl, rfl⟩
  | initialized hadmin => exact Or.inr ⟨by simp, rfl, Or.inr hadmin⟩
  | scoreComputed hcompute =>
    obtain ⟨score, protocolStats, rfl⟩ := computeScore_writes hcompute
    exact Or.inr ⟨by simp, rfl, Or.inl rfl⟩
  | other hcall hcore =>
    refine Or.inr ⟨?_, ?_, Or.inl (congrArg Core.admin hcore)⟩
    · rintro newAdmin rfl
      exact hcall
    · cases exec_writes hcall h <;> rfl
  | _ => exact Or.inr ⟨by simp, rfl, Or.inl rfl⟩

/-- A recorded governance contract is the admin, and a contract. -/
def GovernanceOk (s : State) : Prop := ∀ g, getGovernance s = some g → s.admin = some g ∧ g.isContract = true

/-- The governance contract of an accepted admin. -/
theorem governanceOk_accepted {newAdmin : Address} (hadmin : s.admin = some newAdmin)
    (hgovernance : s.governanceId = if newAdmin.isContract then some newAdmin else none) :
    GovernanceOk s ∧ getGovernance s = s.admin.filter Address.isContract := by
  unfold GovernanceOk getGovernance
  rw [hadmin, hgovernance]
  by_cases hcontract : newAdmin.isContract = true
  · simp [hcontract, Option.filter_some]
  · simp [hcontract, Option.filter_some]

/-- In every run the recorded governance contract is the admin and a contract, and once an admin has
accepted the role it is recorded exactly if it is a contract. -/
theorem governance_of_run {ledger : Ledger} {history : List Move} {final : Config}
    (hrun : Run (StepOf Config.next) (.fresh ledger) history final) :
    GovernanceOk final.state ∧ ((∃ t ∈ history, ∃ newAdmin, t.event.call = .acceptAdmin newAdmin) →
      final.state.admin ≠ none ∧
      getGovernance final.state = final.state.admin.filter Address.isContract) := by
  induction hrun with
  | nil =>
    refine ⟨fun g hg => (Option.some_ne_none g hg.symm).elim, ?_⟩
    rintro ⟨t, ht, -⟩
    exact absurd ht List.not_mem_nil
  | @snoc history c e c' _ hstep ih =>
    obtain ⟨hok, haccepted⟩ := ih
    rcases exec_governance (Config.step_iff.mp hstep).2.2 with
      ⟨newAdmin, -, hadmin, hgovernance⟩ | ⟨hcall, hgovernance, hadmin⟩
    · obtain ⟨hafter, hrecorded⟩ := governanceOk_accepted hadmin hgovernance
      exact ⟨hafter, fun _ => ⟨by simp [hadmin], hrecorded⟩⟩
    · refine ⟨?_, ?_⟩
      · intro g hg
        obtain ⟨hholder, hcontract⟩ := hok g (hgovernance.symm.trans hg)
        rcases hadmin with hsame | hnone
        · exact ⟨hsame.trans hholder, hcontract⟩
        · cases hnone.symm.trans hholder
      · rintro ⟨t, ht, newAdmin, haccept⟩
        have hbefore : ∃ t ∈ history, ∃ newAdmin, t.event.call = .acceptAdmin newAdmin := by
          rcases List.mem_append.mp ht with hold | hlast
          · exact ⟨t, hold, newAdmin, haccept⟩
          · rw [List.mem_singleton.mp hlast] at haccept
            exact absurd haccept (hcall newAdmin)
        obtain ⟨hholder, hrecorded⟩ := haccepted hbefore
        rcases hadmin with hsame | hnone
        · rw [hsame]
          exact ⟨hholder, hgovernance.trans hrecorded⟩
        · exact absurd hnone hholder

end CreditOracle

/-! ## The identity oracle -/

namespace IdentityOracle

variable {env : Env} {call : Call} {s s' : State}

/-- The admin and the proposed one. -/
def State.adminRole (s : State) : Role Address := ⟨s.admin, s.pendingAdmin⟩

/-- What a call has to do with the admin role. -/
def Call.adminAct : Call → RoleAct Address
  | .initializeContract admin => .install admin
  | .proposeNewAdmin newAdmin => .propose newAdmin
  | .acceptAdmin newAdmin => .accept newAdmin
  | _ => .other

/-- Every call treats the admin role as one that is handed over in two steps. -/
theorem Writes.adminRole (hwrites : Writes env s call s') :
    s.adminRole.Step env.Authorized call.adminAct s'.adminRole := by
  cases hwrites with
  | initialized hadmin hauth => exact .installed hadmin hauth
  | adminProposed hpaused hadmin hauth => exact .proposed hadmin hauth
  | adminAccepted hpaused hpending hauth => exact .accepted hpending hauth
  | vcKept hcall =>
    cases call <;> first | exact .other | cases hcall
  | vcAnchored hcall =>
    cases call <;> first | exact .other | cases hcall
  | deactivated hcall =>
    cases call <;> first | exact .other | cases hcall
  | _ => exact .other

end IdentityOracle

/-! ## The revocation registry -/

namespace RevocationRegistry

variable {κ : Type} {host : Host κ} {env : Env} {call : Call} {s s' : State} {world world' : κ}

/-- The admin and the proposed one. -/
def State.adminRole (s : State) : Role Address := ⟨s.admin, s.pendingAdmin⟩

/-- What a call has to do with the admin role. -/
def Call.adminAct : Call → RoleAct Address
  | .initializeContract admin => .install admin
  | .proposeNewAdmin newAdmin => .propose newAdmin
  | .acceptAdmin newAdmin => .accept newAdmin
  | _ => .other

/-- Every call treats the admin role as one that is handed over in two steps. -/
theorem exec_adminRole (h : exec host env call s world = .ok (s', world')) :
    s.adminRole.Step env.Authorized call.adminAct s'.adminRole := by
  cases hcall : call.revocation with
  | none =>
    cases exec_administers hcall h with
    | initialized hadmin hauth => exact .installed hadmin hauth
    | adminProposed hadmin hauth => exact .proposed hadmin hauth
    | adminAccepted hpaused hpending hauth => exact .accepted hpending hauth
    | _ => exact .other
  | some revocation =>
    obtain ⟨-, _, _, _, _, _, rfl⟩ := exec_revocation hcall h
    cases call <;> first | exact .other | cases hcall

end RevocationRegistry

/-! ## Every run -/

/-- In every run of each of the three contracts the admin changes by acceptances only, each of the
latest proposal, which the admin of the time signed, and no proposal is accepted twice. The
governance contract of the credit oracle is its admin and a contract, and a contract that
accepted the role is recorded as long as it has it. -/
theorem admin_hand_over :
    (∀ ledger history final, Run (StepOf CreditOracle.Config.next) (.fresh ledger) history final →
      HandsOver (·.state.adminRole) (·.call.adminAct) (·.env.Authorized ·) history ∧
      (∀ g, CreditOracle.getGovernance final.state = some g →
        final.state.admin = some g ∧ g.isContract = true) ∧
      ((∃ t ∈ history, ∃ newAdmin, t.event.call = .acceptAdmin newAdmin) →
        ∀ a, final.state.admin = some a → a.isContract = true →
          CreditOracle.getGovernance final.state = some a)) ∧
    (∀ history final, Run (StepOf IdentityOracle.next) {} history final →
      HandsOver (·.adminRole) (·.call.adminAct) (·.env.Authorized ·) history) ∧
    ∀ history final, Run (StepOf RevocationRegistry.next) {} history final →
      HandsOver (·.adminRole) (·.call.adminAct) (·.env.Authorized ·) history := by
  refine ⟨?_, ?_, ?_⟩
  · intro ledger history final hrun
    obtain ⟨hok, haccepted⟩ := CreditOracle.governance_of_run hrun
    refine ⟨?_, hok, ?_⟩
    · exact hrun.handsOver
        (fun _ _ _ hstep => CreditOracle.exec_adminRole (CreditOracle.Config.step_iff.mp hstep).2.2) rfl
    · intro hsome a hadmin hcontract
      rw [(haccepted hsome).2, hadmin, Option.filter_some, if_pos hcontract]
  · intro history final hrun
    exact hrun.handsOver (fun _ _ _ hstep => (IdentityOracle.writes_of_next hstep).adminRole) rfl
  · intro history final hrun
    exact hrun.handsOver
      (fun _ _ _ hstep => RevocationRegistry.exec_adminRole (RevocationRegistry.exec_of_next hstep)) rfl

/-- The admin of a credit oracle proposes two successors, and the second one, a contract, accepts. -/
def sampleTransfer : List CreditOracle.Event :=
  [ CreditOracle.sampleEvent 0 (.initializeContract (.account 1)),
    CreditOracle.sampleEvent 1 (.proposeNewAdmin (.account 2)),
    CreditOracle.sampleEvent 2 (.proposeNewAdmin (.contract 13)),
    { env := .signedBy (.numbered 3) (.contract 11) [.contract 13], call := .acceptAdmin (.contract 13),
      host := CreditOracle.silentHost } ]

/-- A governance contract takes the admin role over. -/
theorem admin_hand_over_sample :
    ∃ history final, Run (StepOf CreditOracle.Config.next) (.fresh (.numbered 0)) history final ∧
      final.state.admin = some (.contract 13) ∧
      CreditOracle.getGovernance final.state = some (.contract 13) ∧
      HandsOver (·.state.adminRole) (·.call.adminAct) (·.env.Authorized ·) history := by
  obtain ⟨history, final, hrun, hobserved⟩ := Run.exists_of_replay
    (show (replay CreditOracle.Config.next (.fresh (.numbered 0)) sampleTransfer).map (fun r =>
      (r.1.getLast?.map (·.event.call), r.2.state.admin)) =
      some (some (.acceptAdmin (.contract 13)), some (.contract 13)) from rfl)
  obtain ⟨hlast, hadmin⟩ := Prod.mk.inj hobserved
  obtain ⟨t, ht, haccept⟩ := Option.map_eq_some_iff.mp hlast
  obtain ⟨hands, -, hgovernance⟩ := admin_hand_over.1 _ _ _ hrun
  exact ⟨history, final, hrun, hadmin,
    hgovernance ⟨t, List.mem_of_getLast? ht, _, haccept⟩ _ hadmin rfl, hands⟩

end StellarDidCredit
