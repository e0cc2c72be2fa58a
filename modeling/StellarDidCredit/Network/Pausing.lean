import StellarDidCredit.CreditOracle.Timelock
import StellarDidCredit.IdentityOracle.Records
import StellarDidCredit.RevocationRegistry.Index

/-!
# Paused contracts

Each of the three contracts is paused by its admin, and the entry points that write check the
flag one by one. A paused registry changes by calls of its admin only. The other two contracts
have entry points without the check: a dispute is filed and a proposed admin accepts at a paused
credit oracle, and subjects are deactivated and reactivated at a paused identity oracle.
-/

namespace StellarDidCredit

/-- The holder of the admin role did not authorise the call. -/
def NotByAdmin (admin : Option Address) (env : Env) : Prop := ∀ a, admin = some a → ¬env.Authorized a

/-- Where no step pauses a system without an admin, a paused system has one. -/
theorem Run.admin_of_paused {σ ε : Type} {step : σ → ε → σ → Prop} {start final : σ}
    {history : List (Transition σ ε)} (admin : σ → Option Address) (paused : σ → Option Bool)
    (hkeep : ∀ s e s', (admin s = none → paused s = none) → step s e s' → admin s' = none → paused s' = none)
    (hrun : Run step start history final) (hstart : paused start = none) (hpaused : paused final = some true) :
    admin final ≠ none := by
  have hok : admin final = none → paused final = none :=
    hrun.invariant (fun s => admin s = none → paused s = none) hkeep fun _ => hstart
  intro hnone
  cases (hok hnone).symm.trans hpaused

/-! ## The credit oracle -/

namespace CreditOracle

variable {κ : Type} {host : Host κ} {env : Env} {call : Call} {s s' : State} {world world' : κ}

/-- Only a contract with an admin was ever paused. -/
theorem exec_paused (h : exec host env call s world = .ok (s', world'))
    (hs : s.admin = none → s.paused = none) : s'.admin = none → s'.paused = none := by
  cases exec_effect h with
  | initialized => exact fun hnone => absurd hnone (Option.some_ne_none _)
  | adminAccepted => exact fun hnone => absurd hnone (Option.some_ne_none _)
  | scoreComputed hcompute =>
    obtain ⟨score, protocolStats, rfl⟩ := computeScore_writes hcompute
    exact hs
  | other hcall hcore =>
    cases exec_writes hcall h with
    | paused hadmin => exact fun hnone => absurd (hadmin.symm.trans hnone) (Option.some_ne_none _)
    | unpaused hadmin => exact fun hnone => absurd (hadmin.symm.trans hnone) (Option.some_ne_none _)
    | _ => exact hs
  | _ => exact hs

/-- A paused contract has an admin. -/
theorem admin_of_paused {ledger : Ledger} {history : List Move} {final : Config}
    (hrun : Run (StepOf Config.next) (.fresh ledger) history final) (hpaused : final.state.paused = some true) :
    final.state.admin ≠ none := by
  refine hrun.admin_of_paused (·.state.admin) (·.state.paused) ?_ rfl hpaused
  exact fun c e c' hs hstep => exec_paused (Config.step_iff.mp hstep).2.2 hs

/-- Of the calls that the admin did not authorise, a paused contract executes filings and acceptances
only, and these write something. -/
theorem exec_while_paused (h : exec host env call s world = .ok (s', world')) (hadmin : s.admin ≠ none)
    (hpaused : s.paused = some true) (hnot : NotByAdmin s.admin env) :
    s' = s ↔ (∀ subject inputKey reason, call ≠ .flagScoreInput subject inputKey reason) ∧
      ∀ newAdmin, call ≠ .acceptAdmin newAdmin := by
  have hclosed : s.paused.getD false ≠ false := by simp [hpaused]
  have hunsigned {a : Address} (ha : s.admin = some a) (hauth : env.Authorized a) : False := hnot a ha hauth
  by_cases hother : call.IsOther
  · cases exec_writes hother h with
    | @disputeFiled subject inputKey reason hauth hkey hfree =>
      refine iff_of_false ?_ fun hcall => hcall.1 _ _ _ rfl
      intro hsame
      have hwritten := congrArg (fun s : State => s.dispute (subject, inputKey)) hsame
      simp only [Storage.set_self] at hwritten
      rw [← hwritten] at hfree
      simp at hfree
    | txStatsUpdated hopen => exact absurd hopen hclosed
    | vcCountSet hopen => exact absurd hopen hclosed
    | vcListed hopen => exact absurd hopen hclosed
    | vcKept hopen => exact absurd hopen hclosed
    | repaymentRecorded hamount hopen => exact absurd hopen hclosed
    | cooldownSet ha hauth => exact (hunsigned ha hauth).elim
    | feederRegistered ha hauth => exact (hunsigned ha hauth).elim
    | feederDeregistered ha hauth => exact (hunsigned ha hauth).elim
    | lenderRegistered ha hauth => exact (hunsigned ha hauth).elim
    | lenderDeregistered ha hauth => exact (hunsigned ha hauth).elim
    | paused ha hauth => exact (hunsigned ha hauth).elim
    | unpaused ha hauth => exact (hunsigned ha hauth).elim
    | typeWeightSet ha hauth => exact (hunsigned ha hauth).elim
    | recencyDecaySet ha hauth => exact (hunsigned ha hauth).elim
    | migrated ha hauth => exact (hunsigned ha hauth).elim
    | disputeResolved ha hauth => exact (hunsigned ha hauth).elim
  cases call <;> simp only [exec, alone_eq_ok, Outcome.map_snd_eq_ok] at h
  case initializeContract admin => exact absurd (initializeContract_spec h.1).1 hadmin
  case proposeWeights weights =>
    obtain ⟨-, ⟨a, ha, hauth⟩, -⟩ := proposeWeights_spec h.1
    exact (hunsigned ha hauth).elim
  case applyWeights => exact absurd (applyWeights_spec h.1).1 hclosed
  case proposeNewAdmin newAdmin =>
    obtain ⟨⟨a, ha, hauth⟩, -⟩ := proposeNewAdmin_spec h.1
    exact (hunsigned ha hauth).elim
  case acceptAdmin newAdmin =>
    obtain ⟨hauth, -, rfl⟩ := acceptAdmin_spec h.1
    refine iff_of_false ?_ fun hcall => hcall.2 _ rfl
    intro hsame
    have hwritten : some newAdmin = s.admin := congrArg State.admin hsame
    exact hunsigned hwritten.symm hauth
  case setIdentityOracle admin identityOracleId =>
    obtain ⟨⟨ha, hauth⟩, -⟩ := setIdentityOracle_spec h
    exact (hunsigned ha hauth).elim
  case computeScore subject =>
    obtain ⟨⟨v, hcompute⟩, -⟩ := h
    exact absurd (computeScore_spec hcompute).1 hclosed
  all_goals exact absurd trivial hother

end CreditOracle

/-! ## The identity oracle -/

namespace IdentityOracle

variable {env : Env} {call : Call} {s s' : State} {x : Address}

/-- A deactivation in the current ledger finds the subject deactivated in it, with all records
flagged. -/
structure Swept (env : Env) (s : State) (x : Address) : Prop where
  deactivated : s.deactivated x = some true
  marked : ∀ record ∈ anchorsOf s x, record.revoked = true
  noted : s.lastStateChange x = some env.ledger.sequence

/-- The call writes only what is there already, the cached counts aside, unless it changes the state of
a subject in a way that the contract does not stop while it is paused. -/
def Idle (env : Env) (s : State) : Call → Prop
  | .deactivateDid x => Swept env s x ∧ s.didDocument x = none
  | .deactivateIdentity x => Swept env s x
  | .reactivateIdentity x => s.deactivated x = none ∧ s.lastStateChange x = some env.ledger.sequence
  | _ => True

/-- Only a contract with an admin was ever paused. -/
theorem Writes.paused_admin (hwrites : Writes env s call s') (hs : s.admin = none → s.paused = none) :
    s'.admin = none → s'.paused = none := by
  cases hwrites with
  | initialized => exact fun hnone => absurd hnone (Option.some_ne_none _)
  | adminAccepted => exact fun hnone => absurd hnone (Option.some_ne_none _)
  | paused hadmin => exact fun hnone => absurd (hadmin.symm.trans hnone) (Option.some_ne_none _)
  | unpaused hadmin => exact fun hnone => absurd (hadmin.symm.trans hnone) (Option.some_ne_none _)
  | _ => exact hs

/-- A paused contract has an admin. -/
theorem admin_of_paused {history : List Move} {final : State} (hrun : Run (StepOf next) {} history final)
    (hpaused : final.paused = some true) : final.admin ≠ none := by
  refine hrun.admin_of_paused (·.admin) (·.paused) ?_ rfl hpaused
  exact fun s e s' hs hstep => (writes_of_next hstep).paused_admin hs

/-- Setting flags that are all set changes no record. -/
theorem revokeAllRecords_of_marked (h : ∀ record ∈ anchorsOf s x, record.revoked = true) :
    (revokeAllRecords x s).vcAnchors = s.vcAnchors := by
  have hsame : (anchorsOf s x).map (fun record => { record with revoked := true }) = anchorsOf s x := by
    refine (List.map_congr_left fun record hmem => ?_).trans (List.map_id _)
    have hrevoked := h record hmem
    cases record
    simp_all
  unfold revokeAllRecords
  dsimp only
  split
  case isTrue => rfl
  case isFalse hsome =>
    obtain ⟨record, hmem⟩ := List.exists_mem_of_ne_nil _ fun hnil => hsome (List.isEmpty_iff.mpr hnil)
    rw [hsame, Storage.set_eq_self (vcAnchors_eq_some hmem)]

/-- A deactivation changes nothing exactly if there is nothing to write. -/
theorem deactivated_idle (env : Env) (s : State) (x : Address) (documents : Storage Address HostString) :
    ({ s with
      deactivated := s.deactivated.set x true
      vcAnchors := (revokeAllRecords x s).vcAnchors
      didDocument := documents
      lastStateChange := s.lastStateChange.set x env.ledger.sequence
      protocolStats := { s.protocolStats with
        totalVcsRevoked := s.protocolStats.totalVcsRevoked +
          (anchorsOf s x).countP fun record => !record.revoked } } : State) = s ↔
      Swept env s x ∧ documents = s.didDocument := by
  constructor
  · intro hsame
    have hdeactivated := congrArg State.deactivated hsame
    have hnoted := congrArg State.lastStateChange hsame
    have hcounted := congrArg (fun s => s.protocolStats.totalVcsRevoked) hsame
    have hnone : (anchorsOf s x).countP (fun record => !record.revoked) = 0 := by
      dsimp only at hcounted
      omega
    refine ⟨⟨Storage.set_eq_self_iff.mp hdeactivated, ?_, Storage.set_eq_self_iff.mp hnoted⟩,
      congrArg State.didDocument hsame⟩
    intro record hmem
    simpa using List.countP_eq_zero.mp hnone record hmem
  · rintro ⟨hswept, rfl⟩
    have hnone : (anchorsOf s x).countP (fun record => !record.revoked) = 0 := by
      rw [List.countP_eq_zero]
      intro record hmem
      simp [hswept.marked record hmem]
    rw [Storage.set_eq_self hswept.deactivated, Storage.set_eq_self hswept.noted,
      revokeAllRecords_of_marked hswept.marked, hnone]
    rfl

/-- Of the calls that the admin did not authorise, a paused contract executes deactivations,
reactivations and reads of the count only. -/
theorem Writes.while_paused (hwrites : Writes env s call s') (hadmin : s.admin ≠ none)
    (hpaused : s.paused = some true) (hnot : NotByAdmin s.admin env) :
    { s' with activeVCCount := s.activeVCCount } = s ↔ Idle env s call := by
  have hclosed : s.paused.getD false ≠ false := by simp [hpaused]
  have hunsigned {a : Address} (ha : s.admin = some a) (hauth : env.Authorized a) : False := hnot a ha hauth
  cases hwrites with
  | initialized hnone => exact absurd hnone hadmin
  | paused ha hauth => exact (hunsigned ha hauth).elim
  | unpaused ha hauth => exact (hunsigned ha hauth).elim
  | migrated ha hauth => exact (hunsigned ha hauth).elim
  | issuerKept ha hauth => exact (hunsigned ha hauth).elim
  | issuerListed ha hauth => exact (hunsigned ha hauth).elim
  | issuerDeregistered ha hauth => exact (hunsigned ha hauth).elim
  | registryLinked hopen => exact absurd hopen hclosed
  | issuerTierSet hopen => exact absurd hopen hclosed
  | adminProposed hopen => exact absurd hopen hclosed
  | adminAccepted hopen => exact absurd hopen hclosed
  | maintained hopen => exact absurd hopen hclosed
  | didAnchored hopen => exact absurd hopen hclosed
  | vcKept hcall hopen => exact absurd hopen hclosed
  | vcAnchored hcall hopen => exact absurd hopen hclosed
  | vcRevoked hopen => exact absurd hopen hclosed
  | vcRemarked hopen => exact absurd hopen hclosed
  | @deactivated _ subject hcall hauth =>
    refine (deactivated_idle env s subject _).trans ?_
    cases call with
    | deactivateDid x =>
      obtain rfl := Option.some.inj hcall
      exact and_congr_right fun _ => Storage.remove_eq_self_iff
    | deactivateIdentity x =>
      obtain rfl := Option.some.inj hcall
      exact and_iff_left rfl
    | _ => cases hcall
  | @reactivated subject hauth =>
    constructor
    · intro hsame
      have hdeactivated := congrArg State.deactivated hsame
      have hnoted := congrArg State.lastStateChange hsame
      exact ⟨Storage.remove_eq_self_iff.mp hdeactivated, Storage.set_eq_self_iff.mp hnoted⟩
    · rintro ⟨hdeactivated, hnoted⟩
      dsimp only
      rw [Storage.remove_eq_self_iff.mpr hdeactivated, Storage.set_eq_self hnoted]
  | counted => exact iff_of_true rfl trivial

end IdentityOracle

/-! ## The revocation registry -/

namespace RevocationRegistry

variable {κ : Type} {host : Host κ} {env : Env} {call : Call} {s s' : State} {world world' : κ}

/-- Only a contract with an admin was ever paused. -/
theorem exec_paused (h : exec host env call s world = .ok (s', world'))
    (hs : s.admin = none → s.paused = none) : s'.admin = none → s'.paused = none := by
  cases hcall : call.revocation with
  | none =>
    cases exec_administers hcall h with
    | initialized => exact fun hnone => absurd hnone (Option.some_ne_none _)
    | adminAccepted => exact fun hnone => absurd hnone (Option.some_ne_none _)
    | paused hadmin => exact fun hnone => absurd (hadmin.symm.trans hnone) (Option.some_ne_none _)
    | unpaused hadmin => exact fun hnone => absurd (hadmin.symm.trans hnone) (Option.some_ne_none _)
    | _ => exact hs
  | some revocation =>
    obtain ⟨-, _, _, _, _, _, rfl⟩ := exec_revocation hcall h
    exact hs

/-- A paused contract has an admin. -/
theorem admin_of_paused {history : List (Transition State Event)} {final : State}
    (hrun : Run (StepOf next) {} history final) (hpaused : final.paused = some true) : final.admin ≠ none := by
  refine hrun.admin_of_paused (·.admin) (·.paused) ?_ rfl hpaused
  exact fun s e s' hs hstep => exec_paused (exec_of_next hstep) hs

/-- A paused contract executes no call that its admin did not authorise. -/
theorem not_exec_while_paused (h : exec host env call s world = .ok (s', world')) (hadmin : s.admin ≠ none)
    (hpaused : s.paused = some true) (hnot : NotByAdmin s.admin env) : False := by
  have hclosed : s.paused.getD false ≠ false := by simp [hpaused]
  cases hcall : call.revocation with
  | none =>
    cases exec_administers hcall h with
    | initialized hnone => exact hadmin hnone
    | paused ha hauth => exact hnot _ ha hauth
    | unpaused ha hauth => exact hnot _ ha hauth
    | adminProposed ha hauth => exact hnot _ ha hauth
    | batchLimitSet hopen => exact hclosed hopen
    | identityLinked hopen => exact hclosed hopen
    | adminAccepted hopen => exact hclosed hopen
    | maintained hopen => exact hclosed hopen
  | some revocation => exact hclosed (exec_revocation hcall h).1

end RevocationRegistry

/-! ## Every reachable paused state -/

/-- A call that the admin did not authorise leaves a paused contract as it was exactly if it is not one
of the calls without the check: at the credit oracle a filing or an acceptance, at the identity
oracle a deactivation or a reactivation that has something to write; the registry has none. -/
theorem pause_freezes_iff (ledger : Ledger) :
    (∀ history final, Run (StepOf CreditOracle.Config.next) (.fresh ledger) history final →
      final.state.paused = some true → ∀ e after, StepOf CreditOracle.Config.next final e after →
      NotByAdmin final.state.admin e.env →
      (after.state = final.state ↔
        (∀ subject inputKey reason, e.call ≠ .flagScoreInput subject inputKey reason) ∧
        ∀ newAdmin, e.call ≠ .acceptAdmin newAdmin)) ∧
    (∀ history final, Run (StepOf IdentityOracle.next) {} history final →
      final.paused = some true → ∀ e after, StepOf IdentityOracle.next final e after →
      NotByAdmin final.admin e.env →
      ({ after with activeVCCount := final.activeVCCount } = final ↔ IdentityOracle.Idle e.env final e.call)) ∧
    ∀ history final, Run (StepOf RevocationRegistry.next) {} history final →
      final.paused = some true → ∀ e after, StepOf RevocationRegistry.next final e after →
      NotByAdmin final.admin e.env → after = final := by
  refine ⟨?_, ?_, ?_⟩
  · intro history final hrun hpaused e after hstep hnot
    exact CreditOracle.exec_while_paused (CreditOracle.Config.step_iff.mp hstep).2.2
      (CreditOracle.admin_of_paused hrun hpaused) hpaused hnot
  · intro history final hrun hpaused e after hstep hnot
    exact (IdentityOracle.writes_of_next hstep).while_paused
      (IdentityOracle.admin_of_paused hrun hpaused) hpaused hnot
  · intro history final hrun hpaused e after hstep hnot
    exact (RevocationRegistry.not_exec_while_paused (RevocationRegistry.exec_of_next hstep)
      (RevocationRegistry.admin_of_paused hrun hpaused) hpaused hnot).elim

/-- A subject deactivates its identity at a paused identity oracle. -/
def samplePaused : List IdentityOracle.Event :=
  [ IdentityOracle.sampleEvent 0 (.initializeContract (.account 1)),
    IdentityOracle.sampleEvent 1 .pause,
    IdentityOracle.sampleEvent 2 (.deactivateIdentity (.account 3)) ]

/-- The subject again, in the same ledger. -/
def sampleAgain : IdentityOracle.Event :=
  { env := .signedBy (.numbered 2) (.contract 10) [.account 3], call := .deactivateIdentity (.account 3)
    host := (IdentityOracle.sampleEvent 2 .pause).host }

/-- A subject deactivates itself a second time, at a paused identity oracle. -/
theorem pause_freezes_iff_sample :
    ∃ history final after, Run (StepOf IdentityOracle.next) {} history final ∧ final.paused = some true ∧
      StepOf IdentityOracle.next final sampleAgain after ∧
      { after with activeVCCount := final.activeVCCount } = final := by
  obtain ⟨history, final, hrun, hobserved⟩ := Run.exists_of_replay
    (show (replay IdentityOracle.next {} samplePaused).map (fun r =>
      (r.2.admin, r.2.paused, (IdentityOracle.next r.2 sampleAgain).isSome,
        r.2.deactivated (.account 3), IdentityOracle.anchorsOf r.2 (.account 3),
        r.2.lastStateChange (.account 3))) =
      some (some (.account 1), some true, true, some true, [], some 2) from rfl)
  simp only [Prod.mk.injEq] at hobserved
  obtain ⟨hadmin, hpaused, hreturned, hdeactivated, hrecords, hnoted⟩ := hobserved
  obtain ⟨after, hstep⟩ := Option.isSome_iff_exists.mp hreturned
  have hnot : NotByAdmin final.admin sampleAgain.env := by
    rw [hadmin]
    rintro _ ⟨⟩
    decide
  refine ⟨history, final, after, hrun, hpaused, hstep, ?_⟩
  refine ((pause_freezes_iff (.numbered 0)).2.1 history final hrun hpaused sampleAgain after hstep hnot).mpr ?_
  refine ⟨hdeactivated, ?_, hnoted⟩
  intro record hmem
  cases hrecords ▸ hmem

/-- The credit oracle is initialised and paused. -/
def samplePausedOracle : List CreditOracle.Event :=
  [ CreditOracle.sampleEvent 0 (.initializeContract (.account 1)),
    CreditOracle.sampleEvent 1 (.pause (.account 1)) ]

/-- A subject files a dispute. -/
def sampleFiling : CreditOracle.Event :=
  { env := .signedBy (.numbered 2) (.contract 11) [.account 3]
    call := .flagScoreInput (.account 3) "vc_count" [], host := CreditOracle.silentHost }

/-- A dispute is filed at a paused credit oracle. -/
theorem not_pause_freezes :
    ¬∀ ledger history final, Run (StepOf CreditOracle.Config.next) (.fresh ledger) history final →
      final.state.paused = some true → ∀ e after, StepOf CreditOracle.Config.next final e after →
      NotByAdmin final.state.admin e.env → after.state = final.state := by
  intro hfreezes
  obtain ⟨history, final, hrun, hobserved⟩ := Run.exists_of_replay
    (show (replay CreditOracle.Config.next (.fresh (.numbered 0)) samplePausedOracle).map (fun r =>
      (r.2.state.admin, r.2.state.paused, r.2.state.dispute (.account 3, "vc_count"),
        (CreditOracle.Config.next r.2 sampleFiling).map (fun c => c.state.dispute (.account 3, "vc_count")))) =
      some (some (.account 1), some true, none,
        some (some ⟨.account 3, "vc_count", [], 2, .pending⟩)) from by decide +kernel)
  simp only [Prod.mk.injEq] at hobserved
  obtain ⟨hadmin, hpaused, hbefore, hafter⟩ := hobserved
  obtain ⟨after, hstep, hfiled⟩ := Option.map_eq_some_iff.mp hafter
  have hnot : NotByAdmin final.state.admin sampleFiling.env := by
    rw [hadmin]
    rintro _ ⟨⟩
    decide
  have hsame := hfreezes (.numbered 0) history final hrun hpaused sampleFiling after hstep hnot
  rw [hsame, hbefore] at hfiled
  cases hfiled

end StellarDidCredit
