import StellarDidCredit.CreditOracle.Statistics
import StellarDidCredit.Network.Anchoring

/-!
# Scores that can always be computed

A linked identity oracle stays deployed and answers every call of a computation, the stored inputs
are in the layout in which they are read, and the formula does not overflow on them. A computation
that may start therefore returns, unless it is the first one of its subject and the counter of the
scored subjects is full.
-/

namespace StellarDidCredit.CreditOracle

variable {κ : Type} {host : Host κ} {env : Env} {call : Call} {s s' : State} {world world' : κ}

/-- The link changes to an identity oracle that answered the probe. -/
theorem exec_link (h : exec host env call s world = .ok (s', world')) :
    s'.identityOracleId = s.identityOracleId ∨ ∃ a count,
      host.getActiveVcCount world a env.currentContract = some (count, world') ∧
        s'.identityOracleId = some a := by
  cases exec_effect h with
  | @identityLinked admin a hadmin =>
    obtain ⟨-, ⟨count, hprobe⟩, -⟩ := setIdentityOracle_spec h
    exact Or.inr ⟨a, count, hprobe, rfl⟩
  | scoreComputed hcompute => exact Or.inl (congrArg Core.identityOracleId (computeScore_core hcompute))
  | other hcall hcore => exact Or.inl (congrArg Core.identityOracleId hcore)
  | _ => exact Or.inl rfl

/-- A first computation without an identity oracle counts the subject and stores its score only. -/
theorem computeScore_first {x : Address} {v : ℕ} (h : computeScore host env x s world = .ok (v, s'))
    (hlink : s.identityOracleId = none) (hnew : s.score x = none) :
    s'.protocolStats.totalSubjectsScored = s.protocolStats.totalSubjectsScored + 1 ∧
      ∀ y, y ≠ x → s'.score y = s.score y := by
  have hresolve : resolveVcPoints host env world s x = .ok (some (localVcPoints s x)) := by
    rw [resolveVcPoints, hlink]
  obtain ⟨-, -, repayment, -, ⟨-, -, hnone⟩ | ⟨vcPoints, vcCount, weights, -, -, -, hstored⟩⟩ :=
    computeScore_spec h
  · cases hresolve.symm.trans hnone
  · have htotal := (storeScore_statistics hstored).2.2.2
    rw [if_pos hnew] at htotal
    refine ⟨htotal, fun y hy => ?_⟩
    rcases storeScore_spec hstored with ⟨rfl, -⟩ | ⟨-, protocolStats, rfl⟩
    · rfl
    · exact Storage.set_of_ne _ _ hy

end StellarDidCredit.CreditOracle

namespace StellarDidCredit.Network

open IdentityOracle (anchorsOf getVcCredentialType)

variable {w w' : World} {e : Event} {a c x : Address} {s : IdentityOracle.State} {k : CreditOracle.State}
  {ledger now : Ledger} {history : List Move} {v : ℕ}

/-! ## Linked identity oracles -/

/-- In every reachable state the identity oracle linked to a credit oracle is deployed. -/
theorem linkedIdentity_deployed (hrun : Run Step (.genesis ledger) history w)
    (hk : w.contracts c = some (.creditOracle k)) (hlinked : k.identityOracleId = some a) :
    ∃ s, w.contracts a = some (.identityOracle s) := by
  refine hrun.invariant (fun w => ∀ k, w.contracts c = some (.creditOracle k) →
    ∀ a, k.identityOracleId = some a → ∃ s, w.contracts a = some (.identityOracle s))
    ?_ (by simp) k hk a hlinked
  intro w e w' hbefore h k' hk' a hlinked'
  have hkept (hs : ∃ s, w.contracts a = some (.identityOracle s)) :
      ∃ s, w'.contracts a = some (.identityOracle s) := by
    obtain ⟨s, hs⟩ := hs
    obtain ⟨s', hs', -⟩ := identity_step h hs
    exact ⟨s', hs'⟩
  rcases credit_origin h hk' with ⟨-, rfl⟩ | ⟨k, hk, -⟩
  · cases hlinked'
  · obtain ⟨after, hafter, hcalled⟩ := credit_called h hk
    cases hafter.symm.trans hk'
    have hexecuted {env env' : Env} {call : CreditOracle.Call} {others : Contracts}
        (hexec : CreditOracle.exec (creditHost env [c]) env' call k w.contracts = .ok (k', others)) :
        ∃ s, w.contracts a = some (.identityOracle s) := by
      rcases CreditOracle.exec_link hexec with hsame | ⟨b, count, hprobe, hlink⟩
      · exact hbefore k hk a (hsame.symm.trans hlinked')
      · obtain rfl := Option.some.inj (hlink.symm.trans hlinked')
        obtain ⟨-, s, hs, -⟩ := onIdentity_eq_some.mp hprobe
        exact ⟨s, hs⟩
    cases hcalled with
    | idle => exact hkept (hbefore k' hk a hlinked')
    | own he hexec => exact hkept (hexecuted hexec)
    | governed he hg hlinked hforwards hexec => exact hkept (hexecuted hexec)

/-- The linked identity oracle reports the subject as deactivated. -/
def ReportedDeactivated (w : World) (k : CreditOracle.State) (x : Address) : Prop :=
  ∃ a, k.identityOracleId = some a ∧ w.isDeactivated a x = some true

/-- A subject has no more records at the linked identity oracle than a vector can hold. -/
def RecordsFit (w : World) (k : CreditOracle.State) (x : Address) : Prop :=
  ∀ a s, k.identityOracleId = some a → w.contracts a = some (.identityOracle s) →
    (anchorsOf s x).length ≤ U32.max

/-- In a reachable state the credentials of a subject can be resolved, and there are none exactly for
a subject that is reported as deactivated. -/
theorem resolveVcPoints_reachable (hrun : Run Step (.genesis ledger) history w)
    (hk : w.contracts c = some (.creditOracle k)) (hfit : RecordsFit w k x) (now : Ledger) :
    ∃ resolved, CreditOracle.resolveVcPoints (creditHost (.signedBy now c []) [c]) (.signedBy now c [])
      w.contracts k x = .ok resolved ∧ (resolved = none ↔ ReportedDeactivated w k x) := by
  cases hlink : k.identityOracleId with
  | none =>
    refine ⟨some (CreditOracle.localVcPoints k x), ?_, iff_of_false (Option.some_ne_none _) ?_⟩
    · rw [CreditOracle.resolveVcPoints, hlink]
    · rintro ⟨a, hlinked, -⟩
      cases hlink.symm.trans hlinked
  | some a =>
    obtain ⟨s, hs⟩ := linkedIdentity_deployed hrun hk hlink
    have hfew : (activeRecordsOf w s x).length ≤ U32.max :=
      (List.length_filter_le _ _).trans (hfit a s hlink hs)
    refine ⟨_, CreditOracle.resolveVcPoints_eq hlink (answers_reachable hrun hk hs hfew), ?_⟩
    have hreported : ReportedDeactivated w k x ↔ IdentityOracle.isDeactivated s x = true := by
      constructor
      · rintro ⟨b, hlinked, hanswer⟩
        obtain rfl := Option.some.inj (hlink.symm.trans hlinked)
        exact Option.some.inj ((isDeactivated_eq hs x).symm.trans hanswer)
      · intro hflag
        exact ⟨a, hlink, (isDeactivated_eq hs x).trans (congrArg some hflag)⟩
    rw [hreported]
    cases IdentityOracle.isDeactivated s x <;> simp

/-- `compute_score` in the network is the computation at the contract. -/
theorem computeScore_isSome_iff (hk : w.contracts c = some (.creditOracle k)) :
    (w.computeScore now c x).isSome = true ↔ ∃ v k', CreditOracle.computeScore
      (creditHost (.signedBy now c []) [c]) (.signedBy now c []) x k w.contracts = .ok (v, k') := by
  simp only [World.computeScore, Option.isSome_iff_exists, onCredit_eq_some, hk, Option.some.injEq,
    Contract.creditOracle.injEq, Option.bind_eq_bind, Option.bind_eq_some_iff, Outcome.toOption_eq_some]
  constructor
  · rintro ⟨_, -, _, rfl, ⟨v, k'⟩, hcompute, -⟩
    exact ⟨v, k', hcompute⟩
  · rintro ⟨v, k', hcompute⟩
    exact ⟨_, by simp, k, rfl, (v, k'), hcompute, rfl⟩

/-- What a computation of an initialised contract reads: a repayment record and weights, on which the
formula does not overflow. -/
theorem inputs_reachable (hrun : Run Step (.genesis ledger) history w)
    (hk : w.contracts c = some (.creditOracle k)) (hinitialised : k.admin ≠ none) (x : Address) :
    ∃ repayment weights, CreditOracle.loadRepaymentForScore k x = .ok repayment ∧ k.config = some weights ∧
      (FitsI128 (CreditOracle.loadTxStats k x).volume30d → ∀ vcPoints,
        computeScoreChecked vcPoints (CreditOracle.loadTxStats k x).volume30d
          (CreditOracle.loadTxStats k x).avgCounterparties repayment.onTimeCount repayment.totalCount
          repayment.totalRepaid weights.vcWeight weights.txWeight weights.repaymentWeight =
        some (CreditOracle.scoreWith k x repayment weights vcPoints)) := by
  obtain ⟨own, final, hown, rfl, -⟩ := credit_standalone hrun hk
  obtain ⟨hmigrated, hconfig⟩ := (CreditOracle.founded_of_run hown).initialised hinitialised
  obtain ⟨weights, hweights⟩ := Option.ne_none_iff_exists'.mp hconfig
  obtain ⟨repayment, hload⟩ := (CreditOracle.loadRepayment_returns_iff (x := x)).mpr fun entry hentry =>
    hmigrated.layout x entry hentry
  have hnew : ¬final.state.storageVersion.getD 1 < 2 := by simp [hmigrated.version]
  refine ⟨repayment, weights, by rw [CreditOracle.loadRepaymentForScore, if_neg hnew, hload], hweights, ?_⟩
  intro hvolume vcPoints
  exact CreditOracle.computeScoreChecked_of_state (CreditOracle.weightsOk_of_run hown)
    (CreditOracle.countersOk_of_run hown) (CreditOracle.amountsOk_of_run hown) hload hweights hvolume vcPoints

/-- A computation that may start returns, unless it has to count one more subject than fits. -/
theorem computeScore_returns_reachable (hrun : Run Step (.genesis ledger) history w)
    (hk : w.contracts c = some (.creditOracle k)) (hinitialised : k.admin ≠ none) (hfit : RecordsFit w k x)
    (hpaused : k.paused.getD false = false)
    (hcooldown : CreditOracle.checkComputeCooldown (.signedBy now c []) k x = .ok ()) :
    (w.computeScore now c x).isSome = true ↔
      ReportedDeactivated w k x ∨ (k.score x = none → k.protocolStats.totalSubjectsScored < U64.max) := by
  obtain ⟨repayment, weights, hload, hweights, -⟩ := inputs_reachable hrun hk hinitialised x
  obtain ⟨resolved, hresolve, hnone⟩ := resolveVcPoints_reachable hrun hk hfit now
  rw [computeScore_isSome_iff hk, CreditOracle.computeScore_returns_of_resolved hpaused hcooldown hload
    hweights hresolve, ← hnone, ← or_iff_not_imp_left]
  rfl

/-- In every run of a credit oracle that is initialised the counters agree with the records and the
records are in order. In every reachable state of the network a computation that may start returns,
unless it has to count one more subject than fits, and the formula does not overflow. -/
theorem credit_bookkeeping :
    (∀ ledger history final, Run (StepOf CreditOracle.Config.next) (.fresh ledger) history final →
      final.state.admin ≠ none →
      CreditOracle.StatisticsOk (history.countP fun t => t.event.call.recordsRepayment) final.state ∧
        CreditOracle.RecordsOk final.state) ∧
    ∀ ledger history w c k, Run Step (.genesis ledger) history w → w.contracts c = some (.creditOracle k) →
      k.admin ≠ none → ∀ now x, RecordsFit w k x → k.paused.getD false = false →
      CreditOracle.checkComputeCooldown (.signedBy now c []) k x = .ok () →
      ((w.computeScore now c x).isSome = true ↔
        ReportedDeactivated w k x ∨ (k.score x = none → k.protocolStats.totalSubjectsScored < U64.max)) ∧
      ∃ repayment weights, CreditOracle.loadRepaymentForScore k x = .ok repayment ∧ k.config = some weights ∧
        (FitsI128 (CreditOracle.loadTxStats k x).volume30d → ∀ vcPoints,
          computeScoreChecked vcPoints (CreditOracle.loadTxStats k x).volume30d
            (CreditOracle.loadTxStats k x).avgCounterparties repayment.onTimeCount repayment.totalCount
            repayment.totalRepaid weights.vcWeight weights.txWeight weights.repaymentWeight =
          some (CreditOracle.scoreWith k x repayment weights vcPoints)) := by
  refine ⟨?_, ?_⟩
  · intro ledger history final hrun hinitialised
    exact ⟨CreditOracle.statisticsOk_of_run hrun, CreditOracle.recordsOk_of_run hrun hinitialised⟩
  · intro ledger history w c k hrun hk hinitialised now x hfit hpaused hcooldown
    exact ⟨computeScore_returns_reachable hrun hk hinitialised hfit hpaused hcooldown,
      inputs_reachable hrun hk hinitialised x⟩

/-- One repayment, and a computation over a linked identity oracle. -/
theorem credit_bookkeeping_sample :
    (∃ history final, Run (StepOf CreditOracle.Config.next) (.fresh (.numbered 0)) history final ∧
      CreditOracle.StatisticsOk 1 final.state) ∧
    ∃ history w, Run Step (.genesis (.numbered 0)) history w ∧ LinkedTo w (.contract 22) (.contract 21) ∧
      (w.computeScore (.numbered 1) (.contract 22) (.account 3)).isSome = true := by
  constructor
  · obtain ⟨history, final, hrun, hobserved⟩ := Run.exists_of_replay
      (show (replay CreditOracle.Config.next (.fresh (.numbered 0)) CreditOracle.sampleRepayments).map (fun r =>
        (r.2.state.admin, r.1.countP fun t => t.event.call.recordsRepayment)) =
          some (some (.account 1), 1) from rfl)
    obtain ⟨hadmin, hcount⟩ := Prod.mk.inj hobserved
    have hok := (credit_bookkeeping.1 _ history final hrun (Option.ne_none_iff_exists'.mpr ⟨_, hadmin⟩)).1
    rw [hcount] at hok
    exact ⟨history, final, hrun, hok⟩
  · let anchored : IdentityVCRecord := { vcHash := 7, issuer := .account 2, anchoredAt := 0, revoked := false }
    obtain ⟨history, w, hrun, hobserved⟩ := Run.exists_of_replay
      (show (replay World.next (.genesis (.numbered 0)) (sampleDeployment (.numbered 0))).map (fun r =>
        (onCredit [] r.2.contracts (.contract 22) fun k =>
          some (k.identityOracleId, decide (k.admin ≠ none ∧ k.paused = none ∧
            k.protocolStats.totalSubjectsScored = 0), (k.score (.account 3)).isNone),
        onIdentity [] r.2.contracts (.contract 21) fun s => s.vcAnchors (.account 3))) =
        some (some (some (.contract 21), true, true), some [anchored]) by decide +kernel)
    obtain ⟨hcredit, hidentity⟩ := Prod.mk.inj hobserved
    obtain ⟨-, k, hk, hstate⟩ := onCredit_eq_some.mp hcredit
    obtain ⟨-, s, hs, hanchors⟩ := onIdentity_eq_some.mp hidentity
    simp only [Option.some.injEq, Prod.mk.injEq] at hstate
    obtain ⟨hlinked, hstate, hnew⟩ := hstate
    obtain ⟨hadmin, hpaused, hcounted⟩ := of_decide_eq_true hstate
    have hfit : RecordsFit w k (.account 3) := by
      intro a s' hlinked' hs'
      obtain rfl := Option.some.inj (hlinked.symm.trans hlinked')
      cases hs.symm.trans hs'
      rw [anchorsOf, hanchors]
      decide
    have hcooldown : CreditOracle.checkComputeCooldown (.signedBy (.numbered 1) (.contract 22) []) k (.account 3) =
        .ok () := by
      rw [CreditOracle.checkComputeCooldown, Option.isNone_iff_eq_none.mp hnew]
    have hroom : k.protocolStats.totalSubjectsScored < U64.max := by
      rw [hcounted]
      decide
    refine ⟨history, w, hrun, ⟨k, s, hk, hlinked, hs⟩, ?_⟩
    exact (credit_bookkeeping.2 _ history w _ k hrun hk hadmin (.numbered 1) (.account 3) hfit
      (by rw [hpaused]; rfl) hcooldown).1.mpr (Or.inr fun _ => hroom)

/-! ## A full counter -/

/-- A computation that returns is a step. -/
theorem step_of_computeScore (hnow : w.ledger.NotAfter now) (h : w.computeScore now c x = some (v, w')) :
    Step w (.invoke now [] c (.creditOracle (.computeScore x))) w' := by
  simp only [World.computeScore, onCredit_eq_some, Option.bind_eq_bind, Option.bind_eq_some_iff,
    Outcome.toOption_eq_some, Option.some.injEq, Prod.mk.injEq] at h
  obtain ⟨-, k, hk, ⟨_, k'⟩, hcompute, rfl, rfl⟩ := h
  have hexec : CreditOracle.exec (creditHost (.signedBy now c []) [c]) (.signedBy now c []) (.computeScore x) k
      w.contracts = .ok (k', w.contracts) := by
    simp only [CreditOracle.exec, CreditOracle.alone_eq_ok, Outcome.map_snd_eq_ok]
    exact ⟨⟨_, hcompute⟩, trivial⟩
  have hinvoke : invoke (.signedBy now c []) (.creditOracle (.computeScore x)) w.contracts =
      some (w.contracts.set c (.creditOracle k')) := by
    simp only [invoke, onCredit_eq_some, Option.bind_eq_bind, Option.bind_eq_some_iff,
      Outcome.toOption_eq_some]
    exact ⟨by simp, k, hk, (k', w.contracts), hexec, rfl⟩
  simp only [Step, StepOf, World.next, Option.bind_eq_bind, Option.bind_eq_some_iff, Option.guard_eq_some']
  exact ⟨(), hnow, (), by simp, _, hinvoke, rfl⟩

/-- The account with this number. -/
def numberedAccount (n : ℕ) : Address := .account (BitVec.ofNat 256 n)

/-- Accounts of different numbers differ. -/
theorem numberedAccount_ne {m n : ℕ} (hn : n < m) (hm : m < 2 ^ 256) :
    numberedAccount m ≠ numberedAccount n := by
  intro heq
  have hkey := congrArg BitVec.toNat (Address.account.inj heq)
  simp only [BitVec.toNat_ofNat, Nat.mod_eq_of_lt hm, Nat.mod_eq_of_lt (hn.trans hm)] at hkey
  omega

/-- A credit oracle without an identity oracle that has scored the first `n` accounts and no other. -/
structure ScoredUpTo (n : ℕ) (w : World) (c : Address) (k : CreditOracle.State) : Prop where
  deployed : w.contracts c = some (.creditOracle k)
  initialised : k.admin ≠ none
  unlinked : k.identityOracleId = none
  unpaused : k.paused.getD false = false
  counted : k.protocolStats.totalSubjectsScored = n
  others : ∀ m, n ≤ m → m < 2 ^ 256 → k.score (numberedAccount m) = none

/-- The next account is scored as long as the counter has room. -/
theorem ScoredUpTo.next (hrun : Run Step (.genesis ledger) history w) {n : ℕ} (h : ScoredUpTo n w c k)
    (hroom : n < U64.max) :
    ∃ history' w' k', Run Step (.genesis ledger) history' w' ∧ ScoredUpTo (n + 1) w' c k' := by
  have hsmall : n < 2 ^ 256 := hroom.trans (by decide)
  have hnew : k.score (numberedAccount n) = none := h.others n le_rfl hsmall
  have hfit : RecordsFit w k (numberedAccount n) := by
    intro a s hlinked
    cases h.unlinked.symm.trans hlinked
  have hcooldown : CreditOracle.checkComputeCooldown (.signedBy w.ledger c []) k (numberedAccount n) = .ok () := by
    rw [CreditOracle.checkComputeCooldown, hnew]
  have hreturns : (w.computeScore w.ledger c (numberedAccount n)).isSome = true := by
    refine (computeScore_returns_reachable hrun h.deployed h.initialised hfit h.unpaused hcooldown).mpr
      (Or.inr fun _ => ?_)
    rw [h.counted]
    exact hroom
  obtain ⟨⟨v, w'⟩, hcompute⟩ := Option.isSome_iff_exists.mp hreturns
  have hstep := step_of_computeScore (.refl _) hcompute
  obtain ⟨v', k', hafter, hcomputed⟩ := computeScore_step hstep h.deployed
  obtain ⟨htotal, hothers⟩ := CreditOracle.computeScore_first hcomputed h.unlinked hnew
  obtain ⟨score, protocolStats, hwrites⟩ := CreditOracle.computeScore_writes hcomputed
  refine ⟨_, w', k', hrun.snoc hstep, ?_⟩
  constructor
  case deployed =>
    rw [hafter]
    exact Storage.set_self _ _ _
  case initialised =>
    rw [hwrites]
    exact h.initialised
  case unlinked =>
    rw [hwrites]
    exact h.unlinked
  case unpaused =>
    rw [hwrites]
    exact h.unpaused
  case counted => rw [htotal, h.counted]
  case others =>
    intro m hm hlt
    rw [hothers _ (numberedAccount_ne hm hlt)]
    exact h.others m (Nat.le_of_succ_le hm) hlt

/-- A credit oracle is deployed and initialised. -/
def sampleOracle : List Event :=
  [ .deploy (.numbered 0) (.contract 22) .creditOracle,
    .invoke (.numbered 0) [.account 1] (.contract 22) (.creditOracle (.initializeContract (.account 1))) ]

/-- As many accounts as the counter can hold can be scored one after the other. -/
theorem exists_scoredUpTo (n : ℕ) (hn : n ≤ U64.max) :
    ∃ history w k, Run Step (.genesis (.numbered 0)) history w ∧ ScoredUpTo n w (.contract 22) k := by
  induction n with
  | zero =>
    obtain ⟨history, w, hrun, hobserved⟩ := Run.exists_of_replay
      (show (replay World.next (.genesis (.numbered 0)) sampleOracle).map
        (fun r => onCredit [] r.2.contracts (.contract 22) some) = some (some
          { admin := some (.account 1), config := some ⟨40, 30, 30⟩, computeCooldownLedgers := some 1,
            storageVersion := some 2 }) from rfl)
    obtain ⟨-, k, hk, hstate⟩ := onCredit_eq_some.mp hobserved
    obtain rfl := Option.some.inj hstate
    exact ⟨history, w, _, hrun, hk, Option.some_ne_none _, rfl, rfl, rfl, fun m _ _ => rfl⟩
  | succ n ih =>
    obtain ⟨history, w, k, hrun, hscored⟩ := ih (Nat.le_of_succ_le hn)
    exact hscored.next hrun hn

/-- With a full counter no further subject is scored. -/
theorem not_computeScore_returns :
    ¬∀ ledger history w c k, Run Step (.genesis ledger) history w → w.contracts c = some (.creditOracle k) →
      k.admin ≠ none → ∀ now x, RecordsFit w k x → k.paused.getD false = false →
      CreditOracle.checkComputeCooldown (.signedBy now c []) k x = .ok () →
      (w.computeScore now c x).isSome = true := by
  intro hreturns
  obtain ⟨history, w, k, hrun, hscored⟩ := exists_scoredUpTo U64.max le_rfl
  have hnew : k.score (numberedAccount U64.max) = none := hscored.others _ le_rfl (by decide)
  have hfit : RecordsFit w k (numberedAccount U64.max) := by
    intro a s hlinked
    cases hscored.unlinked.symm.trans hlinked
  have hcooldown : CreditOracle.checkComputeCooldown (.signedBy w.ledger (.contract 22) []) k
      (numberedAccount U64.max) = .ok () := by
    rw [CreditOracle.checkComputeCooldown, hnew]
  have hreturned := hreturns _ history w _ k hrun hscored.deployed hscored.initialised w.ledger _ hfit
    hscored.unpaused hcooldown
  rcases (computeScore_returns_reachable hrun hscored.deployed hscored.initialised hfit hscored.unpaused
    hcooldown).mp hreturned with ⟨a, hlinked, -⟩ | hroom
  · cases hscored.unlinked.symm.trans hlinked
  · exact absurd (hroom hnew) (by rw [hscored.counted]; exact lt_irrefl _)

end StellarDidCredit.Network
