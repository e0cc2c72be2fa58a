import StellarDidCredit.Governance.Proposals

/-!
# The quorum of new proposals

The initialisation and `set_quorum` refuse a quorum that is not positive, `set_quorum_percent` a
percentage that is zero. A proposal created under a percentage nevertheless gets the quorum zero while
that percentage of the registered weight is less than one unit, because the division rounds down.
-/

namespace StellarDidCredit.Governance

variable {κ : Type} {host : Host κ} {env : Env} {call : Call} {s s' : State} {world world' : κ}
  {ledger : Ledger} {history : List Move} {final : Config}

/-! ## The default quorum -/

/-- The quorum of an initialised contract is set and positive. -/
def QuorumSet (s : State) : Prop := s.admin ≠ none → ∃ quorum, s.quorumRequired = some quorum ∧ 0 < quorum

/-- The initialisation refuses a quorum that is not positive. -/
theorem initializeContract_positive {admin creditOracle : Address} {quorum : ℤ}
    (h : initializeContract env admin creditOracle quorum s = .ok s') : 0 < quorum := by
  simp only [initializeContract, Outcome.bind_eq_ok, Outcome.require_eq_ok] at h
  obtain ⟨_, _, _, hpositive, -⟩ := h
  exact hpositive

/-- A successful call writes a positive default quorum or none; without one the admin stays. -/
theorem exec_quorumRequired (h : exec host env call s world = .ok (s', world')) :
    (∃ quorum, 0 < quorum ∧ s'.quorumRequired = some quorum) ∨
      (s'.quorumRequired = s.quorumRequired ∧ s'.admin = s.admin) := by
  by_cases hcall : call.Administers
  · cases exec_administered h hcall with
    | quorumSet hpositive => exact Or.inl ⟨_, hpositive, rfl⟩
    | _ => exact Or.inr ⟨rfl, rfl⟩
  · cases exec_effect h with
    | @initialized admin creditOracle quorum hadmin =>
      simp only [exec, alone_eq_ok] at h
      exact Or.inl ⟨quorum, initializeContract_positive h.1, rfl⟩
    | administered hadministers => exact absurd hadministers hcall
    | _ => exact Or.inr ⟨rfl, rfl⟩

/-- A successful call keeps the default quorum positive. -/
theorem QuorumSet.step (h : QuorumSet s) (hexec : exec host env call s world = .ok (s', world')) :
    QuorumSet s' := by
  intro hadmin
  rcases exec_quorumRequired hexec with ⟨quorum, hpositive, hset⟩ | ⟨hsame, hadmin'⟩
  · exact ⟨quorum, hset, hpositive⟩
  · rw [hsame]
    exact h (hadmin' ▸ hadmin)

/-- It is positive before every step of a run. -/
theorem quorumSet_before (hrun : Run (StepOf Config.next) (.fresh ledger) history final) {t : Move}
    (ht : t ∈ history) : QuorumSet t.before.state := by
  refine hrun.invariant_of_mem (fun c => QuorumSet c.state) ?_ (fun hadmin => absurd rfl hadmin) ht
  intro c e c' hquorum hstep
  exact hquorum.step (Config.exec_of_next hstep).2.2

/-! ## The quorum of a new proposal -/

/-- The percentage of the registered weight, if one is set, is at least one unit. -/
def PercentSuffices (s : State) : Prop :=
  ∀ percent, s.quorumPercent = some percent → 100 ≤ getTotalRegisteredWeight s * (percent : ℤ)

/-- The quotient of a product by 100 is positive from 100 on. -/
theorem tdiv_hundred_pos_iff (product : ℤ) : 1 ≤ product.tdiv 100 ↔ 100 ≤ product := by
  rcases le_total 0 product with hnonneg | hneg
  · rw [Int.tdiv_eq_ediv_of_nonneg hnonneg]
    omega
  · have hopposite : 0 ≤ (-product).tdiv 100 := Int.tdiv_nonneg (by omega) (by decide)
    rw [Int.neg_tdiv] at hopposite
    omega

/-- On an initialised contract a new proposal gets a positive quorum exactly when the percentage
suffices. -/
theorem currentQuorum_pos_iff (hset : QuorumSet s) (hadmin : s.admin ≠ none) {quorum : ℤ}
    (hquorum : currentQuorum s = .ok quorum) : 1 ≤ quorum ↔ PercentSuffices s := by
  unfold currentQuorum at hquorum
  cases hpercent : s.quorumPercent with
  | none =>
    obtain ⟨default, hdefault, hpositive⟩ := hset hadmin
    rw [hpercent] at hquorum
    obtain rfl : getQuorum s = quorum := Except.ok.inj hquorum
    refine iff_of_true ?_ fun percent hsome => nomatch hpercent.symm.trans hsome
    rw [getQuorum, hdefault, Option.getD_some]
    omega
  | some percent =>
    rw [hpercent] at hquorum
    simp only [Outcome.bind_eq_ok, Outcome.okOr_eq_ok, I128.checkedMul_eq_some, Except.ok.injEq] at hquorum
    obtain ⟨product, ⟨-, rfl⟩, rfl⟩ := hquorum
    rw [tdiv_hundred_pos_iff]
    constructor
    · intro hproduct found hfound
      obtain rfl := Option.some.inj (hpercent.symm.trans hfound)
      exact hproduct
    · exact fun hsuffices => hsuffices percent hpercent

/-! ## Runs -/

/-- The step creates a proposal on an initialised contract. -/
def CreatesInitialized (t : Move) : Prop := t.event.call.IsCreation ∧ t.before.state.admin ≠ none

/-- Every proposal that was created on the initialised contract has a positive quorum, when it is
created and as it is stored at the end. -/
structure QuorumsPositive (history : List Move) (final : Config) : Prop where
  created : ∀ t ∈ history, CreatesInitialized t →
    ∃ record, t.after.state.proposal (nextId t.before.state) = some record ∧ 1 ≤ record.quorumRequired
  stored : ∀ before creation since p record, history = before ++ creation :: since →
    creation.before.state.admin ≠ none → final.state.proposal p = some record →
    DescendsFrom p record creation since → 1 ≤ record.quorumRequired

/-- A creation stores a record with the quorum of the state before it. -/
theorem exists_created {t : Move} (hstep : StepOf Config.next t.before t.event t.after)
    (hcall : t.event.call.IsCreation) : ∃ record,
      t.after.state.proposal (nextId t.before.state) = some record ∧
      currentQuorum t.before.state = .ok record.quorumRequired := by
  obtain ⟨proposer, weights, period, delay, hcall⟩ := hcall
  have heffect := (Config.effect_of_next hstep).proposal (nextId t.before.state)
  rw [hcall] at heffect
  generalize t.after.state.proposal (nextId t.before.state) = stored at heffect
  cases heffect with
  | created hid hquorum => exact ⟨_, rfl, hquorum⟩
  | kept hkept => exact absurd rfl hkept

/-- In every run the proposals that are created on the initialised contract have positive quorums
exactly when at each such creation no percentage is set or it makes up a unit of the registered
weight. -/
theorem quorum_positive_iff (hrun : Run (StepOf Config.next) (.fresh ledger) history final) :
    QuorumsPositive history final ↔
      ∀ t ∈ history, CreatesInitialized t → PercentSuffices t.before.state := by
  constructor
  · intro hpositive t ht hcreates
    obtain ⟨record, hrecord, hone⟩ := hpositive.created t ht hcreates
    obtain ⟨stored, hstored, hquorum⟩ := exists_created (hrun.step_of_mem ht) hcreates.1
    obtain rfl := Option.some.inj (hrecord.symm.trans hstored)
    exact (currentQuorum_pos_iff (quorumSet_before hrun ht) hcreates.2 hquorum).mp hone
  · intro hsuffices
    constructor
    case created =>
      intro t ht hcreates
      obtain ⟨record, hrecord, hquorum⟩ := exists_created (hrun.step_of_mem ht) hcreates.1
      have hset := quorumSet_before hrun ht
      exact ⟨record, hrecord, (currentQuorum_pos_iff hset hcreates.2 hquorum).mpr (hsuffices t ht hcreates)⟩
    case stored =>
      rintro before creation since p record rfl hadmin - hdescends
      have ht : creation ∈ before ++ creation :: since := List.mem_append_right _ List.mem_cons_self
      obtain ⟨proposer, period, hcall, -⟩ := hdescends.created
      have hcreates : CreatesInitialized creation := ⟨⟨_, _, _, _, hcall⟩, hadmin⟩
      have hset := quorumSet_before hrun ht
      exact (currentQuorum_pos_iff hset hadmin hdescends.quorum).mpr (hsuffices creation ht hcreates)

/-- An initialised contract with one voter of weight 10, a percentage, and a proposal. -/
def samplePercent (percent : ℕ) : List Event :=
  [ sampleEvent 0 (.account 1) (.initializeContract (.account 1) (.contract 11) 5),
    sampleEvent 0 (.account 1) (.registerVoter (.account 1) (.account 2) 10),
    sampleEvent 1 (.account 1) (.setQuorumPercent (.account 1) percent),
    sampleEvent 1 (.account 3) (.createProposal (.account 3) ⟨50, 20, 30⟩ 100 7) ]

/-- Under 10 percent of the weight 10 the quorum is one. -/
theorem quorum_positive_iff_percent :
    ∃ history final, Run (StepOf Config.next) (.fresh (.numbered 0)) history final ∧
      (final.state.proposal 1).map (·.quorumRequired) = some 1 ∧ QuorumsPositive history final := by
  obtain ⟨history, final, hrun, hobserved⟩ := Run.exists_of_replay
    (show (replay Config.next (.fresh (.numbered 0)) (samplePercent 10)).map
      (fun r => (r.1.map fun t => (t.event.call, t.before.state.quorumPercent,
          getTotalRegisteredWeight t.before.state), (r.2.state.proposal 1).map (·.quorumRequired))) =
      some ([(.initializeContract (.account 1) (.contract 11) 5, none, 0),
        (.registerVoter (.account 1) (.account 2) 10, none, 0),
        (.setQuorumPercent (.account 1) 10, none, 10),
        (.createProposal (.account 3) ⟨50, 20, 30⟩ 100 7, some 10, 10)], some 1) from rfl)
  obtain ⟨hcalls, hquorum⟩ := Prod.mk.inj hobserved
  refine ⟨history, final, hrun, hquorum, (quorum_positive_iff hrun).mpr ?_⟩
  rintro t ht ⟨⟨proposer, weights, period, delay, hcall⟩, -⟩ percent hpercent
  have hmem := List.mem_map_of_mem (f := fun t => (t.event.call, t.before.state.quorumPercent,
    getTotalRegisteredWeight t.before.state)) ht
  rw [hcalls, hcall] at hmem
  simp only [List.mem_cons, Prod.mk.injEq, reduceCtorEq, false_and, or_false, false_or,
    List.not_mem_nil] at hmem
  obtain ⟨-, hset, htotal⟩ := hmem
  obtain rfl := Option.some.inj (hset.symm.trans hpercent)
  rw [htotal]
  decide

/-- Under one percent of it the quorum is zero. -/
theorem not_quorumsPositive :
    ∃ history final, Run (StepOf Config.next) (.fresh (.numbered 0)) history final ∧
      (final.state.proposal 1).map (·.quorumRequired) = some 0 ∧ ¬QuorumsPositive history final := by
  obtain ⟨history, final, hrun, hobserved⟩ := Run.exists_of_replay
    (show (replay Config.next (.fresh (.numbered 0)) (samplePercent 1)).map
      (fun r => (r.1.map fun t => (t.event.call, t.before.state.admin, nextId t.before.state,
          (t.after.state.proposal 1).map (·.quorumRequired)),
        (r.2.state.proposal 1).map (·.quorumRequired))) =
      some ([(.initializeContract (.account 1) (.contract 11) 5, none, 1, none),
        (.registerVoter (.account 1) (.account 2) 10, some (.account 1), 1, none),
        (.setQuorumPercent (.account 1) 1, some (.account 1), 1, none),
        (.createProposal (.account 3) ⟨50, 20, 30⟩ 100 7, some (.account 1), 1, some 0)], some 0) from rfl)
  obtain ⟨hcalls, hquorum⟩ := Prod.mk.inj hobserved
  refine ⟨history, final, hrun, hquorum, fun hpositive => ?_⟩
  obtain ⟨earlier, last, rfl, -, hlast⟩ := List.map_eq_append_iff.mp
    (show history.map _ = [_, _, _] ++ [_] from hcalls)
  obtain ⟨t, tail, rfl, ht, -⟩ := List.map_eq_cons_iff.mp hlast
  simp only [Prod.mk.injEq] at ht
  obtain ⟨hcall, hadmin, hid, hrecord⟩ := ht
  have hcreates : CreatesInitialized t := ⟨⟨_, _, _, _, hcall⟩, by simp [hadmin]⟩
  obtain ⟨record, hstored, hone⟩ :=
    hpositive.created t (List.mem_append_right _ List.mem_cons_self) hcreates
  rw [hid] at hstored
  rw [hstored, Option.map_some, Option.some.injEq] at hrecord
  omega

end StellarDidCredit.Governance
