import StellarDidCredit.Governance.Weights

/-!
# The sum of the tallies

A vote checks that the tally it adds to fits in 128 bits; the sum of the two tallies is formed by
`execute` alone, and traps there when it does not fit. Weights that are moved between voters during
the vote can bring that about, because a tally keeps the votes of weights that are gone.
-/

namespace StellarDidCredit.Governance

variable {κ : Type} {host : Host κ} {env : Env} {call : Call} {s s' : State} {world world' : κ} {p : ℕ}
  {ledger : Ledger} {history : List Move} {final : Config}

/-! ## When an execution traps -/

/-- The credit oracles accept the weights of every proposal. -/
def Host.Accepts (host : Host κ) : Prop :=
  ∀ world oracle weights, ∃ world', host.proposeWeights world oracle weights = .ok world'

/-- In no ledger an execution of the proposal traps, while the credit oracle accepts its weights. -/
def NeverTraps (s : State) (p : ℕ) : Prop :=
  ∀ (κ : Type) (host : Host κ) (env : Env) (world : κ), host.Accepts →
    execute host p env s world ≠ .error .trap

/-- The record is stopped by a gate before its tallies are added, or their sum fits. A sum of expiry
and delay that reaches the last ledger is never passed. -/
def SumSafe (record : GovernanceProposal) : Prop :=
  record.executed = true ∨ record.cancelled = true ∨ record.votesFor ≤ record.votesAgainst ∨
    U32.max ≤ record.expiryLedger + record.executionDelayLedgers ∨
    record.votesFor + record.votesAgainst ≤ I128.max

/-- The tallies of a record are not negative. -/
def TalliesNonneg (record : GovernanceProposal) : Prop := 0 ≤ record.votesFor ∧ 0 ≤ record.votesAgainst

/-- An execution traps exactly where the gates before the sum let it pass and the sum does not fit, if
a credit oracle is linked and accepts. -/
theorem execute_eq_trap_iff {record : GovernanceProposal} {oracle : Address}
    (hlinked : s.creditOracle = some oracle) (haccepts : host.Accepts)
    (hrecord : s.proposal p = some record) :
    execute host p env s world = .error .trap ↔
      record.expiryLedger < env.ledger.sequence ∧
      U32.saturatingAdd record.expiryLedger record.executionDelayLedgers < env.ledger.sequence ∧
      record.executed = false ∧ record.cancelled = false ∧ record.votesAgainst < record.votesFor ∧
      I128.checkedAdd record.votesFor record.votesAgainst = none := by
  obtain ⟨world', hqueued⟩ := haccepts world oracle record.proposedWeights
  simp only [execute, hrecord, hlinked, hqueued, Outcome.bind_eq_error, Outcome.okOr_eq_error,
    Outcome.okOr_eq_ok, Outcome.passOn_eq_error, Outcome.require_eq_error, Outcome.require_eq_ok, reduceCtorEq,
    Option.some.injEq, exists_eq_left', exists_const, exists_false, and_false, false_and, and_true,
      false_or, or_false]

/-- A sum of tallies that are not negative fits or exceeds the bound. -/
theorem checkedAdd_eq_none_iff {record : GovernanceProposal} (hnonneg : TalliesNonneg record) :
    I128.checkedAdd record.votesFor record.votesAgainst = none ↔
      I128.max < record.votesFor + record.votesAgainst := by
  obtain ⟨hfor, hagainst⟩ := hnonneg
  have hmin : I128.min ≤ record.votesFor + record.votesAgainst := by
    unfold I128.min
    omega
  rw [I128.checkedAdd, I128.checked, ite_eq_right_iff]
  simp only [reduceCtorEq, imp_false, not_and, not_le]
  exact ⟨fun h => h hmin, fun h _ => h⟩

/-- The last ledger there can be. -/
def lastLedger : Ledger := ⟨U32.max, 0, le_rfl, Nat.zero_le _⟩

/-- No execution of a proposal traps exactly if its record is safe. -/
theorem neverTraps_iff {record : GovernanceProposal} (horacle : s.creditOracle ≠ none)
    (hrecord : s.proposal p = some record) (hnonneg : TalliesNonneg record) :
    NeverTraps s p ↔ SumSafe record := by
  obtain ⟨oracle, hlinked⟩ := Option.ne_none_iff_exists'.mp horacle
  constructor
  · intro hnever
    -- the last ledger passes every gate on time that any ledger passes
    let host : Host Unit := ⟨fun _ _ _ => .ok (), fun _ _ => .ok (), fun _ _ _ => .ok ()⟩
    let env : Env := ⟨lastLedger, .contract 0, [], none⟩
    have haccepts : host.Accepts := fun _ _ _ => ⟨(), rfl⟩
    have hpasses := hnever Unit host env () haccepts
    rw [Ne, execute_eq_trap_iff hlinked haccepts hrecord, checkedAdd_eq_none_iff hnonneg] at hpasses
    have hsequence : env.ledger.sequence = U32.max := rfl
    rw [hsequence, U32.saturatingAdd] at hpasses
    by_contra hunsafe
    simp only [SumSafe, not_or, not_le, Bool.not_eq_true] at hunsafe
    obtain ⟨hexecuted, hcancelled, hpassed, hledger, hoverflow⟩ := hunsafe
    exact hpasses ⟨by omega, by omega, hexecuted, hcancelled, hpassed, hoverflow⟩
  · intro hsafe κ host env world haccepts
    rw [Ne, execute_eq_trap_iff hlinked haccepts hrecord, checkedAdd_eq_none_iff hnonneg]
    rintro ⟨-, hdelay, hexecuted, hcancelled, hpassed, hoverflow⟩
    have hle := env.ledger.sequence_le
    rw [U32.saturatingAdd] at hdelay
    rcases hsafe with hdone | hdone | hrejected | hlast | hfits
    · cases hexecuted.symm.trans hdone
    · cases hcancelled.symm.trans hdone
    · omega
    · omega
    · omega

/-- A proposal that is not there is not found. -/
theorem neverTraps_of_none (hnone : s.proposal p = none) : NeverTraps s p := by
  intro κ host env world _ htrap
  simp only [execute, hnone, Outcome.bind_eq_error, Outcome.okOr_eq_error, Outcome.okOr_eq_ok,
    reduceCtorEq, and_false, false_and, exists_false, or_self] at htrap

/-! ## What a vote may add -/

/-- The vote leaves a record whose tallies `execute` can add, or that it rejects before. -/
def VoteSafe (old : GovernanceProposal) (voteFor : Bool) (weight : ℤ) : Prop :=
  let votesFor := if voteFor then old.votesFor + weight else old.votesFor
  let votesAgainst := if voteFor then old.votesAgainst else old.votesAgainst + weight
  votesFor ≤ votesAgainst ∨ U32.max ≤ old.expiryLedger + old.executionDelayLedgers ∨
    votesFor + votesAgainst ≤ I128.max

/-- A vote on an open proposal leaves a safe record exactly if it is a safe vote. -/
theorem sumSafe_addVote_iff {old new : GovernanceProposal} {voteFor : Bool} {weight : ℤ}
    (hexecuted : old.executed = false) (hcancelled : old.cancelled = false)
    (hnew : addVote old voteFor weight = .ok new) : SumSafe new ↔ VoteSafe old voteFor weight := by
  unfold addVote at hnew
  cases voteFor with
  | true =>
    simp only [if_true, Outcome.bind_eq_ok, Outcome.okOr_eq_ok, I128.checkedAdd_eq_some,
      Except.ok.injEq] at hnew
    obtain ⟨_, ⟨-, rfl⟩, rfl⟩ := hnew
    simp [SumSafe, VoteSafe, hexecuted, hcancelled]
  | false =>
    simp only [Bool.false_eq_true, if_false, Outcome.bind_eq_ok, Outcome.okOr_eq_ok,
      I128.checkedAdd_eq_some, Except.ok.injEq] at hnew
    obtain ⟨_, ⟨-, rfl⟩, rfl⟩ := hnew
    simp [SumSafe, VoteSafe, hexecuted, hcancelled]

/-- A vote keeps the tallies from being negative. -/
theorem TalliesNonneg.addVote {old new : GovernanceProposal} {voteFor : Bool} {weight : ℤ}
    (h : TalliesNonneg old) (hweight : 0 < weight)
    (hnew : Governance.addVote old voteFor weight = .ok new) : TalliesNonneg new := by
  obtain ⟨hfor, hagainst⟩ := h
  unfold Governance.addVote at hnew
  split at hnew
  all_goals
    simp only [Outcome.bind_eq_ok, Outcome.okOr_eq_ok, I128.checkedAdd_eq_some, Except.ok.injEq] at hnew
    obtain ⟨_, ⟨-, rfl⟩, rfl⟩ := hnew
    constructor
  · exact add_nonneg hfor hweight.le
  · exact hagainst
  · exact hfor
  · exact add_nonneg hagainst hweight.le

/-! ## The invariant -/

/-- An initialised contract is linked to a credit oracle, and no tally is negative. -/
structure TalliesOk (s : State) : Prop where
  linked : s.admin ≠ none → s.creditOracle ≠ none
  nonneg : ∀ p record, s.proposal p = some record → TalliesNonneg record

/-- The link stays with the admin. -/
theorem Effect.linked (h : Effect env s call s') (hlinked : s.admin ≠ none → s.creditOracle ≠ none) :
    s'.admin ≠ none → s'.creditOracle ≠ none := by
  cases h with
  | initialized => exact fun _ => Option.some_ne_none _
  | _ => exact hlinked

/-- A record after a successful call is a new one, one with another flag or a vote more, or as before. -/
theorem exec_record (h : exec host env call s world = .ok (s', world')) {record : GovernanceProposal}
    (hrecord : s'.proposal p = some record) :
    (record.votesFor = 0 ∧ record.votesAgainst = 0) ∨
    (∃ voter voteFor weight old, call = .vote voter p voteFor weight ∧ 0 < weight ∧
      s.proposal p = some old ∧ old.executed = false ∧ old.cancelled = false ∧
      addVote old voteFor weight = .ok record) ∨
    ∃ old, s.proposal p = some old ∧ record.votesFor = old.votesFor ∧
      record.votesAgainst = old.votesAgainst ∧
      (record = old ∨ record.executed = true ∨ record.cancelled = true) := by
  have heffect := (exec_effect h).proposal p
  rw [hrecord] at heffect
  generalize hafter : some record = after at heffect
  cases heffect with
  | created =>
    obtain rfl := Option.some.inj hafter
    exact Or.inl ⟨rfl, rfl⟩
  | @voted voter voteFor weight old new hold hnew =>
    obtain rfl := Option.some.inj hafter
    simp only [exec, alone_eq_ok] at h
    obtain ⟨-, hweight, _, found, _, -, -, hfound, -, hexecuted, hcancelled, -, -⟩ := vote_spec h.1
    obtain rfl := Option.some.inj (hold.symm.trans hfound)
    exact Or.inr (Or.inl ⟨voter, voteFor, weight, old, rfl, hweight, hold, hexecuted, hcancelled, hnew⟩)
  | @executed old hold =>
    obtain rfl := Option.some.inj hafter
    exact Or.inr (Or.inr ⟨old, hold, rfl, rfl, Or.inr (Or.inl rfl)⟩)
  | @cancelled canceller old hold =>
    obtain rfl := Option.some.inj hafter
    exact Or.inr (Or.inr ⟨old, hold, rfl, rfl, Or.inr (Or.inr rfl)⟩)
  | kept => exact Or.inr (Or.inr ⟨record, hafter.symm, rfl, rfl, Or.inl rfl⟩)

/-- A successful call keeps the link and the tallies in order. -/
theorem TalliesOk.step (h : TalliesOk s) (hexec : exec host env call s world = .ok (s', world')) :
    TalliesOk s' := by
  refine ⟨(exec_effect hexec).linked h.linked, fun p record hrecord => ?_⟩
  rcases exec_record hexec hrecord with ⟨hfor, hagainst⟩ |
    ⟨voter, voteFor, weight, old, -, hweight, hold, -, -, hnew⟩ | ⟨old, hold, hfor, hagainst, -⟩
  · exact ⟨hfor.ge, hagainst.ge⟩
  · exact (h.nonneg p old hold).addVote hweight hnew
  · obtain ⟨hfor', hagainst'⟩ := h.nonneg p old hold
    exact ⟨hfor ▸ hfor', hagainst ▸ hagainst'⟩

/-- Every record is safe. -/
def RecordsSafe (s : State) : Prop := ∀ p record, s.proposal p = some record → SumSafe record

/-- The call, if it is a vote, is a safe one. -/
def CastsSafely (s : State) (call : Call) : Prop :=
  ∀ voter p voteFor weight old, call = .vote voter p voteFor weight → s.proposal p = some old →
    VoteSafe old voteFor weight

/-- Safe votes keep the records safe. -/
theorem RecordsSafe.step (h : RecordsSafe s) (hexec : exec host env call s world = .ok (s', world'))
    (hcasts : CastsSafely s call) : RecordsSafe s' := by
  intro p record hrecord
  rcases exec_record hexec hrecord with ⟨hfor, hagainst⟩ |
    ⟨voter, voteFor, weight, old, hcall, -, hold, hexecuted, hcancelled, hnew⟩ |
    ⟨old, hold, -, -, rfl | hflag | hflag⟩
  · refine Or.inr (Or.inr (Or.inl ?_))
    rw [hfor, hagainst]
  · exact (sumSafe_addVote_iff hexecuted hcancelled hnew).mpr (hcasts voter p voteFor weight old hcall hold)
  · exact h p record hold
  · exact Or.inl hflag
  · exact Or.inr (Or.inl hflag)

/-- In a safe state of an initialised contract no execution traps. -/
theorem TalliesOk.neverTraps (h : TalliesOk s) (hsafe : RecordsSafe s) (hadmin : s.admin ≠ none) (p : ℕ) :
    NeverTraps s p := by
  cases hrecord : s.proposal p with
  | none => exact neverTraps_of_none hrecord
  | some record =>
    exact (neverTraps_iff (h.linked hadmin) hrecord (h.nonneg p record hrecord)).mpr (hsafe p record hrecord)

/-! ## Runs -/

/-- The link and the tallies are in order before and after every step of a run. -/
theorem talliesOk_around (hrun : Run (StepOf Config.next) (.fresh ledger) history final) {t : Move}
    (ht : t ∈ history) : TalliesOk t.before.state ∧ TalliesOk t.after.state := by
  refine hrun.invariant_where_of_mem (fun c => TalliesOk c.state) (fun _ => True) ?_ ?_
    (fun _ _ => trivial) ht
  · intro c e c' hok hstep _
    exact hok.step (Config.exec_of_next hstep).2.2
  · exact ⟨fun hadmin => absurd rfl hadmin, fun _ _ hrecord => by cases hrecord⟩

/-- Voters are registered on an initialised contract only. -/
def RegisteredByAdmin (s : State) : Prop := ∀ voter, s.voterWeight voter ≠ none → s.admin ≠ none

/-- The admin has to be there for a weight to be written. -/
theorem admin_of_reweighs (h : exec host env call s world = .ok (s', world')) (hcall : call.reweighs ≠ none) :
    s.admin ≠ none := by
  have hadministers : call.Administers := by
    cases call <;> trivial
  cases exec_administered h hadministers with
  | registered hadmin => exact Option.ne_none_iff_exists'.mpr ⟨_, hadmin⟩
  | updated hadmin => exact Option.ne_none_iff_exists'.mpr ⟨_, hadmin⟩
  | deregistered hadmin => exact Option.ne_none_iff_exists'.mpr ⟨_, hadmin⟩
  | _ => exact absurd rfl hcall

/-- The admin stays. -/
theorem Effect.admin_ne_none (h : Effect env s call s') (hadmin : s.admin ≠ none) : s'.admin ≠ none := by
  rcases h.counter with ⟨hnone, -⟩ | ⟨hsame, -⟩ | ⟨hsame, -⟩
  · exact absurd hnone hadmin
  · rwa [hsame]
  · rwa [hsame]

/-- A successful call registers voters on an initialised contract only. -/
theorem RegisteredByAdmin.step (h : RegisteredByAdmin s)
    (hexec : exec host env call s world = .ok (s', world')) : RegisteredByAdmin s' := by
  intro voter hregistered
  rcases exec_weights hexec with ⟨_, _, hcall, -⟩ | ⟨-, hweights, -⟩
  · exact (exec_effect hexec).admin_ne_none (admin_of_reweighs hexec (by simp [hcall]))
  · exact (exec_effect hexec).admin_ne_none (h voter (by rwa [← hweights]))

/-- Registrations of an admin are so before every step of a run. -/
theorem registeredByAdmin_before (hrun : Run (StepOf Config.next) (.fresh ledger) history final) {t : Move}
    (ht : t ∈ history) : RegisteredByAdmin t.before.state := by
  refine hrun.invariant_of_mem (fun c => RegisteredByAdmin c.state) ?_ (fun _ h => absurd rfl h) ht
  intro c e c' hregistered hstep
  exact hregistered.step (Config.exec_of_next hstep).2.2

/-- In every run no execution traps in any state of the initialised contract exactly if every vote of
the run is a safe one. -/
theorem execute_never_traps_iff (hrun : Run (StepOf Config.next) (.fresh ledger) history final) :
    (∀ t ∈ history, t.after.state.admin ≠ none → ∀ p, NeverTraps t.after.state p) ↔
      ∀ t ∈ history, CastsSafely t.before.state t.event.call := by
  constructor
  · intro hnever t ht voter p voteFor weight old hcall hold
    have hstep := hrun.step_of_mem ht
    have hexec := (Config.exec_of_next hstep).2.2
    have hok := (talliesOk_around hrun ht).2
    rw [hcall] at hexec
    have heffect := exec_effect hexec
    simp only [exec, alone_eq_ok] at hexec
    obtain ⟨-, -, registered, found, new, hregistered, -, hfound, -, hexecuted, hcancelled, hnew, hafter⟩ :=
      vote_spec hexec.1
    obtain rfl := Option.some.inj (hold.symm.trans hfound)
    have hadmin : t.after.state.admin ≠ none :=
      heffect.admin_ne_none (registeredByAdmin_before hrun ht voter (by simp [hregistered]))
    have hstored : t.after.state.proposal p = some new := by
      rw [hafter]
      exact Storage.set_self _ _ _
    have hsafe := (neverTraps_iff (hok.linked hadmin) hstored (hok.nonneg p new hstored)).mp
      (hnever t ht hadmin p)
    exact (sumSafe_addVote_iff hexecuted hcancelled hnew).mp hsafe
  · intro hcasts t ht hadmin p
    have hsafe : RecordsSafe t.after.state := by
      refine (hrun.invariant_where_of_mem (fun c => RecordsSafe c.state)
        (fun t => CastsSafely t.before.state t.event.call) ?_ ?_ hcasts ht).2
      · intro c e c' hsafe hstep hcast
        exact hsafe.step (Config.exec_of_next hstep).2.2 hcast
      · exact fun _ _ hrecord => by cases hrecord
    exact (talliesOk_around hrun ht).2.neverTraps hsafe hadmin p

/-- The votes of the sample are safe, so nothing traps after it. -/
theorem execute_never_traps_iff_lifecycle :
    ∃ history final, Run (StepOf Config.next) (.fresh (.numbered 0)) history final ∧ history.length = 5 ∧
      ∀ t ∈ history, t.after.state.admin ≠ none → ∀ p, NeverTraps t.after.state p := by
  obtain ⟨history, final, hrun, hobserved⟩ := Run.exists_of_replay
    (show (replay Config.next (.fresh (.numbered 0)) sampleLifecycle).map
      (fun r => r.1.map fun t => (t.event.call, t.before.state.proposal 1)) =
        some [(.initializeContract (.account 1) (.contract 11) 5, none),
          (.registerVoter (.account 1) (.account 2) 10, none),
          (.createProposal (.account 3) ⟨50, 20, 30⟩ 100 7, none),
          (.vote (.account 2) 1 true 10, some (freshProposal 1 (.account 3) ⟨50, 20, 30⟩ 101 7 5)),
          (.execute 1, some { freshProposal 1 (.account 3) ⟨50, 20, 30⟩ 101 7 5 with votesFor := 10 })]
      from rfl)
  have hlength : history.length = 5 := by
    rw [← List.length_map (f := fun t => (t.event.call, t.before.state.proposal 1)), hobserved]
    rfl
  refine ⟨history, final, hrun, hlength, (execute_never_traps_iff hrun).mpr ?_⟩
  intro t ht voter p voteFor weight old hcall hold
  have hmem := List.mem_map_of_mem (f := fun t => (t.event.call, t.before.state.proposal 1)) ht
  rw [hobserved, hcall] at hmem
  simp only [List.mem_cons, Prod.mk.injEq, reduceCtorEq, false_and, false_or, or_false, Call.vote.injEq,
    List.not_mem_nil] at hmem
  obtain ⟨⟨rfl, rfl, rfl, rfl⟩, hfresh⟩ := hmem
  obtain rfl := Option.some.inj (hold.symm.trans hfresh)
  exact Or.inr (Or.inr (by decide))

/-- A voter of the largest weight votes for a proposal, loses its weight to another voter, and that one
casts a single vote against it. -/
def sampleReassignment : List Event :=
  [ sampleEvent 0 (.account 1) (.initializeContract (.account 1) (.contract 11) 5),
    sampleEvent 0 (.account 1) (.registerVoter (.account 1) (.account 2) I128.max),
    sampleEvent 1 (.account 3) (.createProposal (.account 3) ⟨50, 20, 30⟩ 100 7),
    sampleEvent 1 (.account 2) (.vote (.account 2) 1 true I128.max),
    sampleEvent 2 (.account 1) (.updateVoterWeight (.account 1) (.account 2) 0),
    sampleEvent 2 (.account 1) (.registerVoter (.account 1) (.account 4) 1),
    sampleEvent 3 (.account 4) (.vote (.account 4) 1 false 1) ]

/-- The execution then traps, although the credit oracle accepts the weights. -/
theorem execute_traps_reassignment :
    ∃ history final, Run (StepOf Config.next) (.fresh (.numbered 0)) history final ∧
      final.state.admin = some (.account 1) ∧
      execute (recordingHost {}) 1 (sampleEvent 109 (.account 4) (.execute 1)).env final.state final.queue =
        .error .trap ∧ ¬NeverTraps final.state 1 := by
  obtain ⟨history, final, hrun, hobserved⟩ := Run.exists_of_replay
    (show (replay Config.next (.fresh (.numbered 0)) sampleReassignment).map (fun r =>
      (r.2.state.admin, (execute (recordingHost {}) 1 (sampleEvent 109 (.account 4) (.execute 1)).env
        r.2.state r.2.queue).map fun _ => ())) = some (some (.account 1), .error .trap) from rfl)
  obtain ⟨hadmin, htrap⟩ := Prod.mk.inj hobserved
  have htrap := Outcome.map_eq_error.mp htrap
  exact ⟨history, final, hrun, hadmin, htrap, fun hnever =>
    hnever Queue (recordingHost {}) _ final.queue (fun _ _ _ => ⟨_, rfl⟩) htrap⟩

end StellarDidCredit.Governance
