import StellarDidCredit.Lib.Run
import StellarDidCredit.Governance.Effects

/-!
# The life of a proposal

Runs of the governance contract over ledgers that never go back. The credit oracle answers
freely, and what it is asked to queue is recorded. Every record descends from one creation:
its terms are the ones given there, and while it is neither executed nor cancelled no call
since has executed or cancelled it.
-/

namespace StellarDidCredit.Governance

/-! ## Runs -/

/-- The credit oracle's answers to the calls of one invocation. -/
structure Answers where
  proposeWeights : Bool := true
  applyWeights : Option (Fault CreditOracleError) := none
  acceptAdmin : Bool := true

/-- The weights that credit oracles were told to queue, oldest first. -/
abbrev Queue := List (Address × ScoringWeights)

/-- A credit oracle that answers as told and records what it queues. -/
def recordingHost (answers : Answers) : Host Queue where
  proposeWeights queue oracle weights :=
    if answers.proposeWeights then .ok (queue ++ [(oracle, weights)]) else .error .trap
  applyWeights queue _ := answers.applyWeights.elim (.ok queue) .error
  acceptAdmin queue _ _ := if answers.acceptAdmin then .ok queue else .error .trap

/-- The contract between two calls. -/
structure Config where
  state : State
  ledger : Ledger
  queue : Queue

/-- A deployed contract before its first call. -/
def Config.fresh (ledger : Ledger) : Config := { state := {}, ledger, queue := [] }

structure Event where
  env : Env
  call : Call
  answers : Answers := {}

/-- A successful call in the current or a later ledger. A failed one is rolled back. -/
def Config.next (c : Config) (e : Event) : Option Config := do
  guard (c.ledger.NotAfter e.env.ledger)
  let (state, queue) ← (exec (recordingHost e.answers) e.env e.call c.state c.queue).toOption
  some { state, ledger := e.env.ledger, queue }

/-- One step of a history of the contract. -/
abbrev Move := Transition Config Event

/-- The successful call behind a step. -/
theorem Config.exec_of_next {c c' : Config} {e : Event} (h : StepOf Config.next c e c') :
    c.ledger.NotAfter e.env.ledger ∧ c'.ledger = e.env.ledger ∧
      exec (recordingHost e.answers) e.env e.call c.state c.queue = .ok (c'.state, c'.queue) := by
  simp only [StepOf, Config.next, Option.bind_eq_bind, Option.bind_eq_some_iff, Option.guard_eq_some',
    Outcome.toOption_eq_some, Option.some.injEq] at h
  obtain ⟨_, hledger, ⟨state, queue⟩, hexec, rfl⟩ := h
  exact ⟨hledger, rfl, hexec⟩

/-- What the successful call behind a step does to the state. -/
theorem Config.effect_of_next {c c' : Config} {e : Event} (h : StepOf Config.next c e c') :
    Effect e.env c.state e.call c'.state :=
  exec_effect (exec_of_next h).2.2

/-! ## Creation, execution and cancellation in a history -/

/-- The step creates the proposal `p`. -/
def Creates (p : ℕ) (t : Move) : Prop := t.event.call.IsCreation ∧ nextId t.before.state = p

/-- The step executes the proposal `p`. -/
def Executes (p : ℕ) (t : Move) : Prop := t.event.call = .execute p

/-- The step cancels the proposal `p`. -/
def Cancels (p : ℕ) (t : Move) : Prop := ∃ canceller, t.event.call = .cancelProposal canceller p

/-- The record was created by `creation` and has since kept its terms; it was not created
anew, and it was executed or cancelled only if its flag says so. -/
structure DescendsFrom (p : ℕ) (record : GovernanceProposal) (creation : Move) (since : List Move) :
    Prop where
  created : ∃ proposer period, creation.event.call =
      .createProposal proposer record.proposedWeights period record.executionDelayLedgers ∧
    record.expiryLedger = creation.event.env.ledger.sequence + period
  id : nextId creation.before.state = p
  quorum : currentQuorum creation.before.state = .ok record.quorumRequired
  notCreated : ∀ t ∈ since, ¬Creates p t
  notExecuted : record.executed = false → ∀ t ∈ since, ¬Executes p t
  notCancelled : record.cancelled = false → ∀ t ∈ since, ¬Cancels p t

/-- The fields of a record that its creation fixes. -/
def GovernanceProposal.terms (record : GovernanceProposal) : ScoringWeights × ℕ × ℕ × ℤ :=
  (record.proposedWeights, record.expiryLedger, record.executionDelayLedgers, record.quorumRequired)

/-- A step that keeps the terms and sets the flags of what it does continues the descent. -/
theorem DescendsFrom.step {p : ℕ} {old new : GovernanceProposal} {creation t : Move} {since : List Move}
    (h : DescendsFrom p old creation since) (hterms : new.terms = old.terms)
    (hcreates : ¬Creates p t)
    (hexecutes : new.executed = false → old.executed = false ∧ ¬Executes p t)
    (hcancels : new.cancelled = false → old.cancelled = false ∧ ¬Cancels p t) :
    DescendsFrom p new creation (since ++ [t]) := by
  simp only [GovernanceProposal.terms, Prod.mk.injEq] at hterms
  obtain ⟨hweights, hexpiry, hdelay, hquorum⟩ := hterms
  constructor
  case created =>
    rw [hweights, hexpiry, hdelay]
    exact h.created
  case id => exact h.id
  case quorum =>
    rw [hquorum]
    exact h.quorum
  case notCreated =>
    refine List.forall_mem_append.mpr ⟨h.notCreated, ?_⟩
    exact List.forall_mem_singleton.mpr hcreates
  case notExecuted =>
    intro hflag
    obtain ⟨hold, hnot⟩ := hexecutes hflag
    refine List.forall_mem_append.mpr ⟨h.notExecuted hold, ?_⟩
    exact List.forall_mem_singleton.mpr hnot
  case notCancelled =>
    intro hflag
    obtain ⟨hold, hnot⟩ := hcancels hflag
    refine List.forall_mem_append.mpr ⟨h.notCancelled hold, ?_⟩
    exact List.forall_mem_singleton.mpr hnot

/-- A vote keeps everything but the tallies. -/
theorem addVote_fields {old new : GovernanceProposal} {voteFor : Bool} {weight : ℤ}
    (h : addVote old voteFor weight = .ok new) :
    ∃ votesFor votesAgainst, new = { old with votesFor, votesAgainst } := by
  unfold addVote at h
  split at h
  all_goals
    simp only [Outcome.bind_eq_ok, Outcome.okOr_eq_ok, Except.ok.injEq] at h
    obtain ⟨_, _, rfl⟩ := h
    exact ⟨_, _, rfl⟩

variable {ledger : Ledger} {history : List Move} {final : Config}

/-- Every stored record descends from a step of the history. -/
theorem exists_creation (hrun : Run (StepOf Config.next) (.fresh ledger) history final) {p : ℕ}
    {record : GovernanceProposal} (hrecord : final.state.proposal p = some record) :
    ∃ before creation since, history = before ++ creation :: since ∧
      DescendsFrom p record creation since := by
  induction hrun generalizing record with
  | nil => cases hrecord
  | @snoc history c e c' hbefore hstep ih =>
    have hextend {old new : GovernanceProposal} (hold : c.state.proposal p = some old)
        (hnext : ∀ creation since, DescendsFrom p old creation since →
          DescendsFrom p new creation (since ++ [⟨c, e, c'⟩])) :
        ∃ before creation since, history ++ [⟨c, e, c'⟩] = before ++ creation :: since ∧
          DescendsFrom p new creation since := by
      obtain ⟨before, creation, since, rfl, hdescends⟩ := ih hold
      exact ⟨before, creation, since ++ [⟨c, e, c'⟩], by simp, hnext creation since hdescends⟩
    have heffect := (Config.effect_of_next hstep).proposal p
    rw [hrecord] at heffect
    obtain ⟨env, call, answers⟩ := e
    simp only at heffect
    generalize hafter : some record = after at heffect
    cases heffect with
    | @created proposer weights period delay quorum hid hquorum =>
      obtain rfl := Option.some.inj hafter
      refine ⟨history, ⟨c, _, c'⟩, [], rfl, ⟨⟨proposer, period, rfl, rfl⟩, hid, hquorum, ?_, ?_, ?_⟩⟩
      · simp
      · simp
      · simp
    | @voted voter voteFor weight old new hold hnew =>
      obtain rfl := Option.some.inj hafter
      obtain ⟨_, _, rfl⟩ := addVote_fields hnew
      refine hextend hold fun creation since h => h.step rfl ?_ ?_ ?_
      · rintro ⟨⟨_, _, _, _, hcall⟩, _⟩
        cases hcall
      · intro hflag
        exact ⟨hflag, by simp [Executes]⟩
      · intro hflag
        exact ⟨hflag, by simp [Cancels]⟩
    | @executed old hold =>
      obtain rfl := Option.some.inj hafter
      refine hextend hold fun creation since h => h.step rfl ?_ (by simp) ?_
      · rintro ⟨⟨_, _, _, _, hcall⟩, _⟩
        cases hcall
      · intro hflag
        exact ⟨hflag, by simp [Cancels]⟩
    | @cancelled canceller old hold =>
      obtain rfl := Option.some.inj hafter
      refine hextend hold fun creation since h => h.step rfl ?_ ?_ (by simp)
      · rintro ⟨⟨_, _, _, _, hcall⟩, _⟩
        cases hcall
      · intro hflag
        exact ⟨hflag, by simp [Executes]⟩
    | kept hkept =>
      refine hextend hafter.symm fun creation since h => h.step rfl ?_ ?_ ?_
      · rintro ⟨⟨_, _, _, _, rfl⟩, hid⟩
        exact hkept hid
      · intro hflag
        refine ⟨hflag, ?_⟩
        rintro rfl
        exact hkept rfl
      · intro hflag
        refine ⟨hflag, ?_⟩
        rintro ⟨_, rfl⟩
        exact hkept rfl

/-! ## Proposal ids -/

/-- Every record has an id below the counter, and there is none before the initialisation. -/
def Numbered (s : State) : Prop := ∀ p, (s.proposal p).isSome → s.admin.isSome ∧ p < nextId s

/-- A call keeps the numbering when proposals are created on an initialised contract only. -/
theorem Numbered.step {env : Env} {call : Call} {s s' : State} (hnumbered : Numbered s)
    (heffect : Effect env s call s') (hinitialized : call.IsCreation → s.admin.isSome) :
    Numbered s' := by
  intro p hsome
  rcases heffect.proposal_cases hsome with hold | ⟨hcreation, hid⟩
  · obtain ⟨hadmin, hlt⟩ := hnumbered p hold
    rcases heffect.counter with ⟨hnone, _⟩ | ⟨heq, _, hcounter⟩ | ⟨heq, _, hcounter⟩
    · rw [hnone] at hadmin
      cases hadmin
    · rw [heq, hcounter]
      exact ⟨hadmin, by omega⟩
    · rw [heq, hcounter]
      exact ⟨hadmin, hlt⟩
  · have hadmin := hinitialized hcreation
    rcases heffect.counter with ⟨hnone, _⟩ | ⟨heq, _, hcounter⟩ | ⟨_, hnot, _⟩
    · rw [hnone] at hadmin
      cases hadmin
    · rw [heq, hcounter]
      exact ⟨hadmin, by omega⟩
    · exact absurd hcreation hnot

/-- In such a run no proposal is created under an id that has a record. -/
theorem not_creates_of_isSome (hrun : Run (StepOf Config.next) (.fresh ledger) history final)
    (hinitialized : ∀ t ∈ history, t.event.call.IsCreation → t.before.state.admin.isSome) {p : ℕ}
    (hsome : (final.state.proposal p).isSome) : nextId final.state ≠ p := by
  have hstart : Numbered {} := by
    intro q hq
    cases hq
  have hnumbered : Numbered final.state := by
    refine hrun.invariant_where (fun c => Numbered c.state)
      (fun t => t.event.call.IsCreation → t.before.state.admin.isSome) ?_ hstart hinitialized
    intro c e c' hnumbered hstep hcond
    exact hnumbered.step (Config.effect_of_next hstep) hcond
  have hlt := (hnumbered p hsome).2
  omega

/-- A record stays for the rest of the run. -/
theorem isSome_of_run {start : Config} (hrun : Run (StepOf Config.next) start history final) {p : ℕ}
    (hsome : (start.state.proposal p).isSome) : (final.state.proposal p).isSome := by
  refine hrun.invariant (fun c => (c.state.proposal p).isSome) ?_ hsome
  intro c e c' hbefore hstep
  exact (Config.effect_of_next hstep).proposal_isSome hbefore

/-- A step that executes or cancels a proposal leaves its record behind. -/
theorem isSome_after {t : Move} {p : ℕ} (hstep : StepOf Config.next t.before t.event t.after)
    (h : Executes p t ∨ Cancels p t) : (t.after.state.proposal p).isSome := by
  obtain ⟨before, ⟨env, call, answers⟩, after⟩ := t
  have heffect := (Config.effect_of_next hstep).proposal p
  simp only [Executes, Cancels] at h heffect
  generalize after.state.proposal p = record at heffect
  rcases h with rfl | ⟨canceller, rfl⟩
  · cases heffect with
    | executed hold => rfl
    | kept hkept => exact absurd rfl hkept
  · cases heffect with
    | cancelled hold => rfl
    | kept hkept => exact absurd rfl hkept

/-! ## Executions -/

/-- The execution `t` of `p`, after the steps `earlier`, is the first since a creation of `p`
that nobody cancelled. It comes after the voting period and the delay given there, with more
votes for than against and a quorum as it was then, and queues the weights given there. -/
def ExecutesSafely (p : ℕ) (earlier : List Move) (t : Move) : Prop :=
  ∃ before creation since proposer weights period delay quorum record oracle,
    earlier = before ++ creation :: since ∧
    creation.event.call = .createProposal proposer weights period delay ∧
    nextId creation.before.state = p ∧
    (∀ u ∈ since, ¬Creates p u ∧ ¬Executes p u ∧ ¬Cancels p u) ∧
    currentQuorum creation.before.state = .ok quorum ∧
    t.before.state.proposal p = some record ∧
    record.expiryLedger = creation.event.env.ledger.sequence + period ∧
    record.executionDelayLedgers = delay ∧
    record.expiryLedger + record.executionDelayLedgers < t.event.env.ledger.sequence ∧
    record.votesAgainst < record.votesFor ∧
    quorum ≤ record.votesFor + record.votesAgainst ∧
    t.after.queue = t.before.queue ++ [(oracle, weights)]

/-- Every execution in a run is safe. -/
theorem executesSafely (hrun : Run (StepOf Config.next) (.fresh ledger) history final) {p : ℕ}
    {earlier later : List Move} {t : Move} (hhistory : history = earlier ++ t :: later)
    (hexecutes : Executes p t) : ExecutesSafely p earlier t := by
  subst hhistory
  obtain ⟨hbefore, hstep, -⟩ := hrun.around
  have hexec := (Config.exec_of_next hstep).2.2
  rw [hexecutes] at hexec
  obtain ⟨record, oracle, hrecord, -, hdelay, hexecuted, hcancelled, hpassed, hquorum, hqueue, -⟩ :=
    execute_spec hexec
  obtain ⟨before, creation, since, rfl, hdescends⟩ := exists_creation hbefore hrecord
  obtain ⟨proposer, period, hcall, hexpiry⟩ := hdescends.created
  have hsince : ∀ u ∈ since, ¬Creates p u ∧ ¬Executes p u ∧ ¬Cancels p u := by
    intro u hu
    exact ⟨hdescends.notCreated u hu, hdescends.notExecuted hexecuted u hu,
      hdescends.notCancelled hcancelled u hu⟩
  have hlogged : t.after.queue = t.before.queue ++ [(oracle, record.proposedWeights)] := by
    simp only [recordingHost] at hqueue
    split at hqueue
    · exact (Except.ok.inj hqueue).symm
    · cases hqueue
  exact ⟨before, creation, since, proposer, record.proposedWeights, period,
    record.executionDelayLedgers, record.quorumRequired, record, oracle, rfl, hcall, hdescends.id,
    hsince, hdescends.quorum, hrecord, hexpiry, rfl, hdelay, hpassed, hquorum, hlogged⟩

/-- Executions are safe in every run. When proposals are created only once the contract is
initialised, a creation never reuses an id, so an execution is preceded by no other execution
and no cancellation under the same id. -/
theorem execution_safety (hrun : Run (StepOf Config.next) (.fresh ledger) history final) :
    (∀ p earlier t later, history = earlier ++ t :: later → Executes p t →
      ExecutesSafely p earlier t) ∧
    ((∀ t ∈ history, t.event.call.IsCreation → t.before.state.admin.isSome) →
      ∀ p earlier t later, history = earlier ++ t :: later → Executes p t →
        ∀ u ∈ earlier, ¬Executes p u ∧ ¬Cancels p u) := by
  refine ⟨fun p earlier t later hhistory => executesSafely hrun hhistory, ?_⟩
  intro hinitialized p earlier t later hhistory hexecutes u hu
  obtain ⟨before, creation, since, proposer, weights, period, delay, quorum, record, oracle, hearlier,
    hcall, hid, hsince, -⟩ := executesSafely hrun hhistory hexecutes
  subst hearlier
  rcases List.mem_append.mp hu with hu | hu
  · -- before the creation: the record would be there when the id is given out
    rw [← not_or]
    intro hconcerns
    subst hhistory
    have hcreation : Run (StepOf Config.next) (.fresh ledger) before creation.before :=
      hrun.around.1.around.1
    obtain ⟨_, _, -, -, hstep, hrest⟩ := hcreation.exists_around hu
    have hsome := isSome_of_run hrest (isSome_after hstep hconcerns)
    refine not_creates_of_isSome hcreation (fun v hv => hinitialized v ?_) hsome hid
    exact List.mem_append_left _ (List.mem_append_left _ hv)
  · rcases List.mem_cons.mp hu with rfl | hu
    · constructor
      · intro h
        rw [Executes, hcall] at h
        cases h
      · rintro ⟨_, h⟩
        rw [hcall] at h
        cases h
    · exact (hsince u hu).2

/-- A call of the governance contract at the address 10 in the given ledger. -/
def sampleEvent (sequence : BitVec 32) (signer : Address) (call : Call) : Event :=
  { env := .signedBy (.numbered sequence) (.contract 10) [signer], call }

/-- One voter passes one proposal, which is executed after the voting period. -/
def sampleLifecycle : List Event :=
  [ sampleEvent 0 (.account 1) (.initializeContract (.account 1) (.contract 11) 5),
    sampleEvent 0 (.account 1) (.registerVoter (.account 1) (.account 2) 10),
    sampleEvent 1 (.account 3) (.createProposal (.account 3) ⟨50, 20, 30⟩ 100 7),
    sampleEvent 1 (.account 2) (.vote (.account 2) 1 true 10),
    sampleEvent 109 (.account 4) (.execute 1) ]

/-- The calls of the sample, with whether the contract was initialised before them. -/
def sampleCalls : List (Call × Bool) :=
  [ (.initializeContract (.account 1) (.contract 11) 5, false),
    (.registerVoter (.account 1) (.account 2) 10, true),
    (.createProposal (.account 3) ⟨50, 20, 30⟩ 100 7, true),
    (.vote (.account 2) 1 true 10, true) ]

/-- One proposal is voted for and executed. -/
theorem execution_safety_lifecycle :
    ∃ history final t, Run (StepOf Config.next) (.fresh (.numbered 0)) (history ++ [t]) final ∧
      Executes 1 t ∧ ExecutesSafely 1 history t ∧ ∀ u ∈ history, ¬Executes 1 u ∧ ¬Cancels 1 u := by
  obtain ⟨history, final, hrun, hobserved⟩ := Run.exists_of_replay
    (show (replay Config.next (.fresh (.numbered 0)) sampleLifecycle).map
      (fun r => r.1.map fun t => (t.event.call, t.before.state.admin.isSome)) =
        some (sampleCalls ++ [(.execute 1, true)]) from rfl)
  have hinitialized : ∀ t ∈ history, t.event.call.IsCreation → t.before.state.admin.isSome := by
    rintro t ht ⟨proposer, weights, period, delay, hcall⟩
    have hmem := List.mem_map_of_mem (f := fun t => (t.event.call, t.before.state.admin.isSome)) ht
    rw [hobserved, hcall] at hmem
    simp only [sampleCalls, List.cons_append, List.nil_append, List.mem_cons, Prod.mk.injEq, reduceCtorEq,
      false_and, false_or, List.not_mem_nil, or_false] at hmem
    exact hmem.2
  obtain ⟨earlier, last, rfl, -, hlast⟩ := List.map_eq_append_iff.mp hobserved
  obtain ⟨t, tail, rfl, ht, htail⟩ := List.map_eq_cons_iff.mp hlast
  obtain rfl := List.map_eq_nil_iff.mp htail
  have hexecutes : Executes 1 t := (Prod.mk.inj ht).1
  obtain ⟨hsafe, hfirst⟩ := execution_safety hrun
  exact ⟨earlier, final, t, hrun, hexecutes, hsafe 1 earlier t [] rfl hexecutes,
    hfirst hinitialized 1 earlier t [] rfl hexecutes⟩

end StellarDidCredit.Governance
