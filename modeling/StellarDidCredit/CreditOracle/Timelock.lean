import StellarDidCredit.Lib.Run
import StellarDidCredit.CreditOracle.Effects

/-!
# The weight timelock

Runs of the credit oracle over ledgers that never go back, with an identity oracle that
answers each call freely. Pending weights come from the latest proposal, which no call has
applied since, and become effective a fixed number of ledgers after it; applying them clears
the slot. Weights that are active or pending are valid.
-/

namespace StellarDidCredit.CreditOracle

/-! ## Runs -/

/-- The contract between two calls. -/
structure Config where
  state : State
  ledger : Ledger

/-- A deployed contract before its first call. -/
def Config.fresh (ledger : Ledger) : Config := { state := {}, ledger }

/-- A call, with the identity oracle's answers to the calls it makes. -/
structure Event where
  env : Env
  call : Call
  host : Host Unit

/-- A successful call in the current or a later ledger. A failed one is rolled back. -/
def Config.next (c : Config) (e : Event) : Option Config := do
  guard (c.ledger.NotAfter e.env.ledger)
  let (state, _) ← (exec e.host e.env e.call c.state ()).toOption
  some { state, ledger := e.env.ledger }

/-- One step of a history of the contract. -/
abbrev Move := Transition Config Event

/-- A step is a successful call in the current or a later ledger. -/
theorem Config.step_iff {c c' : Config} {e : Event} :
    StepOf Config.next c e c' ↔ c.ledger.NotAfter e.env.ledger ∧ c'.ledger = e.env.ledger ∧
      exec e.host e.env e.call c.state () = .ok (c'.state, ()) := by
  simp only [StepOf, Config.next, Option.bind_eq_bind, Option.bind_eq_some_iff,
    Outcome.toOption_eq_some, Option.guard_eq_some', Option.some.injEq, exists_const]
  constructor
  · rintro ⟨hledger, ⟨state, _⟩, hexec, rfl⟩
    exact ⟨hledger, rfl, hexec⟩
  · rintro ⟨hledger, hafter, hexec⟩
    exact ⟨hledger, (c'.state, ()), hexec, by rw [← hafter]⟩

/-- What the successful call behind a step does to the state. -/
theorem Config.effect_of_next {c c' : Config} {e : Event} (h : StepOf Config.next c e c') :
    Effect e.host e.env c.state () e.call c'.state :=
  exec_effect (Config.step_iff.mp h).2.2

/-! ## The weights of one state -/

/-- Active and pending weights are valid, and the two pending entries come and go together. -/
structure WeightsOk (s : State) : Prop where
  config : ∀ weights, s.config = some weights → weights.Valid
  pending : ∀ weights, s.pendingWeights = some weights → weights.Valid
  together : s.pendingWeights.isSome = s.pendingWeightsEffectiveLedger.isSome

variable {κ : Type} {host : Host κ} {env : Env} {call : Call} {s s' : State} {world : κ}

/-- No weights are stored at the start. -/
theorem weightsOk_start : WeightsOk {} where
  config _ h := by cases h
  pending _ h := by cases h
  together := rfl

/-- Every call keeps the weights in order. -/
theorem WeightsOk.step (h : WeightsOk s) (heffect : Effect host env s world call s') : WeightsOk s' := by
  have hsame {after : State} (hconfig : after.config = s.config)
      (hpending : after.pendingWeights = s.pendingWeights)
      (heffective : after.pendingWeightsEffectiveLedger = s.pendingWeightsEffectiveLedger) :
      WeightsOk after :=
    ⟨hconfig ▸ h.config, hpending ▸ h.pending, by rw [hpending, heffective, h.together]⟩
  cases heffect with
  | initialized hadmin =>
    refine ⟨?_, h.pending, h.together⟩
    rintro _ ⟨⟩
    decide
  | weightsProposed hvalid hadmin hauth =>
    refine ⟨h.config, ?_, rfl⟩
    rintro _ ⟨⟩
    exact hvalid
  | weightsApplied hpending heffective htime =>
    refine ⟨?_, by simp, rfl⟩
    rintro _ ⟨⟩
    exact h.pending _ hpending
  | adminProposed => exact hsame rfl rfl rfl
  | adminAccepted => exact hsame rfl rfl rfl
  | identityLinked => exact hsame rfl rfl rfl
  | scoreComputed hcompute =>
    have hcore := computeScore_core hcompute
    exact hsame (congrArg Core.config hcore) (congrArg Core.pendingWeights hcore)
      (congrArg Core.pendingWeightsEffectiveLedger hcore)
  | other hcall hcore =>
    exact hsame (congrArg Core.config hcore) (congrArg Core.pendingWeights hcore)
      (congrArg Core.pendingWeightsEffectiveLedger hcore)

/-- The active weights change by `apply_weights`, and are first set by the initialisation. -/
theorem Effect.config_changes (heffect : Effect host env s world call s') (hne : s'.config ≠ s.config) :
    call = .applyWeights ∨ (s.admin = none ∧ ∃ admin, call = .initializeContract admin) := by
  cases heffect with
  | initialized hadmin => exact Or.inr ⟨hadmin, _, rfl⟩
  | weightsApplied => exact Or.inl rfl
  | weightsProposed => exact absurd rfl hne
  | adminProposed => exact absurd rfl hne
  | adminAccepted => exact absurd rfl hne
  | identityLinked => exact absurd rfl hne
  | scoreComputed hcompute => exact absurd (congrArg Core.config (computeScore_core hcompute)) hne
  | other hcall hcore => exact absurd (congrArg Core.config hcore) hne

/-- The pending slot is written by a proposal, cleared by an application, and otherwise left alone. -/
theorem Effect.pending_cases (heffect : Effect host env s world call s') :
    (∃ weights, call = .proposeWeights weights ∧ s'.pendingWeights = some weights ∧
      s'.pendingWeightsEffectiveLedger = some (env.ledger.sequence + timelockLedgers)) ∨
    (call = .applyWeights ∧ s'.pendingWeights = none) ∨
    ((∀ weights, call ≠ .proposeWeights weights) ∧ call ≠ .applyWeights ∧
      s'.pendingWeights = s.pendingWeights ∧
      s'.pendingWeightsEffectiveLedger = s.pendingWeightsEffectiveLedger) := by
  cases heffect with
  | weightsProposed => exact Or.inl ⟨_, rfl, rfl, rfl⟩
  | weightsApplied => exact Or.inr (Or.inl ⟨rfl, rfl⟩)
  | initialized => exact Or.inr (Or.inr ⟨by simp, by simp, rfl, rfl⟩)
  | adminProposed => exact Or.inr (Or.inr ⟨by simp, by simp, rfl, rfl⟩)
  | adminAccepted => exact Or.inr (Or.inr ⟨by simp, by simp, rfl, rfl⟩)
  | identityLinked => exact Or.inr (Or.inr ⟨by simp, by simp, rfl, rfl⟩)
  | scoreComputed hcompute =>
    have hcore := computeScore_core hcompute
    exact Or.inr (Or.inr ⟨by simp, by simp, congrArg Core.pendingWeights hcore,
      congrArg Core.pendingWeightsEffectiveLedger hcore⟩)
  | other hcall hcore =>
    refine Or.inr (Or.inr ⟨?_, ?_, congrArg Core.pendingWeights hcore,
      congrArg Core.pendingWeightsEffectiveLedger hcore⟩)
    · rintro weights rfl
      exact hcall
    · rintro rfl
      exact hcall

/-! ## The latest proposal -/

/-- The step proposes the weights. -/
def Proposes (weights : ScoringWeights) (t : Move) : Prop := t.event.call = .proposeWeights weights

/-- The step applies the pending weights. -/
def Applies (t : Move) : Prop := t.event.call = .applyWeights

/-- `proposal` proposes the weights, and nothing was proposed or applied since. -/
structure LatestProposal (weights : ScoringWeights) (proposal : Move) (since : List Move) : Prop where
  proposes : Proposes weights proposal
  latest : ∀ t ∈ since, ∀ weights', ¬Proposes weights' t
  unused : ∀ t ∈ since, ¬Applies t

variable {ledger : Ledger} {history : List Move} {final : Config}

/-- The weights are in order in every run. -/
theorem weightsOk_of_run (hrun : Run (StepOf Config.next) (.fresh ledger) history final) :
    WeightsOk final.state := by
  refine hrun.invariant (fun c => WeightsOk c.state) ?_ weightsOk_start
  intro c e c' hok hstep
  exact hok.step (Config.effect_of_next hstep)

/-- Pending weights are those of the latest proposal, effective a timelock after it. -/
theorem exists_latestProposal (hrun : Run (StepOf Config.next) (.fresh ledger) history final)
    {weights : ScoringWeights} (hpending : final.state.pendingWeights = some weights) :
    ∃ before proposal since, history = before ++ proposal :: since ∧
      LatestProposal weights proposal since ∧ final.state.pendingWeightsEffectiveLedger =
        some (proposal.event.env.ledger.sequence + timelockLedgers) := by
  induction hrun with
  | nil => cases hpending
  | @snoc history c e c' hbefore hstep ih =>
    rcases (Config.effect_of_next hstep).pending_cases with
      ⟨proposed, hcall, hslot, heffective⟩ | ⟨-, hcleared⟩ | ⟨hnot, hnotApplied, hslot, heffective⟩
    · rw [hpending] at hslot
      obtain rfl := Option.some.inj hslot
      exact ⟨history, ⟨c, e, c'⟩, [], rfl, ⟨hcall, by simp, by simp⟩, heffective⟩
    · rw [hpending] at hcleared
      cases hcleared
    · rw [hpending] at hslot
      obtain ⟨before, proposal, since, rfl, hlatest, hledger⟩ := ih hslot.symm
      refine ⟨before, proposal, since ++ [⟨c, e, c'⟩], by simp, ⟨hlatest.proposes, ?_, ?_⟩,
        heffective.trans hledger⟩
      · exact List.forall_mem_append.mpr ⟨hlatest.latest, List.forall_mem_singleton.mpr hnot⟩
      · exact List.forall_mem_append.mpr ⟨hlatest.unused, List.forall_mem_singleton.mpr hnotApplied⟩

/-- The application `t`, after the steps `earlier`, installs the weights of the latest
proposal, which nothing applied before and nothing can apply again, at least a timelock
after it. -/
def AppliesLatest (earlier : List Move) (t : Move) : Prop :=
  ∃ before proposal since weights, earlier = before ++ proposal :: since ∧
    LatestProposal weights proposal since ∧
    t.after.state.config = some weights ∧
    proposal.event.env.ledger.sequence + timelockLedgers ≤ t.event.env.ledger.sequence ∧
    t.after.state.pendingWeights = none ∧ t.after.state.pendingWeightsEffectiveLedger = none

/-- Weights are valid in every reachable state, change by applications only, and an
application installs what was proposed last, a timelock ago. -/
theorem weight_timelock (hrun : Run (StepOf Config.next) (.fresh ledger) history final) :
    (∀ weights, final.state.config = some weights ∨ final.state.pendingWeights = some weights →
      weights.Valid) ∧
    (∀ t ∈ history, t.after.state.config ≠ t.before.state.config →
      Applies t ∨ (t.before.state.admin = none ∧ ∃ admin, t.event.call = .initializeContract admin)) ∧
    ∀ earlier t later, history = earlier ++ t :: later → Applies t → AppliesLatest earlier t := by
  refine ⟨?_, ?_, ?_⟩
  · have hweights := weightsOk_of_run hrun
    rintro weights (hconfig | hpending)
    · exact hweights.config weights hconfig
    · exact hweights.pending weights hpending
  · intro t ht hne
    exact (Config.effect_of_next (hrun.step_of_mem ht)).config_changes hne
  · rintro earlier t later rfl happlies
    obtain ⟨hbefore, hstep, -⟩ := hrun.around
    have heffect := Config.effect_of_next hstep
    rw [happlies] at heffect
    obtain ⟨before, event, after⟩ := t
    obtain ⟨state, ledger'⟩ := after
    simp only at heffect
    cases heffect with
    | @weightsApplied weights effectiveLedger hpending heffective htime =>
      obtain ⟨first, proposal, since, rfl, hlatest, hledger⟩ := exists_latestProposal hbefore hpending
      rw [heffective] at hledger
      obtain rfl := Option.some.inj hledger
      exact ⟨first, proposal, since, weights, rfl, hlatest, rfl, htime, rfl, rfl⟩
    | other hcall => exact hcall.elim

/-- An identity oracle that fails every call. -/
def silentHost : Host Unit where
  isDeactivated _ _ _ := none
  getVcDetails _ _ _ := none
  verifyVc _ _ _ _ := none
  getVcCredentialType _ _ _ _ := none
  getActiveVcCount _ _ _ := none
  getLastStateChangeLedger _ _ _ := none

/-- A call of the credit oracle at the address 11, signed by its admin. -/
def sampleEvent (sequence : BitVec 32) (call : Call) : Event :=
  { env := .signedBy (.numbered sequence) (.contract 11) [.account 1], call, host := silentHost }

/-- New weights are proposed, and applied when the timelock is over. -/
def sampleTimelock : List Event :=
  [ sampleEvent 0 (.initializeContract (.account 1)),
    sampleEvent 1 (.proposeWeights ⟨50, 20, 30⟩),
    sampleEvent 17281 .applyWeights ]

/-- Weights are proposed, and applied a timelock later. -/
theorem weight_timelock_sample :
    ∃ history final t, Run (StepOf Config.next) (.fresh (.numbered 0)) (history ++ [t]) final ∧
      Applies t ∧ AppliesLatest history t ∧ final.state.config = some ⟨50, 20, 30⟩ := by
  obtain ⟨history, final, hrun, hobserved⟩ := Run.exists_of_replay
    (show (replay Config.next (.fresh (.numbered 0)) sampleTimelock).map
      (fun r => (r.1.map (·.event.call), r.2.state.config)) =
      some ([.initializeContract (.account 1), .proposeWeights ⟨50, 20, 30⟩] ++ [.applyWeights],
        some ⟨50, 20, 30⟩) from rfl)
  obtain ⟨hcalls, hconfig⟩ := Prod.mk.inj hobserved
  obtain ⟨earlier, last, rfl, -, hlast⟩ := List.map_eq_append_iff.mp hcalls
  obtain ⟨t, tail, rfl, happlies, htail⟩ := List.map_eq_cons_iff.mp hlast
  obtain rfl := List.map_eq_nil_iff.mp htail
  exact ⟨earlier, final, t, hrun, happlies, (weight_timelock hrun).2.2 earlier t [] rfl happlies, hconfig⟩

end StellarDidCredit.CreditOracle
