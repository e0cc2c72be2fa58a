import StellarDidCredit.CreditOracle.Timelock

/-!
# The compute cooldown

The last computation of a subject is not stored. It is inferred from the ledger of the stored
score record, which a computation renews only when its result differs from the record, and
never for a deactivated identity. Computations that renew the record are a cooldown apart; one
that does not can be repeated in the same ledger.
-/

namespace StellarDidCredit.CreditOracle

/-! ## One computation -/

/-- The computation finds an active identity and a result that the stored record does not
hold already. -/
def Renews {κ : Type} (host : Host κ) (env : Env) (world : κ) (s : State) (x : Address) : Prop :=
  ∃ repayment vcPoints vcCount weights, loadRepaymentForScore s x = .ok repayment ∧
    resolveVcPoints host env world s x = .ok (some (vcPoints, vcCount)) ∧ s.config = some weights ∧
    ∀ prev, s.score x = some prev →
      ¬(prev.score = computeScorePure (min vcPoints 100) (loadTxStats s x).volume30d
          (loadTxStats s x).avgCounterparties repayment.onTimeCount repayment.totalCount
          repayment.totalRepaid weights.vcWeight weights.txWeight weights.repaymentWeight ∧
        prev.vcCount = vcCount ∧ prev.repaymentRate = repaymentRateOf repayment ∧
        prev.txVolume30d = (loadTxStats s x).volume30d)

section Computation

variable {κ : Type} {host : Host κ} {env : Env} {s s' : State} {world : κ} {x : Address}

/-- A computation that renews stores a record of the current ledger. -/
theorem computeScore_renews {v : ℕ} (h : computeScore host env x s world = .ok (v, s'))
    (hrenews : Renews host env world s x) :
    ∃ record, s'.score x = some record ∧ record.computedAtLedger = env.ledger.sequence := by
  obtain ⟨repayment, vcPoints, vcCount, weights, hload, hresolve, hweights, hdiffer⟩ := hrenews
  obtain ⟨-, -, repayment', hload', ⟨-, -, hresolve'⟩ | ⟨vcPoints', vcCount', weights', hresolve',
    hweights', rfl, hstored⟩⟩ := computeScore_spec h
  · cases hresolve.symm.trans hresolve'
  · cases hload.symm.trans hload'
    cases hresolve.symm.trans hresolve'
    cases hweights.symm.trans hweights'
    rcases storeScore_spec hstored with ⟨-, prev, hprev, hsame⟩ | ⟨-, protocolStats, rfl⟩
    · exact absurd hsame (hdiffer prev hprev)
    · exact ⟨_, Storage.set_self _ _ _, rfl⟩

/-- Any other computation changes nothing. -/
theorem computeScore_of_not_renews {v : ℕ} (h : computeScore host env x s world = .ok (v, s'))
    (hnot : ¬Renews host env world s x) : s' = s := by
  obtain ⟨-, -, repayment, hload, ⟨-, rfl, -⟩ | ⟨vcPoints, vcCount, weights, hresolve, hweights, rfl,
    hstored⟩⟩ := computeScore_spec h
  · rfl
  · rcases storeScore_spec hstored with ⟨rfl, -⟩ | ⟨hdiffer, -⟩
    · rfl
    · exact absurd ⟨repayment, vcPoints, vcCount, weights, hload, hresolve, hweights, hdiffer⟩ hnot

/-- The cooldown has passed since the ledger of the stored record. -/
theorem cooldown_passed {c : ℕ} {record : ScoreRecord} (h : checkComputeCooldown env s x = .ok ())
    (hcooldown : s.computeCooldownLedgers = some c) (hrecord : s.score x = some record) (hc : 0 < c) :
    record.computedAtLedger + c ≤ env.ledger.sequence := by
  simp only [checkComputeCooldown, hcooldown, hrecord, Option.getD_some, Outcome.require_eq_ok] at h
  omega

end Computation

/-! ## Runs -/

variable {start final : Config} {history : List Move} {x : Address} {c : ℕ}

/-- The step computes the subject's score. -/
def Computes (x : Address) (t : Move) : Prop := t.event.call = .computeScore x

instance (x : Address) (t : Move) : Decidable (Computes x t) := inferInstanceAs (Decidable (_ = _))

/-- The ledger of the step's call. -/
def callLedger (t : Move) : ℕ := t.event.env.ledger.sequence

/-- Any two computations of the subject's score are the given number of ledgers apart. -/
def Spaced (c : ℕ) (x : Address) (history : List Move) : Prop :=
  history.Pairwise fun t t' => Computes x t → Computes x t' → callLedger t + c ≤ callLedger t'

/-- The cooldown in every state in which the subject's score is computed. -/
def CooldownIs (c : ℕ) (x : Address) (history : List Move) : Prop :=
  ∀ t ∈ history, Computes x t → t.before.state.computeCooldownLedgers = some c

/-- The step's computation renews the record. -/
def RenewsAt (x : Address) (t : Move) : Prop := Renews t.event.host t.event.env () t.before.state x

/-- The successful computation behind a step. -/
theorem computeScore_of_step {t : Move} (hstep : StepOf Config.next t.before t.event t.after)
    (hcomputes : Computes x t) :
    ∃ v, computeScore t.event.host t.event.env x t.before.state () = .ok (v, t.after.state) := by
  have hexec := (Config.step_iff.mp hstep).2.2
  rw [hcomputes] at hexec
  simpa only [exec, alone_eq_ok, Outcome.map_snd_eq_ok, and_true] using hexec

/-- No call of a run is in a later ledger than its end. -/
theorem callLedger_le (hrun : Run (StepOf Config.next) start history final) :
    ∀ t ∈ history, callLedger t ≤ final.ledger.sequence := by
  induction hrun with
  | nil => simp
  | @snoc history before e after hbefore hstep ih =>
    obtain ⟨hledger, hafter, -⟩ := Config.step_iff.mp hstep
    rw [hafter]
    refine List.forall_mem_append.mpr ⟨fun t ht => (ih t ht).trans hledger.1, ?_⟩
    exact List.forall_mem_singleton.mpr (le_refl _)

/-- The stored record is no older than the computations of a run that all renew it. -/
theorem record_since (hrun : Run (StepOf Config.next) start history final)
    (hrenews : ∀ t ∈ history, Computes x t → RenewsAt x t) :
    ∀ t ∈ history, Computes x t →
      ∃ record, final.state.score x = some record ∧ callLedger t ≤ record.computedAtLedger := by
  induction hrun with
  | nil => simp
  | @snoc history before e after hbefore hstep ih =>
    intro t ht hcomputes
    rcases List.mem_append.mp ht with hold | hnew
    · obtain ⟨record, hrecord, hle⟩ := ih (fun t ht => hrenews t (List.mem_append_left _ ht)) t hold hcomputes
      rcases (Config.effect_of_next hstep).score_cases x with hsame | ⟨record', hrecord', hledger⟩
      · exact ⟨record, hsame.trans hrecord, hle⟩
      · refine ⟨record', hrecord', ?_⟩
        rw [hledger]
        exact (callLedger_le hbefore t hold).trans (Config.step_iff.mp hstep).1.1
    · have hthis := hrenews t ht hcomputes
      obtain rfl := List.mem_singleton.mp hnew
      obtain ⟨v, hcompute⟩ := computeScore_of_step hstep hcomputes
      obtain ⟨record, hrecord, hledger⟩ := computeScore_renews hcompute hthis
      exact ⟨record, hrecord, hledger.ge⟩

/-- Computations that renew the record are a cooldown apart. -/
theorem spaced_of_renews (hrun : Run (StepOf Config.next) start history final)
    (hcooldown : CooldownIs c x history) (hrenews : ∀ t ∈ history, Computes x t → RenewsAt x t) :
    Spaced c x history := by
  induction hrun with
  | nil => exact List.Pairwise.nil
  | @snoc history before e after hbefore hstep ih =>
    have hspaced := ih (fun t ht => hcooldown t (List.mem_append_left _ ht))
      (fun t ht => hrenews t (List.mem_append_left _ ht))
    refine List.pairwise_append.mpr ⟨hspaced, List.pairwise_singleton _ _, ?_⟩
    intro t ht t' ht' hcomputes hcomputes'
    obtain rfl := List.mem_singleton.mp ht'
    have hordered : callLedger t ≤ e.env.ledger.sequence :=
      (callLedger_le hbefore t ht).trans (Config.step_iff.mp hstep).1.1
    rcases Nat.eq_zero_or_pos c with rfl | hc
    · exact hordered
    · obtain ⟨record, hrecord, hle⟩ :=
        record_since hbefore (fun t ht => hrenews t (List.mem_append_left _ ht)) t ht hcomputes
      obtain ⟨v, hcompute⟩ := computeScore_of_step hstep hcomputes'
      have hpassed := cooldown_passed (computeScore_spec hcompute).2.1
        (hcooldown _ (List.mem_append_right _ List.mem_cons_self) hcomputes') hrecord hc
      exact (Nat.add_le_add_right hle c).trans hpassed

/-! ## Computations that do not renew -/

/-- The same call once more, right after the step. -/
def again (t : Move) : Move := ⟨t.after, t.event, t.after⟩

/-- A computation that does not renew the record can be repeated at once. -/
theorem step_again {t : Move} (hstep : StepOf Config.next t.before t.event t.after)
    (hcomputes : Computes x t) (hnot : ¬RenewsAt x t) : StepOf Config.next t.after t.event t.after := by
  obtain ⟨-, hledger, hexec⟩ := Config.step_iff.mp hstep
  obtain ⟨v, hcompute⟩ := computeScore_of_step hstep hcomputes
  have hsame : t.after.state = t.before.state := computeScore_of_not_renews hcompute hnot
  refine Config.step_iff.mpr ⟨?_, hledger, ?_⟩
  · rw [hledger]
    exact .refl _
  · rw [hsame] at hexec ⊢
    exact hexec

/-- The cooldown is the same when the computation is repeated. -/
theorem cooldown_again {t : Move} (hstep : StepOf Config.next t.before t.event t.after)
    (hcomputes : Computes x t) (hnot : ¬RenewsAt x t) :
    t.after.state.computeCooldownLedgers = t.before.state.computeCooldownLedgers := by
  obtain ⟨v, hcompute⟩ := computeScore_of_step hstep hcomputes
  rw [computeScore_of_not_renews hcompute hnot]

/-- Two computations in one ledger are not a cooldown apart. -/
theorem not_spaced_again {earlier : List Move} {t : Move} (hcomputes : Computes x t) (hc : 1 ≤ c) :
    ¬Spaced c x (earlier ++ [t, again t]) := by
  intro hspaced
  have htwo := (List.pairwise_append.mp hspaced).2.1
  have happart := (List.pairwise_cons.mp htwo).1 (again t) List.mem_cons_self hcomputes hcomputes
  have hsame : callLedger (again t) = callLedger t := rfl
  omega

/-- With the cooldown held constant, computations of a subject that all renew its record are a
cooldown apart; after one that does not, the run can go on with the same computation in the
same ledger. -/
theorem compute_cooldown (hc : 1 ≤ c) (hrun : Run (StepOf Config.next) start history final)
    (hcooldown : CooldownIs c x history) :
    ((∀ t ∈ history, Computes x t → RenewsAt x t) → Spaced c x history) ∧
    ∀ earlier t later, history = earlier ++ t :: later → Computes x t → ¬RenewsAt x t →
      Run (StepOf Config.next) start (earlier ++ [t, again t]) t.after ∧
        CooldownIs c x (earlier ++ [t, again t]) ∧ ¬Spaced c x (earlier ++ [t, again t]) := by
  refine ⟨spaced_of_renews hrun hcooldown, ?_⟩
  rintro earlier t later rfl hcomputes hnot
  obtain ⟨hbefore, hstep, -⟩ := hrun.around
  have hthis := hcooldown t (List.mem_append_right _ List.mem_cons_self) hcomputes
  refine ⟨?_, ?_, not_spaced_again hcomputes hc⟩
  · exact hbefore.append (.cons hstep (.cons (step_again hstep hcomputes hnot) .nil))
  · intro t' ht' hcomputes'
    simp only [List.mem_append, List.mem_cons, List.not_mem_nil, or_false] at ht'
    rcases ht' with hearlier | rfl | rfl
    · exact hcooldown t' (List.mem_append_left _ hearlier) hcomputes'
    · exact hthis
    · exact (cooldown_again hstep hcomputes hnot).trans hthis

/-- A first computation, and a second one after new credentials. -/
def renewingCalls : List Event :=
  [ sampleEvent 0 (.initializeContract (.account 1)),
    sampleEvent 1 (.registerFeeder (.account 1) (.account 1)),
    sampleEvent 5 (.computeScore (.account 3)),
    sampleEvent 6 (.setVcCount (.account 1) (.account 3) 2),
    sampleEvent 6 (.computeScore (.account 3)) ]

/-- A run in which every computation changes the score. -/
theorem compute_cooldown_renewing :
    ∃ history final, Run (StepOf Config.next) (.fresh (.numbered 0)) history final ∧
      history.map (·.event.call) = renewingCalls.map (·.call) ∧ Spaced 1 (.account 3) history := by
  obtain ⟨history, final, hrun, hobserved⟩ := Run.exists_of_replay
    (show (replay Config.next (.fresh (.numbered 0)) renewingCalls).map
      (fun r => (r.1.map (·.event.call), r.1.all fun t => decide (Computes (.account 3) t →
        t.before.state.computeCooldownLedgers = some 1 ∧
          t.after.state.score (.account 3) ≠ t.before.state.score (.account 3)))) =
      some (renewingCalls.map (·.call), true) by decide +kernel)
  obtain ⟨hcalls, hall⟩ := Prod.mk.inj hobserved
  have heach : ∀ t ∈ history, Computes (.account 3) t → t.before.state.computeCooldownLedgers = some 1 ∧
      t.after.state.score (.account 3) ≠ t.before.state.score (.account 3) := by
    intro t ht
    exact of_decide_eq_true (List.all_eq_true.mp hall t ht)
  refine ⟨history, final, hrun, hcalls, (compute_cooldown (c := 1) (by decide) hrun ?_).1 ?_⟩
  · intro t ht hcomputes
    exact (heach t ht hcomputes).1
  · intro t ht hcomputes
    by_contra hnot
    obtain ⟨v, hcompute⟩ := computeScore_of_step (hrun.step_of_mem ht) hcomputes
    exact (heach t ht hcomputes).2 (by rw [computeScore_of_not_renews hcompute hnot])

/-- A contract right after its initialisation. -/
def initializedStart : Config :=
  { state := { ({} : State) with
      admin := some (.account 1)
      config := some ⟨40, 30, 30⟩
      computeCooldownLedgers := some 1
      storageVersion := some 2 }
    ledger := .numbered 0 }

/-- A first computation, and two unchanged ones in a later ledger. -/
def unchangedCalls : List Event :=
  [ sampleEvent 5 (.computeScore (.account 3)),
    sampleEvent 10 (.computeScore (.account 3)),
    sampleEvent 10 (.computeScore (.account 3)) ]

/-- An unchanged score is computed twice in one ledger, under the default cooldown. -/
theorem not_spaced_unchanged :
    ∃ setup history final,
      Run (StepOf Config.next) (.fresh (.numbered 0)) setup initializedStart ∧
      Run (StepOf Config.next) initializedStart history final ∧
      (∀ t ∈ history, t.before.state.computeCooldownLedgers = some 1) ∧
      ¬Spaced 1 (.account 3) history := by
  have hsetup : StepOf Config.next (.fresh (.numbered 0))
      (sampleEvent 0 (.initializeContract (.account 1))) initializedStart := rfl
  obtain ⟨history, final, hrun, hobserved⟩ := Run.exists_of_replay
    (show (replay Config.next initializedStart unchangedCalls).map
      (fun r => (r.1.map (fun t => (t.event.call, callLedger t)),
        r.1.all fun t => decide (t.before.state.computeCooldownLedgers = some 1))) =
      some ([(.computeScore (.account 3), 5), (.computeScore (.account 3), 10),
        (.computeScore (.account 3), 10)], true) by decide +kernel)
  obtain ⟨hcalls, hall⟩ := Prod.mk.inj hobserved
  refine ⟨_, history, final, Run.nil.snoc hsetup, hrun, ?_, ?_⟩
  · intro t ht
    exact of_decide_eq_true (List.all_eq_true.mp hall t ht)
  · intro hspaced
    obtain ⟨first, rest, rfl, -, hrest⟩ := List.map_eq_cons_iff.mp hcalls
    obtain ⟨t, rest', rfl, ht, hrest'⟩ := List.map_eq_cons_iff.mp hrest
    obtain ⟨t', rest'', rfl, ht', -⟩ := List.map_eq_cons_iff.mp hrest'
    obtain ⟨hcomputes, hledger⟩ := Prod.mk.inj ht
    obtain ⟨hcomputes', hledger'⟩ := Prod.mk.inj ht'
    have htail := (List.pairwise_cons.mp hspaced).2
    have happart := (List.pairwise_cons.mp htail).1 t' List.mem_cons_self hcomputes hcomputes'
    rw [hledger, hledger'] at happart
    exact absurd happart (by decide)

end StellarDidCredit.CreditOracle
