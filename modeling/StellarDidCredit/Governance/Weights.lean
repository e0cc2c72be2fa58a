import StellarDidCredit.Governance.Proposals

/-!
# The total of the registered weights

Three calls write the weight of one voter, and each replaces the old weight in the total by the
new one. The total is therefore the sum of the stored weights in every run, and the sum that a
call would bring about has to fit for the call to succeed.
-/

namespace StellarDidCredit.Governance

variable {κ : Type} {host : Host κ} {env : Env} {call : Call} {s s' : State} {world world' : κ}
  {voter : Address}

/-- The registered weight of an address, zero without an entry. -/
def weightOf (s : State) (voter : Address) : ℤ := (s.voterWeight voter).getD 0

/-- The voter whose weight a call writes, and the weight it gets. -/
def Call.reweighs : Call → Option (Address × ℤ)
  | .registerVoter _ voter weight => some (voter, weight)
  | .updateVoterWeight _ voter weight => some (voter, weight)
  | .deregisterVoter _ voter => some (voter, 0)
  | _ => none

/-- Write a weight; zero deletes the entry. -/
def setWeight (weights : Storage Address ℤ) (voter : Address) (weight : ℤ) : Storage Address ℤ :=
  if weight = 0 then weights.remove voter else weights.set voter weight

/-- The call replaced the weight of one voter, in the entries and in the total. -/
structure Reweighed (s s' : State) (voter : Address) (weight : ℤ) : Prop where
  nonneg : 0 ≤ weight
  voterWeight : s'.voterWeight = setWeight s.voterWeight voter weight
  total : getTotalRegisteredWeight s' = getTotalRegisteredWeight s - weightOf s voter + weight
  fits : I128.min ≤ getTotalRegisteredWeight s' ∧ getTotalRegisteredWeight s' ≤ I128.max

/-- What a successful call does to the weights and their total. -/
theorem exec_weights (h : exec host env call s world = .ok (s', world')) :
    (∃ voter weight, call.reweighs = some (voter, weight) ∧ Reweighed s s' voter weight) ∨
    (call.reweighs = none ∧ s'.voterWeight = s.voterWeight ∧
      s'.totalRegisteredWeight = s.totalRegisteredWeight) := by
  by_cases hcall : call.Administers
  · cases exec_administered h hcall with
    | @registered admin voter weight total hadmin hpositive htotal =>
      obtain ⟨rfl, hfits⟩ := replaceInTotal_spec htotal
      have hset : setWeight s.voterWeight voter weight = s.voterWeight.set voter weight :=
        if_neg hpositive.ne'
      exact Or.inl ⟨voter, weight, rfl, hpositive.le, hset.symm, rfl, hfits⟩
    | @updated admin voter weight total hadmin hnonneg htotal =>
      obtain ⟨rfl, hfits⟩ := replaceInTotal_spec htotal
      exact Or.inl ⟨voter, weight, rfl, hnonneg, rfl, rfl, hfits⟩
    | @deregistered admin voter total hadmin htotal hfits =>
      subst htotal
      have hremove : setWeight s.voterWeight voter 0 = s.voterWeight.remove voter := if_pos rfl
      exact Or.inl ⟨voter, 0, rfl, le_rfl, hremove.symm, (add_zero _).symm, hfits⟩
    | _ => exact Or.inr ⟨rfl, rfl, rfl⟩
  · cases exec_effect h with
    | administered hadministers => exact absurd hadministers hcall
    | _ => exact Or.inr ⟨rfl, rfl, rfl⟩

/-! ## The invariant -/

/-- The total is the sum of the entries, and the entries are positive. -/
structure WeightsExact (s : State) : Prop where
  finite : (Function.support (weightOf s)).Finite
  sum : getTotalRegisteredWeight s = ∑ᶠ voter, weightOf s voter
  positive : ∀ voter weight, s.voterWeight voter = some weight → 0 < weight

/-- The sum of the weights after one of them is replaced. -/
noncomputable def sumWith (s : State) (voter : Address) (weight : ℤ) : ℤ :=
  ∑ᶠ other, if other = voter then weight else weightOf s other

/-- Replacing one weight moves the sum by the difference. -/
theorem WeightsExact.sumWith_eq (h : WeightsExact s) (voter : Address) (weight : ℤ) :
    sumWith s voter weight = getTotalRegisteredWeight s - weightOf s voter + weight := by
  have hother : ∀ other, other ≠ voter →
      (if other = voter then weight else weightOf s other) = weightOf s other := fun _ hne => if_neg hne
  rw [sumWith, finsum_eq_add_sub (weightOf s) _ voter h.finite hother, ← h.sum, if_pos rfl]
  ring

/-- The weights after a write. -/
theorem Reweighed.weightOf_eq {weight : ℤ} (h : Reweighed s s' voter weight) (other : Address) :
    weightOf s' other = if other = voter then weight else weightOf s other := by
  unfold weightOf
  rw [h.voterWeight, setWeight]
  by_cases hzero : weight = 0
  · rw [if_pos hzero, Storage.remove_apply]
    by_cases hother : other = voter
    · rw [if_pos hother, if_pos hother, hzero]
      rfl
    · rw [if_neg hother, if_neg hother]
  · rw [if_neg hzero, Storage.set_apply]
    by_cases hother : other = voter
    · rw [if_pos hother, if_pos hother]
      rfl
    · rw [if_neg hother, if_neg hother]

/-- A write leaves positive entries. -/
theorem Reweighed.positive {weight : ℤ} (h : Reweighed s s' voter weight)
    (hpositive : ∀ voter weight, s.voterWeight voter = some weight → 0 < weight) (other : Address)
    (found : ℤ) (hfound : s'.voterWeight other = some found) : 0 < found := by
  rw [h.voterWeight, setWeight] at hfound
  split at hfound
  case isTrue hzero =>
    rw [Storage.remove_apply] at hfound
    split at hfound
    · cases hfound
    · exact hpositive other found hfound
  case isFalse hzero =>
    rw [Storage.set_apply] at hfound
    split at hfound
    · obtain rfl := Option.some.inj hfound
      exact lt_of_le_of_ne h.nonneg (Ne.symm hzero)
    · exact hpositive other found hfound

/-- Replacing one weight keeps the total exact. -/
theorem WeightsExact.reweighed {weight : ℤ} (h : WeightsExact s) (hre : Reweighed s s' voter weight) :
    WeightsExact s' := by
  have hother : ∀ other, other ≠ voter → weightOf s' other = weightOf s other := by
    intro other hne
    rw [hre.weightOf_eq, if_neg hne]
  constructor
  case finite => exact support_finite_of_eq_off _ _ voter h.finite hother
  case sum =>
    rw [hre.total, ← h.sumWith_eq, sumWith]
    exact finsum_congr fun other => (hre.weightOf_eq other).symm
  case positive => exact hre.positive h.positive

/-- A successful call keeps the total exact, and brings about the sum that it announces. -/
theorem WeightsExact.step (h : WeightsExact s) (hexec : exec host env call s world = .ok (s', world')) :
    WeightsExact s' ∧ ∀ voter weight, call.reweighs = some (voter, weight) →
      I128.min ≤ sumWith s voter weight ∧ sumWith s voter weight ≤ I128.max := by
  rcases exec_weights hexec with ⟨voter, weight, hcall, hre⟩ | ⟨hcall, hweights, htotal⟩
  · refine ⟨h.reweighed hre, fun found other hfound => ?_⟩
    obtain ⟨rfl, rfl⟩ := Prod.mk.inj (Option.some.inj (hcall.symm.trans hfound))
    rw [h.sumWith_eq, ← hre.total]
    exact hre.fits
  · refine ⟨?_, fun voter weight hfound => by cases hcall.symm.trans hfound⟩
    have hsame : weightOf s' = weightOf s := funext fun other => congrArg (·.getD 0) (congrFun hweights other)
    have htotal' : getTotalRegisteredWeight s' = getTotalRegisteredWeight s := congrArg (·.getD 0) htotal
    exact ⟨hsame ▸ h.finite, by rw [htotal', h.sum, hsame], hweights ▸ h.positive⟩

/-- Without an entry the total is zero. -/
theorem weightsExact_fresh : WeightsExact {} := by
  have hzero : weightOf {} = fun _ => 0 := rfl
  constructor
  case finite =>
    rw [hzero, Function.support_fun_zero]
    exact Set.finite_empty
  case sum =>
    rw [hzero, finsum_zero]
    rfl
  case positive => exact fun _ _ h => by cases h

/-! ## Main result -/

/-- An attempted call; a failed one is rolled back. -/
def Config.attempt (c : Config) (e : Event) : Config := (c.next e).getD c

/-- In every run the total is the sum of the stored weights, which are positive, and a call that
would bring about a sum that does not fit changes nothing. -/
theorem total_weight_exact {ledger : Ledger} {history : List Move} {final : Config}
    (hrun : Run (StepOf Config.next) (.fresh ledger) history final) :
    WeightsExact final.state ∧ ∀ e voter weight, e.call.reweighs = some (voter, weight) →
      I128.max < sumWith final.state voter weight → final.attempt e = final := by
  have hexact : WeightsExact final.state := by
    refine hrun.invariant (fun c => WeightsExact c.state) ?_ weightsExact_fresh
    intro c e c' hbefore hstep
    exact (hbefore.step (Config.exec_of_next hstep).2.2).1
  refine ⟨hexact, fun e voter weight hcall hoverflow => ?_⟩
  cases hnext : final.next e with
  | none => rw [Config.attempt, hnext, Option.getD_none]
  | some c' =>
    obtain ⟨-, hfits⟩ := hexact.step (Config.exec_of_next hnext).2.2
    exact absurd (hfits voter weight hcall).2 hoverflow.not_ge

/-- A voter is registered twice, another one updated to zero, and a stranger deregistered. -/
def sampleRegistrations : List Event :=
  [ sampleEvent 0 (.account 1) (.initializeContract (.account 1) (.contract 11) 5),
    sampleEvent 0 (.account 1) (.registerVoter (.account 1) (.account 2) 10),
    sampleEvent 1 (.account 1) (.registerVoter (.account 1) (.account 2) 25),
    sampleEvent 1 (.account 1) (.registerVoter (.account 1) (.account 3) 5),
    sampleEvent 2 (.account 1) (.updateVoterWeight (.account 1) (.account 3) 0),
    sampleEvent 3 (.account 1) (.deregisterVoter (.account 1) (.account 4)) ]

/-- After them one more registration, of the largest weight, changes nothing. -/
theorem total_weight_exact_registrations :
    ∃ history final, Run (StepOf Config.next) (.fresh (.numbered 0)) history final ∧
      WeightsExact final.state ∧ getTotalRegisteredWeight final.state = 25 ∧
      final.attempt (sampleEvent 4 (.account 1)
        (.registerVoter (.account 1) (.account 5) I128.max)) = final := by
  obtain ⟨history, final, hrun, hobserved⟩ := Run.exists_of_replay
    (show (replay Config.next (.fresh (.numbered 0)) sampleRegistrations).map
      (fun r => (getTotalRegisteredWeight r.2.state, weightOf r.2.state (.account 5))) = some (25, 0) from rfl)
  obtain ⟨htotal, hweight⟩ := Prod.mk.inj hobserved
  obtain ⟨hexact, hoverflow⟩ := total_weight_exact hrun
  refine ⟨history, final, hrun, hexact, htotal, hoverflow _ (.account 5) I128.max rfl ?_⟩
  rw [hexact.sumWith_eq, htotal, hweight]
  decide

end StellarDidCredit.Governance
