import StellarDidCredit.Lib.Run

/-!
# A role that is handed over in two steps

The holder of a role proposes a successor, a later proposal replaces an earlier one, and the
proposed successor takes the role by accepting it, which uses the proposal up. In every run of a
system that treats a role in this way, an acceptance installs the address of the latest proposal
since the role last changed hands.
-/

namespace StellarDidCredit

variable {σ ε A : Type}

/-- The holder of a role and the proposed successor. -/
structure Role (A : Type) where
  holder : Option A
  proposed : Option A

/-- A role that nobody holds yet. -/
def Role.vacant : Role A := ⟨none, none⟩

/-- What an event has to do with the role. -/
inductive RoleAct (A : Type) where
  | install (a : A)
  | propose (a : A)
  | accept (a : A)
  | other

/-- What an event that was signed by some may do to the role. -/
inductive Role.Step (signed : A → Prop) (r : Role A) : RoleAct A → Role A → Prop
  | installed {a : A} (hvacant : r.holder = none) (hsigned : signed a) :
      Role.Step signed r (.install a) { r with holder := some a }
  | proposed {a holder : A} (hholder : r.holder = some holder) (hsigned : signed holder) :
      Role.Step signed r (.propose a) { r with proposed := some a }
  | accepted {a : A} (hproposed : r.proposed = some a) (hsigned : signed a) :
      Role.Step signed r (.accept a) ⟨some a, none⟩
  | other : Role.Step signed r .other r

/-- The holder changes when the role is first taken and when a successor accepts it. -/
theorem Role.Step.holder_changes {signed : A → Prop} {r r' : Role A} {act : RoleAct A}
    (h : Role.Step signed r act r') (hne : r'.holder ≠ r.holder) :
    (r.holder = none ∧ ∃ a, act = .install a) ∨ ∃ a, act = .accept a := by
  cases h with
  | installed hvacant => exact Or.inl ⟨hvacant, _, rfl⟩
  | accepted => exact Or.inr ⟨_, rfl⟩
  | proposed => exact absurd rfl hne
  | other => exact absurd rfl hne

section Runs

variable {step : σ → ε → σ → Prop} {start final : σ} {history : List (Transition σ ε)}

/-- After the steps `earlier`, the step `t` comes to a role for which its holder, who signed, last
proposed `a`; nothing happened to the role since. -/
def FollowsProposal (view : σ → Role A) (act : ε → RoleAct A) (signed : ε → A → Prop)
    (earlier : List (Transition σ ε)) (t : Transition σ ε) (a : A) : Prop :=
  ∃ before proposal since holder, earlier = before ++ proposal :: since ∧
    act proposal.event = .propose a ∧ (∀ u ∈ since, act u.event = .other) ∧
    (view proposal.before).holder = some holder ∧ signed proposal.event holder ∧
    (view t.before).holder = some holder

/-- The role changes hands by acceptances only, each of the latest proposal, and no proposal is
accepted twice. -/
structure HandsOver (view : σ → Role A) (act : ε → RoleAct A) (signed : ε → A → Prop)
    (history : List (Transition σ ε)) : Prop where
  changes : ∀ t ∈ history, (view t.after).holder ≠ (view t.before).holder →
    ((view t.before).holder = none ∧ ∃ a, act t.event = .install a) ∨ ∃ a, act t.event = .accept a
  accepted : ∀ earlier t later a, history = earlier ++ t :: later → act t.event = .accept a →
    signed t.event a ∧ view t.after = ⟨some a, none⟩ ∧ FollowsProposal view act signed earlier t a
  once : ∀ earlier t between u later a b, history = earlier ++ t :: (between ++ u :: later) →
    act t.event = .accept a → act u.event = .accept b → ∃ p ∈ between, act p.event = .propose b

variable {view : σ → Role A} {act : ε → RoleAct A} {signed : ε → A → Prop}

/-- A proposed successor comes from a proposal that the holder signed, and nothing happened to the
role since. -/
theorem Run.exists_proposal (hrun : Run step start history final)
    (hstep : ∀ s e s', step s e s' → (view s).Step (signed e) (act e) (view s'))
    (hnone : (view start).proposed = none) {a : A} (hproposed : (view final).proposed = some a) :
    ∃ before proposal since holder, history = before ++ proposal :: since ∧
      act proposal.event = .propose a ∧ (∀ u ∈ since, act u.event = .other) ∧
      (view proposal.before).holder = some holder ∧ signed proposal.event holder ∧
      (view final).holder = some holder := by
  induction hrun with
  | nil => cases hnone.symm.trans hproposed
  | @snoc history s e s' _ hlast ih =>
    have hchange := hstep s e s' hlast
    generalize hact : act e = action at hchange
    generalize hafter : view s' = r' at hchange hproposed
    cases hchange with
    | installed hvacant =>
      obtain ⟨-, -, -, holder, -, -, -, -, -, hholder⟩ := ih hproposed
      cases hvacant.symm.trans hholder
    | proposed hholder hsigned =>
      obtain rfl := Option.some.inj hproposed
      exact ⟨history, ⟨s, e, s'⟩, [], _, rfl, hact, by simp, hholder, hsigned, hholder⟩
    | accepted => cases hproposed
    | other =>
      obtain ⟨before, proposal, since, holder, rfl, hpropose, hother, hholder, hsigned, hstill⟩ := ih hproposed
      refine ⟨before, proposal, since ++ [⟨s, e, s'⟩], holder, by simp, hpropose, ?_, hholder, hsigned, hstill⟩
      exact List.forall_mem_append.mpr ⟨hother, List.forall_mem_singleton.mpr hact⟩

/-- The acceptance of a proposal. -/
theorem Role.Step.accepts {signed : A → Prop} {r r' : Role A} {a : A} (h : Role.Step signed r (.accept a) r') :
    r.proposed = some a ∧ signed a ∧ r' = ⟨some a, none⟩ := by
  cases h with
  | accepted hproposed hsigned => exact ⟨hproposed, hsigned, rfl⟩

/-- A role that starts vacant is handed over properly in every run. -/
theorem Run.handsOver (hrun : Run step start history final)
    (hstep : ∀ s e s', step s e s' → (view s).Step (signed e) (act e) (view s'))
    (hstart : view start = .vacant) : HandsOver view act signed history := by
  refine ⟨?_, ?_, ?_⟩
  · intro t ht hne
    exact (hstep _ _ _ (hrun.step_of_mem ht)).holder_changes hne
  · rintro earlier t later a rfl haccept
    obtain ⟨hbefore, hlast, -⟩ := hrun.around
    have hchange := hstep _ _ _ hlast
    rw [haccept] at hchange
    obtain ⟨hproposed, hsigned, hafter⟩ := hchange.accepts
    exact ⟨hsigned, hafter, hbefore.exists_proposal hstep (by rw [hstart]; rfl) hproposed⟩
  · rintro earlier t between u later a b rfl haccept haccept'
    obtain ⟨-, hfirst, hrest⟩ := hrun.around
    obtain ⟨hbetween, hsecond, -⟩ := hrest.around
    have hchange := hstep _ _ _ hfirst
    have hchange' := hstep _ _ _ hsecond
    rw [haccept] at hchange
    rw [haccept'] at hchange'
    -- the first acceptance used its proposal up, so that the second one needs another
    have hused : (view t.after).proposed = none := by rw [hchange.accepts.2.2]
    obtain ⟨before, proposal, since, -, rfl, hpropose, -⟩ :=
      hbetween.exists_proposal hstep hused hchange'.accepts.1
    exact ⟨proposal, by simp, hpropose⟩

end Runs

end StellarDidCredit
