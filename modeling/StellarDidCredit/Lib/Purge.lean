import StellarDidCredit.Lib.Run

/-!
# Runs without the steps that a part does not see

A part of a system sees some of the events. Where the others leave what the part knows alone, and
the ones it sees go the same way on everything that looks the same to it, a run of the system is
for the part a run of the seen events alone.
-/

namespace StellarDidCredit.Run

variable {σ τ ε : Type} {step : σ → ε → σ → Prop} {step' : τ → ε → τ → Prop} {start final : σ} {start' : τ}
  {history : List (Transition σ ε)}

/-- A run related to the run of its seen events: unseen steps keep the relation on the one side, seen
steps keep it on both. -/
theorem purge (R : σ → τ → Prop) (Sees : ε → Prop) [DecidablePred Sees]
    (hunseen : ∀ s e s' t, R s t → step s e s' → ¬Sees e → R s' t)
    (hseen : ∀ s e s' t, R s t → step s e s' → Sees e → ∃ t', step' t e t' ∧ R s' t')
    (hrun : Run step start history final) (hstart : R start start') :
    ∃ history' final', Run step' start' history' final' ∧
      history'.map (·.event) = (history.map (·.event)).filter Sees ∧ R final final' := by
  induction hrun with
  | nil => exact ⟨[], start', .nil, rfl, hstart⟩
  | @snoc history s e s' _ hstep ih =>
    obtain ⟨history', t, hrun', hevents, hrelated⟩ := ih
    by_cases hsees : Sees e
    · obtain ⟨t', hstep', hrelated'⟩ := hseen s e s' t hrelated hstep hsees
      refine ⟨_, t', hrun'.snoc hstep', ?_, hrelated'⟩
      simp [hevents, hsees]
    · refine ⟨history', t, hrun', ?_, hunseen s e s' t hrelated hstep hsees⟩
      simp [hevents, hsees]

end StellarDidCredit.Run
