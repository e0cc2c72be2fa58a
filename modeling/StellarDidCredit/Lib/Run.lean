import Mathlib.Data.List.Induction
import Mathlib.Tactic.Common

/-!
# Runs of a labelled transition system

A run records every transition with the states around it, so a property of a history can
speak about what a step saw and what it left behind. The induction over runs is done once
here: an invariant that each step keeps holds at the end, also when only the steps that
meet a side condition are known to keep it.

A system whose steps are a partial function can be replayed: the events of a concrete run
are evaluated one after the other, and a replay that succeeds is a run.
-/

namespace StellarDidCredit

/-- One step of a history, with the states before and after it. -/
structure Transition (σ ε : Type) where
  before : σ
  event : ε
  after : σ

/-- `Run step start history final`: the steps of `history` lead from `start` to `final`. -/
inductive Run {σ ε : Type} (step : σ → ε → σ → Prop) (start : σ) :
    List (Transition σ ε) → σ → Prop
  | nil : Run step start [] start
  | snoc {history s e s'} : Run step start history s → step s e s' →
      Run step start (history ++ [⟨s, e, s'⟩]) s'

namespace Run

variable {σ ε : Type} {step : σ → ε → σ → Prop} {start final : σ}
  {history : List (Transition σ ε)}

/-- An invariant of the start that every step meeting the condition keeps holds at the end
of a run whose steps all meet it. -/
theorem invariant_where (I : σ → Prop) (C : Transition σ ε → Prop)
    (hkeep : ∀ s e s', I s → step s e s' → C ⟨s, e, s'⟩ → I s')
    (hrun : Run step start history final) (hstart : I start) (hcond : ∀ t ∈ history, C t) :
    I final := by
  induction hrun with
  | nil => exact hstart
  | snoc _ hstep ih =>
    have hbefore := ih (fun t ht => hcond t (List.mem_append_left _ ht))
    exact hkeep _ _ _ hbefore hstep (hcond _ (List.mem_append_right _ List.mem_cons_self))

/-- An invariant that every step keeps holds at the end of every run. -/
theorem invariant (I : σ → Prop) (hkeep : ∀ s e s', I s → step s e s' → I s')
    (hrun : Run step start history final) (hstart : I start) : I final :=
  hrun.invariant_where I (fun _ => True) (fun s e s' hI hstep _ => hkeep s e s' hI hstep) hstart
    (fun _ _ => trivial)

/-- Where a step that meets a condition keeps what is good, one that does not breaks it, and what
is broken stays broken: a run is good at its end with all steps meeting the condition, or it is
broken with some step that does not. -/
theorem good_or_broken (Good Broken : σ → Prop) (C : Transition σ ε → Prop)
    (hkeep : ∀ s e s', Good s → step s e s' → C ⟨s, e, s'⟩ → Good s')
    (hbreak : ∀ s e s', Good s → step s e s' → ¬C ⟨s, e, s'⟩ → Broken s')
    (hstay : ∀ s e s', Broken s → step s e s' → Broken s')
    (hrun : Run step start history final) (hstart : Good start) :
    (Good final ∧ ∀ t ∈ history, C t) ∨ (Broken final ∧ ¬∀ t ∈ history, C t) := by
  induction hrun with
  | nil => exact Or.inl ⟨hstart, fun _ ht => absurd ht List.not_mem_nil⟩
  | @snoc history s e s' _ hstep ih =>
    have hlast : (⟨s, e, s'⟩ : Transition σ ε) ∈ history ++ [⟨s, e, s'⟩] :=
      List.mem_append_right _ List.mem_cons_self
    cases ih with
    | inl hgood =>
      by_cases hcond : C ⟨s, e, s'⟩
      · refine Or.inl ⟨hkeep s e s' hgood.1 hstep hcond, fun t ht => ?_⟩
        cases List.mem_append.mp ht with
        | inl hold => exact hgood.2 t hold
        | inr hnew => rwa [List.mem_singleton.mp hnew]
      · exact Or.inr ⟨hbreak s e s' hgood.1 hstep hcond, fun hall => hcond (hall _ hlast)⟩
    | inr hbroken =>
      refine Or.inr ⟨hstay s e s' hbroken.1 hstep, fun hall => hbroken.2 fun t ht => ?_⟩
      exact hall t (List.mem_append_left _ ht)

/-- A reflexive and transitive relation that every step respects relates the two ends. -/
theorem related (R : σ → σ → Prop) (hrefl : ∀ s, R s s)
    (htrans : ∀ a b c, R a b → R b c → R a c) (hkeep : ∀ s e s', step s e s' → R s s')
    (hrun : Run step start history final) : R start final := by
  induction hrun with
  | nil => exact hrefl _
  | snoc _ hstep ih => exact htrans _ _ _ ih (hkeep _ _ _ hstep)

/-- A run can be continued by another one. -/
theorem append {middle : σ} {history' : List (Transition σ ε)}
    (hfirst : Run step start history middle) (hrest : Run step middle history' final) :
    Run step start (history ++ history') final := by
  induction hrest with
  | nil => simpa using hfirst
  | snoc _ hstep ih =>
    rw [← List.append_assoc]
    exact ih.snoc hstep

/-- A run over a concatenated history passes through a state between its parts. -/
theorem split {history' : List (Transition σ ε)}
    (hrun : Run step start (history ++ history') final) :
    ∃ middle, Run step start history middle ∧ Run step middle history' final := by
  induction history' using List.reverseRecOn generalizing final with
  | nil => exact ⟨final, by simpa using hrun, .nil⟩
  | append_singleton rest t ih =>
    rw [← List.append_assoc] at hrun
    generalize hall : history ++ rest ++ [t] = whole at hrun
    cases hrun with
    | nil => simp at hall
    | snoc hbefore hstep =>
      obtain ⟨hhistory, hlast⟩ := List.append_inj' hall rfl
      obtain rfl := (List.cons.inj hlast).1
      subst hhistory
      obtain ⟨middle, hfirst, hrest⟩ := ih hbefore
      exact ⟨middle, hfirst, hrest.snoc hstep⟩

/-- The last step of a run, with the run before it. -/
theorem of_snoc {t : Transition σ ε} (hrun : Run step start (history ++ [t]) final) :
    Run step start history t.before ∧ step t.before t.event t.after ∧ final = t.after := by
  generalize hall : history ++ [t] = whole at hrun
  cases hrun with
  | nil => simp at hall
  | snoc hbefore hstep =>
    obtain ⟨rfl, hlast⟩ := List.append_inj' hall rfl
    obtain rfl := (List.cons.inj hlast).1
    exact ⟨hbefore, hstep, rfl⟩

/-- Around a given step of a history: the run before it, the step, and the run after it. -/
theorem around {t : Transition σ ε} {rest : List (Transition σ ε)}
    (hrun : Run step start (history ++ t :: rest) final) :
    Run step start history t.before ∧ step t.before t.event t.after ∧
      Run step t.after rest final := by
  rw [← List.singleton_append, ← List.append_assoc] at hrun
  obtain ⟨middle, hfirst, hrest⟩ := hrun.split
  obtain ⟨hbefore, hstep, rfl⟩ := hfirst.of_snoc
  exact ⟨hbefore, hstep, hrest⟩

/-- Around a step that occurs in a history: the run before it, the step, and the run after it. -/
theorem exists_around {t : Transition σ ε} (hrun : Run step start history final) (ht : t ∈ history) :
    ∃ earlier later, history = earlier ++ t :: later ∧ Run step start earlier t.before ∧
      step t.before t.event t.after ∧ Run step t.after later final := by
  obtain ⟨earlier, later, rfl⟩ := List.append_of_mem ht
  exact ⟨earlier, later, rfl, hrun.around⟩

/-- What occurs in a history is a step of the system. -/
theorem step_of_mem {t : Transition σ ε} (hrun : Run step start history final) (ht : t ∈ history) :
    step t.before t.event t.after := by
  obtain ⟨_, _, -, -, hstep, -⟩ := hrun.exists_around ht
  exact hstep

/-- An invariant that every step keeps holds before each step of a run. -/
theorem invariant_of_mem (I : σ → Prop) (hkeep : ∀ s e s', I s → step s e s' → I s')
    (hrun : Run step start history final) (hstart : I start) {t : Transition σ ε} (ht : t ∈ history) :
    I t.before := by
  obtain ⟨_, _, -, hbefore, -, -⟩ := hrun.exists_around ht
  exact hbefore.invariant I hkeep hstart

/-- An invariant of the start that every step meeting the condition keeps holds around each step of a
run whose steps all meet it. -/
theorem invariant_where_of_mem (I : σ → Prop) (C : Transition σ ε → Prop)
    (hkeep : ∀ s e s', I s → step s e s' → C ⟨s, e, s'⟩ → I s')
    (hrun : Run step start history final) (hstart : I start) (hcond : ∀ t ∈ history, C t)
    {t : Transition σ ε} (ht : t ∈ history) : I t.before ∧ I t.after := by
  obtain ⟨earlier, later, rfl, hearlier, hstep, -⟩ := hrun.exists_around ht
  have hbefore := hearlier.invariant_where I C hkeep hstart fun u hu => hcond u (List.mem_append_left _ hu)
  exact ⟨hbefore, hkeep _ _ _ hbefore hstep (hcond t ht)⟩

/-- A reflexive and transitive relation that every step respects relates the two ends of a step of a
run, and the later one to the end of the run. -/
theorem related_of_mem (R : σ → σ → Prop) (hrefl : ∀ s, R s s)
    (htrans : ∀ a b c, R a b → R b c → R a c) (hkeep : ∀ s e s', step s e s' → R s s')
    (hrun : Run step start history final) {t : Transition σ ε} (ht : t ∈ history) :
    R t.before t.after ∧ R t.after final := by
  obtain ⟨_, _, -, -, hstep, hafter⟩ := hrun.exists_around ht
  exact ⟨hkeep _ _ _ hstep, hafter.related R hrefl htrans hkeep⟩

/-- A run whose steps all meet a condition is a run of the steps that meet it. -/
theorem restrict {C : Transition σ ε → Prop} (hrun : Run step start history final)
    (hcond : ∀ t ∈ history, C t) : Run (fun s e s' => step s e s' ∧ C ⟨s, e, s'⟩) start history final := by
  induction hrun with
  | nil => exact .nil
  | snoc _ hstep ih =>
    obtain ⟨hbefore, hlast⟩ := List.forall_mem_append.mp hcond
    exact (ih hbefore).snoc ⟨hstep, List.forall_mem_singleton.mp hlast⟩

/-- The first step of a run, put before the rest of it. -/
theorem cons {s s' : σ} {e : ε} (hstep : step s e s') (hrest : Run step s' history final) :
    Run step s (⟨s, e, s'⟩ :: history) final :=
  (Run.nil.snoc hstep).append hrest

end Run

/-! ## Replaying concrete runs -/

section Replay

variable {σ ε : Type}

/-- The step relation of a partial transition function. -/
def StepOf (next : σ → ε → Option σ) (s : σ) (e : ε) (s' : σ) : Prop := next s e = some s'

/-- Evaluate a list of events, keeping every transition. -/
def replay (next : σ → ε → Option σ) : σ → List ε → Option (List (Transition σ ε) × σ)
  | s, [] => some ([], s)
  | s, e :: es => do
    let s' ← next s e
    let (history, final) ← replay next s' es
    some (⟨s, e, s'⟩ :: history, final)

/-- A replay that succeeds is a run. -/
theorem Run.of_replay {next : σ → ε → Option σ} {s final : σ} {es : List ε}
    {history : List (Transition σ ε)} (h : replay next s es = some (history, final)) :
    Run (StepOf next) s history final := by
  induction es generalizing s history with
  | nil =>
    obtain ⟨rfl, rfl⟩ := Prod.mk.inj (Option.some.inj h)
    exact .nil
  | cons e es ih =>
    simp only [replay, Option.bind_eq_bind, Option.bind_eq_some_iff, Option.some.injEq] at h
    obtain ⟨s', hnext, ⟨rest, _⟩, hrest, hpair⟩ := h
    obtain ⟨rfl, rfl⟩ := Prod.mk.inj hpair
    exact .cons hnext (ih hrest)

/-- What a replay shows is shown by a run. -/
theorem Run.exists_of_replay {next : σ → ε → Option σ} {s : σ} {es : List ε} {α : Type}
    {observe : List (Transition σ ε) × σ → α} {value : α}
    (h : (replay next s es).map observe = some value) :
    ∃ history final, Run (StepOf next) s history final ∧ observe (history, final) = value := by
  obtain ⟨⟨history, final⟩, hreplay, hvalue⟩ := Option.map_eq_some_iff.mp h
  exact ⟨history, final, .of_replay hreplay, hvalue⟩

end Replay

end StellarDidCredit
