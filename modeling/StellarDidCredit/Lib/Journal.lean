import StellarDidCredit.Lib.Run

/-!
# What a run publishes

A system that publishes messages at its steps leaves a journal. A view of the state is told by
the journal when every step moves it exactly as reading the messages of that step does: then a
reader that starts from the view of the start and reads the whole journal ends with the view of
the end, whatever else the state holds.
-/

namespace StellarDidCredit

variable {σ ε μ ν : Type} {step : σ → ε → σ → Prop} {published : σ → ε → List μ}
  {start final : σ} {history later : List (Transition σ ε)}

/-- The messages of a history, in order. -/
def journal (published : σ → ε → List μ) (history : List (Transition σ ε)) : List μ :=
  history.flatMap fun t => published t.before t.event

/-- Nothing is published in no step. -/
@[simp] theorem journal_nil : journal published ([] : List (Transition σ ε)) = [] := rfl

/-- Histories one after the other publish their journals one after the other. -/
theorem journal_append :
    journal published (history ++ later) = journal published history ++ journal published later :=
  List.flatMap_append

/-- The last step publishes last. -/
theorem journal_snoc (t : Transition σ ε) :
    journal published (history ++ [t]) = journal published history ++ published t.before t.event := by
  rw [journal_append]
  exact congrArg _ (List.append_nil _)

/-- Every message of a journal is published by a step of the history. -/
theorem mem_journal {m : μ} :
    m ∈ journal published history ↔ ∃ t ∈ history, m ∈ published t.before t.event :=
  List.mem_flatMap

/-- Every message passes a check against what was read before it. -/
def Checked (read : ν → μ → ν) (passes : ν → μ → Prop) : ν → List μ → Prop
  | _, [] => True
  | v, m :: rest => passes v m ∧ Checked read passes (read v m) rest

/-- Messages pass one after the other. -/
theorem checked_append {read : ν → μ → ν} {passes : ν → μ → Prop} {v : ν} {messages messages' : List μ} :
    Checked read passes v (messages ++ messages') ↔
      Checked read passes v messages ∧ Checked read passes (messages.foldl read v) messages' := by
  induction messages generalizing v with
  | nil => exact (and_iff_right trivial).symm
  | cons m rest ih =>
    simp only [List.cons_append, Checked, List.foldl_cons]
    rw [ih, and_assoc]

/-- The messages lead a reader from one view to another, and each passes the check when it is read. -/
structure Reads (read : ν → μ → ν) (passes : ν → μ → Prop) (before : ν) (messages : List μ) (after : ν) :
    Prop where
  view : after = messages.foldl read before
  checked : Checked read passes before messages

namespace Reads

variable {α β : Type} {read : ν → μ → ν} {passes : ν → μ → Prop} {read' : α → β → α} {passes' : α → β → Prop}

/-- No message leaves the view as it is. -/
theorem nil (v : ν) : Reads read passes v [] v := ⟨rfl, trivial⟩

/-- Messages are read one after the other. -/
theorem append {v v' v'' : ν} {messages messages' : List μ} (h : Reads read passes v messages v')
    (h' : Reads read passes v' messages' v'') : Reads read passes v (messages ++ messages') v'' := by
  obtain ⟨rfl, hchecked⟩ := h
  exact ⟨h'.view.trans List.foldl_append.symm, checked_append.mpr ⟨hchecked, h'.checked⟩⟩

/-- Messages of a part are read in the whole that it is put in. -/
theorem lift (wrap : α → ν) (wrapMessage : β → μ)
    (hread : ∀ x m, read (wrap x) (wrapMessage m) = wrap (read' x m))
    (hpasses : ∀ x m, passes' x m → passes (wrap x) (wrapMessage m)) {x x' : α} {messages : List β}
    (h : Reads read' passes' x messages x') :
    Reads read passes (wrap x) (messages.map wrapMessage) (wrap x') := by
  induction messages generalizing x with
  | nil => exact h.view ▸ .nil _
  | cons m rest ih =>
    have hrest : Reads read' passes' (read' x m) rest x' := ⟨h.view, h.checked.2⟩
    refine ⟨?_, hpasses x m h.checked.1, ?_⟩
    · rw [List.map_cons, List.foldl_cons, hread]
      exact (ih hrest).view
    · rw [hread]
      exact (ih hrest).checked

end Reads

namespace Run

/-- What holds of nothing published at the start, and stays with what each step publishes, holds of the
journal at the end. -/
theorem journal_invariant {P : List μ → σ → Prop} (I : σ → Prop) (hkeep : ∀ s e s', I s → step s e s' → I s')
    (hpublish : ∀ s e s' messages, I s → step s e s' → P messages s → P (messages ++ published s e) s')
    (hrun : Run step start history final) (hstart : I start) (hnil : P [] start) :
    P (journal published history) final := by
  induction hrun with
  | nil => exact hnil
  | snoc hbefore hstep ih =>
    have hI := hbefore.invariant I hkeep hstart
    rw [journal_snoc]
    exact hpublish _ _ _ _ hI hstep ih

/-- Where the messages of every step read the view before it to the one after it, the journal reads the
first view to the last. -/
theorem reads_journal (view : σ → ν) {read : ν → μ → ν} {passes : ν → μ → Prop} (I : σ → Prop)
    (hkeep : ∀ s e s', I s → step s e s' → I s')
    (hreads : ∀ s e s', I s → step s e s' → Reads read passes (view s) (published s e) (view s'))
    (hrun : Run step start history final) (hstart : I start) :
    Reads read passes (view start) (journal published history) (view final) := by
  let Told (messages : List μ) (s : σ) : Prop := Reads read passes (view start) messages (view s)
  exact hrun.journal_invariant (P := Told) I hkeep
    (fun s e s' _ hI hstep htold => htold.append (hreads s e s' hI hstep)) hstart (.nil _)

end Run

end StellarDidCredit
