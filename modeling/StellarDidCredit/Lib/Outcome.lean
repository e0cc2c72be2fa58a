import Mathlib.Data.List.Basic
import Mathlib.Tactic.Common

/-!
# Outcomes of a contract call

A call either succeeds, returns one of the callee's typed errors, passes on the error code of
another contract that it has called, or traps. A failed call rolls the whole transaction back,
so a computation here returns its new state only on success. The lemmas below invert a successful
computation one bind at a time; nothing in this file unfolds a do-block twice.

The loops that consult another contract for each element are `filterE` and `anyE`. When
every consultation succeeds they are the ordinary `List.filter` and `List.any`.
-/

namespace StellarDidCredit

/-- How a call fails: with a typed error of the contract, with the error code of a contract that it
has called, or by a trap of the host. -/
inductive Fault (E : Type) where
  | error (e : E)
  | callee (code : ℕ)
  | trap
  deriving DecidableEq, Repr

/-- The failure of a caller whose callee has failed, where the caller does not handle it. -/
def Fault.passOn {E E' : Type} (code : E' → ℕ) : Fault E' → Fault E
  | .error e => .callee (code e)
  | .callee c => .callee c
  | .trap => .trap

/-- The result of a call whose typed errors are `E`. -/
abbrev Outcome (E : Type) (α : Type) := Except (Fault E) α

namespace Outcome

variable {E α β : Type}

/-- Go on only if the condition holds. -/
def require (c : Prop) [Decidable c] (f : Fault E) : Outcome E Unit :=
  if c then .ok () else .error f

/-- Read a value that must be present. -/
def okOr (o : Option α) (f : Fault E) : Outcome E α :=
  match o with
  | some a => .ok a
  | none => .error f

/-- Go on with the result of another contract, whose typed errors have these codes. -/
def passOn {E' : Type} (code : E' → ℕ) (x : Outcome E' α) : Outcome E α := x.mapError (Fault.passOn code)

/-- A result that is passed on is a result. -/
@[simp] theorem passOn_eq_ok {E' : Type} {code : E' → ℕ} {x : Outcome E' α} {a : α} :
    (passOn code x : Outcome E α) = .ok a ↔ x = .ok a := by
  cases x <;> simp [passOn, Except.mapError]

/-- A failure that is passed on keeps its code. -/
theorem passOn_eq_error {E' : Type} {code : E' → ℕ} {x : Outcome E' α} {f : Fault E} :
    (passOn code x : Outcome E α) = .error f ↔ ∃ g, x = .error g ∧ g.passOn code = f := by
  cases x <;> simp [passOn, Except.mapError]

/-- A successful bind is a success of both halves. -/
@[simp] theorem bind_eq_ok {x : Outcome E α} {f : α → Outcome E β} {b : β} :
    (x >>= f) = .ok b ↔ ∃ a, x = .ok a ∧ f a = .ok b := by
  rcases x with fault | value <;> simp [bind, Except.bind]

/-- A requirement succeeds exactly when its condition holds. -/
@[simp] theorem require_eq_ok {c : Prop} [Decidable c] {f : Fault E} {u : Unit} :
    require c f = .ok u ↔ c := by
  by_cases h : c <;> simp [require, h]

/-- A present value is read as it is. -/
@[simp] theorem okOr_eq_ok {o : Option α} {f : Fault E} {a : α} :
    okOr o f = .ok a ↔ o = some a := by
  cases o <;> simp [okOr]

/-- A mapped result succeeds with the image of the result. -/
theorem map_eq_ok {x : Outcome E α} {f : α → β} {b : β} :
    Except.map f x = .ok b ↔ ∃ a, x = .ok a ∧ f a = b := by
  cases x <;> simp [Except.map]

/-- A mapped result fails as the result does. -/
theorem map_eq_error {x : Outcome E α} {f : α → β} {g : Fault E} :
    Except.map f x = .error g ↔ x = .error g := by
  cases x <;> simp [Except.map]

/-- A mapped bind maps the second half. -/
theorem map_bind {γ : Type} (x : Outcome E α) (k : α → Outcome E β) (f : β → γ) :
    (x >>= k).map f = x >>= fun a => (k a).map f := by
  cases x <;> rfl

/-- Forgetting the kind of failure keeps the successes. -/
@[simp] theorem toOption_eq_some {x : Outcome E α} {a : α} :
    Except.toOption x = some a ↔ x = .ok a := by
  cases x <;> simp [Except.toOption]

/-- A requirement fails only when its condition does not hold, and with its own fault. -/
theorem require_eq_error {c : Prop} [Decidable c] {f g : Fault E} : require c f = .error g ↔ ¬c ∧ f = g := by
  by_cases h : c <;> simp [require, h]

/-- A read fails only when nothing is there, and with its own fault. -/
theorem okOr_eq_error {o : Option α} {f g : Fault E} : okOr o f = .error g ↔ o = none ∧ f = g := by
  cases o <;> simp [okOr]

/-- A failed bind fails in one of its halves. -/
theorem bind_eq_error {x : Outcome E α} {f : α → Outcome E β} {g : Fault E} :
    (x >>= f) = .error g ↔ x = .error g ∨ ∃ a, x = .ok a ∧ f a = .error g := by
  rcases x with fault | value <;> simp [bind, Except.bind]

/-- What is stored after a call: a failed call is rolled back. -/
def commit (before : α) (result : Outcome E α) : α := result.toOption.getD before

/-- A failed call is rolled back. -/
@[simp] theorem commit_error (before : α) (f : Fault E) : commit before (.error f : Outcome E α) = before := rfl

/-! ## Computations without typed errors -/

/-- The computation fails by a trap only. -/
def OnlyTraps (x : Outcome E α) : Prop := ∀ f, x = .error f → f = .trap

/-- A success is no error. -/
theorem onlyTraps_ok (a : α) : OnlyTraps (.ok a : Outcome E α) := by
  intro f h
  cases h

/-- A trap is no typed error. -/
theorem onlyTraps_trap : OnlyTraps (.error .trap : Outcome E α) := by
  intro f h
  exact (Except.error.inj h).symm

/-- A missing value traps. -/
theorem onlyTraps_okOr (o : Option α) : OnlyTraps (okOr o .trap : Outcome E α) := by
  intro f h
  cases o with
  | none => exact (Except.error.inj h).symm
  | some a => cases h

/-- A sequence only traps when both of its parts do. -/
theorem OnlyTraps.bind {x : Outcome E α} {k : α → Outcome E β} (hx : OnlyTraps x)
    (hk : ∀ a, OnlyTraps (k a)) : OnlyTraps (x >>= k) := by
  intro f h
  rcases bind_eq_error.mp h with hfirst | ⟨a, -, hsecond⟩
  · exact hx f hfirst
  · exact hk a f hsecond

/-- A loop only traps when its steps do. -/
theorem onlyTraps_foldlM {step : β → α → Outcome E β} (hstep : ∀ b a, OnlyTraps (step b a)) (as : List α)
    (b : β) : OnlyTraps (as.foldlM step b) := by
  induction as generalizing b with
  | nil => exact onlyTraps_ok b
  | cons a as ih =>
    rw [List.foldlM_cons]
    exact (hstep b a).bind ih

/-- The computation does not fail with this error. -/
def Avoids (e : E) (x : Outcome E α) : Prop := x ≠ .error (.error e)

/-- What only traps avoids every typed error. -/
theorem OnlyTraps.avoids {x : Outcome E α} (h : OnlyTraps x) (e : E) : Avoids e x := by
  intro hx
  cases h _ hx

/-- A guard avoids the errors of other guards. -/
theorem avoids_require {c : Prop} [Decidable c] {e e' : E} (hne : e' ≠ e) :
    Avoids e (require c (.error e')) := by
  intro h
  exact hne (Fault.error.inj (require_eq_error.mp h).2)

/-- A sequence avoids an error when both of its parts do. -/
theorem Avoids.bind {e : E} {x : Outcome E α} {k : α → Outcome E β} (hx : Avoids e x)
    (hk : ∀ a, Avoids e (k a)) : Avoids e (x >>= k) := by
  intro h
  rcases bind_eq_error.mp h with hfirst | ⟨a, -, hsecond⟩
  · exact hx hfirst
  · exact hk a hsecond

/-- Where the rest of a computation does not fail with the error of a check, the computation does
so exactly if the check fails. -/
theorem require_bind_eq_error_iff {c : Prop} [Decidable c] {e : E} {x : Outcome E α} (hx : Avoids e x) :
    (do require c (.error e); x) = .error (.error e) ↔ ¬c := by
  rw [bind_eq_error, require_eq_error]
  constructor
  · rintro (⟨hnot, -⟩ | ⟨_, -, herror⟩)
    · exact hnot
    · exact absurd herror hx
  · exact fun hnot => Or.inl ⟨hnot, rfl⟩

/-- The state half of a result that also carries a value. -/
theorem map_snd_eq_ok {x : Outcome E (α × β)} {b : β} : x.map (·.2) = .ok b ↔ ∃ a, x = .ok (a, b) := by
  rcases x with fault | ⟨value, after⟩ <;> simp [Except.map]

/-- A result paired with something that was there before. -/
theorem bind_pair_eq_ok {x : Outcome E α} {a : α} {b b' : β} :
    (x >>= fun value => .ok (value, b)) = .ok (a, b') ↔ x = .ok a ∧ b' = b := by
  simp only [bind_eq_ok, Except.ok.injEq, Prod.mk.injEq]
  constructor
  · rintro ⟨_, hx, rfl, rfl⟩
    exact ⟨hx, rfl⟩
  · rintro ⟨hx, rfl⟩
    exact ⟨_, hx, rfl, rfl⟩

/-! ## Loops that consult another contract -/

/-- The elements whose test succeeds with `true`, in order; a failing test fails the loop. -/
def filterE (p : α → Outcome E Bool) : List α → Outcome E (List α)
  | [] => .ok []
  | a :: as => do
    let keep ← p a
    let rest ← filterE p as
    .ok (if keep then a :: rest else rest)

/-- Whether some element's test succeeds with `true`, stopping at the first one. -/
def anyE (p : α → Outcome E Bool) : List α → Outcome E Bool
  | [] => .ok false
  | a :: as => do
    let found ← p a
    if found then .ok true else anyE p as

/-- With total tests the fallible filter is the ordinary one. -/
theorem filterE_eq_filter {p : α → Outcome E Bool} {q : α → Bool} {as : List α}
    (h : ∀ a ∈ as, p a = .ok (q a)) : filterE p as = .ok (as.filter q) := by
  induction as with
  | nil => rfl
  | cons a as ih =>
    have ha := h a List.mem_cons_self
    have htail := ih (fun b hb => h b (List.mem_cons_of_mem _ hb))
    rw [filterE, ha, htail, List.filter_cons]
    rfl

/-- With total tests the fallible search is the ordinary one. -/
theorem anyE_eq_any {p : α → Outcome E Bool} {q : α → Bool} {as : List α}
    (h : ∀ a ∈ as, p a = .ok (q a)) : anyE p as = .ok (as.any q) := by
  induction as with
  | nil => rfl
  | cons a as ih =>
    have ha := h a List.mem_cons_self
    have htail := ih (fun b hb => h b (List.mem_cons_of_mem _ hb))
    rw [anyE, ha, List.any_cons]
    cases q a with
    | false => exact htail
    | true => rfl

/-- A filter only traps when its consultations do. -/
theorem onlyTraps_filterE {p : α → Outcome E Bool} (hp : ∀ a, OnlyTraps (p a)) (as : List α) :
    OnlyTraps (filterE p as) := by
  induction as with
  | nil => exact onlyTraps_ok []
  | cons a as ih => exact (hp a).bind fun _ => ih.bind fun _ => onlyTraps_ok _

/-- A filter that succeeds is the ordinary one, when the tests that succeed are right. -/
theorem filterE_ok {p : α → Outcome E Bool} {q : α → Bool} {as bs : List α}
    (hright : ∀ a ∈ as, ∀ b, p a = .ok b → b = q a) (h : filterE p as = .ok bs) : bs = as.filter q := by
  induction as generalizing bs with
  | nil => exact (Except.ok.inj h).symm
  | cons a as ih =>
    simp only [filterE, bind_eq_ok, Except.ok.injEq] at h
    obtain ⟨keep, hkeep, rest, hrest, rfl⟩ := h
    have hhead := hright a List.mem_cons_self keep hkeep
    have htail := ih (fun b hb => hright b (List.mem_cons_of_mem _ hb)) hrest
    rw [List.filter_cons, ← hhead, htail]

/-- A filter that succeeds has an answer for every element, and is the ordinary one by these answers. -/
theorem filterE_answers {p : α → Outcome E Bool} {as bs : List α} (h : filterE p as = .ok bs) :
    ∃ q : α → Bool, (∀ a ∈ as, p a = .ok (q a)) ∧ bs = as.filter q := by
  have hanswers : ∀ a ∈ as, p a = .ok ((p a).toOption.getD false) := by
    induction as generalizing bs with
    | nil => simp
    | cons a as ih =>
      simp only [filterE, bind_eq_ok] at h
      obtain ⟨keep, hkeep, rest, hrest, -⟩ := h
      intro b hb
      cases List.mem_cons.mp hb with
      | inl hhead =>
        subst hhead
        rw [hkeep]
        rfl
      | inr htail => exact ih hrest b htail
  exact ⟨_, hanswers, Except.ok.inj (h.symm.trans (filterE_eq_filter hanswers))⟩

/-- A search that succeeds is the ordinary one, when the tests that succeed are right. -/
theorem anyE_ok {p : α → Outcome E Bool} {q : α → Bool} {as : List α} {b : Bool}
    (hright : ∀ a ∈ as, ∀ b, p a = .ok b → b = q a) (h : anyE p as = .ok b) : b = as.any q := by
  induction as with
  | nil => exact (Except.ok.inj h).symm
  | cons a as ih =>
    simp only [anyE, bind_eq_ok] at h
    obtain ⟨found, hfound, h⟩ := h
    have hhead := hright a List.mem_cons_self found hfound
    rw [List.any_cons, ← hhead]
    cases found with
    | false => exact ih (fun c hc => hright c (List.mem_cons_of_mem _ hc)) h
    | true => exact (Except.ok.inj h).symm

end Outcome

end StellarDidCredit
