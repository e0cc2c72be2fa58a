import Mathlib.Data.List.Forall2
import StellarDidCredit.Lib.Outcome

/-!
# Computations in lockstep

Two computations run in lockstep when they fail in the same way or succeed with related results.
The relation goes through a bind, and through the loops that consult another contract when the
elements are related one by one and consulted with the same answers. Computations that are in
lockstep by an antisymmetric relation in both directions are equal.
-/

namespace StellarDidCredit.Outcome

variable {E α β γ δ : Type} {R : α → β → Prop} {S : γ → δ → Prop} {x : Outcome E α} {y : Outcome E β}

/-- Both computations succeed with related results, or both fail in the same way. -/
inductive Lockstep (R : α → β → Prop) : Outcome E α → Outcome E β → Prop
  | ok {a : α} {b : β} (h : R a b) : Lockstep R (.ok a) (.ok b)
  | error (f : Fault E) : Lockstep R (.error f) (.error f)

namespace Lockstep

/-- An outcome is in lockstep with itself. -/
theorem refl {R : α → α → Prop} (hrefl : ∀ a, R a a) (x : Outcome E α) : Lockstep R x x := by
  cases x with
  | error f => exact .error f
  | ok a => exact .ok (hrefl a)

/-- Lockstep goes on when the rests are in lockstep for related results. -/
theorem bind {k : α → Outcome E γ} {l : β → Outcome E δ} (hxy : Lockstep R x y)
    (hrest : ∀ a b, R a b → Lockstep S (k a) (l b)) : Lockstep S (x >>= k) (y >>= l) := by
  cases hxy with
  | error f => exact .error f
  | ok hab => exact hrest _ _ hab

/-- The same computation followed by rests in lockstep. -/
theorem bind_same {k : α → Outcome E γ} {l : α → Outcome E δ} (x : Outcome E α)
    (hrest : ∀ a, Lockstep S (k a) (l a)) : Lockstep S (x >>= k) (x >>= l) := by
  cases x with
  | error f => exact .error f
  | ok a => exact hrest a

/-- Lockstep is kept by functions that keep the relation. -/
theorem map {f : α → γ} {g : β → δ} (hxy : Lockstep R x y) (hfg : ∀ a b, R a b → S (f a) (g b)) :
    Lockstep S (x.map f) (y.map g) := by
  cases hxy with
  | error f => exact .error f
  | ok hab => exact .ok (hfg _ _ hab)

/-- Options in relation give outcomes in lockstep. -/
theorem okOr {o : Option α} {o' : Option β} (h : Option.Rel R o o') (f : Fault E) :
    Lockstep R (Outcome.okOr o f) (Outcome.okOr o' f) := by
  cases h with
  | none => exact .error f
  | some hab => exact .ok hab

/-- Only the successes of two computations, in lockstep. -/
theorem toOption (hxy : Lockstep R x y) : Option.Rel R x.toOption y.toOption := by
  cases hxy with
  | error f => exact .none
  | ok hab => exact .some hab

/-- Two computations in lockstep with equal results are the same. -/
theorem eq {x y : Outcome E α} (hxy : Lockstep Eq x y) : x = y := by
  cases hxy with
  | error f => rfl
  | ok hab => rw [hab]

/-- So are two computations in lockstep in both directions of an antisymmetric relation. -/
theorem antisymm {R : α → α → Prop} {x y : Outcome E α} (hanti : ∀ a b, R a b → R b a → a = b)
    (hxy : Lockstep R x y) (hyx : Lockstep R y x) : x = y := by
  cases hxy with
  | error f => rfl
  | ok hab =>
    cases hyx with
    | ok hba => rw [hanti _ _ hab hba]

/-! ## Loops that consult another contract -/

section Loops

variable {p : α → Outcome E Bool} {q : β → Outcome E Bool} {as : List α} {bs : List β}

/-- With the same answers, related elements are kept. -/
theorem filterE (hsame : ∀ a b, R a b → p a = q b) (h : List.Forall₂ R as bs) :
    Lockstep (List.Forall₂ R) (Outcome.filterE p as) (Outcome.filterE q bs) := by
  induction h with
  | nil => exact .ok .nil
  | @cons a b as bs hab _ ih =>
    rw [Outcome.filterE, Outcome.filterE, hsame a b hab]
    refine bind_same (q b) fun keep => ih.bind fun rest rest' hrest => .ok ?_
    cases keep with
    | false => exact hrest
    | true => exact .cons hab hrest

/-- With the same answers, the searches give the same result. -/
theorem anyE (hsame : ∀ a b, R a b → p a = q b) (h : List.Forall₂ R as bs) :
    Outcome.anyE p as = Outcome.anyE q bs := by
  induction h with
  | nil => rfl
  | @cons a b as bs hab _ ih => rw [Outcome.anyE, Outcome.anyE, hsame a b hab, ih]

end Loops

end Lockstep

end StellarDidCredit.Outcome
