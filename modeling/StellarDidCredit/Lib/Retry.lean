import Mathlib.Tactic.Common

/-!
# Retried attempts

An attempt on some state gives a result or an error. Errors of one kind are tried again until a
budget is spent, any other error is final. When each attempt takes the next answer of a sequence,
the error that ends the attempts is the first one in the sequence that is not tried again.
-/

namespace StellarDidCredit

/-- How retried attempts end. -/
inductive Retried (E A : Type)
  | done (value : A)
  /-- An error that is not tried again. -/
  | refused (error : E)
  /-- The budget is spent. -/
  | exhausted (error : E)
  deriving DecidableEq, Repr

variable {S E A : Type}

/-- Try once, and then once more for each unit of the budget. -/
def retry (again : E → Bool) (attempt : S → Except E A × S) : ℕ → S → Retried E A × S
  | budget, state =>
    match attempt state with
    | (.ok value, state) => (.done value, state)
    | (.error error, state) =>
      if again error then
        match budget with
        | 0 => (.exhausted error, state)
        | budget + 1 => retry again attempt budget state
      else (.refused error, state)

/-- An attempt that takes the next answer of a sequence, which is a failure or a success. -/
def answer (failures : ℕ → Option E) (value : A) (position : ℕ) : Except E A × ℕ :=
  match failures position with
  | none => (.ok value, position + 1)
  | some error => (.error error, position + 1)

/-- From a position on, the failures are tried again within the budget up to this error, which is
not tried again. -/
def RefusedWith (again : E → Bool) (failures : ℕ → Option E) (budget position : ℕ) (error : E) : Prop :=
  ∃ tries ≤ budget, (∀ i < tries, ∃ e, failures (position + i) = some e ∧ again e) ∧
    failures (position + tries) = some error ∧ ¬ again error

variable {again : E → Bool} {failures : ℕ → Option E} {error : E} {budget position : ℕ}

/-- A final error at once. -/
theorem refusedWith_of_final {first : E} (hfirst : failures position = some first) (hfinal : ¬ again first) :
    RefusedWith again failures budget position error ↔ first = error := by
  constructor
  · rintro ⟨tries, -, hagain, herror, -⟩
    cases tries with
    | zero => exact Option.some.inj (hfirst.symm.trans herror)
    | succ tries =>
      obtain ⟨e, he, hretried⟩ := hagain 0 (Nat.succ_pos _)
      rw [Nat.add_zero, hfirst] at he
      exact absurd (Option.some.inj he ▸ hretried) hfinal
  · rintro rfl
    exact ⟨0, Nat.zero_le _, by simp, hfirst, hfinal⟩

/-- An error that is tried again uses a unit of the budget. -/
theorem refusedWith_of_again {first : E} (hfirst : failures position = some first) (hagain : again first) :
    RefusedWith again failures budget position error ↔
      ∃ rest, budget = rest + 1 ∧ RefusedWith again failures rest (position + 1) error := by
  constructor
  · rintro ⟨tries, hbudget, hretried, herror, hfinal⟩
    cases tries with
    | zero => exact absurd (Option.some.inj (hfirst.symm.trans herror) ▸ hagain) hfinal
    | succ tries =>
      obtain ⟨rest, rfl⟩ : ∃ rest, budget = rest + 1 := ⟨budget - 1, by omega⟩
      refine ⟨rest, rfl, tries, by omega, fun i hi => ?_, ?_, hfinal⟩
      · rw [Nat.add_right_comm, Nat.add_assoc]
        exact hretried (i + 1) (by omega)
      · rw [Nat.add_right_comm, Nat.add_assoc]
        exact herror
  · rintro ⟨rest, rfl, tries, hbudget, hretried, herror, hfinal⟩
    refine ⟨tries + 1, by omega, fun i hi => ?_, ?_, hfinal⟩
    · cases i with
      | zero => exact ⟨first, hfirst, hagain⟩
      | succ i =>
        rw [← Nat.add_assoc, Nat.add_right_comm]
        exact hretried i (by omega)
    · rw [← Nat.add_assoc, Nat.add_right_comm]
      exact herror

/-- No error ends the attempts when the first answer is a success. -/
theorem not_refusedWith_of_success (hfirst : failures position = none) :
    ¬ RefusedWith again failures budget position error := by
  rintro ⟨tries, -, hretried, herror, -⟩
  cases tries with
  | zero => simp [hfirst] at herror
  | succ tries =>
    obtain ⟨e, he, -⟩ := hretried 0 (Nat.succ_pos _)
    simp [hfirst] at he

/-- Attempts on a sequence of failures are refused with exactly the error that ends them. -/
theorem retry_answer_refused_iff (value : A) (budget position : ℕ) :
    (retry again (answer failures value) budget position).1 = .refused error ↔
      RefusedWith again failures budget position error := by
  induction budget generalizing position with
  | zero =>
    rw [retry, answer]
    cases hfirst : failures position with
    | none => simp [not_refusedWith_of_success hfirst]
    | some first =>
      by_cases hagain : again first
      · simp [hagain, refusedWith_of_again hfirst hagain]
      · simp [hagain, refusedWith_of_final hfirst hagain]
  | succ budget ih =>
    rw [retry, answer]
    cases hfirst : failures position with
    | none => simp [not_refusedWith_of_success hfirst]
    | some first =>
      by_cases hagain : again first
      · simp [hagain, refusedWith_of_again hfirst hagain, ih]
      · simp [hagain, refusedWith_of_final hfirst hagain]

end StellarDidCredit
