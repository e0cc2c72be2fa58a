import Mathlib.Data.List.Basic
import Mathlib.Tactic.Common

/-!
# What the last write left

A place that is written again and again holds the value of the last write. It holds a given value
after some writes exactly if every write of another value was followed by one of the given value.
-/

namespace StellarDidCredit

/-- Every write of another value was followed by one of the given value. -/
def Repaired {V : Type} (value : V) : List V → Prop
  | [] => True
  | written :: later => (written = value ∨ value ∈ later) ∧ Repaired value later

variable {V : Type} {value : V} {writes : List V}

/-- After a value the given writes leave it exactly if all others were repaired. -/
theorem getLast?_getD_eq_iff : writes.getLast?.getD value = value ↔ Repaired value writes := by
  induction writes with
  | nil => exact ⟨fun _ => trivial, fun _ => rfl⟩
  | cons written later ih =>
    rw [List.getLast?_cons, Option.getD_some]
    cases hlast : later.getLast? with
    | none =>
      rw [List.getLast?_eq_none_iff.mp hlast]
      simp [Repaired]
    | some last =>
      have hmem : last ∈ later := List.mem_of_getLast? hlast
      rw [hlast, Option.getD_some] at ih
      rw [Option.getD_some]
      constructor
      · intro hvalue
        exact ⟨Or.inr (hvalue ▸ hmem), ih.mp hvalue⟩
      · intro hrepaired
        exact ih.mpr hrepaired.2

/-- The last of a list of writes that has a given one in it. -/
theorem getLast?_append_cons (earlier later : List V) :
    (earlier ++ value :: later).getLast? = some (later.getLast?.getD value) := by
  rw [List.getLast?_append, List.getLast?_cons, Option.some_or]

end StellarDidCredit
