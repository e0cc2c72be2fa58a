import Mathlib.Algebra.BigOperators.Group.Finset.Piecewise
import Mathlib.Algebra.Order.BigOperators.Group.Finset
import Mathlib.Data.Finset.Max
import Mathlib.Data.Fintype.Card
import Mathlib.Order.Lattice.Nat

/-!
# The spread of a sum of choices

Each term of a sum is chosen from a finite set, and only sums below a limit count. They lie in a narrow
interval exactly when two of them do: the sum of the least terms, and the sum of the greatest terms that are
usable, each next to the least terms of the others.
-/

namespace StellarDidCredit

/-- The least element, zero if there is none. -/
def leastOf (s : Finset ℕ) : ℕ := s.min.untopD 0

/-- The least element is one of them. -/
theorem leastOf_mem {s : Finset ℕ} (h : s.Nonempty) : leastOf s ∈ s := by
  obtain ⟨m, hm⟩ := Finset.min_of_nonempty h
  rw [leastOf, hm]
  exact Finset.mem_of_min hm

/-- No element is below it. -/
theorem leastOf_le {s : Finset ℕ} {n : ℕ} (h : n ∈ s) : leastOf s ≤ n := by
  obtain ⟨m, hm⟩ := Finset.min_of_mem h
  rw [leastOf, hm]
  exact Finset.min_le_of_eq h hm

variable {ι : Type*} [Fintype ι] {choices : ι → Finset ℕ} {limit lo hi : ℕ} {i : ι}

/-- The sum of the least terms. -/
def leastSum (choices : ι → Finset ℕ) : ℕ := ∑ i, leastOf (choices i)

/-- The terms that keep the sum below the limit, next to the least terms of the others. -/
def usable (limit : ℕ) (choices : ι → Finset ℕ) (i : ι) : Finset ℕ :=
  (choices i).filter fun n => leastSum choices + n < limit + leastOf (choices i)

/-- The sum of the greatest usable terms. -/
def greatestSum (limit : ℕ) (choices : ι → Finset ℕ) : ℕ := ∑ i, (usable limit choices i).sup id

/-- Every sum is at least that of the least terms, which is one of the sums. -/
theorem limit_le_sums_iff (hnonempty : ∀ i, (choices i).Nonempty) :
    (∀ c : ι → ℕ, (∀ i, c i ∈ choices i) → limit ≤ ∑ i, c i) ↔ limit ≤ leastSum choices :=
  ⟨fun hall => hall _ fun i => leastOf_mem (hnonempty i),
    fun hlimit _ hc => hlimit.trans (Finset.sum_le_sum fun i _ => leastOf_le (hc i))⟩

/-- One term other than the least one. -/
theorem sum_update_least [DecidableEq ι] (choices : ι → Finset ℕ) (i : ι) (n : ℕ) :
    ∑ j, Function.update (fun j => leastOf (choices j)) i n j + leastOf (choices i) = leastSum choices + n := by
  rw [Finset.sum_update_of_mem (Finset.mem_univ i), Finset.sdiff_singleton_eq_erase, leastSum,
    ← Finset.add_sum_erase _ _ (Finset.mem_univ i)]
  omega

/-- A term of a sum below the limit is usable. -/
theorem usable_of_sum_lt {c : ι → ℕ} (hc : ∀ j, c j ∈ choices j) (hsum : ∑ j, c j < limit) (i : ι) :
    c i ∈ usable limit choices i := by
  classical
  have hrest : ∑ j ∈ Finset.univ.erase i, leastOf (choices j) ≤ ∑ j ∈ Finset.univ.erase i, c j :=
    Finset.sum_le_sum fun j _ => leastOf_le (hc j)
  have hleast := Finset.add_sum_erase Finset.univ (fun j => leastOf (choices j)) (Finset.mem_univ i)
  have htotal := Finset.add_sum_erase Finset.univ c (Finset.mem_univ i)
  refine Finset.mem_filter.mpr ⟨hc i, ?_⟩
  rw [leastSum]
  omega

/-- The sums of the choices below the limit are all from `lo` to `hi`, an interval with room for one more of
its length for each term, exactly when there is none, or the sum of the least terms is not below `lo` and the
sum of the greatest usable terms not above `hi`. -/
theorem sums_within_iff (hnonempty : ∀ i, (choices i).Nonempty)
    (hroom : hi + Fintype.card ι * (hi - lo) < limit) :
    (∀ c : ι → ℕ, (∀ i, c i ∈ choices i) → ∑ i, c i < limit → lo ≤ ∑ i, c i ∧ ∑ i, c i ≤ hi) ↔
      limit ≤ leastSum choices ∨ lo ≤ leastSum choices ∧ greatestSum limit choices ≤ hi := by
  classical
  constructor
  · intro hall
    refine or_iff_not_imp_left.mpr fun hlimit => ?_
    rw [not_le] at hlimit
    obtain ⟨hlo, hhi⟩ := hall (fun i => leastOf (choices i)) (fun i => leastOf_mem (hnonempty i)) hlimit
    change lo ≤ leastSum choices at hlo
    change leastSum choices ≤ hi at hhi
    have hgreatest (i : ι) : (usable limit choices i).sup id ∈ usable limit choices i := by
      have hleast : leastOf (choices i) ∈ usable limit choices i :=
        Finset.mem_filter.mpr ⟨leastOf_mem (hnonempty i), by omega⟩
      obtain ⟨n, hn, hsup⟩ := Finset.exists_mem_eq_sup _ ⟨_, hleast⟩ id
      rw [hsup]
      exact hn
    -- a usable term next to the least ones stays within the interval
    have hstep (i : ι) : (usable limit choices i).sup id ≤ leastOf (choices i) + (hi - lo) := by
      obtain ⟨hmem, hfits⟩ := Finset.mem_filter.mp (hgreatest i)
      have hsum := sum_update_least choices i ((usable limit choices i).sup id)
      have hwithin := hall (Function.update (fun j => leastOf (choices j)) i ((usable limit choices i).sup id))
        (fun j => by
          by_cases hj : j = i
          · subst hj
            rw [Function.update_self]
            exact hmem
          · rw [Function.update_of_ne hj]
            exact leastOf_mem (hnonempty j))
        (by omega)
      omega
    have hbound : greatestSum limit choices ≤ leastSum choices + Fintype.card ι * (hi - lo) := by
      calc greatestSum limit choices ≤ ∑ i, (leastOf (choices i) + (hi - lo)) :=
            Finset.sum_le_sum fun i _ => hstep i
        _ = leastSum choices + Fintype.card ι * (hi - lo) := by
            rw [Finset.sum_add_distrib, Finset.sum_const_nat fun _ _ => rfl, Finset.card_univ, leastSum]
    refine ⟨hlo, (hall _ (fun i => (Finset.mem_filter.mp (hgreatest i)).1) ?_).2⟩
    change greatestSum limit choices < limit
    omega
  · rintro hspread c hc hsum
    have hleast : leastSum choices ≤ ∑ i, c i := Finset.sum_le_sum fun i _ => leastOf_le (hc i)
    have hgreatest : ∑ i, c i ≤ greatestSum limit choices :=
      Finset.sum_le_sum fun i _ => Finset.le_sup (f := id) (usable_of_sum_lt hc hsum i)
    omega

end StellarDidCredit
