import Mathlib.Algebra.BigOperators.Finprod

/-!
# Keyed storage areas

A storage area maps every key to a value or to nothing. Areas are functions, so two areas
with the same entries are equal, and a write is described completely by what it does to
one key. The last section adds the entries of an area up: a finite sum moves by exactly
the difference that a write makes at its key.
-/

namespace StellarDidCredit

/-- A storage area with keys `K` and values `V`. -/
abbrev Storage (K V : Type) := K → Option V

namespace Storage

variable {K V : Type}

/-- The area without any entry. -/
def empty : Storage K V := fun _ => none

/-- Write one entry. -/
def set [DecidableEq K] (m : Storage K V) (k : K) (v : V) : Storage K V :=
  fun k' => if k' = k then some v else m k'

/-- Delete one entry. -/
def remove [DecidableEq K] (m : Storage K V) (k : K) : Storage K V :=
  fun k' => if k' = k then none else m k'

/-- An empty storage has no entry. -/
@[simp] theorem empty_apply (k : K) : (empty : Storage K V) k = none := rfl

variable [DecidableEq K]

/-- An entry reads as it was written. -/
@[simp] theorem set_self (m : Storage K V) (k : K) (v : V) : m.set k v k = some v := by
  simp [set]

/-- The other entries stay. -/
theorem set_of_ne (m : Storage K V) {k k' : K} (v : V) (h : k' ≠ k) : m.set k v k' = m k' := by
  simp [set, h]

/-- The last write stays. -/
theorem set_set (m : Storage K V) (k : K) (v v' : V) : (m.set k v).set k v' = m.set k v' := by
  funext k'
  simp only [set]
  split <;> rfl

/-- One entry after a write. -/
theorem set_apply (m : Storage K V) (k k' : K) (v : V) :
    m.set k v k' = if k' = k then some v else m k' := rfl

/-- A removed entry is gone. -/
@[simp] theorem remove_self (m : Storage K V) (k : K) : m.remove k k = none := by
  simp [remove]

/-- The other entries stay. -/
theorem remove_of_ne (m : Storage K V) {k k' : K} (h : k' ≠ k) : m.remove k k' = m k' := by
  simp [remove, h]

/-- One entry after a removal. -/
theorem remove_apply (m : Storage K V) (k k' : K) :
    m.remove k k' = if k' = k then none else m k' := rfl

/-- Every value under a function. -/
def mapValues {W : Type} (f : V → W) (m : Storage K V) : Storage K W := fun k => (m k).map f

/-- A write is mapped to a write. -/
theorem mapValues_set {W : Type} (f : V → W) (m : Storage K V) (k : K) (v : V) :
    (m.set k v).mapValues f = (m.mapValues f).set k (f v) := by
  funext k'
  simp only [mapValues, set_apply]
  split <;> rfl

/-- The entries whose keys meet a condition. -/
def restrict (P : K → Prop) [DecidablePred P] (m : Storage K V) : Storage K V :=
  fun k => if P k then m k else none

section Restrict

variable {P : K → Prop} [DecidablePred P] {k : K}

omit [DecidableEq K] in
/-- An entry within the part stays. -/
theorem restrict_of (m : Storage K V) (h : P k) : m.restrict P k = m k := if_pos h

omit [DecidableEq K] in
/-- An entry outside it is left out. -/
theorem restrict_of_not (m : Storage K V) (h : ¬P k) : m.restrict P k = none := if_neg h

/-- A write inside the part is a write to it. -/
theorem restrict_set_of (m : Storage K V) (v : V) (h : P k) : (m.set k v).restrict P = (m.restrict P).set k v := by
  funext k'
  simp only [restrict, set_apply]
  by_cases hk : k' = k
  · rw [if_pos hk, if_pos hk, if_pos (hk ▸ h)]
  · rw [if_neg hk, if_neg hk]

/-- A write outside the part leaves it alone. -/
theorem restrict_set_of_not (m : Storage K V) (v : V) (h : ¬P k) : (m.set k v).restrict P = m.restrict P := by
  funext k'
  simp only [restrict, set_apply]
  by_cases hk : k' = k
  · rw [if_neg (hk ▸ h), if_neg (hk ▸ h)]
  · rw [if_neg hk]

/-- The part of one key. -/
theorem restrict_set_self (m : Storage K V) (k : K) (v : V) :
    (m.set k v).restrict (· = k) = (m.restrict (· = k)).set k v :=
  restrict_set_of (P := (· = k)) m v rfl

/-- A write elsewhere is left out. -/
theorem restrict_set_ne (m : Storage K V) {k k' : K} (v : V) (h : k ≠ k') :
    (m.set k v).restrict (· = k') = m.restrict (· = k') :=
  restrict_set_of_not (P := (· = k')) m v h

end Restrict

/-- Writing back the value that is there changes nothing. -/
theorem set_eq_self {m : Storage K V} {k : K} {v : V} (h : m k = some v) : m.set k v = m := by
  funext k'
  by_cases hk : k' = k
  · rw [hk, set_self, h]
  · exact set_of_ne m v hk

/-- A write that changes nothing writes what is there. -/
theorem set_eq_self_iff {m : Storage K V} {k : K} {v : V} : m.set k v = m ↔ m k = some v := by
  refine ⟨fun h => ?_, set_eq_self⟩
  rw [← h, set_self]

/-- A deletion that changes nothing finds nothing. -/
theorem remove_eq_self_iff {m : Storage K V} {k : K} : m.remove k = m ↔ m k = none := by
  constructor
  · intro h
    rw [← h, remove_self]
  · intro h
    funext k'
    by_cases hk : k' = k
    · rw [hk, remove_self, h]
    · exact remove_of_ne m hk

end Storage

/-! ## Sums that change at one key -/

section Sums

variable {K M : Type}

/-- Such a change keeps the support finite. -/
theorem support_finite_of_eq_off [Zero M] (f g : K → M) (k : K) (hf : f.support.Finite)
    (hne : ∀ k', k' ≠ k → g k' = f k') : g.support.Finite := by
  refine (hf.insert k).subset fun k' hk' => ?_
  by_cases hk : k' = k
  · exact Or.inl hk
  · exact Or.inr (by simpa only [Function.mem_support, hne k' hk] using hk')

/-- A finite sum is the entry at one key and the sum of the others. -/
theorem finsum_eq_add_others [AddCommMonoid M] [DecidableEq K] (f : K → M) (k : K) (hf : f.support.Finite) :
    ∑ᶠ k', f k' = f k + ∑ᶠ k', if k' = k then 0 else f k' := by
  have hsplit (k' : K) : f k' = (if k' = k then f k else 0) + (if k' = k then 0 else f k') := by
    by_cases hk : k' = k
    · simp [hk]
    · simp [hk]
  have hothers : (Function.support fun k' => if k' = k then 0 else f k').Finite :=
    support_finite_of_eq_off f _ k hf fun k' hk' => if_neg hk'
  have hsingle : (Function.support fun k' => if k' = k then f k else 0).Finite :=
    (Set.finite_singleton k).subset fun k' hk' => by
      by_contra hne
      exact hk' (if_neg hne)
  rw [finsum_congr hsplit, finsum_add_distrib hsingle hothers,
    finsum_eq_single _ k (fun k' hk' => if_neg hk'), if_pos rfl]

/-- Changing a finitely supported family at one key exchanges the entries there. -/
theorem finsum_add_eq_add [AddCommMonoid M] (f g : K → M) (k : K) (hf : f.support.Finite)
    (hne : ∀ k', k' ≠ k → g k' = f k') : (∑ᶠ k', g k') + f k = (∑ᶠ k', f k') + g k := by
  classical
  have hothers (k' : K) : (if k' = k then 0 else g k') = if k' = k then 0 else f k' := by
    by_cases hk : k' = k
    · simp [hk]
    · simp [hk, hne k' hk]
  rw [finsum_eq_add_others f k hf, finsum_eq_add_others g k (support_finite_of_eq_off f g k hf hne),
    finsum_congr hothers, add_right_comm (g k), add_right_comm (f k), add_comm (g k)]

/-- Changing a finitely supported family at one key moves its sum by the difference there. -/
theorem finsum_eq_add_sub [AddCommGroup M] (f g : K → M) (k : K) (hf : f.support.Finite)
    (hne : ∀ k', k' ≠ k → g k' = f k') : ∑ᶠ k', g k' = (∑ᶠ k', f k') + (g k - f k) := by
  rw [← add_sub_assoc, eq_sub_iff_add_eq]
  exact finsum_add_eq_add f g k hf hne

end Sums

end StellarDidCredit
