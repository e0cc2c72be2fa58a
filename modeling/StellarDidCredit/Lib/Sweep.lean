import Mathlib.Data.List.Basic
import Mathlib.Data.List.Nodup
import Mathlib.Tactic.Common

/-!
# Reading keys one after the other

A sweep asks a store for one key after the other, and the store may change in between. What it brings
back is no snapshot: each answer is of a moment of its own. The moments lie between the two ends of the
sweep, so what is stored throughout is found.
-/

namespace StellarDidCredit

variable {K V E σ : Type}

/-- Read the keys in order and keep what is found. The first failure ends the sweep. -/
def sweep (read : K → σ → Except E (Option V) × σ) : List K → σ → Except E (List V) × σ
  | [], s => (.ok [], s)
  | key :: rest, s =>
    match read key s with
    | (.error error, s) => (.error error, s)
    | (.ok found, s) =>
      match sweep read rest s with
      | (.error error, s) => (.error error, s)
      | (.ok values, s) => (.ok (found.toList ++ values), s)

variable {read : K → σ → Except E (Option V) × σ} {key : K} {keys : List K} {values : List V} {s s' : σ}

/-- A sweep that succeeds has read its first key and swept the others. -/
theorem sweep_cons_ok (h : sweep read (key :: keys) s = (.ok values, s')) :
    ∃ found middle rest, read key s = (.ok found, middle) ∧ sweep read keys middle = (.ok rest, s') ∧
      values = found.toList ++ rest := by
  unfold sweep at h
  split at h
  next => cases h
  next found middle hread =>
    split at h
    next => cases h
    next rest last hrest =>
      obtain ⟨hvalues, rfl⟩ := Prod.mk.inj h
      exact ⟨found, middle, rest, hread, hrest, (Except.ok.inj hvalues).symm⟩

/-- The values of a sweep are what its keys had, each at a moment between the two ends. -/
theorem sweep_answers [DecidableEq K] (Reaches : σ → σ → Prop) (hrefl : ∀ s, Reaches s s)
    (htrans : ∀ a b c, Reaches a b → Reaches b c → Reaches a c) (hread : ∀ key s, Reaches s (read key s).2)
    (hkeys : keys.Nodup) (h : sweep read keys s = (.ok values, s')) :
    Reaches s s' ∧ ∃ answer : K → Option V, values = keys.filterMap answer ∧
      ∀ key ∈ keys, ∃ moment, Reaches s moment ∧ (read key moment).1 = .ok (answer key) ∧
        Reaches (read key moment).2 s' := by
  induction keys generalizing s values with
  | nil =>
    obtain ⟨hvalues, rfl⟩ := Prod.mk.inj h
    obtain rfl := Except.ok.inj hvalues
    exact ⟨hrefl s, fun _ => none, rfl, fun _ hkey => absurd hkey List.not_mem_nil⟩
  | cons key rest ih =>
    obtain ⟨hnew, hrest⟩ := List.nodup_cons.mp hkeys
    obtain ⟨found, middle, others, hfound, hsweep, rfl⟩ := sweep_cons_ok h
    obtain ⟨hlater, answer, rfl, hanswer⟩ := ih hrest hsweep
    have hfirst : Reaches s middle := by
      have hstep := hread key s
      rwa [hfound] at hstep
    have hothers : rest.filterMap (Function.update answer key found) = rest.filterMap answer := by
      refine List.filterMap_congr fun other hother => Function.update_of_ne ?_ _ _
      rintro rfl
      exact hnew hother
    refine ⟨htrans _ _ _ hfirst hlater, Function.update answer key found, ?_, ?_⟩
    · rw [List.filterMap_cons, Function.update_self, hothers]
      cases found <;> rfl
    · intro other hother
      rcases List.mem_cons.mp hother with rfl | hin
      · rw [Function.update_self]
        refine ⟨s, hrefl s, ?_⟩
        rw [hfound]
        exact ⟨rfl, hlater⟩
      · have hne : other ≠ key := fun heq => hnew (heq ▸ hin)
        obtain ⟨moment, hbefore, hvalue, hafter⟩ := hanswer other hin
        rw [Function.update_of_ne hne]
        exact ⟨moment, htrans _ _ _ hfirst hbefore, hvalue, hafter⟩

/-- A store that stays as it is gives a sweep what it holds. -/
theorem sweep_unchanged {answer : K → Option V} (h : ∀ key ∈ keys, read key s = (.ok (answer key), s)) :
    sweep read keys s = (.ok (keys.filterMap answer), s) := by
  induction keys with
  | nil => rfl
  | cons key rest ih =>
    have hfirst := h key List.mem_cons_self
    have hrest := ih fun other hother => h other (List.mem_cons_of_mem _ hother)
    unfold sweep
    rw [hfirst]
    dsimp only
    rw [hrest, List.filterMap_cons]
    cases answer key <;> rfl

end StellarDidCredit
