import Mathlib.Data.List.Basic

/-!
# Searching a text

A pattern is tried at each place of a text, from the first one on, and the search ends at the first
place where it matches. What stands before a match can be left out of the search when no match
begins in it.
-/

namespace StellarDidCredit.Text

variable {A B : Type*} {here : List A → Option B}

/-- What the pattern finds at the first place where it matches. -/
def firstMatch (here : List A → Option B) : List A → Option B
  | [] => here []
  | c :: rest => (here (c :: rest)).or (firstMatch here rest)

/-- A pattern that matches at the beginning of a text is found there. -/
theorem firstMatch_of_here {text : List A} {found : B} (h : here text = some found) :
    firstMatch here text = some found := by
  cases text with
  | nil => exact h
  | cons c rest => rw [firstMatch, h, Option.some_or]

/-- Where no match begins in front of a text, the search goes on behind it. -/
theorem firstMatch_append {front text : List A} (hfront : ∀ early late, front = early ++ late → late ≠ [] →
    here (late ++ text) = none) : firstMatch here (front ++ text) = firstMatch here text := by
  induction front with
  | nil => rfl
  | cons c front ih =>
    have hhead : here (c :: (front ++ text)) = none := hfront [] (c :: front) rfl (List.cons_ne_nil _ _)
    rw [List.cons_append, firstMatch, hhead, Option.none_or]
    refine ih fun early late hsplit hne => ?_
    exact hfront (c :: early) late (by rw [hsplit, List.cons_append]) hne

end StellarDidCredit.Text
