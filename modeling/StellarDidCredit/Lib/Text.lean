import Mathlib.Data.List.DropRight

/-!
# Lines and margins of a text

A text over any alphabet is split into lines at each line feed, and a carriage return directly
before a line feed belongs to the break. The margins of a text are the blank characters at its
two ends. Lines that are joined by line breaks are split into the same lines again.
-/

namespace StellarDidCredit.Text

variable {A : Type*}

/-- Drop the blank characters at both ends. -/
def trim (blank : A → Bool) (text : List A) : List A :=
  (text.dropWhile blank).rdropWhile blank

/-- No blank character stands at either end. -/
structure Trimmed (blank : A → Bool) (text : List A) : Prop where
  first : ∀ c ∈ text.head?, ¬ blank c
  last : ∀ c ∈ text.getLast?, ¬ blank c

/-- A trimmed text stays as it is. -/
theorem trim_eq_self {blank : A → Bool} {text : List A} (h : Trimmed blank text) : trim blank text = text := by
  have hfirst : text.dropWhile blank = text := by
    rw [List.dropWhile_eq_self_iff]
    intro hlength
    exact h.first _ (by rw [List.head?_eq_getElem?, List.getElem?_eq_getElem hlength]; rfl)
  rw [trim, hfirst, List.rdropWhile_eq_self_iff]
  intro hne
  exact h.last _ (List.getLast_mem_getLast? hne)

/-- A text is trimmed away exactly when all its characters are blank. -/
theorem trim_eq_nil_iff {blank : A → Bool} {text : List A} : trim blank text = [] ↔ ∀ c ∈ text, blank c := by
  constructor
  · intro h c hc
    rw [trim, List.rdropWhile_eq_nil_iff] at h
    rw [← List.takeWhile_append_dropWhile (p := blank) (l := text), List.mem_append] at hc
    exact hc.elim List.mem_takeWhile_imp (h c)
  · intro h
    rw [trim, List.dropWhile_eq_nil_iff.mpr h, List.rdropWhile_nil]

section Lines

variable [DecidableEq A] (cr lf : A)

/-- The lines of a text, without their breaks. A text without breaks is one line. -/
def splitLines : List A → List (List A)
  | [] => [[]]
  | c :: rest =>
    if c = lf then [] :: splitLines rest
    else if c = cr ∧ rest.head? = some lf then splitLines rest
    else (splitLines rest).modifyHead (c :: ·)

/-- The two line breaks. -/
inductive Break
  | lf
  | crlf
  deriving DecidableEq, Repr

/-- The characters of a break. -/
def Break.text : Break → List A
  | .lf => [lf]
  | .crlf => [cr, lf]

/-- The lines with their breaks after them, and a last line. -/
def joinLines (ended : List (List A × Break)) (last : List A) : List A :=
  ended.flatMap (fun line => line.1 ++ line.2.text cr lf) ++ last

variable {cr lf}

/-- A line without breaks is taken off a text up to a place where the text is split. -/
theorem splitLines_append_of_free {line : List A} (hline : ∀ c ∈ line, c ≠ cr ∧ c ≠ lf) (rest : List A) :
    splitLines cr lf (line ++ rest) = (splitLines cr lf rest).modifyHead (line ++ ·) := by
  induction line with
  | nil => cases h : splitLines cr lf rest <;> simp [h]
  | cons c line ih =>
    obtain ⟨hc, hline⟩ := List.forall_mem_cons.mp hline
    rw [List.cons_append, splitLines, if_neg hc.2, if_neg (fun h => hc.1 h.1), ih hline, List.modifyHead_modifyHead]
    rfl

/-- A break ends a line without breaks. -/
theorem splitLines_append_break (hbreak : cr ≠ lf) {line : List A} (hline : ∀ c ∈ line, c ≠ cr ∧ c ≠ lf)
    (ending : Break) (rest : List A) :
    splitLines cr lf (line ++ ending.text cr lf ++ rest) = line :: splitLines cr lf rest := by
  have hlf : splitLines cr lf (lf :: rest) = [] :: splitLines cr lf rest := by rw [splitLines, if_pos rfl]
  rw [List.append_assoc, splitLines_append_of_free hline]
  cases ending with
  | lf => simp [Break.text, hlf]
  | crlf =>
    have hcr : splitLines cr lf (cr :: lf :: rest) = splitLines cr lf (lf :: rest) := by
      rw [splitLines, if_neg hbreak, if_pos ⟨rfl, rfl⟩]
    simp [Break.text, hcr, hlf]

/-- Lines that are joined by any breaks are split into the same lines. -/
theorem splitLines_joinLines (hbreak : cr ≠ lf) {ended : List (List A × Break)} {last : List A}
    (hended : ∀ line ∈ ended, ∀ c ∈ line.1, c ≠ cr ∧ c ≠ lf) (hlast : ∀ c ∈ last, c ≠ cr ∧ c ≠ lf) :
    splitLines cr lf (joinLines cr lf ended last) = ended.map Prod.fst ++ [last] := by
  induction ended with
  | nil =>
    have h := splitLines_append_of_free hlast []
    rw [List.append_nil] at h
    simp [joinLines, h, splitLines]
  | cons line ended ih =>
    obtain ⟨hline, hended⟩ := List.forall_mem_cons.mp hended
    have hjoin : joinLines cr lf (line :: ended) last =
        line.1 ++ line.2.text cr lf ++ joinLines cr lf ended last := by
      simp [joinLines]
    rw [hjoin, splitLines_append_break hbreak hline, ih hended]
    rfl

end Lines

end StellarDidCredit.Text
