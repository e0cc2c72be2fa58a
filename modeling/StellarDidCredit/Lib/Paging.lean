import StellarDidCredit.Lib.Outcome

/-!
# Reading a list page by page

A reader that asks for the entries from a cursor on, `size` at a time, until a page comes back
empty. Where every page that comes back is the right one, the pages put end to end are the list;
the reader gets to an empty page exactly when no read on the way fails.
-/

namespace StellarDidCredit

variable {α : Type} {list : List α} {read : ℕ → Option (List α)} {size cursor : ℕ} {pages : List (List α)}

/-- The entries from `cursor` on, at most `limit` of them. -/
def page (list : List α) (cursor limit : ℕ) : List α := (list.drop cursor).take limit

/-- A page is empty past the end of the list, and when nothing is asked for. -/
theorem page_eq_nil_iff {limit : ℕ} : page list cursor limit = [] ↔ list.length ≤ cursor ∨ limit = 0 := by
  rw [page, List.take_eq_nil_iff, List.drop_eq_nil_iff, or_comm]

/-- A page is followed by what comes after it. -/
theorem page_append_drop (list : List α) (cursor size : ℕ) :
    page list cursor size ++ list.drop (cursor + size) = list.drop cursor := by
  rw [page, ← List.drop_drop, List.take_append_drop]

/-- A list cut into pages of one size. -/
def slices (size : ℕ) (list : List α) : List (List α) :=
  (List.range ((list.length + size - 1) / size)).map fun k => page list (k * size) size

/-- Nothing is cut into no slices. -/
theorem slices_nil (hsize : 0 < size) : slices size ([] : List α) = [] := by
  have hnone : (([] : List α).length + size - 1) / size = 0 := by
    rw [Nat.div_eq_zero_iff, List.length_nil]
    omega
  rw [slices, hnone]
  rfl

/-- The first page, and the pages of the rest. -/
theorem slices_of_ne_nil (hsize : 0 < size) (hne : list ≠ []) :
    slices size list = list.take size :: slices size (list.drop size) := by
  have hlength : 0 < list.length := List.length_pos_of_ne_nil hne
  have hcount : (list.length + size - 1) / size = ((list.drop size).length + size - 1) / size + 1 := by
    rw [List.length_drop]
    by_cases hlong : size ≤ list.length
    · rw [← Nat.add_div_right _ hsize]
      congr 1
      omega
    · have hone : (list.length + size - 1) / size = 1 := Nat.div_eq_of_lt_le (by omega) (by omega)
      have hzero : (list.length - size + size - 1) / size = 0 := Nat.div_eq_of_lt (by omega)
      rw [hone, hzero]
  have hrest (k : ℕ) : page list ((k + 1) * size) size = page (list.drop size) (k * size) size := by
    rw [page, page, List.drop_drop, Nat.add_mul, Nat.one_mul, Nat.add_comm (k * size)]
  rw [slices, hcount, List.range_succ_eq_map, List.map_cons, List.map_map, slices]
  refine congrArg₂ List.cons ?_ (List.map_congr_left fun k _ => hrest k)
  rw [page, Nat.zero_mul, List.drop_zero]

/-- Put end to end, the pages are the list. -/
theorem flatten_slices (hsize : 0 < size) (list : List α) : (slices size list).flatten = list := by
  induction hlength : list.length using Nat.strongRecOn generalizing list with
  | ind n ih =>
    by_cases hne : list = []
    · rw [hne, slices_nil hsize, List.flatten_nil]
    · have hshorter : (list.drop size).length < n := by
        have hpos := List.length_pos_of_ne_nil hne
        rw [List.length_drop]
        omega
      rw [slices_of_ne_nil hsize hne, List.flatten_cons, ih _ hshorter _ rfl, List.take_append_drop]

/-- No page is longer than the size. -/
theorem length_le_of_mem_slices {slice : List α} (h : slice ∈ slices size list) : slice.length ≤ size := by
  obtain ⟨k, -, rfl⟩ := List.mem_map.mp h
  rw [page, List.length_take]
  exact Nat.min_le_left _ _

/-- No page is empty. -/
theorem ne_nil_of_mem_slices (hsize : 0 < size) {slice : List α} (h : slice ∈ slices size list) : slice ≠ [] := by
  obtain ⟨k, hk, rfl⟩ := List.mem_map.mp h
  have hlt : k * size < list.length := by
    have hbound := (Nat.le_div_iff_mul_le hsize).mp (Nat.succ_le_of_lt (List.mem_range.mp hk))
    rw [Nat.succ_mul] at hbound
    omega
  rw [Ne, page_eq_nil_iff]
  omega

/-- The pages of the images are the images of the pages. -/
theorem slices_map {β : Type} (f : α → β) (size : ℕ) (list : List α) :
    (slices size list).map (·.map f) = slices size (list.map f) := by
  rw [slices, slices, List.map_map, List.length_map]
  refine List.map_congr_left fun k _ => ?_
  rw [Function.comp_apply, page, page, ← List.map_drop, List.map_take]

/-- Fetching the entries of a page one by one. -/
theorem mapM_range'_eq_page {E : Type} {f : Fault E} (list : List α) {start limit : ℕ}
    (hend : start + limit ≤ list.length) :
    (List.range' start limit).mapM (fun i => Outcome.okOr list[i]? f) = .ok (page list start limit) := by
  induction limit generalizing start with
  | zero => simp [page, pure, Except.pure]
  | succ limit ih =>
    have hlt : start < list.length := by omega
    have hnext : start + 1 + limit ≤ list.length := by omega
    have hrest := ih hnext
    have hpage : page list start (limit + 1) = list[start] :: page list (start + 1) limit := by
      rw [page, List.drop_eq_getElem_cons hlt, List.take_succ_cons, page]
    rw [List.range'_succ, List.mapM_cons, hrest, List.getElem?_eq_getElem hlt, hpage]
    rfl

/-- The pages read from a cursor on, up to the first empty one. -/
inductive Pages (read : ℕ → Option (List α)) (size : ℕ) : ℕ → List (List α) → Prop
  | done {cursor : ℕ} (hread : read cursor = some []) : Pages read size cursor []
  | more {cursor : ℕ} {first : List α} {rest : List (List α)} (hread : read cursor = some first)
      (hne : first ≠ []) (hrest : Pages read size (cursor + size) rest) :
      Pages read size cursor (first :: rest)

/-- What comes back is the page that was asked for. -/
def ReadsPages (read : ℕ → Option (List α)) (list : List α) (size : ℕ) : Prop :=
  ∀ cursor entries, read cursor = some entries → entries = page list cursor size

/-- The pages put end to end are the rest of the list. -/
theorem Pages.flatten_eq (h : Pages read size cursor pages) (hright : ReadsPages read list size)
    (hsize : 0 < size) : pages.flatten = list.drop cursor := by
  induction h with
  | done hread =>
    have hempty := (hright _ _ hread).symm
    rcases page_eq_nil_iff.mp hempty with hend | hzero
    · rw [List.flatten_nil, List.drop_eq_nil_of_le hend]
    · omega
  | more hread hne hrest ih =>
    rw [List.flatten_cons, ih, hright _ _ hread, page_append_drop]

/-- No read before the end of the list failed. -/
theorem Pages.read_of_lt (h : Pages read size cursor pages) (hright : ReadsPages read list size)
    (hsize : 0 < size) (k : ℕ) (hk : cursor + k * size < list.length) :
    ∃ entries, read (cursor + k * size) = some entries := by
  induction h generalizing k with
  | done hread =>
    have hempty := (hright _ _ hread).symm
    rcases page_eq_nil_iff.mp hempty with hend | hzero
    · omega
    · omega
  | @more cursor first rest hread hne hrest ih =>
    cases k with
    | zero => exact ⟨first, by simpa using hread⟩
    | succ k =>
      have hnext : cursor + (k + 1) * size = cursor + size + k * size := by
        rw [Nat.add_mul]
        omega
      rw [hnext] at hk ⊢
      exact ih k hk

/-- Without a failing read on the way, the reader gets to an empty page. The induction is on what is
left of the list, which every page shortens. -/
theorem exists_pages (hright : ReadsPages read list size) (hsize : 0 < size)
    (hpast : ∀ cursor, list.length ≤ cursor → ∃ entries, read cursor = some entries)
    (hread : ∀ k, cursor + k * size < list.length → ∃ entries, read (cursor + k * size) = some entries) :
    ∃ pages, Pages read size cursor pages := by
  induction hleft : list.length - cursor using Nat.strongRecOn generalizing cursor with
  | ind left ih =>
    by_cases hend : list.length ≤ cursor
    · obtain ⟨entries, hentries⟩ := hpast cursor hend
      have hempty : entries = [] := (hright _ _ hentries).trans (page_eq_nil_iff.mpr (Or.inl hend))
      exact ⟨[], .done (hempty ▸ hentries)⟩
    · obtain ⟨entries, hentries⟩ := hread 0 (by omega)
      rw [Nat.zero_mul, Nat.add_zero] at hentries
      have hne : entries ≠ [] := by
        rw [hright _ _ hentries, Ne, page_eq_nil_iff]
        omega
      have hlater : ∀ k, cursor + size + k * size < list.length →
          ∃ entries, read (cursor + size + k * size) = some entries := by
        intro k
        have hnext := hread (k + 1)
        rwa [Nat.add_mul, Nat.one_mul, Nat.add_comm (k * size), ← Nat.add_assoc] at hnext
      have hshorter : list.length - (cursor + size) < left := by omega
      obtain ⟨rest, hrest⟩ := ih _ hshorter hlater rfl
      exact ⟨entries :: rest, .more hentries hne hrest⟩

end StellarDidCredit
