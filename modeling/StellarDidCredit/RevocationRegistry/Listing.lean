import StellarDidCredit.Lib.Paging
import StellarDidCredit.RevocationRegistry.Model

/-!
# Paging through an issuer's revocations

`list_revoked` adds its cursor and its limit with a check before it caps the sum at the length of
the list. A page that does not trap is the right one, so the pages that a reader gets put together
the whole list; but a limit that asks for everything, from any cursor but the first, traps.
-/

namespace StellarDidCredit.RevocationRegistry

variable {s : State} {issuer : Address} {cursor limit : ℕ}

/-- A page up to the length of the list is what lies between its two ends. -/
theorem page_eq_extract {α : Type} (list : List α) (cursor limit : ℕ) :
    page list cursor limit = list.extract cursor (min (cursor + limit) list.length) := by
  have hlength : (list.drop cursor).length = list.length - cursor := List.length_drop
  rw [page, List.extract_eq_take_drop, List.take_eq_take_iff, hlength]
  omega

/-- The page is returned unless its end is computed and does not fit. -/
theorem listRevoked_eq (s : State) (issuer : Address) (cursor limit : ℕ) :
    listRevoked s issuer cursor limit =
      if (listRevokedForIssuer s issuer).length ≤ cursor ∨ limit = 0 ∨ cursor + limit ≤ U32.max then
        .ok (page (listRevokedForIssuer s issuer) cursor limit)
      else .error .trap := by
  unfold listRevoked
  dsimp only
  by_cases hempty : (listRevokedForIssuer s issuer).length ≤ cursor ∨ limit = 0
  · have hreads : (listRevokedForIssuer s issuer).length ≤ cursor ∨ limit = 0 ∨ cursor + limit ≤ U32.max :=
      hempty.imp id Or.inl
    rw [if_pos hempty, if_pos hreads, page_eq_nil_iff.mpr hempty]
  · rw [if_neg hempty]
    by_cases hfits : cursor + limit ≤ U32.max
    · have hreads : (listRevokedForIssuer s issuer).length ≤ cursor ∨ limit = 0 ∨ cursor + limit ≤ U32.max :=
        Or.inr (Or.inr hfits)
      have hend : cursor + (min (cursor + limit) (listRevokedForIssuer s issuer).length - cursor) ≤
          (listRevokedForIssuer s issuer).length := by omega
      rw [if_pos hreads, page_eq_extract, List.extract_eq_take_drop]
      simp only [U32.checkedAdd, if_pos hfits, Outcome.okOr]
      exact mapM_range'_eq_page (listRevokedForIssuer s issuer) hend
    · have hreads : ¬((listRevokedForIssuer s issuer).length ≤ cursor ∨ limit = 0 ∨ cursor + limit ≤ U32.max) := by
        tauto
      rw [if_neg hreads]
      simp only [U32.checkedAdd, if_neg hfits, Outcome.okOr]
      rfl

/-- A page comes back, and is the right one, exactly when its end is not computed or fits. -/
theorem listRevoked_eq_ok_iff :
    listRevoked s issuer cursor limit = .ok (page (listRevokedForIssuer s issuer) cursor limit) ↔
      (listRevokedForIssuer s issuer).length ≤ cursor ∨ limit = 0 ∨ cursor + limit ≤ U32.max := by
  rw [listRevoked_eq]
  split
  case isTrue hreads => exact iff_of_true rfl hreads
  case isFalse hreads => exact iff_of_false (fun h => nomatch h) hreads

/-- What a reader with this page size gets from a cursor; nothing when the call traps. -/
def readPage (s : State) (issuer : Address) (size cursor : ℕ) : Option (List (BytesN 32)) :=
  (listRevoked s issuer cursor size).toOption

/-- A page is part of the list, unless its end is beyond 32 bits. -/
theorem readPage_eq (s : State) (issuer : Address) (size cursor : ℕ) :
    readPage s issuer size cursor =
      if (listRevokedForIssuer s issuer).length ≤ cursor ∨ size = 0 ∨ cursor + size ≤ U32.max then
        some (page (listRevokedForIssuer s issuer) cursor size)
      else none := by
  rw [readPage, listRevoked_eq]
  split <;> rfl

/-- A page that comes back is the right one. -/
theorem readsPages_readPage (s : State) (issuer : Address) (size : ℕ) :
    ReadsPages (readPage s issuer size) (listRevokedForIssuer s issuer) size := by
  intro cursor entries hread
  rw [readPage_eq] at hread
  split at hread
  · exact (Option.some.inj hread).symm
  · cases hread

/-- The end of the page that reaches the end of a list is the least multiple of the size there. -/
theorem ends_fit_iff {total size : ℕ} (hsize : 1 ≤ size) :
    (∀ k, k * size < total → k * size + size ≤ U32.max) ↔ (total + size - 1) / size * size ≤ U32.max := by
  constructor
  · intro hfits
    rcases Nat.eq_zero_or_pos total with rfl | htotal
    · rw [Nat.div_eq_of_lt (by omega)]
      omega
    · have hlast : (total - 1) / size * size ≤ total - 1 := Nat.div_mul_le_self _ _
      have hend := hfits ((total - 1) / size) (by omega)
      have hceil : (total + size - 1) / size = (total - 1) / size + 1 := by
        rw [← Nat.add_div_right _ hsize]
        congr 1
        omega
      rwa [hceil, Nat.add_mul, Nat.one_mul]
  · intro hfits k hk
    have hnext : k + 1 ≤ (total + size - 1) / size := by
      rw [Nat.le_div_iff_mul_le hsize, Nat.add_mul]
      omega
    have hend := Nat.mul_le_mul_right size hnext
    rw [Nat.add_mul, Nat.one_mul] at hend
    exact hend.trans hfits

/-- Between its two ends a page comes back exactly when the list ends before it, nothing is asked
for or the sum of cursor and limit fits; and the pages of one size, from the start to the first empty
one, make up the list exactly when the least multiple of the size past the list fits. -/
theorem listRevoked_exact_iff (s : State) (issuer : Address) :
    (∀ cursor limit, listRevoked s issuer cursor limit = .ok ((listRevokedForIssuer s issuer).extract cursor
        (min (cursor + limit) (listRevokedForIssuer s issuer).length)) ↔
      (listRevokedForIssuer s issuer).length ≤ cursor ∨ limit = 0 ∨ cursor + limit ≤ U32.max) ∧
    (∀ size, 1 ≤ size →
      ((∃ pages, Pages (readPage s issuer size) size 0 pages ∧
          pages.flatten = listRevokedForIssuer s issuer) ↔
        ((listRevokedForIssuer s issuer).length + size - 1) / size * size ≤ U32.max)) := by
  constructor
  · intro cursor limit
    rw [← page_eq_extract]
    exact listRevoked_eq_ok_iff
  · intro size hsize
    have hright := readsPages_readPage s issuer size
    have hreads : ∀ cursor, (∃ entries, readPage s issuer size cursor = some entries) ↔
        (listRevokedForIssuer s issuer).length ≤ cursor ∨ cursor + size ≤ U32.max := by
      intro cursor
      rw [readPage_eq]
      split
      case isTrue hread => exact iff_of_true ⟨_, rfl⟩ (by omega)
      case isFalse hread => exact iff_of_false (fun h => nomatch h) (by omega)
    rw [← ends_fit_iff hsize]
    constructor
    · rintro ⟨pages, hpages, -⟩ k hk
      have hread := hpages.read_of_lt hright hsize k (by rwa [Nat.zero_add])
      rw [Nat.zero_add, hreads] at hread
      omega
    · intro hfits
      have hpast : ∀ cursor, (listRevokedForIssuer s issuer).length ≤ cursor →
          ∃ entries, readPage s issuer size cursor = some entries :=
        fun cursor hend => (hreads cursor).mpr (Or.inl hend)
      have hread : ∀ k, 0 + k * size < (listRevokedForIssuer s issuer).length →
          ∃ entries, readPage s issuer size (0 + k * size) = some entries := by
        intro k hk
        rw [Nat.zero_add] at hk ⊢
        exact (hreads (k * size)).mpr (Or.inr (hfits k hk))
      obtain ⟨pages, hpages⟩ := exists_pages hright hsize hpast hread
      exact ⟨pages, hpages, hpages.flatten_eq hright hsize⟩

/-- The pages of one entry of a list of two. -/
theorem listRevoked_exact_iff_two :
    let s : State := { issuerRevokedList := Storage.empty.set (.account 2) [7, 8] }
    listRevoked s (.account 2) 1 10 = .ok [8] ∧
      ∃ pages, Pages (readPage s (.account 2) 1) 1 0 pages ∧ pages.flatten = [7, 8] := by
  intro s
  obtain ⟨hpage, hpages⟩ := listRevoked_exact_iff s (.account 2)
  exact ⟨(hpage 1 10).mpr (by decide), (hpages 1 le_rfl).mpr (by decide)⟩

/-- Asking for everything after the first entry traps. -/
theorem listRevoked_limit_overflows :
    let s : State := { issuerRevokedList := Storage.empty.set (.account 2) [7, 8] }
    listRevoked s (.account 2) 1 U32.max = .error .trap ∧
      (listRevokedForIssuer s (.account 2)).extract 1
        (min (1 + U32.max) (listRevokedForIssuer s (.account 2)).length) = [8] := ⟨rfl, rfl⟩

end StellarDidCredit.RevocationRegistry
