import Mathlib.Algebra.Order.Ring.Nat
import Mathlib.Data.List.Basic
import Mathlib.Tactic.Common

/-!
# Reading a log in pages

A log grows by one batch of entries for each tick of a clock, so its entries are in the order of
their times. A reader keeps a cursor, asks for the entries from the cursor on, and is given at
most a page of them. A reader that moves its cursor past the present has seen every entry since
its start exactly once and in order, as long as every page held all there was and nothing is
written later at a time the cursor has passed.
-/

namespace StellarDidCredit

variable {α : Type}

/-- An entry with the time it was written. -/
structure Stamped (α : Type) where
  time : ℕ
  entry : α
  deriving DecidableEq, Repr

/-- A log at some time, with its entries in order and none in the future. -/
structure EventLog (α : Type) where
  now : ℕ
  entries : List (Stamped α)
  ordered : entries.Pairwise fun e e' => e.time ≤ e'.time
  past : ∀ e ∈ entries, e.time ≤ now

namespace EventLog

/-- A log without entries. -/
def empty (now : ℕ) : EventLog α where
  now
  entries := []
  ordered := List.Pairwise.nil
  past _ h := absurd h List.not_mem_nil

/-- The next tick, with the entries written in it. -/
def close (log : EventLog α) (batch : List α) : EventLog α where
  now := log.now + 1
  entries := log.entries ++ batch.map (Stamped.mk (log.now + 1))
  ordered := by
    have hbatch : (batch.map (Stamped.mk (log.now + 1))).Pairwise fun e e' => e.time ≤ e'.time :=
      List.pairwise_map.mpr (List.pairwise_of_forall fun _ _ => le_refl _)
    refine List.pairwise_append.mpr ⟨log.ordered, hbatch, fun e he e' he' => ?_⟩
    obtain ⟨entry, -, rfl⟩ := List.mem_map.mp he'
    exact (log.past e he).trans (Nat.le_succ _)
  past := by
    intro e he
    cases List.mem_append.mp he with
    | inl hold => exact (log.past e hold).trans (Nat.le_succ _)
    | inr hnew =>
      obtain ⟨entry, -, rfl⟩ := List.mem_map.mp hnew
      exact le_refl _

/-- The entries from a time on. -/
def since (log : EventLog α) (start : ℕ) : List (Stamped α) := log.entries.filter fun e => start ≤ e.time

/-- The first entries from a time on. -/
def page (log : EventLog α) (start limit : ℕ) : List (Stamped α) := (log.since start).take limit

/-- The entries from one time on and before another. -/
def between (log : EventLog α) (start stop : ℕ) : List (Stamped α) :=
  log.entries.filter fun e => start ≤ e.time ∧ e.time < stop

/-- The entries that a reader asks for, as a log of their own. -/
def only (log : EventLog α) (wanted : Stamped α → Bool) : EventLog α where
  now := log.now
  entries := log.entries.filter wanted
  ordered := log.ordered.filter _
  past e he := log.past e (List.mem_filter.mp he).1

variable {log : EventLog α} {start cursor stop limit : ℕ} {wanted : Stamped α → Bool}

/-- Closing a ledger starts the next one. -/
@[simp] theorem close_now {batch : List α} : (log.close batch).now = log.now + 1 := rfl

/-- A tick of the log is a tick of what a reader asks for. -/
theorem only_close (batch : List α) :
    (log.close batch).only wanted =
      (log.only wanted).close (batch.filter fun entry => wanted ⟨log.now + 1, entry⟩) := by
  simp only [only, close, List.filter_append, List.filter_map]
  rfl

/-- What a reader asks for among the entries from a time on. -/
theorem only_since : (log.only wanted).since start = (log.since start).filter wanted := by
  simp only [only, since, List.filter_filter, Bool.and_comm]

/-- Everything so far is before a time that has not come yet. -/
theorem since_eq_between (hstop : log.now < stop) : log.since start = log.between start stop := by
  unfold since between
  apply List.filter_congr
  intro e he
  have hpast := log.past e he
  simp only [decide_eq_decide]
  omega

/-- There is nothing between a time and itself. -/
theorem between_self : log.between start start = [] := by
  unfold between
  apply List.filter_eq_nil_iff.mpr
  intro e he
  simp only [decide_eq_true_eq]
  omega

/-- What lies between two times after a tick is what lay there before and the part of the batch
that is there. -/
theorem between_close (batch : List α) :
    (log.close batch).between start stop =
      log.between start stop ++
        if start ≤ log.now + 1 ∧ log.now + 1 < stop then batch.map (Stamped.mk (log.now + 1)) else [] := by
  have hsame : ∀ e ∈ batch.map (Stamped.mk (log.now + 1)), e.time = log.now + 1 := by
    intro e he
    obtain ⟨entry, -, rfl⟩ := List.mem_map.mp he
    rfl
  simp only [between, close, List.filter_append]
  congr 1
  split
  case isTrue hin =>
    apply List.filter_eq_self.mpr
    intro e he
    rw [hsame e he]
    exact decide_eq_true hin
  case isFalse hout =>
    apply List.filter_eq_nil_iff.mpr
    intro e he
    rw [hsame e he]
    simpa using hout

/-- A tick takes nothing away. -/
theorem length_between_close_le (batch : List α) :
    (log.between start stop).length ≤ ((log.close batch).between start stop).length := by
  rw [between_close, List.length_append]
  exact Nat.le_add_right _ _

/-- A tick adds nothing at a time that is not past, and nothing at all without a batch. -/
theorem between_close_of {batch : List α} (h : stop ≤ log.now + 1 ∨ batch = []) :
    (log.close batch).between start stop = log.between start stop := by
  rw [between_close]
  cases h with
  | inl hstop => rw [if_neg (by omega), List.append_nil]
  | inr hbatch => rw [hbatch, List.map_nil, ite_self, List.append_nil]

/-- In a list that is ordered by a key, two adjoining stretches of the keys make one. -/
theorem filter_append_filter {key : α → ℕ} {entries : List α}
    (hordered : entries.Pairwise fun e e' => key e ≤ key e') (hstart : start ≤ cursor) (hstop : cursor ≤ stop) :
    entries.filter (fun e => start ≤ key e ∧ key e < cursor) ++
        entries.filter (fun e => cursor ≤ key e ∧ key e < stop) =
      entries.filter fun e => start ≤ key e ∧ key e < stop := by
  induction entries with
  | nil => rfl
  | cons e rest ih =>
    obtain ⟨hfirst, hrest⟩ := List.pairwise_cons.mp hordered
    have htail := ih hrest
    by_cases hbefore : key e < cursor
    · have hlater : ¬cursor ≤ key e := Nat.not_le.mpr hbefore
      have hsame : (start ≤ key e ∧ key e < cursor) ↔ (start ≤ key e ∧ key e < stop) := by omega
      simp only [List.filter_cons, hsame, hlater, false_and, decide_false, Bool.false_eq_true, if_false]
      split
      · rw [List.cons_append, htail]
      · exact htail
    · -- from here on nothing is before the cursor
      have hnone : rest.filter (fun e => start ≤ key e ∧ key e < cursor) = [] := by
        apply List.filter_eq_nil_iff.mpr
        intro e' he'
        have hle := hfirst e' he'
        simp only [decide_eq_true_eq]
        omega
      have hsame : (cursor ≤ key e ∧ key e < stop) ↔ (start ≤ key e ∧ key e < stop) := by omega
      rw [hnone, List.nil_append] at htail
      simp only [List.filter_cons, hbefore, hsame, and_false, decide_false, Bool.false_eq_true, if_false, hnone,
        List.nil_append, htail]

/-- Two adjoining stretches of the log make one. -/
theorem between_append (hstart : start ≤ cursor) (hstop : cursor ≤ stop) :
    log.between start cursor ++ log.between cursor stop = log.between start stop :=
  filter_append_filter log.ordered hstart hstop

/-- How much there is up to a time that has not come yet. -/
theorem length_between (hstart : start ≤ cursor) (hcursor : cursor ≤ stop) (hstop : log.now < stop) :
    (log.between start stop).length = (log.between start cursor).length + (log.since cursor).length := by
  rw [← between_append hstart hcursor, List.length_append, since_eq_between hstop]

/-- A page that holds everything from its start on. -/
theorem page_eq_since (hfew : (log.since cursor).length ≤ limit) : log.page cursor limit = log.since cursor :=
  List.take_of_length_le hfew

/-- The latest time of the entries, or the given one if that is later. -/
def latest (time : ℕ) (entries : List (Stamped α)) : ℕ :=
  entries.foldl (fun highest e => max highest e.time) time

/-- The latest time is no earlier than the given one. -/
theorem le_latest (time : ℕ) (entries : List (Stamped α)) : time ≤ latest time entries := by
  unfold latest
  induction entries generalizing time with
  | nil => exact le_refl _
  | cons e rest ih => exact (le_max_left time e.time).trans (ih _)

/-- The latest time is within a bound that all times are within. -/
theorem latest_le {time bound : ℕ} {entries : List (Stamped α)} (htime : time ≤ bound)
    (hentries : ∀ e ∈ entries, e.time ≤ bound) : latest time entries ≤ bound := by
  unfold latest
  induction entries generalizing time with
  | nil => exact htime
  | cons e rest ih =>
    have hfirst := hentries e List.mem_cons_self
    exact ih (max_le htime hfirst) fun e' he' => hentries e' (List.mem_cons_of_mem _ he')

/-- No entry of a page is in the future. -/
theorem time_le_of_mem_page {e : Stamped α} (h : e ∈ log.page start limit) : e.time ≤ log.now :=
  log.past e (List.mem_filter.mp (List.mem_of_mem_take h)).1

/-- Every entry of a page is from its start on. -/
theorem le_time_of_mem_page {e : Stamped α} (h : e ∈ log.page start limit) : start ≤ e.time := by
  have hstart := (List.mem_filter.mp (List.mem_of_mem_take h)).2
  exact of_decide_eq_true hstart

end EventLog

/-! ## Readers -/

/-- What a reader has seen is what the log holds from its start up to its cursor. -/
structure Follows (log : EventLog α) (start cursor : ℕ) (seen : List (Stamped α)) : Prop where
  seen_eq : seen = log.between start cursor
  start_le : start ≤ cursor

namespace Follows

variable {log : EventLog α} {start cursor stop limit : ℕ} {seen : List (Stamped α)}

/-- A reader that begins has seen nothing. -/
theorem begins : Follows log start start [] := ⟨EventLog.between_self.symm, le_refl _⟩

/-- The reader is not disturbed by what is written at a time it has not passed. -/
theorem close (h : Follows log start cursor seen) {batch : List α}
    (hbatch : cursor ≤ log.now + 1 ∨ batch = []) : Follows (log.close batch) start cursor seen :=
  ⟨h.seen_eq.trans (EventLog.between_close_of hbatch).symm, h.start_le⟩

/-- A reader that has seen all from its cursor on moves past the present. -/
theorem poll (h : Follows log start cursor seen) (hcursor : cursor ≤ stop) (hstop : log.now < stop) :
    Follows log start stop (seen ++ log.since cursor) := by
  refine ⟨?_, h.start_le.trans hcursor⟩
  rw [EventLog.since_eq_between hstop, h.seen_eq, EventLog.between_append h.start_le hcursor]

/-- A reader that moves past the present with less than that has missed something. -/
theorem length_lt_between (h : Follows log start cursor seen) (hcursor : cursor ≤ stop) (hstop : log.now < stop)
    {count : ℕ} (hcount : count < seen.length + (log.since cursor).length) :
    count < (log.between start stop).length := by
  rw [EventLog.length_between h.start_le hcursor hstop, ← h.seen_eq]
  exact hcount

end Follows

end StellarDidCredit
