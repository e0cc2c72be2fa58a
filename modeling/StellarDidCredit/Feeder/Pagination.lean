import Mathlib.Data.List.TakeWhile
import StellarDidCredit.Feeder.OperationTypes

/-!
# Complete and partial statistics

Statistics that are not marked as partial should be those of the whole window, unless Horizon says
that there is no such account. The loop over the pages keeps to this, whatever the pages are and
whatever fails in between. The first request does not: an error that is neither a missing account
nor known to be transient is answered with empty statistics, as if there were nothing to report.
-/

namespace StellarDidCredit.Feeder

open CreditOracle (TxStats)
open Sync (HorizonStats)

variable {address : Address} {cutoff maxPageRetries : ℕ} {failures : ℕ → Option HorizonError}

/-- An operation that is not too old. -/
def inWindow (cutoff : ℕ) (op : HorizonOperationRecord) : Bool := cutoff ≤ op.createdAt

/-! ## The loops -/

/-- The loop over the records takes those before the first one that is too old. -/
theorem scanRecords_eq (records : List HorizonOperationRecord) (total : Aggregate) :
    scanRecords address cutoff records total =
      ((records.takeWhile (inWindow cutoff)).foldl (Aggregate.add address) total,
        records.any fun op => !inWindow cutoff op) := by
  induction records generalizing total with
  | nil => rfl
  | cons op records ih =>
    rw [scanRecords]
    split
    case isTrue hold => simp [inWindow, hold]
    case isFalse hrecent =>
      have hwindow : inWindow cutoff op = true := by simpa [inWindow] using hrecent
      rw [ih, List.takeWhile_cons_of_pos hwindow, List.foldl_cons, List.any_cons, hwindow]
      rfl

/-- What a result says about the operations of the pages that were still to be read. -/
structure ReadFrom (address : Address) (cutoff : ℕ) (total : Aggregate) (records : List HorizonOperationRecord)
    (later : List Page) (result : HorizonStats) : Prop where
  complete : result.isPartial = false → result.stats =
    (((records ++ later.flatMap Subtype.val).takeWhile (inWindow cutoff)).foldl (Aggregate.add address) total).stats
  prefixed : result.isPartial = true → ∃ count, result.stats =
    ((records ++ (later.take count).flatMap Subtype.val).foldl (Aggregate.add address) total).stats

/-- The loop on one page: it meets an operation that is too old, it runs out of tries for the next page,
the history ends, or it goes on with the next page. -/
theorem readPages_cases {later : List Page} {records : List HorizonOperationRecord} {total : Aggregate}
    {request : ℕ} {result : HorizonStats} (hrecords : records ≠ [])
    (h : readPages failures maxPageRetries address cutoff later records total request = .ok result) :
    (¬ (∀ op ∈ records, inWindow cutoff op) ∧
      result = ⟨((records.takeWhile (inWindow cutoff)).foldl (Aggregate.add address) total).stats, false⟩) ∨
    (∀ op ∈ records, inWindow cutoff op) ∧
      (result = ⟨(records.foldl (Aggregate.add address) total).stats, true⟩ ∨
        later = [] ∧ result = ⟨(records.foldl (Aggregate.add address) total).stats, false⟩ ∨
        ∃ next rest request', later = next :: rest ∧ readPages failures maxPageRetries address cutoff rest next.val
          (records.foldl (Aggregate.add address) total) request' = .ok result) := by
  rw [readPages.eq_def, if_neg hrecords, scanRecords_eq] at h
  by_cases hall : ∀ op ∈ records, inWindow cutoff op
  · have hany : (records.any fun op => !inWindow cutoff op) = false := by simpa using hall
    rw [hany, List.takeWhile_eq_self_iff.mpr hall] at h
    refine Or.inr ⟨hall, ?_⟩
    dsimp only at h
    split at h
    · exact absurd h (by simp)
    · exact Or.inl (Except.ok.inj h).symm
    · cases later with
      | nil => exact Or.inr (Or.inl ⟨rfl, (Except.ok.inj h).symm⟩)
      | cons next rest => exact Or.inr (Or.inr ⟨next, rest, _, rfl, h⟩)
  · have hany : (records.any fun op => !inWindow cutoff op) = true := by simpa using hall
    rw [hany] at h
    exact Or.inl ⟨hall, (Except.ok.inj h).symm⟩

/-- Behind an operation that is too old nothing is taken. -/
theorem takeWhile_append_of_old {records : List HorizonOperationRecord}
    (hold : ¬ ∀ op ∈ records, inWindow cutoff op) (rest : List HorizonOperationRecord) :
    (records ++ rest).takeWhile (inWindow cutoff) = records.takeWhile (inWindow cutoff) := by
  rw [List.takeWhile_append, if_neg]
  intro hlength
  exact hold (List.takeWhile_eq_self_iff.mp ((List.takeWhile_prefix _).eq_of_length hlength))

/-- The loop over the pages, by induction on the pages to come. -/
theorem readPages_readFrom {later : List Page} {records : List HorizonOperationRecord} {total : Aggregate}
    {request : ℕ} {result : HorizonStats} (hrecords : records ≠ [])
    (h : readPages failures maxPageRetries address cutoff later records total request = .ok result) :
    ReadFrom address cutoff total records later result := by
  induction later generalizing records total request with
  | nil =>
    obtain ⟨hold, rfl⟩ | ⟨hall, rfl | ⟨-, rfl⟩ | ⟨_, _, _, hlater, -⟩⟩ := readPages_cases hrecords h
    · exact ⟨fun _ => by simp, fun hmarked => absurd hmarked (by simp)⟩
    · exact ⟨fun hcomplete => absurd hcomplete (by simp), fun _ => ⟨0, by simp⟩⟩
    · refine ⟨fun _ => ?_, fun hmarked => absurd hmarked (by simp)⟩
      rw [List.flatMap_nil, List.append_nil, List.takeWhile_eq_self_iff.mpr hall]
    · exact absurd hlater (by simp)
  | cons next later ih =>
    obtain ⟨hold, rfl⟩ | ⟨hall, rfl | ⟨hlater, -⟩ | ⟨next', rest, request', hlater, hnext⟩⟩ :=
      readPages_cases hrecords h
    · exact ⟨fun _ => by rw [takeWhile_append_of_old hold], fun hmarked => absurd hmarked (by simp)⟩
    · exact ⟨fun hcomplete => absurd hcomplete (by simp), fun _ => ⟨0, by simp⟩⟩
    · exact absurd hlater (by simp)
    · obtain ⟨rfl, rfl⟩ := List.cons.inj hlater
      have hfrom := ih next.property hnext
      constructor
      · intro hcomplete
        rw [hfrom.complete hcomplete, List.flatMap_cons, List.takeWhile_append_of_pos hall, List.foldl_append]
      · intro hmarked
        obtain ⟨count, hstats⟩ := hfrom.prefixed hmarked
        refine ⟨count + 1, ?_⟩
        rw [hstats, List.take_succ_cons, List.flatMap_cons, ← List.foldl_append]

/-! ## The history -/

/-- Newest first, the operations that are not too old are those before the first one that is. -/
theorem takeWhile_eq_filter {ops : List HorizonOperationRecord}
    (hnewest : ops.Pairwise fun a b => b.createdAt ≤ a.createdAt) :
    ops.takeWhile (inWindow cutoff) = ops.filter (inWindow cutoff) := by
  induction ops with
  | nil => rfl
  | cons op ops ih =>
    obtain ⟨hfirst, hnewest⟩ := List.pairwise_cons.mp hnewest
    by_cases hop : inWindow cutoff op
    · rw [List.takeWhile_cons_of_pos hop, List.filter_cons_of_pos hop, ih hnewest]
    · rw [List.takeWhile_cons_of_neg hop, List.filter_cons_of_neg hop, eq_comm, List.filter_eq_nil_iff]
      intro older holder
      have hage := hfirst older holder
      simp only [inWindow, decide_eq_true_eq] at hop ⊢
      omega

/-- The operations of a history that count. -/
def History.window (history : History) (cutoff : ℕ) : List HorizonOperationRecord :=
  history.operations.filter (inWindow cutoff)

/-- Only an empty list has the statistics of nothing to report. -/
theorem aggregate_eq_empty_iff {ops : List HorizonOperationRecord} :
    emptyTxStats.stats = aggregate address ops ↔ ops = [] := by
  constructor
  · intro h
    have hcount := congrArg TxStats.txCount30d h.symm
    rw [aggregate_eq] at hcount
    have hnone : transactions ops = ∅ := Finset.card_eq_zero.mp hcount
    rwa [transactions, List.toFinset_eq_empty_iff, List.map_eq_nil_iff] at hnone
  · rintro rfl
    rfl

/-! ## The first request -/

/-- Horizon reports that there is no such account. -/
def HorizonError.ReportsNotFound (error : HorizonError) : Prop :=
  error.status = some 404 ∨
    error.messageHas (fun message => includes message "account" && includes message "not found")

/-- An error that is taken for a missing account, or is not known to be transient, without being the
report of a missing account. -/
def HorizonError.IsMisread (error : HorizonError) : Prop :=
  ¬ error.ReportsNotFound ∧ (error.resultCodes = true ∨ error.isTransientError = false)

/-- The error that ends the first request after the rate limits that are waited for. -/
def FirstRequestFails (failures : ℕ → Option HorizonError) (maxPageRetries : ℕ) (error : HorizonError) : Prop :=
  RefusedWith HorizonError.isRateLimited failures maxPageRetries 0 error

/-- The retries end with an error exactly when the first request is refused with it. -/
theorem callWithHorizonRateLimit_horizon_iff {error : HorizonError} :
    (callWithHorizonRateLimit failures maxPageRetries 0).1 = .error (.horizon error) ↔
      FirstRequestFails failures maxPageRetries error := by
  rw [FirstRequestFails, ← retry_answer_refused_iff ()]
  unfold callWithHorizonRateLimit
  cases retry HorizonError.isRateLimited (answer failures ()) maxPageRetries 0 with | mk ended request
  cases ended <;> simp

/-- What statistics without the mark of partial ones, and with it, promise. -/
structure Promised (failures : ℕ → Option HorizonError) (maxPageRetries : ℕ) (address : Address) (cutoff : ℕ)
    (history : History) : Prop where
  complete : ∀ stats, fetchHorizonStats failures maxPageRetries address cutoff history = .ok ⟨stats, false⟩ →
    (∃ error, FirstRequestFails failures maxPageRetries error ∧ error.ReportsNotFound) ∨
      stats = aggregate address (history.window cutoff)
  prefixed : ∀ stats, fetchHorizonStats failures maxPageRetries address cutoff history = .ok ⟨stats, true⟩ →
    ∃ count, stats = aggregate address ((history.pages.take count).flatMap Subtype.val)

/-- After the first page the promise is kept. -/
theorem promised_of_first {request : ℕ} {first : Page} {later : List Page} {history : History}
    {result : HorizonStats}
    (hpages : history.pages = first :: later)
    (h : readPages failures maxPageRetries address cutoff later first.val Aggregate.empty request = .ok result) :
    (result.isPartial = false → result.stats = aggregate address (history.window cutoff)) ∧
      (result.isPartial = true →
        ∃ count, result.stats = aggregate address ((history.pages.take count).flatMap Subtype.val)) := by
  have hfrom := readPages_readFrom first.property h
  constructor
  · intro hcomplete
    have hwindow : history.operations.takeWhile (inWindow cutoff) = history.window cutoff :=
      takeWhile_eq_filter history.newestFirst
    rw [hfrom.complete hcomplete, ← hwindow, History.operations, hpages]
    rfl
  · intro hmarked
    obtain ⟨count, hstats⟩ := hfrom.prefixed hmarked
    exact ⟨count + 1, by rw [hstats, hpages]; rfl⟩

/-- A result that is thrown promises nothing. -/
theorem promised_of_thrown {history : History} {thrown : Thrown}
    (h : fetchHorizonStats failures maxPageRetries address cutoff history = .error thrown) :
    Promised failures maxPageRetries address cutoff history :=
  ⟨fun _ hok => absurd (h.symm.trans hok) (by simp), fun _ hok => absurd (h.symm.trans hok) (by simp)⟩

/-- The promise of the statistics that are returned. -/
theorem promised_of_ok {history : History} {result : HorizonStats}
    (h : fetchHorizonStats failures maxPageRetries address cutoff history = .ok result) :
    Promised failures maxPageRetries address cutoff history ↔
      (result.isPartial = false →
        (∃ error, FirstRequestFails failures maxPageRetries error ∧ error.ReportsNotFound) ∨
        result.stats = aggregate address (history.window cutoff)) ∧
      (result.isPartial = true →
        ∃ count, result.stats = aggregate address ((history.pages.take count).flatMap Subtype.val)) := by
  constructor
  · intro hpromised
    obtain ⟨stats, isPartial⟩ := result
    exact ⟨fun hcomplete => hpromised.complete stats (hcomplete ▸ h), fun hmarked =>
      hpromised.prefixed stats (hmarked ▸ h)⟩
  · rintro ⟨hcomplete, hprefixed⟩
    constructor
    · intro stats hok
      obtain rfl := Except.ok.inj (h.symm.trans hok)
      exact hcomplete rfl
    · intro stats hok
      obtain rfl := Except.ok.inj (h.symm.trans hok)
      exact hprefixed rfl

/-- Empty statistics keep the promise for a missing account or an empty window only. -/
theorem promised_of_empty {history : History}
    (h : fetchHorizonStats failures maxPageRetries address cutoff history = .ok emptyTxStats) :
    Promised failures maxPageRetries address cutoff history ↔ history.window cutoff = [] ∨
      ∃ error, FirstRequestFails failures maxPageRetries error ∧ error.ReportsNotFound := by
  rw [promised_of_ok h, aggregate_eq_empty_iff]
  simp [emptyTxStats, or_comm]

/-- An error of the first request is answered with empty statistics when it reports a missing account or
is misread, and thrown otherwise. -/
theorem emptied_iff (error : HorizonError) :
    (error.isAccountNotFoundError = true ∨ error.isTransientError = false) ↔
      error.ReportsNotFound ∨ error.IsMisread := by
  unfold HorizonError.IsMisread HorizonError.ReportsNotFound HorizonError.isAccountNotFoundError
  simp only [decide_eq_true_eq]
  tauto

/-- After an answer to the first request the promise is kept. -/
theorem promised_of_answered {history : History} {request : ℕ} (hvalid : isValidStellarAddress address = true)
    (hcall : callWithHorizonRateLimit failures maxPageRetries 0 = (.ok (), request)) :
    Promised failures maxPageRetries address cutoff history := by
  have hfetch := fetchHorizonStats.eq_def failures maxPageRetries address cutoff history
  rw [if_pos hvalid, hcall] at hfetch
  dsimp only at hfetch
  cases hpages : history.pages with
  | nil =>
    rw [hpages] at hfetch
    have hnone : history.window cutoff = [] := by rw [History.window, History.operations, hpages]; rfl
    exact (promised_of_empty hfetch).mpr (Or.inl hnone)
  | cons first later =>
    rw [hpages] at hfetch
    cases hread : readPages failures maxPageRetries address cutoff later first.val Aggregate.empty request with
    | error thrown => exact promised_of_thrown (hfetch.trans hread)
    | ok result =>
      obtain ⟨hcomplete, hprefixed⟩ := promised_of_first hpages hread
      exact (promised_of_ok (hfetch.trans hread)).mpr ⟨fun h => Or.inr (hcomplete h), hprefixed⟩

/-- After an error that ends the first request the promise is kept for an empty window, and where the error
is not misread. -/
theorem promised_of_refused {history : History} {error : HorizonError} {request : ℕ}
    (hvalid : isValidStellarAddress address = true)
    (hcall : callWithHorizonRateLimit failures maxPageRetries 0 = (.error (.horizon error), request)) :
    Promised failures maxPageRetries address cutoff history ↔ history.window cutoff = [] ∨ ¬ error.IsMisread := by
  have hfetch := fetchHorizonStats.eq_def failures maxPageRetries address cutoff history
  rw [if_pos hvalid, hcall] at hfetch
  dsimp only at hfetch
  have hfails (error' : HorizonError) : FirstRequestFails failures maxPageRetries error' ↔ error = error' := by
    rw [← callWithHorizonRateLimit_horizon_iff, hcall]
    simp
  have hemptied := emptied_iff error
  by_cases hempty : error.isAccountNotFoundError = true ∨ error.isTransientError = false
  · have hresult : fetchHorizonStats failures maxPageRetries address cutoff history = .ok emptyTxStats := by
      rw [hfetch]
      obtain hnotFound | htransient := hempty
      · exact if_pos hnotFound
      · rw [htransient]
        exact ite_self _
    rw [promised_of_empty hresult]
    simp only [hfails, exists_eq_left']
    have hnot : error.IsMisread → ¬ error.ReportsNotFound := And.left
    tauto
  · have hresult : fetchHorizonStats failures maxPageRetries address cutoff history = .error (.horizon error) := by
      obtain ⟨hfound, htransient⟩ := not_or.mp hempty
      rw [hfetch]
      exact (if_neg hfound).trans (if_pos (by simpa using htransient))
    exact iff_of_true (promised_of_thrown hresult) (by tauto)

/-- The statistics keep their promise exactly when nothing is to be reported, or the first request does
not end with an error that is misread. -/
theorem promised_iff (failures : ℕ → Option HorizonError) (maxPageRetries : ℕ) (address : Address) (cutoff : ℕ)
    (history : History) (hvalid : isValidStellarAddress address = true) :
    Promised failures maxPageRetries address cutoff history ↔
      history.window cutoff = [] ∨ ∀ error, FirstRequestFails failures maxPageRetries error →
        ¬ error.IsMisread := by
  cases hcall : callWithHorizonRateLimit failures maxPageRetries 0 with | mk answer request
  have hfails (error : HorizonError) : FirstRequestFails failures maxPageRetries error ↔
      answer = .error (.horizon error) := by
    rw [← callWithHorizonRateLimit_horizon_iff, hcall]
  match answer with
  | .ok () =>
    exact iff_of_true (promised_of_answered hvalid hcall) (Or.inr fun error h => by simp [hfails] at h)
  | .error .rateLimit =>
    have hfetch := fetchHorizonStats.eq_def failures maxPageRetries address cutoff history
    rw [if_pos hvalid, hcall] at hfetch
    exact iff_of_true (promised_of_thrown hfetch) (Or.inr fun error h => by simp [hfails] at h)
  | .error (.horizon error) =>
    rw [promised_of_refused hvalid hcall]
    simp [hfails]

/-- An answer of Horizon with nothing but a status. -/
def HorizonError.ofStatus (status : ℕ) (headers : Bool) : HorizonError := ⟨some status, none, none, false, headers⟩

/-- The history of one payment on one page. -/
def sampleHistory : History := ⟨[⟨[samplePayment 2], by simp⟩], by simp [samplePayment]⟩

/-- A rate limit at the first request and a server error at the next page, each of them once. -/
def passingFailures : ℕ → Option HorizonError
  | 0 => some (.ofStatus 429 true)
  | 2 => some (.ofStatus 503 false)
  | _ => none

/-- Failures that are tried again do no harm. -/
theorem promised_iff_passing : Promised passingFailures 3 (.account 1) 0 sampleHistory := by
  refine (promised_iff passingFailures 3 (.account 1) 0 sampleHistory rfl).mpr (Or.inr fun error h => ?_)
  have hfirst : passingFailures 0 = some (.ofStatus 429 true) := rfl
  rw [FirstRequestFails, refusedWith_of_again hfirst (by decide)] at h
  obtain ⟨rest, -, hrest⟩ := h
  exact absurd hrest (not_refusedWith_of_success rfl)

/-- Every request meets a bad gateway. -/
def badGateway : ℕ → Option HorizonError := fun _ => some (.ofStatus 502 false)

/-- A bad gateway at the first request: the statistics are empty, and not marked as partial. -/
theorem not_promised_badGateway : ¬ ∀ failures maxPageRetries address cutoff history,
    isValidStellarAddress address = true → Promised failures maxPageRetries address cutoff history := by
  intro h
  have hpromised := h badGateway 3 (.account 1) 0 sampleHistory rfl
  rw [promised_of_empty rfl] at hpromised
  obtain hnone | ⟨error, hfails, hreported⟩ := hpromised
  · exact absurd hnone (by decide)
  · have hfirst : badGateway 0 = some (.ofStatus 502 false) := rfl
    rw [FirstRequestFails, refusedWith_of_final hfirst (by decide)] at hfails
    rw [← hfails] at hreported
    exact absurd hreported (by unfold HorizonError.ReportsNotFound; decide)

end StellarDidCredit.Feeder
