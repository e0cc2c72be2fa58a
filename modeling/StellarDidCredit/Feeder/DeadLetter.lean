import Mathlib.Data.List.DropRight
import StellarDidCredit.Lib.Run
import StellarDidCredit.Feeder.Cycle

/-!
# Subjects that keep failing

A subject is a dead letter after so many cycles in a row that threw for it. What the feeder keeps about
a subject is a fold over the results of its own calls. It enters the set as documented, but it leaves
the set with every call that returns, also when the call synced nothing: after a rate limit, an aborted
signal, or partial statistics that are not submitted.
-/

namespace StellarDidCredit.Feeder.Cycle

variable {config : Config} {state final : State} {subject : Address} {event : Event}
  {history : List (Transition State Event)}

/-! ## The calls of a cycle -/

/-- The calls of a cycle and their results. -/
def attemptsFrom (config : Config) (answers : ℕ → Answers) : List Address → ℕ → Bool → List (Address × FeedResult)
  | [], _, _ => []
  | subject :: subjects, calls, aborted =>
    if aborted then []
    else
      (subject, feedSubject config (answers calls)) ::
        attemptsFrom config answers subjects (calls + 1) (answers calls).abortedAt.isSome

/-- The calls of `runCycle`. -/
def attempts (config : Config) (event : Event) : List (Address × FeedResult) :=
  attemptsFrom config event.answers (validSubjects config) 0 event.aborted

/-- The results of a cycle for one subject. -/
def resultsOf (config : Config) (subject : Address) (event : Event) : List FeedResult :=
  ((attempts config event).filter fun attempt => attempt.1 = subject).map Prod.snd

/-- A cycle records its calls one after the other. -/
theorem runCycle_eq (config : Config) (state : State) (event : Event) : runCycle config state event =
    (attempts config event).foldl (fun state attempt => state.record config attempt.1 attempt.2) state := by
  unfold runCycle attempts
  generalize validSubjects config = subjects
  generalize event.aborted = aborted
  generalize 0 = calls
  induction subjects generalizing calls aborted state with
  | nil => rfl
  | cons subject subjects ih =>
    rw [runCycle.loop, attemptsFrom]
    cases aborted with
    | true => rfl
    | false => exact ih _ _ _

/-- The calls of a cycle are for some of the valid subjects, each in its place. -/
theorem attempts_sublist (config : Config) (event : Event) :
    ((attempts config event).map Prod.fst).Sublist config.subjects := by
  have hvalid : (validSubjects config).Sublist config.subjects := List.filter_sublist
  refine List.Sublist.trans ?_ hvalid
  unfold attempts
  generalize validSubjects config = subjects
  generalize event.aborted = aborted
  generalize 0 = calls
  induction subjects generalizing calls aborted with
  | nil => simp [attemptsFrom]
  | cons subject subjects ih =>
    rw [attemptsFrom]
    cases aborted with
    | true => simp
    | false => exact (ih _ _).cons_cons subject

/-- With each subject configured once, a cycle calls for it once at most. -/
theorem resultsOf_cases (hnodup : config.subjects.Nodup) (subject : Address) (event : Event) :
    resultsOf config subject event = [] ∨ ∃ result, resultsOf config subject event = [result] := by
  have hkeys : ((attempts config event).map Prod.fst).Nodup := (attempts_sublist config event).nodup hnodup
  have hlength : (resultsOf config subject event).length ≤ 1 := by
    have hcount := List.nodup_iff_count_le_one.mp hkeys subject
    rw [List.count_eq_length_filter, List.filter_map, List.length_map] at hcount
    simpa [resultsOf, Function.comp_def, beq_eq_decide] using hcount
  cases hresults : resultsOf config subject event with
  | nil => exact Or.inl rfl
  | cons result rest =>
    rw [hresults, List.length_cons] at hlength
    obtain rfl := List.length_eq_zero_iff.mp (by omega : rest.length = 0)
    exact Or.inr ⟨result, rfl⟩

/-! ## What is kept about one subject -/

/-- The failures of a subject that are counted. -/
def State.failures (state : State) (subject : Address) : ℕ := (state.failureCounts subject).getD 0

/-- A call for a subject changes what is kept about it by its result alone. -/
theorem record_self (state : State) (subject : Address) (result : FeedResult) :
    (state.record config subject result).failures subject =
        (if result = .thrown then state.failures subject + 1 else 0) ∧
      (subject ∈ (state.record config subject result).deadLetterSubjects ↔ result = .thrown ∧
        (subject ∈ state.deadLetterSubjects ∨ config.maxConsecutiveFailures ≤ state.failures subject + 1)) := by
  cases result
  case thrown =>
    refine ⟨by simp [State.record, State.failures], ?_⟩
    simp only [State.record, State.failures, true_and]
    split
    case isTrue hreached => simp [hreached]
    case isFalse hbelow => simp [hbelow]
  all_goals simp [State.record, State.failures]

/-- A call for another subject changes nothing that is kept about it. -/
theorem record_of_ne {other : Address} (hother : subject ≠ other) (state : State) (result : FeedResult) :
    (state.record config other result).failures subject = state.failures subject ∧
      (subject ∈ (state.record config other result).deadLetterSubjects ↔ subject ∈ state.deadLetterSubjects) := by
  cases result
  case thrown =>
    refine ⟨by simp [State.record, State.failures, Storage.set_of_ne _ _ hother], ?_⟩
    simp only [State.record]
    split <;> simp [hother]
  all_goals simp [State.record, State.failures, Storage.remove_of_ne _ hother, hother]

/-- The same is kept about a subject. -/
structure SameFor (subject : Address) (a b : State) : Prop where
  failures : a.failures subject = b.failures subject
  deadLetter : subject ∈ a.deadLetterSubjects ↔ subject ∈ b.deadLetterSubjects

/-- The calls for the other subjects can be left out, whatever their results are. -/
theorem sameFor_foldl (config : Config) (attempts : List (Address × FeedResult)) {a b : State}
    (hsame : SameFor subject a b) :
    SameFor subject (attempts.foldl (fun state attempt => state.record config attempt.1 attempt.2) a)
      ((attempts.filter fun attempt => attempt.1 = subject).foldl
        (fun state attempt => state.record config attempt.1 attempt.2) b) := by
  induction attempts generalizing a b with
  | nil => exact hsame
  | cons attempt attempts ih =>
    obtain ⟨other, result⟩ := attempt
    by_cases hother : other = subject
    · rw [List.filter_cons_of_pos (by simpa using hother), List.foldl_cons, List.foldl_cons, hother]
      obtain ⟨hfailures, hdead⟩ := record_self a subject result
      obtain ⟨hfailures', hdead'⟩ := record_self b subject result
      refine ih ⟨?_, ?_⟩
      · rw [hfailures, hfailures', hsame.failures]
      · rw [hdead, hdead', hsame.failures, hsame.deadLetter]
    · rw [List.filter_cons_of_neg (by simpa using hother), List.foldl_cons]
      obtain ⟨hfailures, hdead⟩ := record_of_ne (Ne.symm hother) a result
      exact ih ⟨hfailures.trans hsame.failures, hdead.trans hsame.deadLetter⟩

/-- A cycle without a call for the subject changes nothing that is kept about it. -/
theorem sameFor_of_none (h : resultsOf config subject event = []) (state : State) :
    SameFor subject (runCycle config state event) state := by
  have hsame := sameFor_foldl config (attempts config event) (⟨rfl, Iff.rfl⟩ : SameFor subject state state)
  rwa [← runCycle_eq, List.map_eq_nil_iff.mp h] at hsame

/-- A cycle with one call for the subject records its result. -/
theorem sameFor_of_one {result : FeedResult} (h : resultsOf config subject event = [result]) (state : State) :
    SameFor subject (runCycle config state event) (state.record config subject result) := by
  have hsame := sameFor_foldl config (attempts config event) (⟨rfl, Iff.rfl⟩ : SameFor subject state state)
  obtain ⟨attempt, hattempt, hresult⟩ := List.map_eq_singleton_iff.mp h
  have hsubject : attempt.1 = subject := by
    have hmem : attempt ∈ (attempts config event).filter fun attempt => attempt.1 = subject :=
      hattempt ▸ List.mem_singleton_self attempt
    simpa using (List.mem_filter.mp hmem).2
  rw [← runCycle_eq, hattempt, List.foldl_cons, List.foldl_nil, hsubject, hresult] at hsame
  exact hsame

/-! ## Failures in a row -/

/-- The cycle calls for the subject. -/
def Attempted (config : Config) (subject : Address) (event : Event) : Prop := resultsOf config subject event ≠ []

/-- The call for the subject throws. -/
def Throws (config : Config) (subject : Address) (event : Event) : Prop := .thrown ∈ resultsOf config subject event

instance (config : Config) (subject : Address) (event : Event) : Decidable (Attempted config subject event) :=
  inferInstanceAs (Decidable (_ ≠ _))

instance (config : Config) (subject : Address) (event : Event) : Decidable (Throws config subject event) :=
  inferInstanceAs (Decidable (_ ∈ _))

/-- The number of cycles at the end of a history, among those that called for the subject, in which the
call threw. -/
def consecutive (config : Config) (subject : Address) (history : List (Transition State Event)) : ℕ :=
  ((history.filter fun t => Attempted config subject t.event).rtakeWhile fun t =>
    Throws config subject t.event).length

/-- One more cycle adds to the failures in a row, ends them, or leaves them alone. -/
theorem consecutive_concat (history : List (Transition State Event)) (t : Transition State Event) :
    consecutive config subject (history ++ [t]) =
      if Attempted config subject t.event then
        if Throws config subject t.event then consecutive config subject history + 1 else 0
      else consecutive config subject history := by
  unfold consecutive
  rw [List.filter_append]
  by_cases hattempted : Attempted config subject t.event
  · rw [if_pos hattempted, List.filter_cons_of_pos (by simpa using hattempted), List.filter_nil]
    by_cases hthrows : Throws config subject t.event
    · rw [if_pos hthrows, List.rtakeWhile_concat_pos _ _ _ (by simpa using hthrows), List.length_append,
        List.length_singleton]
    · rw [if_neg hthrows, List.rtakeWhile_concat_neg _ _ _ (by simpa using hthrows), List.length_nil]
  · rw [if_neg hattempted, List.filter_cons_of_neg (by simpa using hattempted), List.filter_nil, List.append_nil]

/-- The counter is the number of failures in a row, and the set holds those whose counter has reached the
threshold. -/
structure Counted (config : Config) (subject : Address) (history : List (Transition State Event)) (state : State) :
    Prop where
  failures : state.failures subject = consecutive config subject history
  deadLetter : subject ∈ state.deadLetterSubjects ↔
    config.maxConsecutiveFailures ≤ consecutive config subject history

/-- The invariant of a run, by induction on its cycles: a cycle calls once for the subject, or not at all. -/
theorem counted_of_run (hnodup : config.subjects.Nodup) (hrun : Run (StepOf (next config)) .initial history final)
    (subject : Address) : Counted config subject history final := by
  induction hrun with
  | nil =>
    refine ⟨rfl, ?_⟩
    have hpos := config.threshold_pos
    simp [State.initial, consecutive]
    omega
  | @snoc history s e s' _ hstep ih =>
    obtain rfl : runCycle config s e = s' := Option.some.inj hstep
    obtain hnone | ⟨result, hone⟩ := resultsOf_cases hnodup subject e
    · have hsame := sameFor_of_none hnone s
      have hcount : consecutive config subject (history ++ [⟨s, e, runCycle config s e⟩]) =
          consecutive config subject history := by
        rw [consecutive_concat, if_neg (by simpa [Attempted] using hnone)]
      exact ⟨by rw [hcount, hsame.failures, ih.failures], by rw [hcount, hsame.deadLetter, ih.deadLetter]⟩
    · have hsame := sameFor_of_one hone s
      obtain ⟨hfailures, hdead⟩ := record_self s subject result
      have hcount : consecutive config subject (history ++ [⟨s, e, runCycle config s e⟩]) =
          if result = .thrown then consecutive config subject history + 1 else 0 := by
        rw [consecutive_concat, if_pos (by simp [Attempted, hone])]
        simp [Throws, hone, eq_comm]
      refine ⟨by rw [hcount, hsame.failures, hfailures, ih.failures], ?_⟩
      rw [hcount, hsame.deadLetter, hdead, ih.failures, ih.deadLetter]
      by_cases hthrown : result = .thrown
      · rw [if_pos hthrown]
        constructor
        · rintro ⟨-, hreached | hreached⟩ <;> omega
        · exact fun hreached => ⟨hthrown, Or.inr hreached⟩
      · rw [if_neg hthrown]
        have hpos := config.threshold_pos
        exact iff_of_false (fun h => hthrown h.1) (by omega)

/-! ## The accounting -/

/-- What the feeder wrote is confirmed, or there was nothing to write. -/
def FeedResult.IsConfirmed (result : FeedResult) : Prop := result = .synced ∨ result = .unchanged

/-- The documented accounting over a history of cycles. -/
structure Accounted (config : Config) (history : List (Transition State Event)) (final : State) : Prop where
  /-- A subject enters the set when the calls for it threw in so many cycles in a row. -/
  enters : ∀ earlier t later subject, history = earlier ++ t :: later → subject ∉ t.before.deadLetterSubjects →
    (subject ∈ t.after.deadLetterSubjects ↔ Attempted config subject t.event ∧
      config.maxConsecutiveFailures ≤ consecutive config subject (earlier ++ [t]))
  /-- It leaves the set in a cycle that confirms its data. -/
  leaves : ∀ t ∈ history, ∀ subject, subject ∈ t.before.deadLetterSubjects → subject ∉ t.after.deadLetterSubjects →
    ∃ result ∈ resultsOf config subject t.event, result.IsConfirmed
  /-- Its counter depends on its own results only. -/
  counts : ∀ subject, final.failures subject = consecutive config subject history

/-- A call for a subject in the set that returns has confirmed its data. -/
def ReturnsConfirmed (config : Config) (t : Transition State Event) : Prop :=
  ∀ subject ∈ t.before.deadLetterSubjects, ∀ result ∈ resultsOf config subject t.event,
    result = .thrown ∨ result.IsConfirmed

/-- A subject in the set leaves it exactly with a call that returns. -/
theorem mem_runCycle_iff (hnodup : config.subjects.Nodup) (hmem : subject ∈ state.deadLetterSubjects) :
    subject ∈ (runCycle config state event).deadLetterSubjects ↔
      ∀ result ∈ resultsOf config subject event, result = .thrown := by
  obtain hnone | ⟨result, hone⟩ := resultsOf_cases hnodup subject event
  · rw [(sameFor_of_none hnone state).deadLetter, hnone]
    simpa using hmem
  · rw [(sameFor_of_one hone state).deadLetter, (record_self state subject result).2, hone]
    simp [hmem]

/-- A subject outside the set enters it with a failure that completes the threshold. -/
theorem enters_of_run (hnodup : config.subjects.Nodup) {earlier later : List (Transition State Event)}
    {t : Transition State Event} (hrun : Run (StepOf (next config)) .initial (earlier ++ t :: later) final)
    (hout : subject ∉ t.before.deadLetterSubjects) :
    subject ∈ t.after.deadLetterSubjects ↔ Attempted config subject t.event ∧
      config.maxConsecutiveFailures ≤ consecutive config subject (earlier ++ [t]) := by
  obtain ⟨hbefore, hstep, -⟩ := hrun.around
  have hout' := (counted_of_run hnodup hbefore subject).deadLetter
  have hafter := (counted_of_run hnodup (hbefore.snoc hstep) subject).deadLetter
  rw [hafter, iff_and_self]
  intro hreached
  by_contra hnone
  rw [consecutive_concat, if_neg hnone] at hreached
  exact hout (hout'.mpr hreached)

/-- In every run, with each subject configured once, the accounting is the documented one exactly when
no call for a subject in the set returns without confirming its data. -/
theorem accounted_iff (config : Config) (history : List (Transition State Event)) (final : State)
    (hnodup : config.subjects.Nodup) (hrun : Run (StepOf (next config)) .initial history final) :
    Accounted config history final ↔ ∀ t ∈ history, ReturnsConfirmed config t := by
  constructor
  · intro haccounted t ht subject hmem result hresult
    obtain hthrown | hreturned := eq_or_ne result .thrown
    · exact Or.inl hthrown
    obtain hafter : runCycle config t.before t.event = t.after := Option.some.inj (hrun.step_of_mem ht)
    have hleft : subject ∉ t.after.deadLetterSubjects := by
      rw [← hafter, mem_runCycle_iff hnodup hmem]
      exact fun hall => hreturned (hall result hresult)
    obtain ⟨confirmed, hconfirmed, hkind⟩ := haccounted.leaves t ht subject hmem hleft
    obtain hnone | ⟨only, hone⟩ := resultsOf_cases hnodup subject t.event
    · rw [hnone] at hresult
      exact absurd hresult List.not_mem_nil
    · rw [hone, List.mem_singleton] at hresult hconfirmed
      exact Or.inr (hresult.trans hconfirmed.symm ▸ hkind)
  · intro hcond
    refine ⟨?_, ?_, fun subject => (counted_of_run hnodup hrun subject).failures⟩
    · rintro earlier t later subject rfl hout
      exact enters_of_run hnodup hrun hout
    · intro t ht subject hmem hleft
      obtain hafter : runCycle config t.before t.event = t.after := Option.some.inj (hrun.step_of_mem ht)
      rw [← hafter, mem_runCycle_iff hnodup hmem] at hleft
      push Not at hleft
      obtain ⟨result, hresult, hreturned⟩ := hleft
      exact ⟨result, hresult, (hcond t ht subject hmem result hresult).resolve_left hreturned⟩

/-! ## Sample runs -/

instance (result : FeedResult) : Decidable result.IsConfirmed := inferInstanceAs (Decidable (_ ∨ _))

instance (config : Config) (t : Transition State Event) : Decidable (ReturnsConfirmed config t) :=
  inferInstanceAs (Decidable (∀ subject ∈ _, ∀ result ∈ _, _ ∨ _))

/-- One subject. -/
def sampleConfig (maxConsecutiveFailures : ℕ) (hpos : 0 < maxConsecutiveFailures) : Config :=
  ⟨[.account 1], maxConsecutiveFailures, hpos, false, true⟩

/-- The answers of a call whose fetch of the statistics ends in this way, and that succeeds otherwise. -/
def sampleEvent (horizon : Fetch) : Event := ⟨fun _ => ⟨true, horizon, false, some true, true, true, none⟩, false⟩

/-- A run in which the subject fails twice, enters the set, and is then synced. -/
theorem accounted_iff_recovery :
    ∃ history final, Run (StepOf (next (sampleConfig 2 (by decide)))) .initial history final ∧
      Accounted (sampleConfig 2 (by decide)) history final ∧
      history.map (fun t => t.after.deadLetterSubjects) = [∅, {.account 1}, ∅] := by
  have hreplay : ((replay (next (sampleConfig 2 (by decide))) .initial
      [sampleEvent .fails, sampleEvent .fails, sampleEvent (.stats false)]).map fun result =>
        (result.1.map (fun t => t.after.deadLetterSubjects),
          decide (∀ t ∈ result.1, ReturnsConfirmed (sampleConfig 2 (by decide)) t))) =
      some ([∅, {.account 1}, ∅], true) := by decide
  obtain ⟨history, final, hrun, hshown⟩ := Run.exists_of_replay hreplay
  obtain ⟨hsets, hcond⟩ := Prod.mk.inj hshown
  exact ⟨history, final, hrun,
    (accounted_iff _ history final (by decide) hrun).mpr (of_decide_eq_true hcond), hsets⟩

/-- A subject in the set is skipped for a rate limit, and leaves the set. -/
theorem not_accounted_rateLimit : ¬ ∀ config history final, config.subjects.Nodup →
    Run (StepOf (next config)) .initial history final → Accounted config history final := by
  intro h
  have hreplay : ((replay (next (sampleConfig 1 (by decide))) .initial
      [sampleEvent .fails, sampleEvent .rateLimit]).map fun result => result.1.map fun t =>
        (decide (Address.account 1 ∈ t.before.deadLetterSubjects),
          decide (Address.account 1 ∈ t.after.deadLetterSubjects),
          resultsOf (sampleConfig 1 (by decide)) (.account 1) t.event)) =
      some [(false, true, [.thrown]), (true, false, [.rateLimited])] := by decide
  obtain ⟨history, final, hrun, hshown⟩ := Run.exists_of_replay hreplay
  obtain ⟨t, ht, hcycle⟩ := List.mem_map.mp (hshown ▸ List.mem_cons_of_mem _ List.mem_cons_self)
  simp only [Prod.mk.injEq, decide_eq_true_eq, decide_eq_false_iff_not] at hcycle
  obtain ⟨hmem, hleft, hresults⟩ := hcycle
  have haccounted := h _ history final (by decide) hrun
  obtain ⟨result, hresult, hconfirmed⟩ := haccounted.leaves t ht _ hmem hleft
  rw [hresults, List.mem_singleton] at hresult
  exact absurd (hresult ▸ hconfirmed) (by decide)

end StellarDidCredit.Feeder.Cycle
