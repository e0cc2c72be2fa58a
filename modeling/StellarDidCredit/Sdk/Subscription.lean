import StellarDidCredit.Lib.Run
import StellarDidCredit.Sdk.Delivery

/-!
# The event subscriptions of the SDK

A subscription asks for the events from its cursor on, moves the cursor past what the server has
shown, and only then delivers them. The callback may depend on everything it was given before and
on anything outside, so every answer comes with a callback of its own.
-/

namespace StellarDidCredit.Sdk

/-- The chain and a subscription. The first cursor and the deliveries are recorded for the
properties only. -/
structure Subscription (Args : Type) where
  chain : EventLog ContractEvent
  lastSeenLedger : Option ℕ
  active : Bool
  firstLedger : Option ℕ
  delivered : List (Delivery Args)

/-- The most events in one answer. -/
def subscriptionLimit : ℕ := 100

namespace Subscription

/-- What can happen: a ledger closes, the server answers one of the requests, or the subscriber
unsubscribes. A request that fails changes nothing. -/
inductive Event (Args : Type)
  | close (batch : List ContractEvent)
  | latestLedger
  | getEvents (callback : Callback Args)
  | unsubscribe

variable {Args : Type}

/-- A new subscription on a chain. -/
def initial (chain : EventLog ContractEvent) : Subscription Args where
  chain
  lastSeenLedger := none
  active := true
  firstLedger := none
  delivered := []

/-- The cursor after an answer. -/
def nextLedger (startLedger : ℕ) (response : EventsResponse) : ℕ :=
  max response.latestLedger (EventLog.latest startLedger response.events) + 1

variable (filter : EventFilter) (handleValue : Handler Args)

/-- The handler with the name that the event is resolved to. -/
def handle (event : Stamped ContractEvent) : Except String (Option Args) :=
  handleValue event.entry.value (resolveEventName event.entry filter.topics) event

/-- Move the cursor, and then deliver the events of an answer. -/
def receive (s : Subscription Args) (callback : Callback Args) (startLedger : ℕ) (response : EventsResponse) :
    Subscription Args :=
  let (delivered, active) := deliver (handle filter handleValue) callback s.delivered s.active response.events
  { s with lastSeenLedger := some (nextLedger startLedger response), active, delivered }

/-- The next state. -/
def next (s : Subscription Args) : Event Args → Option (Subscription Args)
  | .close batch => some { s with chain := s.chain.close batch }
  | .latestLedger =>
    if s.lastSeenLedger = none then
      some { s with lastSeenLedger := some s.chain.now, firstLedger := some s.chain.now }
    else none
  | .getEvents callback => do
    let startLedger ← s.lastSeenLedger
    some (s.receive filter handleValue callback startLedger
      (getEvents s.chain startLedger filter subscriptionLimit))
  | .unsubscribe => some { s with active := false }

/-- The events that the subscription is about, as a log of their own. -/
def watched (chain : EventLog ContractEvent) : EventLog ContractEvent :=
  (filter.log chain).only (wanted (handle filter handleValue))

/-- While the subscription is active, all events up to its cursor were delivered once and in order. -/
def Complete (s : Subscription Args) : Prop :=
  s.active = true → ∀ first cursor, s.firstLedger = some first → s.lastSeenLedger = some cursor →
    s.delivered.map Prod.fst = (watched filter handleValue s.chain).between first cursor

/-- A step at which nothing gets lost. No event is published in a ledger that the cursor has passed
already, and where a request is answered, at most the first hundred events waiting are meant for
the callback, none of these is malformed, and the callback does not throw before the last one. -/
def Safe (t : Transition (Subscription Args) (Event Args)) : Prop :=
  ∀ cursor, t.before.lastSeenLedger = some cursor →
    match t.event with
    | .close batch =>
      cursor ≤ t.before.chain.now + 1 ∨ ∀ event ∈ batch, filter.accepts event = true →
        wanted (handle filter handleValue) ⟨t.before.chain.now + 1, event⟩ = false
    | .getEvents callback =>
      (∀ later ∈ ((filter.log t.before.chain).since cursor).drop subscriptionLimit,
        wanted (handle filter handleValue) later = false) ∧
      Uninterrupted (handle filter handleValue) callback t.before.delivered
        ((filter.log t.before.chain).page cursor subscriptionLimit)
    | _ => True

/-! ## One step -/

variable {filter handleValue} {s s' : Subscription Args} {event : Event Args} {callback : Callback Args}

/-- What a ledger adds to the events that the subscription is about. -/
theorem watched_close (chain : EventLog ContractEvent) (batch : List ContractEvent) :
    watched filter handleValue (chain.close batch) =
      (watched filter handleValue chain).close ((batch.filter filter.accepts).filter fun event =>
        wanted (handle filter handleValue) ⟨chain.now + 1, event⟩) := by
  rw [watched, EventFilter.log, EventLog.only_close, EventLog.only_close]
  rfl

/-- The subscription has delivered everything up to its cursor, or has no cursor yet, or is over. -/
inductive KeepsUp (filter : EventFilter) (handleValue : Handler Args) (s : Subscription Args) : Prop
  | waiting (last_eq : s.lastSeenLedger = none) (delivered_eq : s.delivered = [])
  | ended (active_eq : s.active = false)
  | reading (first cursor : ℕ) (first_eq : s.firstLedger = some first) (last_eq : s.lastSeenLedger = some cursor)
      (first_le : first ≤ s.chain.now)
      (follows : Follows (watched filter handleValue s.chain) first cursor (s.delivered.map Prod.fst))

/-- The subscription has delivered less than there is up to its cursor. -/
inductive Lags (filter : EventFilter) (handleValue : Handler Args) (s : Subscription Args) : Prop
  | reading (first cursor : ℕ) (first_eq : s.firstLedger = some first) (last_eq : s.lastSeenLedger = some cursor)
      (first_le : first ≤ cursor)
      (short : s.delivered.length < ((watched filter handleValue s.chain).between first cursor).length)

variable (filter) in
/-- The cursor moves past the present and never back. -/
theorem lt_nextLedger (chain : EventLog ContractEvent) (cursor limit : ℕ) :
    chain.now < nextLedger cursor (getEvents chain cursor filter limit) ∧
      cursor ≤ nextLedger cursor (getEvents chain cursor filter limit) := by
  unfold nextLedger getEvents
  have hlatest := EventLog.le_latest cursor ((filter.log chain).page cursor limit)
  exact ⟨Nat.lt_succ_of_le (le_max_left _ _), Nat.le_succ_of_le (hlatest.trans (le_max_right _ _))⟩

variable (filter handleValue) in
/-- The first events waiting, and what is cut off, make up all that is waiting. -/
theorem watched_since (chain : EventLog ContractEvent) (cursor limit : ℕ) :
    (watched filter handleValue chain).since cursor =
      ((filter.log chain).page cursor limit).filter (wanted (handle filter handleValue)) ++
        (((filter.log chain).since cursor).drop limit).filter (wanted (handle filter handleValue)) := by
  rw [watched, EventLog.only_since, EventLog.page, ← List.filter_append, List.take_append_drop]

/-- What an answered request does. -/
theorem next_getEvents (hstep : next filter handleValue s (.getEvents callback) = some s') :
    ∃ cursor stop, s.lastSeenLedger = some cursor ∧ s'.lastSeenLedger = some stop ∧ s.chain.now < stop ∧
      cursor ≤ stop ∧ s'.chain = s.chain ∧ s'.firstLedger = s.firstLedger ∧
      deliver (handle filter handleValue) callback s.delivered s.active
        ((filter.log s.chain).page cursor subscriptionLimit) = (s'.delivered, s'.active) := by
  simp only [next, Option.bind_eq_bind, Option.bind_eq_some_iff, Option.some.injEq] at hstep
  obtain ⟨cursor, hcursor, rfl⟩ := hstep
  obtain ⟨hnow, hle⟩ := lt_nextLedger filter s.chain cursor subscriptionLimit
  exact ⟨cursor, _, hcursor, rfl, hnow, hle, rfl, rfl, rfl⟩

/-- A loop that ends active began active. -/
theorem active_of_delivered {delivered : List (Delivery Args)} {events : List (Stamped ContractEvent)}
    (hdeliver : deliver (handle filter handleValue) callback s.delivered s.active events = (delivered, s'.active))
    (hended : s'.active = true) : s.active = true := by
  cases hbegan : s.active with
  | true => rfl
  | false =>
    rw [hbegan, deliver_inactive] at hdeliver
    exact absurd ((Prod.mk.inj hdeliver).2.trans hended) Bool.false_ne_true

/-- A subscription that is over stays over. -/
theorem next_inactive (hstep : next filter handleValue s event = some s') (hover : s.active = false) :
    s'.active = false := by
  cases event with
  | close batch =>
    obtain rfl := Option.some.inj hstep
    exact hover
  | latestLedger =>
    simp only [next] at hstep
    split at hstep
    case isTrue =>
      obtain rfl := Option.some.inj hstep
      exact hover
    case isFalse => exact absurd hstep.symm (Option.some_ne_none _)
  | getEvents callback =>
    obtain ⟨_, _, _, _, _, _, _, _, hdeliver⟩ := next_getEvents hstep
    rw [hover, deliver_inactive] at hdeliver
    exact (Prod.mk.inj hdeliver).2.symm
  | unsubscribe =>
    obtain rfl := Option.some.inj hstep
    rfl

/-- A step at which nothing gets lost keeps up. -/
theorem KeepsUp.step (h : KeepsUp filter handleValue s) (hstep : next filter handleValue s event = some s')
    (hsafe : Safe filter handleValue ⟨s, event, s'⟩) : KeepsUp filter handleValue s' := by
  cases event with
  | close batch =>
    obtain rfl := Option.some.inj hstep
    cases h with
    | waiting hlast hdelivered => exact .waiting hlast hdelivered
    | ended hactive => exact .ended hactive
    | reading first cursor hfirst hlast hle hfollows =>
      refine .reading first cursor hfirst hlast (hle.trans (Nat.le_succ _)) ?_
      rw [watched_close]
      apply hfollows.close
      cases hsafe cursor hlast with
      | inl hcursor => exact Or.inl hcursor
      | inr hnone =>
        right
        apply List.filter_eq_nil_iff.mpr
        intro published hpublished
        obtain ⟨hbatch, haccepts⟩ := List.mem_filter.mp hpublished
        rw [hnone published hbatch haccepts]
        exact Bool.false_ne_true
  | latestLedger =>
    simp only [next] at hstep
    split at hstep
    case isFalse => exact absurd hstep.symm (Option.some_ne_none _)
    case isTrue hnone =>
      obtain rfl := Option.some.inj hstep
      cases h with
      | waiting _ hdelivered =>
        refine .reading s.chain.now s.chain.now rfl rfl (le_refl _) ?_
        simp only [hdelivered]
        exact Follows.begins
      | ended hactive => exact .ended hactive
      | reading first cursor _ hlast => exact absurd (hnone.symm.trans hlast) (Option.some_ne_none _).symm
  | getEvents callback =>
    obtain ⟨cursor, stop, hcursor, hstop, hnow, hle, hchain, hfirst, hdeliver⟩ := next_getEvents hstep
    cases h with
    | waiting hnone => exact absurd (hnone.symm.trans hcursor) (Option.some_ne_none _).symm
    | ended hactive =>
      rw [hactive, deliver_inactive] at hdeliver
      exact .ended (Prod.mk.inj hdeliver).2.symm
    | reading first cursor' hfirst' hlast hfirstLe hfollows =>
      obtain rfl := Option.some.inj (hcursor.symm.trans hlast)
      obtain ⟨hrest, huninterrupted⟩ := hsafe cursor hcursor
      cases hended : s'.active with
      | false => exact .ended hended
      | true =>
        refine .reading first stop (hfirst.trans hfirst') hstop (by rw [hchain]; exact hfirstLe) ?_
        have hactive : s.active = true := active_of_delivered hdeliver hended
        rw [hactive] at hdeliver
        have hall := deliver_of_uninterrupted huninterrupted (by rw [hdeliver]; exact hended)
        have hsince := watched_since filter handleValue s.chain cursor subscriptionLimit
        rw [filter_wanted_eq_nil hrest, List.append_nil] at hsince
        rw [hdeliver] at hall
        rw [hchain, hall, ← hsince]
        exact hfollows.poll hle hnow
  | unsubscribe =>
    obtain rfl := Option.some.inj hstep
    exact .ended rfl

/-- A ledger adds something if it has an event that is meant for the callback. -/
theorem length_between_close_lt {first cursor : ℕ} {batch : List ContractEvent} {published : ContractEvent}
    (hfirst : first ≤ s.chain.now + 1) (hlate : s.chain.now + 1 < cursor) (hbatch : published ∈ batch)
    (haccepts : filter.accepts published = true)
    (hwanted : wanted (handle filter handleValue) ⟨s.chain.now + 1, published⟩ = true) :
    ((watched filter handleValue s.chain).between first cursor).length <
      ((watched filter handleValue (s.chain.close batch)).between first cursor).length := by
  have hpassed : first ≤ (watched filter handleValue s.chain).now + 1 ∧
      (watched filter handleValue s.chain).now + 1 < cursor := ⟨hfirst, hlate⟩
  have hadded : 0 < ((batch.filter filter.accepts).filter fun event =>
      wanted (handle filter handleValue) ⟨s.chain.now + 1, event⟩).length :=
    List.length_pos_of_mem (List.mem_filter.mpr ⟨List.mem_filter.mpr ⟨hbatch, haccepts⟩, hwanted⟩)
  rw [watched_close, EventLog.between_close, if_pos hpassed, List.length_append, List.length_map]
  exact Nat.lt_add_of_pos_right hadded

/-- An answer that is cut or whose loop is interrupted delivers less than what was waiting. -/
theorem length_deliver_lt {cursor : ℕ}
    (hlost : ¬((∀ later ∈ ((filter.log s.chain).since cursor).drop subscriptionLimit,
        wanted (handle filter handleValue) later = false) ∧
      Uninterrupted (handle filter handleValue) callback s.delivered
        ((filter.log s.chain).page cursor subscriptionLimit))) :
    (deliver (handle filter handleValue) callback s.delivered true
        ((filter.log s.chain).page cursor subscriptionLimit)).1.length <
      s.delivered.length + ((watched filter handleValue s.chain).since cursor).length := by
  rw [watched_since filter handleValue s.chain cursor subscriptionLimit, List.length_append]
  by_cases huninterrupted : Uninterrupted (handle filter handleValue) callback s.delivered
      ((filter.log s.chain).page cursor subscriptionLimit)
  · -- then some event that is meant for the callback was cut off
    have hcut : ¬∀ later ∈ ((filter.log s.chain).since cursor).drop subscriptionLimit,
        wanted (handle filter handleValue) later = false := fun hcut => hlost ⟨hcut, huninterrupted⟩
    simp only [not_forall] at hcut
    obtain ⟨later, hlater, hwanted⟩ := hcut
    have hsome : 0 < ((((filter.log s.chain).since cursor).drop subscriptionLimit).filter
        (wanted (handle filter handleValue))).length :=
      List.length_pos_of_mem (List.mem_filter.mpr ⟨hlater, Bool.eq_true_of_not_eq_false hwanted⟩)
    have hmost := deliver_length_le (handle filter handleValue) callback s.delivered
      ((filter.log s.chain).page cursor subscriptionLimit) true
    omega
  · have hless := deliver_of_interrupted huninterrupted
    omega

/-- A step at which something gets lost makes the subscription lag, or it is over. -/
theorem KeepsUp.cut (h : KeepsUp filter handleValue s) (hstep : next filter handleValue s event = some s')
    (hlost : ¬Safe filter handleValue ⟨s, event, s'⟩) : Lags filter handleValue s' ∨ s'.active = false := by
  simp only [Safe, not_forall] at hlost
  obtain ⟨cursor, hcursor, hlost⟩ := hlost
  cases h with
  | waiting hnone => exact absurd (hnone.symm.trans hcursor) (Option.some_ne_none _).symm
  | ended hover => exact Or.inr (next_inactive hstep hover)
  | reading first cursor' hfirst' hlast hfirstLe hfollows =>
    obtain rfl := Option.some.inj (hcursor.symm.trans hlast)
    have hlength : s.delivered.length = ((watched filter handleValue s.chain).between first cursor).length := by
      rw [← hfollows.seen_eq, List.length_map]
    cases event with
    | close batch =>
      obtain rfl := Option.some.inj hstep
      simp only [not_or, not_le, not_forall] at hlost
      obtain ⟨hlate, published, hbatch, haccepts, hwanted⟩ := hlost
      refine Or.inl (.reading first cursor hfirst' hlast hfollows.start_le ?_)
      rw [hlength]
      exact length_between_close_lt (hfirstLe.trans (Nat.le_succ _)) hlate hbatch haccepts
        (Bool.eq_true_of_not_eq_false hwanted)
    | latestLedger => exact absurd trivial hlost
    | getEvents callback =>
      obtain ⟨start, stop, hstart, hstop, hnow, hle, hchain, hfirst, hdeliver⟩ := next_getEvents hstep
      obtain rfl := Option.some.inj (hcursor.symm.trans hstart)
      cases hactive : s.active with
      | false => exact Or.inr (next_inactive hstep hactive)
      | true =>
        refine Or.inl (.reading first stop (hfirst.trans hfirst') hstop (hfollows.start_le.trans hle) ?_)
        have hless := length_deliver_lt hlost
        simp only [hactive] at hdeliver
        simp only [hdeliver] at hless
        rw [hchain]
        apply hfollows.length_lt_between hle hnow
        rw [List.length_map]
        exact hless
    | unsubscribe => exact absurd trivial hlost

/-- A subscription that lags never catches up. -/
theorem Lags.step (h : Lags filter handleValue s) (hstep : next filter handleValue s event = some s') :
    Lags filter handleValue s' := by
  obtain ⟨first, cursor, hfirst, hlast, hle, hshort⟩ := h
  cases event with
  | close batch =>
    obtain rfl := Option.some.inj hstep
    refine .reading first cursor hfirst hlast hle ?_
    rw [watched_close]
    exact hshort.trans_le (EventLog.length_between_close_le _)
  | latestLedger =>
    simp only [next, hlast, Option.some_ne_none, if_false] at hstep
    exact absurd hstep.symm (Option.some_ne_none _)
  | getEvents callback =>
    obtain ⟨start, stop, hstart, hstop, hnow, hcursor, hchain, hfirst', hdeliver⟩ := next_getEvents hstep
    obtain rfl := Option.some.inj (hlast.symm.trans hstart)
    refine .reading first stop (hfirst'.trans hfirst) hstop (hle.trans hcursor) ?_
    have hmost := deliver_length_le (handle filter handleValue) callback s.delivered
      ((filter.log s.chain).page cursor subscriptionLimit) s.active
    have hall : ((watched filter handleValue s.chain).between first stop).length =
        ((watched filter handleValue s.chain).between first cursor).length +
          ((watched filter handleValue s.chain).since cursor).length :=
      EventLog.length_between hle hcursor hnow
    rw [watched_since filter handleValue s.chain cursor subscriptionLimit, List.length_append] at hall
    simp only [hdeliver] at hmost
    rw [hchain, hall]
    omega
  | unsubscribe =>
    obtain rfl := Option.some.inj hstep
    exact .reading first cursor hfirst hlast hle hshort

/-- A subscription that keeps up has delivered everything. -/
theorem KeepsUp.complete (h : KeepsUp filter handleValue s) : Complete filter handleValue s := by
  intro hactive first' cursor' hfirst' hlast'
  cases h with
  | waiting hnone => exact absurd (hnone.symm.trans hlast') (Option.some_ne_none _).symm
  | ended hover => exact absurd (hover.symm.trans hactive) Bool.false_ne_true
  | reading first cursor hfirst hlast _ hfollows =>
    obtain rfl := Option.some.inj (hfirst.symm.trans hfirst')
    obtain rfl := Option.some.inj (hlast.symm.trans hlast')
    exact hfollows.seen_eq

/-- A subscription that lags has not. -/
theorem Lags.not_complete (h : Lags filter handleValue s) (hactive : s.active = true) :
    ¬Complete filter handleValue s := by
  obtain ⟨first, cursor, hfirst, hlast, -, hshort⟩ := h
  intro hcomplete
  rw [← hcomplete hactive first cursor hfirst hlast, List.length_map] at hshort
  exact lt_irrefl _ hshort

/-! ## Whole runs -/

/-- In every run that leaves the subscription active, all events up to the cursor were delivered
once and in order exactly if nothing got lost at any step. -/
theorem every_event_delivered_iff {Args : Type} (filter : EventFilter) (handleValue : Handler Args)
    (chain : EventLog ContractEvent) (history : List (Transition (Subscription Args) (Event Args)))
    (final : Subscription Args)
    (hrun : Run (StepOf (next filter handleValue)) (initial chain) history final) (hactive : final.active = true) :
    Complete filter handleValue final ↔ ∀ t ∈ history, Safe filter handleValue t := by
  have hends := hrun.good_or_broken (KeepsUp filter handleValue)
    (fun s => Lags filter handleValue s ∨ s.active = false) (Safe filter handleValue)
    (fun _ _ _ hkeeps hstep hsafe => hkeeps.step hstep hsafe)
    (fun _ _ _ hkeeps hstep hlost => hkeeps.cut hstep hlost)
    (fun _ _ _ hlags hstep => hlags.imp (fun h => h.step hstep) (next_inactive hstep)) (.waiting rfl rfl)
  cases hends with
  | inl hgood => exact iff_of_true hgood.1.complete hgood.2
  | inr hbroken =>
    cases hbroken.1 with
    | inl hlags => exact iff_of_false (hlags.not_complete hactive) hbroken.2
    | inr hover => exact absurd (hover.symm.trans hactive) Bool.false_ne_true

/-- The events of a `VCAnch` subscription to the contract `7`. -/
def sampleFilter : EventFilter := ⟨.contract 7, ["VCAnch"]⟩

/-- A `VCAnch` event of that contract. -/
def sampleEvent (subject : Address) : ContractEvent :=
  ⟨.contract 7, ["VCAnch"], .vec (some [.address (.account 9), .address subject, .bytes [1]])⟩

/-- The run of a subscription that starts at ledger 10, with the given events in the next ledger
and the given reaction of the callback to everything. -/
def sampleRun (batch : List ContractEvent) (reaction : Reaction) :=
  replay (next sampleFilter onVCAnchored) (initial (EventLog.empty 10))
    [.latestLedger, .close batch, .getEvents fun _ _ => reaction]

/-- With a callback that returns, the event of the next ledger is delivered and nothing gets lost. -/
theorem every_event_delivered_sample :
    ∃ history final,
      Run (StepOf (next sampleFilter onVCAnchored)) (initial (EventLog.empty 10)) history final ∧
      final.delivered.map Prod.fst = [⟨11, sampleEvent (.account 1)⟩] ∧
      ∀ t ∈ history, Safe sampleFilter onVCAnchored t := by
  have hreplay : ((sampleRun [sampleEvent (.account 1)] .returns).map fun result =>
      (result.2.active, result.2.firstLedger, result.2.lastSeenLedger,
        decide (result.2.delivered.map Prod.fst = [⟨11, sampleEvent (.account 1)⟩]),
        decide ((watched sampleFilter onVCAnchored result.2.chain).between 10 12 =
          [⟨11, sampleEvent (.account 1)⟩]))) =
      some (true, some 10, some 12, true, true) := by decide +kernel
  obtain ⟨history, final, hrun, hobserved⟩ := Run.exists_of_replay hreplay
  simp only [Prod.mk.injEq, decide_eq_true_eq] at hobserved
  obtain ⟨hactive, hfirst, hlast, hdelivered, hbetween⟩ := hobserved
  have hiff := every_event_delivered_iff sampleFilter onVCAnchored (EventLog.empty 10) history final hrun hactive
  refine ⟨history, final, hrun, hdelivered, hiff.mp ?_⟩
  intro _ first cursor hfirst' hlast'
  obtain rfl := Option.some.inj (hfirst.symm.trans hfirst')
  obtain rfl := Option.some.inj (hlast.symm.trans hlast')
  exact hdelivered.trans hbetween.symm

/-- A callback that throws at the first of two events is never given the second. -/
theorem not_every_event_delivered :
    ¬∀ (Args : Type) (filter : EventFilter) (handleValue : Handler Args) (chain : EventLog ContractEvent)
      (history : List (Transition (Subscription Args) (Event Args))) (final : Subscription Args),
      Run (StepOf (next filter handleValue)) (initial chain) history final → final.active = true →
      ∀ first cursor, final.firstLedger = some first → final.lastSeenLedger = some cursor →
        ∀ event ∈ (watched filter handleValue final.chain).entries, first ≤ event.time → event.time < cursor →
          event ∈ final.delivered.map Prod.fst := by
  intro h
  have hreplay : ((sampleRun [sampleEvent (.account 1), sampleEvent (.account 2)] .throws).map fun result =>
      (result.2.active, result.2.firstLedger, result.2.lastSeenLedger,
        decide (⟨11, sampleEvent (.account 2)⟩ ∈ (watched sampleFilter onVCAnchored result.2.chain).entries),
        decide (⟨11, sampleEvent (.account 2)⟩ ∈ result.2.delivered.map Prod.fst))) =
      some (true, some 10, some 12, true, false) := by decide +kernel
  obtain ⟨history, final, hrun, hobserved⟩ := Run.exists_of_replay hreplay
  simp only [Prod.mk.injEq, decide_eq_true_eq, decide_eq_false_iff_not] at hobserved
  obtain ⟨hactive, hfirst, hlast, hentry, hlost⟩ := hobserved
  exact hlost (h _ sampleFilter onVCAnchored _ history final hrun hactive 10 12 hfirst hlast _ hentry (by decide)
    (by decide))

end Subscription

end StellarDidCredit.Sdk
