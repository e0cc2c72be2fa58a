import StellarDidCredit.Feeder.Routing
import StellarDidCredit.Lib.Run

/-!
# The event polling of the feeder

Each of the two kinds of event has a cursor, which starts at the latest ledger and moves past the
server's latest ledger with every answered request. A request that fails changes nothing, and the
two kinds of request fail independently, so a history is any sequence of ledgers and answers. An
answer holds at most a hundred events, and the cursor passes those that did not fit.
-/

namespace StellarDidCredit.Feeder

/-- The settings that polling reads. -/
structure Config where
  identityOracleId : Address
  revocationRegistryId : Option Address
  subjects : List Address

/-- The filter of the requests for one kind of event; without a registry there are none for
revocations. -/
def Config.filter (config : Config) : Topic → Option EventFilter
  | .vcAnch => some ⟨config.identityOracleId, ["VCAnch"]⟩
  | .revoked => config.revocationRegistryId.map fun id => ⟨id, ["Revoked"]⟩

/-- The most events in one answer. -/
def pageLimit : ℕ := 100

/-- The chain and the feeder. The feeder keeps `lastLedger`, which is `identityLastLedger` and
`revocationLastLedger`, and the routing; the first cursors and the events handed to the handlers
are recorded for the properties only. -/
structure World where
  chain : EventLog ContractEvent
  lastLedger : Storage Topic ℕ
  routing : Routing
  firstLedger : Storage Topic ℕ
  handled : List (Topic × Stamped ContractEvent)

/-- What can happen: a ledger closes, or the server answers one of the feeder's requests. -/
inductive Event
  | close (batch : List ContractEvent)
  | latestLedger
  | getEvents (topic : Topic)

/-- The cursor after an answer. -/
def nextLedger (startLedger : ℕ) (response : EventsResponse) : ℕ :=
  if response.events.length > 0 then
    max response.latestLedger (EventLog.latest startLedger response.events) + 1
  else response.latestLedger + 1

namespace World

/-- A feeder that starts on a chain. -/
def initial (chain : EventLog ContractEvent) : World where
  chain
  lastLedger := Storage.empty
  routing := Routing.initial
  firstLedger := Storage.empty
  handled := []

/-- Put each cursor that is asked for and not there yet at the latest ledger. -/
def begin (config : Config) (world : World) : World :=
  let start (cursors : Storage Topic ℕ) : Storage Topic ℕ := fun topic =>
    if (config.filter topic).isSome ∧ world.lastLedger topic = none then some world.chain.now else cursors topic
  { world with lastLedger := start world.lastLedger, firstLedger := start world.firstLedger }

/-- Move the cursor after an answer and handle the events of the answer. -/
def receive (config : Config) (world : World) (topic : Topic) (startLedger : ℕ) (response : EventsResponse) :
    World :=
  { world with
    lastLedger := world.lastLedger.set topic (nextLedger startLedger response)
    routing := response.events.foldl
      (fun routing event => routing.handle config.subjects (topic, event.entry.value)) world.routing
    handled := world.handled ++ response.events.map (Prod.mk topic) }

/-- The events of one kind that were handed to the handler, in order. -/
def handledOf (world : World) (topic : Topic) : List (Stamped ContractEvent) :=
  (world.handled.filter fun event => event.1 = topic).map Prod.snd

end World

/-- The next state. -/
def next (config : Config) (world : World) : Event → Option World
  | .close batch => some { world with chain := world.chain.close batch }
  | .latestLedger => some (world.begin config)
  | .getEvents topic => do
    let filter ← config.filter topic
    let startLedger ← world.lastLedger topic
    some (world.receive config topic startLedger (getEvents world.chain startLedger filter pageLimit))

/-- Up to its cursor, all events of one kind were handled once and in order. -/
def Complete (config : Config) (topic : Topic) (world : World) : Prop :=
  ∀ filter first cursor, config.filter topic = some filter → world.firstLedger topic = some first →
    world.lastLedger topic = some cursor → world.handledOf topic = (filter.log world.chain).between first cursor

/-- Where a request for one kind of event is answered, at most a hundred events are waiting from
the cursor on. -/
def Fits (config : Config) (topic : Topic) (t : Transition World Event) : Prop :=
  t.event = .getEvents topic → ∀ filter startLedger, config.filter topic = some filter →
    t.before.lastLedger topic = some startLedger →
    ((filter.log t.before.chain).since startLedger).length ≤ pageLimit

/-- An answer is not cut as long as there are only a hundred events at all. -/
theorem Fits.of_length_le {config : Config} {topic : Topic} {t : Transition World Event}
    (h : t.before.chain.entries.length ≤ pageLimit) : Fits config topic t := by
  intro _ filter startLedger _ _
  have hsince : ((filter.log t.before.chain).since startLedger).length ≤
      (filter.log t.before.chain).entries.length := List.length_filter_le _ _
  have hlog : (filter.log t.before.chain).entries.length ≤ t.before.chain.entries.length :=
    List.length_filter_le _ _
  exact (hsince.trans hlog).trans h

/-! ## One step, seen from one kind of event -/

section Step

variable {config : Config} {world world' : World} {topic : Topic} {filter : EventFilter} {event : Event}

/-- An answer moves the cursor just past the server's latest ledger. -/
theorem nextLedger_getEvents (chain : EventLog ContractEvent) (startLedger limit : ℕ) :
    nextLedger startLedger (getEvents chain startLedger filter limit) = chain.now + 1 := by
  unfold nextLedger getEvents
  split
  case isTrue hsome =>
    obtain ⟨event, hevent⟩ := List.exists_mem_of_length_pos hsome
    have hstart := EventLog.le_time_of_mem_page hevent
    have hpast := EventLog.time_le_of_mem_page hevent
    have hlatest : EventLog.latest startLedger ((filter.log chain).page startLedger limit) ≤ chain.now :=
      EventLog.latest_le (hstart.trans hpast) fun e he => (filter.log chain).time_le_of_mem_page he
    rw [max_eq_left hlatest]
  case isFalse => rfl

/-- Handling events of a kind adds to the handled events of that kind only. -/
theorem World.receive_handledOf (other : Topic) (startLedger : ℕ) (response : EventsResponse) :
    (world.receive config other startLedger response).handledOf topic =
      world.handledOf topic ++ if other = topic then response.events else [] := by
  unfold World.receive World.handledOf
  rw [List.filter_append, List.map_append, List.filter_map, List.map_map]
  congr 1
  by_cases hsame : other = topic
  · subst hsame
    simp [Function.comp_def]
  · simp [Function.comp_def, hsame]

/-- What a step leaves of one kind of event as it is. -/
structure World.SameReader (world world' : World) (topic : Topic) : Prop where
  first_eq : world'.firstLedger topic = world.firstLedger topic
  last_eq : world'.lastLedger topic = world.lastLedger topic
  handled_eq : world'.handledOf topic = world.handledOf topic

/-- What one step does to one kind of event. -/
inductive Moves (filter : EventFilter) (topic : Topic) (world world' : World) (event : Event) : Prop
  | closes (batch : List ContractEvent) (event_ne : event ≠ .getEvents topic)
      (chain_eq : world'.chain = world.chain.close batch) (same : world.SameReader world' topic)
  | rests (event_ne : event ≠ .getEvents topic) (chain_eq : world'.chain = world.chain)
      (same : world.SameReader world' topic)
  | begins (chain_eq : world'.chain = world.chain) (fresh : world.lastLedger topic = none)
      (first_eq : world'.firstLedger topic = some world.chain.now)
      (last_eq : world'.lastLedger topic = some world.chain.now)
      (handled_eq : world'.handledOf topic = world.handledOf topic)
  | polls (cursor : ℕ) (event_eq : event = .getEvents topic) (chain_eq : world'.chain = world.chain)
      (cursor_eq : world.lastLedger topic = some cursor)
      (first_eq : world'.firstLedger topic = world.firstLedger topic)
      (last_eq : world'.lastLedger topic = some (world.chain.now + 1))
      (handled_eq : world'.handledOf topic =
        world.handledOf topic ++ (filter.log world.chain).page cursor pageLimit)

/-- Asking for the latest ledger sets the cursor of a kind that has none. -/
theorem World.begin_moves (hfilter : config.filter topic = some filter) :
    Moves filter topic world (world.begin config) .latestLedger := by
  have hasked : (config.filter topic).isSome := Option.isSome_iff_exists.mpr ⟨filter, hfilter⟩
  by_cases hfresh : world.lastLedger topic = none
  · exact .begins rfl hfresh (if_pos ⟨hasked, hfresh⟩) (if_pos ⟨hasked, hfresh⟩) rfl
  · exact .rests Event.noConfusion rfl ⟨if_neg fun h => hfresh h.2, if_neg fun h => hfresh h.2, rfl⟩

/-- Every step is one of these. -/
theorem next_cases (hfilter : config.filter topic = some filter) (hstep : next config world event = some world') :
    Moves filter topic world world' event := by
  cases event with
  | close batch =>
    obtain rfl := Option.some.inj hstep
    exact .closes batch Event.noConfusion rfl ⟨rfl, rfl, rfl⟩
  | latestLedger =>
    obtain rfl := Option.some.inj hstep
    exact World.begin_moves hfilter
  | getEvents other =>
    simp only [next, Option.bind_eq_bind, Option.bind_eq_some_iff, Option.some.injEq] at hstep
    obtain ⟨otherFilter, hother, cursor, hcursor, rfl⟩ := hstep
    by_cases hsame : other = topic
    · subst hsame
      obtain rfl := Option.some.inj (hother.symm.trans hfilter)
      refine .polls cursor rfl rfl hcursor rfl ?_ ?_
      · exact (Storage.set_self _ _ _).trans (congrArg some (nextLedger_getEvents world.chain cursor pageLimit))
      · rw [World.receive_handledOf, if_pos rfl]
        rfl
    · have hother : Event.getEvents other ≠ .getEvents topic := fun h => hsame (Event.getEvents.inj h)
      refine .rests hother rfl ⟨rfl, ?_, ?_⟩
      · exact Storage.set_of_ne _ _ fun h => hsame h.symm
      · rw [World.receive_handledOf, if_neg hsame, List.append_nil]

/-- The feeder has handled everything up to its cursor, or has no cursor yet. -/
inductive KeepsUp (filter : EventFilter) (topic : Topic) (world : World) : Prop
  | waiting (last_eq : world.lastLedger topic = none) (handled_eq : world.handledOf topic = [])
  | reading (first cursor : ℕ) (first_eq : world.firstLedger topic = some first)
      (last_eq : world.lastLedger topic = some cursor) (cursor_le : cursor ≤ world.chain.now + 1)
      (follows : Follows (filter.log world.chain) first cursor (world.handledOf topic))

/-- The feeder has handled less than there is up to its cursor. -/
inductive Lags (filter : EventFilter) (topic : Topic) (world : World) : Prop
  | reading (first cursor : ℕ) (first_eq : world.firstLedger topic = some first)
      (last_eq : world.lastLedger topic = some cursor) (cursor_le : cursor ≤ world.chain.now + 1)
      (first_le : first ≤ cursor)
      (short : (world.handledOf topic).length < ((filter.log world.chain).between first cursor).length)

/-- A step that leaves no event behind keeps up. -/
theorem KeepsUp.step (h : KeepsUp filter topic world) (hfilter : config.filter topic = some filter)
    (hstep : next config world event = some world') (hfits : Fits config topic ⟨world, event, world'⟩) :
    KeepsUp filter topic world' := by
  cases next_cases hfilter hstep with
  | closes batch _ hchain hsame =>
    cases h with
    | waiting hlast hhandled => exact .waiting (hsame.last_eq.trans hlast) (hsame.handled_eq.trans hhandled)
    | reading first cursor hfirst hlast hcursor hfollows =>
      refine .reading first cursor (hsame.first_eq.trans hfirst) (hsame.last_eq.trans hlast) ?_ ?_
      · rw [hchain, EventLog.close_now]
        exact hcursor.trans (Nat.le_succ _)
      · rw [hchain, hsame.handled_eq, EventFilter.log, EventLog.only_close]
        exact hfollows.close (Or.inl hcursor)
  | rests _ hchain hsame =>
    cases h with
    | waiting hlast hhandled => exact .waiting (hsame.last_eq.trans hlast) (hsame.handled_eq.trans hhandled)
    | reading first cursor hfirst hlast hcursor hfollows =>
      refine .reading first cursor (hsame.first_eq.trans hfirst) (hsame.last_eq.trans hlast) ?_ ?_
      · rw [hchain]
        exact hcursor
      · rw [hchain, hsame.handled_eq]
        exact hfollows
  | begins hchain hfresh hfirst hlast hhandled =>
    cases h with
    | waiting _ hnothing =>
      refine .reading _ _ hfirst hlast ?_ ?_
      · rw [hchain]
        exact Nat.le_succ _
      · rw [hhandled, hnothing]
        exact Follows.begins
    | reading first cursor hfirst' hlast' => exact absurd (hfresh.symm.trans hlast') (Option.some_ne_none _).symm
  | polls start hevent hchain hstart hfirst hlast hhandled =>
    cases h with
    | waiting hnone => exact absurd (hnone.symm.trans hstart) (Option.some_ne_none _).symm
    | reading first cursor hfirst' hlast' hcursor hfollows =>
      obtain rfl := Option.some.inj (hlast'.symm.trans hstart)
      refine .reading first _ (hfirst.trans hfirst') hlast ?_ ?_
      · rw [hchain]
      · rw [hchain, hhandled, EventLog.page_eq_since (hfits hevent filter cursor hfilter hstart)]
        exact hfollows.poll hcursor (Nat.lt_succ_self _)

/-- A step that leaves events behind lags from then on. -/
theorem KeepsUp.cut (h : KeepsUp filter topic world) (hfilter : config.filter topic = some filter)
    (hstep : next config world event = some world') (hcut : ¬Fits config topic ⟨world, event, world'⟩) :
    Lags filter topic world' := by
  simp only [Fits, not_forall, not_le] at hcut
  obtain ⟨hevent, filter', start, hfilter', hstart, hmany⟩ := hcut
  obtain rfl := Option.some.inj (hfilter.symm.trans hfilter')
  cases next_cases hfilter hstep with
  | closes _ hne => exact absurd hevent hne
  | rests hne => exact absurd hevent hne
  | begins _ hfresh => exact absurd (hfresh.symm.trans hstart) (Option.some_ne_none _).symm
  | polls start' _ hchain hstart' hfirst hlast hhandled =>
    cases h with
    | waiting hnone => exact absurd (hnone.symm.trans hstart) (Option.some_ne_none _).symm
    | reading first cursor hfirst' hlast' hcursor hfollows =>
      obtain rfl := Option.some.inj (hlast'.symm.trans hstart)
      obtain rfl := Option.some.inj (hlast'.symm.trans hstart')
      refine .reading first _ (hfirst.trans hfirst') hlast ?_ (hfollows.start_le.trans hcursor) ?_
      · rw [hchain]
      · rw [hchain, hhandled, List.length_append, EventLog.page, List.length_take]
        exact hfollows.length_lt_between hcursor (Nat.lt_succ_self _) (by omega)

/-- A feeder that lags never catches up. -/
theorem Lags.step (h : Lags filter topic world) (hfilter : config.filter topic = some filter)
    (hstep : next config world event = some world') : Lags filter topic world' := by
  obtain ⟨first, cursor, hfirst', hlast', hcursor, hle, hshort⟩ := h
  cases next_cases hfilter hstep with
  | closes batch _ hchain hsame =>
    refine .reading first cursor (hsame.first_eq.trans hfirst') (hsame.last_eq.trans hlast') ?_ hle ?_
    · rw [hchain, EventLog.close_now]
      exact hcursor.trans (Nat.le_succ _)
    · rw [hchain, hsame.handled_eq, EventFilter.log, EventLog.only_close]
      exact hshort.trans_le (EventLog.length_between_close_le _)
  | rests _ hchain hsame =>
    refine .reading first cursor (hsame.first_eq.trans hfirst') (hsame.last_eq.trans hlast') ?_ hle ?_
    · rw [hchain]
      exact hcursor
    · rw [hchain, hsame.handled_eq]
      exact hshort
  | begins _ hfresh => exact absurd (hfresh.symm.trans hlast') (Option.some_ne_none _).symm
  | polls start _ hchain hstart hfirst hlast hhandled =>
    obtain rfl := Option.some.inj (hlast'.symm.trans hstart)
    refine .reading first _ (hfirst.trans hfirst') hlast ?_ (hle.trans hcursor) ?_
    · rw [hchain]
    · have hpage : ((filter.log world.chain).page cursor pageLimit).length ≤
          ((filter.log world.chain).since cursor).length := List.length_take_le' _ _
      have hall : ((filter.log world.chain).between first (world.chain.now + 1)).length =
          ((filter.log world.chain).between first cursor).length +
            ((filter.log world.chain).since cursor).length :=
        EventLog.length_between hle hcursor (Nat.lt_succ_self _)
      rw [hchain, hhandled, List.length_append, hall]
      omega

/-- A feeder that keeps up has handled everything. -/
theorem KeepsUp.complete (h : KeepsUp filter topic world) (hfilter : config.filter topic = some filter) :
    Complete config topic world := by
  intro filter' first' cursor' hfilter' hfirst' hlast'
  obtain rfl := Option.some.inj (hfilter.symm.trans hfilter')
  cases h with
  | waiting hnone => exact absurd (hnone.symm.trans hlast') (Option.some_ne_none _).symm
  | reading first cursor hfirst hlast _ hfollows =>
    obtain rfl := Option.some.inj (hfirst.symm.trans hfirst')
    obtain rfl := Option.some.inj (hlast.symm.trans hlast')
    exact hfollows.seen_eq

/-- A feeder that lags has not. -/
theorem Lags.not_complete (h : Lags filter topic world) (hfilter : config.filter topic = some filter) :
    ¬Complete config topic world := by
  obtain ⟨first, cursor, hfirst, hlast, -, -, hshort⟩ := h
  intro hcomplete
  rw [hcomplete filter first cursor hfilter hfirst hlast] at hshort
  exact lt_irrefl _ hshort

end Step

/-! ## Whole runs -/

section Runs

variable {config : Config} {chain : EventLog ContractEvent} {history : List (Transition World Event)}
  {final : World}

/-- In every run, all events of a kind up to its cursor were handled once and in order exactly if
every answered request for that kind found at most a hundred events waiting. -/
theorem every_event_handled_iff (config : Config) (topic : Topic) (chain : EventLog ContractEvent)
    (history : List (Transition World Event)) (final : World)
    (hrun : Run (StepOf (next config)) (World.initial chain) history final) :
    Complete config topic final ↔ ∀ t ∈ history, Fits config topic t := by
  cases hfilter : config.filter topic with
  | none =>
    constructor
    · intro _ t _ _ filter _ hfilter'
      exact absurd (hfilter.symm.trans hfilter') (Option.some_ne_none _).symm
    · intro _ filter _ _ hfilter'
      exact absurd (hfilter.symm.trans hfilter') (Option.some_ne_none _).symm
  | some filter =>
    have hends := hrun.good_or_broken (KeepsUp filter topic) (Lags filter topic) (Fits config topic)
      (fun _ _ _ hkeeps hstep hfits => hkeeps.step hfilter hstep hfits)
      (fun _ _ _ hkeeps hstep hcut => hkeeps.cut hfilter hstep hcut)
      (fun _ _ _ hlags hstep => hlags.step hfilter hstep) (.waiting rfl rfl)
    cases hends with
    | inl hgood => exact iff_of_true (hgood.1.complete hfilter) hgood.2
    | inr hbroken => exact iff_of_false (hbroken.1.not_complete hfilter) hbroken.2

/-- A feeder that watches the contract `7` and feeds one subject. -/
def sampleConfig : Config := ⟨.contract 7, none, [.account 1]⟩

/-- A `VCAnch` event of that contract. -/
def sampleEvent (subject : Address) : ContractEvent := ⟨.contract 7, ["VCAnch"], sampleAnchoring subject⟩

/-- The run in which the feeder starts at ledger 10 and the next ledger has the given events. -/
def sampleRun (batch : List ContractEvent) : Option (List (Transition World Event) × World) :=
  replay (next sampleConfig) (World.initial (EventLog.empty 10)) [.latestLedger, .close batch, .getEvents .vcAnch]

/-- An event in the next ledger is handled. -/
theorem every_event_handled_sample :
    ∃ history final, Run (StepOf (next sampleConfig)) (World.initial (EventLog.empty 10)) history final ∧
      Complete sampleConfig .vcAnch final ∧ final.handledOf .vcAnch = [⟨11, sampleEvent (.account 1)⟩] := by
  have hreplay : ((sampleRun [sampleEvent (.account 1)]).map fun result =>
      (result.2.handledOf .vcAnch, result.1.map fun t => t.before.chain.entries.length)) =
      some ([⟨11, sampleEvent (.account 1)⟩], [0, 0, 1]) := by decide +kernel
  obtain ⟨history, final, hrun, hobserved⟩ := Run.exists_of_replay hreplay
  obtain ⟨hhandled, hlengths⟩ := Prod.mk.inj hobserved
  refine ⟨history, final, hrun, ?_, hhandled⟩
  apply (every_event_handled_iff sampleConfig .vcAnch _ history final hrun).mpr
  intro t ht
  apply Fits.of_length_le
  have hlength : t.before.chain.entries.length ∈ [0, 0, 1] := by
    rw [← hlengths]
    exact List.mem_map_of_mem ht
  have hfew : ∀ n ∈ [0, 0, 1], n ≤ pageLimit := by decide
  exact hfew _ hlength

/-- In a ledger with a hundred and one events the last one is never handled. -/
theorem not_every_event_handled :
    ¬∀ (config : Config) (topic : Topic) (chain : EventLog ContractEvent) (history : List (Transition World Event))
      (final : World), Run (StepOf (next config)) (World.initial chain) history final →
      ∀ filter first cursor, config.filter topic = some filter → final.firstLedger topic = some first →
        final.lastLedger topic = some cursor → ∀ event ∈ (filter.log final.chain).entries,
          first ≤ event.time → event.time < cursor → event ∈ final.handledOf topic := by
  intro h
  have hreplay : ((sampleRun (List.replicate 100 (sampleEvent (.account 1)) ++ [sampleEvent (.account 2)])).map
      fun result => (result.2.firstLedger .vcAnch, result.2.lastLedger .vcAnch,
        decide (⟨11, sampleEvent (.account 2)⟩ ∈
          (EventFilter.log ⟨.contract 7, ["VCAnch"]⟩ result.2.chain).entries),
        decide (⟨11, sampleEvent (.account 2)⟩ ∈ result.2.handledOf .vcAnch))) =
      some (some 10, some 12, true, false) := by decide +kernel
  obtain ⟨history, final, hrun, hobserved⟩ := Run.exists_of_replay hreplay
  simp only [Prod.mk.injEq, decide_eq_true_eq, decide_eq_false_iff_not] at hobserved
  obtain ⟨hfirst, hlast, hentry, hlost⟩ := hobserved
  exact hlost (h sampleConfig .vcAnch _ history final hrun _ 10 12 rfl hfirst hlast _ hentry (by decide)
    (by decide))

/-- The events handed to the handlers, without their ledgers. -/
def World.processed (world : World) : List (Topic × EventValue) :=
  world.handled.map fun event => (event.1, event.2.entry.value)

/-- What the feeder remembers and whom it fed is what the handlers made of the events. -/
theorem routing_eq_process (hrun : Run (StepOf (next config)) (World.initial chain) history final) :
    final.routing = Routing.process config.subjects final.processed := by
  apply hrun.invariant (fun world => world.routing = Routing.process config.subjects world.processed) _ rfl
  intro world event world' hbefore hstep
  cases event with
  | close batch =>
    obtain rfl := Option.some.inj hstep
    exact hbefore
  | latestLedger =>
    obtain rfl := Option.some.inj hstep
    exact hbefore
  | getEvents topic =>
    simp only [StepOf, next, Option.bind_eq_bind, Option.bind_eq_some_iff, Option.some.injEq] at hstep
    obtain ⟨filter, -, cursor, -, rfl⟩ := hstep
    simp only [World.receive, World.processed, List.map_append, List.map_map, Routing.process, List.foldl_append,
      List.foldl_map, Function.comp_apply] at hbefore ⊢
    rw [hbefore]

end Runs

end StellarDidCredit.Feeder
