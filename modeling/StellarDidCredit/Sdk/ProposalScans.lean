import StellarDidCredit.Governance.Listing
import StellarDidCredit.Sdk.GovernanceClient

/-!
# Scans of a busy contract

The client reads one proposal after the other, and the contract goes on in between.
-/

namespace StellarDidCredit.Sdk

open Governance (GovernanceProposal Config firstProposalId)

section Client

variable {σ : Type}

/-- Calls of the contract lead from one configuration to the other. -/
def Reaches (c c' : Config) : Prop := ∃ history, Run (StepOf Config.next) c history c'

/-- No call leads to the same configuration. -/
theorem Reaches.refl (c : Config) : Reaches c c := ⟨[], .nil⟩

/-- Runs are put together. -/
theorem Reaches.trans {a b c : Config} (h : Reaches a b) (h' : Reaches b c) : Reaches a c := by
  obtain ⟨_, hfirst⟩ := h
  obtain ⟨_, hrest⟩ := h'
  exact ⟨_, hfirst.append hrest⟩

/-- What the server answers was so at some moment while it answered. -/
structure GovernanceServer.Honest (server : GovernanceServer σ) (governance : σ → Config) : Prop where
  instanceStorage : ∀ s, ∃ now, Reaches (governance s) now ∧ Reaches now (governance (server.instanceStorage s).2) ∧
    ∀ storage, (server.instanceStorage s).1 = some storage → findNextProposalId storage = now.state.nextProposalId
  getProposal : ∀ id s, ∃ now, Reaches (governance s) now ∧ Reaches now (governance (server.getProposal id s).2) ∧
    ∀ record, (server.getProposal id s).1 = .returned record → record = now.state.proposal id

/-- What a scan brings back of the ids from `startId` on. Nothing of it is older or newer than the scan, and
no proposal is missing that was there when it began. A scan that cannot read the counter is blind without
a limit, and from the id zero. -/
structure Scanned (before after : Config) (startId : ℕ) (limit : Option ℕ) (counted : Prop)
    (proposals : List GovernanceProposal) : Prop where
  increasing : proposals.Pairwise fun a b => a.id < b.id
  range : ∀ record ∈ proposals, startId ≤ record.id ∧ ∀ count, limit = some count → record.id < startId + count
  stored : ∀ record ∈ proposals, ∃ now, Reaches before now ∧ Reaches now after ∧
    now.state.proposal record.id = some record
  complete : counted ∨ limit ≠ none ∧ startId ≠ 0 → ∀ p record, before.state.proposal p = some record →
    startId ≤ p → (∀ count, limit = some count → p < startId + count) →
    ∃ found ∈ proposals, found.imprint = record.imprint
  blind : ¬(counted ∨ limit ≠ none ∧ startId ≠ 0) → proposals = []

variable {config : GovernanceClientConfig} {server : GovernanceServer σ} {governance : σ → Config} {s s' : σ}

/-- The counter that the client goes on with. -/
theorem getNextProposalId_ok {nextProposalId : ℕ}
    (h : getNextProposalId config server s = (.ok nextProposalId, s')) :
    nextProposalId = ((server.instanceStorage s).1.bind findNextProposalId).getD 1 ∧
      s' = (server.instanceStorage s).2 := by
  unfold getNextProposalId at h
  split at h
  next => cases h
  next =>
    obtain ⟨hcounter, hafter⟩ := Prod.mk.inj h
    exact ⟨(Except.ok.inj hcounter).symm, hafter.symm⟩

/-- A proposal that the client reads is the server's answer. -/
theorem getProposal_ok {id : ℕ} {answer : Option GovernanceProposal}
    (h : (getProposal config server id s).1 = .ok answer) :
    (server.getProposal id s).1 = .returned answer ∧
      (getProposal config server id s).2 = (server.getProposal id s).2 := by
  unfold getProposal at h ⊢
  split at h
  next => cases h
  next hconfigured =>
    split at h
    next => cases h
    next hfits => exact ⟨simulateRead_eq_ok.mp h, by rw [if_neg hfits]⟩

/-- One read leaves the contract where other calls have led it. -/
theorem reaches_getProposal (hserver : server.Honest governance) (id : ℕ) (s : σ) :
    Reaches (governance s) (governance (getProposal config server id s).2) := by
  unfold getProposal
  split
  next => exact .refl _
  next =>
    split
    next => exact .refl _
    next =>
      obtain ⟨now, hbefore, hafter, -⟩ := hserver.getProposal id s
      exact hbefore.trans hafter

/-- A call that resolves has its limit at zero, or it has swept the ids up to the end. -/
theorem listProposals_ok {first : Option GovernanceInteger} {limit : Option JsNumber} {startId : ℕ}
    {bound : Option ℕ} {proposals : List GovernanceProposal} (hstart : startOf first = .ok startId)
    (hbound : limitOf limit = .ok bound) (h : listProposals config server first limit s = (.ok proposals, s')) :
    (bound = some 0 ∧ proposals = [] ∧ s' = s) ∨
      ∃ nextProposalId middle, getNextProposalId config server s = (.ok nextProposalId, middle) ∧
        sweep (getProposal config server)
          (List.range' startId (endOf startId nextProposalId bound - startId)) middle = (.ok proposals, s') := by
  simp only [listProposals, hbound, hstart] at h
  split at h
  next hzero =>
    obtain ⟨hproposals, rfl⟩ := Prod.mk.inj h
    exact Or.inl ⟨hzero, (Except.ok.inj hproposals).symm, rfl⟩
  next =>
    split at h
    next => cases h
    next nextProposalId middle hcounter => exact Or.inr ⟨nextProposalId, middle, hcounter, h⟩

/-- Each answer of the sweep was so at a moment between its ends. -/
theorem answers_of_sweep (hserver : server.Honest governance) {first count : ℕ}
    {proposals : List GovernanceProposal}
    (h : sweep (getProposal config server) (List.range' first count) s = (.ok proposals, s')) :
    Reaches (governance s) (governance s') ∧ ∃ answer : ℕ → Option GovernanceProposal,
      proposals = (List.range' first count).filterMap answer ∧
      ∀ id ∈ List.range' first count, ∃ now, Reaches (governance s) now ∧ Reaches now (governance s') ∧
        answer id = now.state.proposal id := by
  obtain ⟨hends, answer, hproposals, hanswer⟩ := sweep_answers (fun a b => Reaches (governance a) (governance b))
    (fun s => .refl _) (fun _ _ _ => Reaches.trans) (reaches_getProposal hserver) List.nodup_range' h
  refine ⟨hends, answer, hproposals, fun id hid => ?_⟩
  obtain ⟨moment, hbefore, hread, hafter⟩ := hanswer id hid
  obtain ⟨hreturned, hsame⟩ := getProposal_ok hread
  obtain ⟨now, hstart, hend, hrecord⟩ := hserver.getProposal id moment
  rw [hsame] at hafter
  exact ⟨now, hbefore.trans hstart, hend.trans hafter, hrecord _ hreturned⟩

/-- The scan stops at the limit. -/
theorem lt_of_lt_endOf {startId nextProposalId p count : ℕ} (h : p < endOf startId nextProposalId (some count)) :
    p < startId + count := by
  simp only [endOf] at h
  split at h
  · split at h <;> omega
  · exact h

/-- The scan reaches every id below the counter and the limit. -/
theorem lt_endOf {startId nextProposalId p : ℕ} {limit : Option ℕ} (hstart : startId ≤ p)
    (hnext : p < nextProposalId)
    (hlimit : ∀ count, limit = some count → p < startId + count) : p < endOf startId nextProposalId limit := by
  have hless : startId < nextProposalId := Nat.lt_of_le_of_lt hstart hnext
  cases limit with
  | none => simpa only [endOf, if_pos hless] using hnext
  | some count =>
    have hwithin := hlimit count rfl
    simp only [endOf, if_pos hless]
    split <;> omega

/-- A scan that goes on as if nothing had been created goes to its limit, where it has one and does not
begin at zero. -/
theorem endOf_one {startId count : ℕ} (hstart : startId ≠ 0) : endOf startId 1 (some count) = startId + count := by
  have hless : ¬startId < 1 := by omega
  simp only [endOf, if_neg hless]

/-- Otherwise it ends before the first id that is given out. -/
theorem endOf_one_le {startId : ℕ} {limit : Option ℕ} (h : ¬(limit ≠ none ∧ startId ≠ 0)) :
    endOf startId 1 limit ≤ max startId 1 := by
  by_cases hstart : startId = 0
  · subst hstart
    cases limit with
    | none => exact Nat.le_refl _
    | some count =>
      simp only [endOf]
      split
      · split <;> omega
      · omega
  · have hnone : limit = none := by
      by_contra hne
      exact h ⟨hne, hstart⟩
    have hless : ¬startId < 1 := by omega
    rw [hnone]
    simp only [endOf, if_neg hless]
    omega

/-- A contract that has been initialised, before the first creation if any, and a server that answers for
some moment of each request while other calls of the contract go on. Whatever a scan of the proposals
returns, in the order of the ids, is what was stored at a moment of it; and a proposal that was stored when
it began is missing only where the scan could not read the counter and had no limit, or began at zero. It
then returns nothing. -/
theorem listProposals_scans {ledger : Ledger} {history : List Governance.Move} (hserver : server.Honest governance)
    (hrun : Run (StepOf Config.next) (.fresh ledger) history (governance s))
    (honce : ∀ t ∈ history, Governance.StartsUncounted t) (hadmin : (governance s).state.admin ≠ none)
    {first : Option GovernanceInteger} {limit : Option JsNumber} {startId : ℕ} {bound : Option ℕ}
    {proposals : List GovernanceProposal} (hstart : startOf first = .ok startId)
    (hbound : limitOf limit = .ok bound)
    (h : listProposals config server first limit s = (.ok proposals, s')) :
    Reaches (governance s) (governance s') ∧
      Scanned (governance s) (governance s') startId bound ((server.instanceStorage s).1 ≠ none) proposals := by
  have hsettled : Governance.Settled (governance s) := ⟨Governance.numbering_of_run hrun .empty honce, hadmin⟩
  rcases listProposals_ok hstart hbound h with ⟨rfl, rfl, rfl⟩ | ⟨nextProposalId, middle, hcounter, hsweep⟩
  · refine ⟨.refl _, .nil, fun _ hnil => absurd hnil List.not_mem_nil,
      fun _ hnil => absurd hnil List.not_mem_nil, ?_, fun _ => rfl⟩
    intro _ p record _ hfrom hto
    have hnone := hto 0 rfl
    omega
  obtain ⟨hnext, rfl⟩ := getNextProposalId_ok hcounter
  obtain ⟨counting, hbefore, hafter, hcounted⟩ := hserver.instanceStorage s
  obtain ⟨hends, answer, rfl, hanswer⟩ := answers_of_sweep hserver hsweep
  have hread {id : ℕ} (hid : id ∈ List.range' startId (endOf startId nextProposalId bound - startId)) :
      ∃ now, Reaches (governance s) now ∧ Reaches now (governance s') ∧ answer id = now.state.proposal id := by
    obtain ⟨now, hfrom, hto, hrecord⟩ := hanswer id hid
    exact ⟨now, (hbefore.trans hafter).trans hfrom, hto, hrecord⟩
  have hid {id : ℕ} (hin : id ∈ List.range' startId (endOf startId nextProposalId bound - startId))
      {record : GovernanceProposal} (hrecord : answer id = some record) : record.id = id ∧
        firstProposalId ≤ id := by
    obtain ⟨now, ⟨_, hnow⟩, -, hstored⟩ := hread hin
    obtain ⟨heq, hpositive, -⟩ := (hsettled.run hnow).1.numbering.below id record (hstored.symm.trans hrecord)
    exact ⟨heq, hpositive⟩
  refine ⟨(hbefore.trans hafter).trans hends, ?_, ?_, ?_, ?_, ?_⟩
  case refine_1 =>
    refine List.pairwise_filterMap.mpr (List.Pairwise.imp_of_mem ?_ (List.pairwise_lt_range' 1))
    intro a b ha hb hlt record hrecord other hother
    rw [(hid ha hrecord).1, (hid hb hother).1]
    exact hlt
  case refine_2 =>
    intro record hmem
    obtain ⟨id, hin, hrecord⟩ := List.mem_filterMap.mp hmem
    have hbounds := List.mem_range'_1.mp hin
    rw [(hid hin hrecord).1]
    refine ⟨hbounds.1, ?_⟩
    rintro count rfl
    have hend : id < endOf startId nextProposalId (some count) := by omega
    exact lt_of_lt_endOf hend
  case refine_3 =>
    intro record hmem
    obtain ⟨id, hin, hrecord⟩ := List.mem_filterMap.mp hmem
    obtain ⟨now, hfrom, hto, hstored⟩ := hread hin
    rw [(hid hin hrecord).1]
    exact ⟨now, hfrom, hto, hstored.symm.trans hrecord⟩
  case refine_4 =>
    intro hreads p record hrecord hfrom hto
    have hin : p ∈ List.range' startId (endOf startId nextProposalId bound - startId) := by
      refine List.mem_range'_1.mpr ⟨hfrom, ?_⟩
      have hlt : p < endOf startId nextProposalId bound := by
        cases hstorage : (server.instanceStorage s).1 with
        | some storage =>
          rw [hstorage, Option.bind_some, hcounted storage hstorage] at hnext
          obtain ⟨_, hcounting⟩ := hbefore
          obtain ⟨hthen, hsame⟩ := hsettled.run hcounting
          have hsome := (hsame p (Option.isSome_of_eq_some hrecord)).isSome.trans (Option.isSome_of_eq_some hrecord)
          obtain ⟨found, hfound⟩ := Option.isSome_iff_exists.mp hsome
          obtain ⟨-, -, next, hnextId, hless⟩ := hthen.numbering.below p found hfound
          rw [hnextId, Option.getD_some] at hnext
          exact lt_endOf hfrom (hnext ▸ hless) hto
        | none =>
          obtain ⟨hlimit, hzero⟩ := hreads.resolve_left fun hne => hne hstorage
          obtain ⟨count, rfl⟩ := Option.ne_none_iff_exists'.mp hlimit
          rw [hstorage, Option.bind_none, Option.getD_none] at hnext
          rw [hnext, endOf_one hzero]
          exact hto count rfl
      omega
    obtain ⟨now, ⟨_, hnow⟩, -, hstored⟩ := hread hin
    have hsame := (hsettled.run hnow).2 p (Option.isSome_of_eq_some hrecord)
    have himprint := hsame.1
    rw [hrecord, Option.map_some] at himprint
    obtain ⟨found, hfound, heq⟩ := Option.map_eq_some_iff.mp himprint
    exact ⟨found, List.mem_filterMap.mpr ⟨p, hin, hstored.trans hfound⟩, heq⟩
  case refine_5 =>
    intro hblind
    obtain ⟨hstorage, hbounded⟩ := not_or.mp hblind
    rw [not_not.mp hstorage, Option.bind_none, Option.getD_none] at hnext
    refine List.filterMap_eq_nil_iff.mpr fun id hin => ?_
    by_contra hsome
    obtain ⟨record, hrecord⟩ := Option.ne_none_iff_exists'.mp hsome
    have hpositive : 1 ≤ id := (hid hin hrecord).2
    have hbounds := List.mem_range'_1.mp hin
    have hend := endOf_one_le hbounded
    rw [← hnext] at hend
    omega

end Client

/-- The entries of the contract's instance that hold the counter. -/
def instanceEntries (c : Config) : List (NativeKey × Option ℕ) :=
  (.array ["Admin"], none) :: (c.state.nextProposalId.map fun next => (.array ["NextProposalId"], some next)).toList

/-- The counter is found among the entries. -/
theorem findNextProposalId_instanceEntries (c : Config) :
    findNextProposalId (instanceEntries c) = c.state.nextProposalId := by
  unfold instanceEntries
  cases c.state.nextProposalId with
  | none => rfl
  | some next => rfl

/-- The next of the pending calls is made; one that fails changes nothing. -/
def advance : Config × List Governance.Event → Config × List Governance.Event
  | (c, []) => (c, [])
  | (c, e :: rest) => ((c.next e).getD c, rest)

/-- What others call is a run. -/
theorem reaches_advance (world : Config × List Governance.Event) : Reaches world.1 (advance world).1 := by
  obtain ⟨c, _ | ⟨e, rest⟩⟩ := world
  · exact .refl c
  · rw [advance]
    cases hnext : c.next e with
    | none => exact .refl c
    | some c' => exact ⟨_, Run.nil.snoc hnext⟩

/-- A second proposal, and a vote on the first one. -/
def sampleInterleaved : List Governance.Event :=
  [ Governance.sampleEvent 2 (.account 3) (.createProposal (.account 3) ⟨40, 30, 30⟩ 100 7),
    Governance.sampleEvent 3 (.account 2) (.vote (.account 2) 1 true 10) ]

/-- A server in front of a contract that others call: one of their calls comes before each answer. -/
def busyServer : GovernanceServer (Config × List Governance.Event) where
  instanceStorage world :=
    let after := advance world
    (some (instanceEntries after.1), after)
  getProposal id world :=
    let after := advance world
    (.returned (after.1.state.proposal id), after)

/-- The server answers with what is stored at that moment. -/
theorem busyServer_honest : busyServer.Honest Prod.fst where
  instanceStorage world := by
    refine ⟨(advance world).1, reaches_advance world, .refl _, ?_⟩
    rintro storage ⟨⟩
    exact findNextProposalId_instanceEntries _
  getProposal id world := by
    refine ⟨(advance world).1, reaches_advance world, .refl _, ?_⟩
    rintro record ⟨⟩
    rfl

/-- A proposal is created, and one is voted for, while the scan goes on. -/
theorem listProposals_scans_busy : ∃ history c proposals after,
    Run (StepOf Config.next) (.fresh (.numbered 0)) history c ∧
      listProposals ⟨"governance", ""⟩ busyServer none none (c, sampleInterleaved) = (.ok proposals, after) ∧
      Scanned c after.1 1 none ((busyServer.instanceStorage (c, sampleInterleaved)).1 ≠ none) proposals ∧
      proposals.map (fun record => (record.id, record.votesFor)) = [(1, 10), (2, 0)] := by
  obtain ⟨history, c, hrun, hobserved⟩ := Run.exists_of_replay
    (show (replay Config.next (.fresh (.numbered 0)) (Governance.sampleLifecycle.take 3)).map (fun r =>
      (r.1.map (fun t => (t.event.call, t.before.state.nextProposalId)), r.2.state.admin,
        (listProposals ⟨"governance", ""⟩ busyServer none none (r.2, sampleInterleaved)).1.toOption.map
          (·.map fun record => (record.id, record.votesFor)))) =
      some ([(.initializeContract (.account 1) (.contract 11) 5, none),
        (.registerVoter (.account 1) (.account 2) 10, some 1),
        (.createProposal (.account 3) ⟨50, 20, 30⟩ 100 7, some 1)], some (.account 1), some [(1, 10), (2, 0)])
      from rfl)
  obtain ⟨hcalls, hobserved⟩ := Prod.mk.inj hobserved
  obtain ⟨hadmin, hlisted⟩ := Prod.mk.inj hobserved
  have honce : ∀ t ∈ history, Governance.StartsUncounted t := by
    rintro t ht ⟨admin, creditOracle, quorum, hcall⟩
    have hmem := List.mem_map_of_mem (f := fun t => (t.event.call, t.before.state.nextProposalId)) ht
    rw [hcalls, hcall] at hmem
    simp only [List.mem_cons, Prod.mk.injEq, reduceCtorEq, false_and, or_false, List.not_mem_nil] at hmem
    exact hmem.2
  have hinitialized : c.state.admin ≠ none := by
    rw [hadmin]
    exact Option.some_ne_none _
  generalize hscan :
    listProposals ⟨"governance", ""⟩ busyServer none none (c, sampleInterleaved) = answer at hlisted
  obtain ⟨proposals | proposals, after⟩ := answer
  · cases hlisted
  · refine ⟨history, c, proposals, after, hrun, hscan, ?_, Option.some.inj hlisted⟩
    exact (listProposals_scans (s := (c, sampleInterleaved)) busyServer_honest hrun honce hinitialized
      rfl rfl hscan).2

end StellarDidCredit.Sdk
