import StellarDidCredit.Governance.Proposals

/-!
# Proposal ids

A proposal gets the number in the counter, and the counter moves on. It starts at the first id
both when a creation finds no counter and when the contract is initialised, so an initialisation
after the first creation gives ids out again. Without one, every id in use is below the counter.
-/

namespace StellarDidCredit.Governance

variable {env : Env} {call : Call} {s s' : State} {p : ℕ}

/-! ## What a call does to the ids -/

/-- The call initialises the contract. -/
def Call.IsInitialization (call : Call) : Prop :=
  ∃ admin creditOracle quorum, call = .initializeContract admin creditOracle quorum

/-- The fields of a record that no call changes after its creation. -/
def GovernanceProposal.imprint (record : GovernanceProposal) : ℕ × Address × ScoringWeights × ℕ × ℕ × ℤ :=
  (record.id, record.proposer, record.terms)

/-- A vote changes tallies only. -/
theorem addVote_imprint {old new : GovernanceProposal} {voteFor : Bool} {weight : ℤ}
    (h : addVote old voteFor weight = .ok new) : new.imprint = old.imprint := by
  obtain ⟨_, _, rfl⟩ := addVote_fields h
  rfl

/-- The record and the proposer under an id are the same in both states, the votes and the two flags
aside. -/
def SameUnder (p : ℕ) (s s' : State) : Prop :=
  (s'.proposal p).map (·.imprint) = (s.proposal p).map (·.imprint) ∧ s'.proposer p = s.proposer p

/-- Nothing changes in no call. -/
theorem SameUnder.refl (p : ℕ) (s : State) : SameUnder p s s := ⟨rfl, rfl⟩

/-- What stays twice stays. -/
theorem SameUnder.trans {s'' : State} (h : SameUnder p s s') (h' : SameUnder p s' s'') :
    SameUnder p s s'' :=
  ⟨h'.1.trans h.1, h'.2.trans h.2⟩

/-- A proposal that stays is there before and after. -/
theorem SameUnder.isSome (h : SameUnder p s s') : (s'.proposal p).isSome = (s.proposal p).isSome := by
  rw [← Option.isSome_map (f := (·.imprint)), h.1, Option.isSome_map]

/-- The record keeps its place when its votes or its flags are written. -/
theorem SameUnder.rewritten {q : ℕ} {old new : GovernanceProposal} (hold : s.proposal q = some old)
    (hnew : new.imprint = old.imprint) (hproposal : s'.proposal = s.proposal.set q new)
    (hproposer : s'.proposer = s.proposer) (p : ℕ) : SameUnder p s s' := by
  constructor
  · rw [hproposal]
    by_cases hp : p = q
    · rw [hp, Storage.set_self, hold, Option.map_some, Option.map_some, hnew]
    · rw [Storage.set_of_ne _ _ hp]
  · rw [hproposer]

/-- What a call does to the counter and to the records. -/
inductive Numbers (s : State) : Call → State → Prop
  | started {call : Call} {s' : State} (hcall : call.IsInitialization) (hadmin : s.admin = none)
      (hadmin' : s'.admin ≠ none) (hcounter : s'.nextProposalId = some firstProposalId)
      (hsame : ∀ p, SameUnder p s s') : Numbers s call s'
  | taken {call : Call} {s' : State} {record : GovernanceProposal} (hadmin : s'.admin = s.admin)
      (hcounter : s'.nextProposalId = some (nextId s + 1)) (hid : record.id = nextId s)
      (hrecord : s'.proposal (nextId s) = some record)
      (hsame : ∀ p, p ≠ nextId s → SameUnder p s s') : Numbers s call s'
  | kept {call : Call} {s' : State} (hadmin : s'.admin = s.admin)
      (hcounter : s'.nextProposalId = s.nextProposalId) (hsame : ∀ p, SameUnder p s s') :
      Numbers s call s'

/-- Every call numbers proposals in one of these ways. -/
theorem Effect.numbers (h : Effect env s call s') : Numbers s call s' := by
  cases h with
  | initialized hadmin =>
    exact .started ⟨_, _, _, rfl⟩ hadmin (Option.some_ne_none _) rfl fun p => .refl p s
  | created =>
    refine .taken rfl rfl rfl (Storage.set_self _ _ _) fun p hp => ⟨?_, ?_⟩
    · exact congrArg (Option.map GovernanceProposal.imprint) (Storage.set_of_ne _ _ hp)
    · exact Storage.set_of_ne _ _ hp
  | voted hregistered hbound hold hexecuted hcancelled hnew =>
    exact .kept rfl rfl (.rewritten hold (addVote_imprint hnew) rfl rfl)
  | @executed p old hold =>
    have hsame : ({ old with executed := true } : GovernanceProposal).imprint = old.imprint := rfl
    exact .kept rfl rfl (.rewritten hold hsame rfl rfl)
  | @cancelled canceller p old hold =>
    have hsame : ({ old with cancelled := true } : GovernanceProposal).imprint = old.imprint := rfl
    exact .kept rfl rfl (.rewritten hold hsame rfl rfl)
  | cleaned => exact .kept rfl rfl fun p => .refl p s
  | administered => exact .kept rfl rfl fun p => .refl p s

/-! ## The numbering -/

/-- Every record is stored under its own id, which is below the counter. -/
def BelowCounter (s : State) : Prop :=
  ∀ p record, s.proposal p = some record →
    record.id = p ∧ firstProposalId ≤ p ∧ ∃ next, s.nextProposalId = some next ∧ p < next

/-- The ids in use are below the counter, and a counter without an admin comes from a creation. -/
structure Numbering (s : State) : Prop where
  below : BelowCounter s
  proposers : ∀ p, s.proposal p = none → s.proposer p = none
  positive : firstProposalId ≤ nextId s
  counted : s.admin = none → s.nextProposalId ≠ none → ∃ p, (s.proposal p).isSome

/-- A fresh contract has given out no id. -/
theorem Numbering.empty : Numbering {} where
  below _ _ hrecord := by cases hrecord
  proposers _ _ := rfl
  positive := le_rfl
  counted _ hcounter := absurd rfl hcounter

/-- The next id is not in use. -/
theorem Numbering.vacant (h : Numbering s) : s.proposal (nextId s) = none := by
  by_contra hne
  obtain ⟨record, hrecord⟩ := Option.ne_none_iff_exists'.mp hne
  obtain ⟨-, -, next, hnext, hlt⟩ := h.below _ record hrecord
  have heq : nextId s = next := by rw [nextId, hnext, Option.getD_some]
  omega

/-- A record that is the same as before was below the counter before. -/
theorem BelowCounter.of_same (h : BelowCounter s) (hsame : SameUnder p s s') {record : GovernanceProposal}
    (hrecord : s'.proposal p = some record) :
    record.id = p ∧ firstProposalId ≤ p ∧ ∃ next, s.nextProposalId = some next ∧ p < next := by
  have himprint : (s.proposal p).map (·.imprint) = some record.imprint := by
    rw [← hsame.1, hrecord, Option.map_some]
  obtain ⟨old, hold, heq⟩ := Option.map_eq_some_iff.mp himprint
  obtain ⟨hid, hbounds⟩ := h p old hold
  have hsameId : old.id = record.id := congrArg (·.1) heq
  exact ⟨hsameId ▸ hid, hbounds⟩

/-- Where the records are the same, the proposers are in the same places. -/
theorem Numbering.proposers_of_same (h : Numbering s) (hsame : SameUnder p s s')
    (hnone : s'.proposal p = none) : s'.proposer p = none := by
  have hsome := hsame.isSome
  rw [hnone, Option.isSome_none] at hsome
  rw [hsame.2]
  exact h.proposers p (Option.not_isSome_iff_eq_none.mp (Bool.eq_false_iff.mp hsome.symm))

/-- A call keeps the numbering unless it initialises a contract that has counted already. -/
theorem Numbering.step (h : Numbering s) (hnumbers : Numbers s call s')
    (honce : call.IsInitialization → s.nextProposalId = none) : Numbering s' := by
  cases hnumbers with
  | started hcall hadmin hadmin' hcounter hsame =>
    have hfresh := honce hcall
    refine ⟨?_, ?_, ?_, fun hnone => absurd hnone hadmin'⟩
    · intro p record hrecord
      obtain ⟨-, -, next, hnext, -⟩ := h.below.of_same (hsame p) hrecord
      cases hfresh.symm.trans hnext
    · exact fun p => h.proposers_of_same (hsame p)
    · rw [nextId, hcounter, Option.getD_some]
  | @taken record hadmin hcounter hid hrecord hsame =>
    have hpositive := h.positive
    refine ⟨?_, ?_, ?_, fun _ _ => ⟨nextId s, Option.isSome_of_eq_some hrecord⟩⟩
    · intro p other hother
      by_cases hp : p = nextId s
      · subst hp
        obtain rfl := Option.some.inj (hrecord.symm.trans hother)
        exact ⟨hid, hpositive, _, hcounter, Nat.lt_succ_self _⟩
      · obtain ⟨hown, hfirst, next, hnext, hlt⟩ := h.below.of_same (hsame p hp) hother
        have heq : nextId s = next := by rw [nextId, hnext, Option.getD_some]
        exact ⟨hown, hfirst, _, hcounter, by omega⟩
    · intro p hnone
      by_cases hp : p = nextId s
      · rw [hp, hrecord] at hnone
        cases hnone
      · exact h.proposers_of_same (hsame p hp) hnone
    · rw [nextId, hcounter, Option.getD_some]
      omega
  | kept hadmin hcounter hsame =>
    refine ⟨?_, ?_, ?_, ?_⟩
    · intro p record hrecord
      rw [hcounter]
      exact h.below.of_same (hsame p) hrecord
    · exact fun p => h.proposers_of_same (hsame p)
    · rw [nextId, hcounter]
      exact h.positive
    · intro hnone hcounted
      rw [hadmin] at hnone
      rw [hcounter] at hcounted
      obtain ⟨p, hsome⟩ := h.counted hnone hcounted
      exact ⟨p, (hsame p).isSome.trans hsome⟩

/-- A call that keeps the numbering keeps what is stored under every id in use. -/
theorem Numbering.sameUnder (h : Numbering s) (hnumbers : Numbers s call s')
    (hsome : (s.proposal p).isSome) : SameUnder p s s' := by
  cases hnumbers with
  | started hcall hadmin hadmin' hcounter hsame => exact hsame p
  | taken hadmin hcounter hid hrecord hsame =>
    refine hsame p ?_
    rintro rfl
    rw [h.vacant] at hsome
    cases hsome
  | kept hadmin hcounter hsame => exact hsame p

/-! ## Runs -/

/-- The step creates a proposal and returns this id. -/
def ReturnsId (t : Move) (id : ℕ) : Prop :=
  ∃ proposer weights period delay, t.event.call = .createProposal proposer weights period delay ∧
    createProposal t.event.env proposer weights period delay t.before.state = .ok (id, t.after.state)

/-- The step does not initialise a contract that has given out an id. -/
def StartsUncounted (t : Move) : Prop :=
  t.event.call.IsInitialization → t.before.state.nextProposalId = none

/-- No id is returned twice, a creation finds nothing under its id, every id in use is at least the
first one and below the counter, and what is stored under it stays, the votes and the flags aside. -/
structure IdsUnique (history : List Move) (final : Config) : Prop where
  new : ∀ earlier t later id, history = earlier ++ t :: later → ReturnsId t id →
    ∀ u ∈ earlier, ¬ReturnsId u id
  vacant : ∀ t ∈ history, ∀ id, ReturnsId t id →
    t.before.state.proposal id = none ∧ t.before.state.proposer id = none
  below : BelowCounter final.state
  kept : ∀ t ∈ history, ∀ p record, t.before.state.proposal p = some record →
    ∃ record', final.state.proposal p = some record' ∧ record'.proposer = record.proposer ∧
      record'.terms = record.terms ∧ final.state.proposer p = t.before.state.proposer p

variable {ledger : Ledger} {history : List Move} {start final : Config}

/-- The returned id is the one in the counter. -/
theorem ReturnsId.eq_nextId {t : Move} {id : ℕ} (h : ReturnsId t id) : id = nextId t.before.state := by
  obtain ⟨proposer, weights, period, delay, -, hcreate⟩ := h
  exact (createProposal_spec hcreate).1

/-- A creation leaves a record under the id that it returns. -/
theorem ReturnsId.isSome {t : Move} {id : ℕ} (h : ReturnsId t id) :
    (t.after.state.proposal id).isSome := by
  obtain ⟨proposer, weights, period, delay, -, hcreate⟩ := h
  obtain ⟨rfl, -, -, -, quorum, -, hafter⟩ := createProposal_spec hcreate
  simp only [hafter, Storage.set_self, Option.isSome_some]

/-- A creation that succeeds returns the id in the counter. -/
theorem returnsId_nextId {t : Move} (hstep : StepOf Config.next t.before t.event t.after)
    (hcall : t.event.call.IsCreation) : ReturnsId t (nextId t.before.state) := by
  obtain ⟨proposer, weights, period, delay, hcall⟩ := hcall
  have hexec := (Config.exec_of_next hstep).2.2
  rw [hcall] at hexec
  simp only [exec, alone_eq_ok, Outcome.map_snd_eq_ok] at hexec
  obtain ⟨⟨id, hcreate⟩, -⟩ := hexec
  obtain rfl := (createProposal_spec hcreate).1
  exact ⟨proposer, weights, period, delay, hcall, hcreate⟩

/-- The numbering is kept along a run without a second start. -/
theorem numbering_of_run (hrun : Run (StepOf Config.next) start history final)
    (hstart : Numbering start.state) (hcond : ∀ t ∈ history, StartsUncounted t) :
    Numbering final.state := by
  refine hrun.invariant_where (fun c => Numbering c.state) StartsUncounted ?_ hstart hcond
  intro c e c' h hstep honce
  exact h.step (Config.effect_of_next hstep).numbers honce

/-- What is stored under an id in use stays along a run without a second start. -/
theorem sameUnder_of_run (hrun : Run (StepOf Config.next) start history final)
    (hstart : Numbering start.state) (hcond : ∀ t ∈ history, StartsUncounted t)
    (hsome : (start.state.proposal p).isSome) : SameUnder p start.state final.state := by
  have hboth : Numbering final.state ∧ SameUnder p start.state final.state := by
    refine hrun.invariant_where (fun c => Numbering c.state ∧ SameUnder p start.state c.state)
      StartsUncounted ?_ ⟨hstart, .refl p _⟩ hcond
    rintro c e c' ⟨h, hsame⟩ hstep honce
    have hnumbers := (Config.effect_of_next hstep).numbers
    have hin := hsame.isSome.trans hsome
    exact ⟨h.step hnumbers honce, hsame.trans (h.sameUnder hnumbers hin)⟩
  exact hboth.2

/-- In a run without a second start ids are unique. -/
theorem idsUnique_of_run (hrun : Run (StepOf Config.next) (.fresh ledger) history final)
    (hcond : ∀ t ∈ history, StartsUncounted t) : IdsUnique history final := by
  have hbefore {earlier later : List Move} {t : Move} (hhistory : history = earlier ++ t :: later) :
      Numbering t.before.state := by
    subst hhistory
    exact numbering_of_run hrun.around.1 .empty fun u hu => hcond u (List.mem_append_left _ hu)
  constructor
  case new =>
    intro earlier t later id hhistory hreturns u hu hu_returns
    have hnone := (hbefore hhistory).vacant
    subst hhistory
    obtain ⟨_, _, -, -, -, hrest⟩ := hrun.around.1.exists_around hu
    have hstored := isSome_of_run hrest hu_returns.isSome
    rw [hreturns.eq_nextId, hnone] at hstored
    cases hstored
  case vacant =>
    intro t ht id hreturns
    obtain ⟨earlier, later, hhistory⟩ := List.append_of_mem ht
    have hnumbering := hbefore hhistory
    rw [hreturns.eq_nextId]
    exact ⟨hnumbering.vacant, hnumbering.proposers _ hnumbering.vacant⟩
  case below => exact (numbering_of_run hrun .empty hcond).below
  case kept =>
    intro t ht p record hrecord
    obtain ⟨earlier, later, hhistory, -, hstep, hrest⟩ := hrun.exists_around ht
    have hnumbering := hbefore hhistory
    subst hhistory
    have hlater : ∀ u ∈ t :: later, StartsUncounted u := fun u hu =>
      hcond u (List.mem_append_right _ hu)
    have hsame := sameUnder_of_run (hrest.cons hstep) hnumbering hlater (Option.isSome_of_eq_some hrecord)
    have himprint := hsame.1
    rw [hrecord, Option.map_some] at himprint
    obtain ⟨record', hrecord', heq⟩ := Option.map_eq_some_iff.mp himprint
    obtain ⟨-, hrest⟩ := Prod.mk.inj heq
    obtain ⟨hproposer, hterms⟩ := Prod.mk.inj hrest
    exact ⟨record', hrecord', hproposer, hterms, hsame.2⟩

/-- After a second start some id in use is not below the counter. -/
theorem not_belowCounter {t : Move} (hnumbering : Numbering t.before.state)
    (hstep : StepOf Config.next t.before t.event t.after) (hcall : ¬StartsUncounted t) :
    ¬BelowCounter t.after.state := by
  obtain ⟨hinitialization, hcounted⟩ := Classical.not_imp.mp hcall
  intro hbelow
  obtain ⟨admin, creditOracle, quorum, heq⟩ := hinitialization
  have hexec := (Config.exec_of_next hstep).2.2
  rw [heq] at hexec
  simp only [exec, alone_eq_ok] at hexec
  obtain ⟨hadmin, hafter⟩ := initializeContract_spec hexec.1
  obtain ⟨p, hsome⟩ := hnumbering.counted hadmin hcounted
  obtain ⟨record, hrecord⟩ := Option.isSome_iff_exists.mp hsome
  have hkept : t.after.state.proposal p = some record := by rw [hafter, hrecord]
  obtain ⟨-, hfirst, next, hnext, hlt⟩ := hbelow p record hkept
  rw [hafter] at hnext
  obtain rfl := Option.some.inj hnext
  omega

/-- Ids are unique at every moment of a run exactly if the contract is initialised, if ever, before
the first creation. -/
theorem ids_unique_iff (hrun : Run (StepOf Config.next) (.fresh ledger) history final) :
    (∀ earlier later now, history = earlier ++ later →
      Run (StepOf Config.next) (.fresh ledger) earlier now → IdsUnique earlier now) ↔
    ∀ t ∈ history, t.event.call.IsInitialization → t.before.state.nextProposalId = none := by
  constructor
  · intro hunique
    induction hrun with
    | nil => exact fun t ht => absurd ht List.not_mem_nil
    | @snoc history c e c' hbefore hstep ih =>
      have hcond : ∀ t ∈ history, StartsUncounted t := by
        refine ih fun earlier later now hhistory => hunique earlier (later ++ [⟨c, e, c'⟩]) now ?_
        rw [hhistory, List.append_assoc]
      have hnumbering := numbering_of_run hbefore .empty hcond
      have hbelow : BelowCounter c'.state :=
        (hunique _ [] c' (List.append_nil _).symm (hbefore.snoc hstep)).below
      refine List.forall_mem_append.mpr ⟨hcond, List.forall_mem_singleton.mpr ?_⟩
      by_contra hcounted
      exact not_belowCounter (t := ⟨c, e, c'⟩) hnumbering hstep hcounted hbelow
  · intro hcond earlier later now hhistory hearlier
    refine idsUnique_of_run hearlier fun t ht => hcond t ?_
    rw [hhistory]
    exact List.mem_append_left _ ht

/-- One proposal, from its creation to its execution. -/
theorem ids_unique_iff_lifecycle :
    ∃ history final, Run (StepOf Config.next) (.fresh (.numbered 0)) history final ∧
      history.length = 5 ∧ IdsUnique history final := by
  obtain ⟨history, final, hrun, hobserved⟩ := Run.exists_of_replay
    (show (replay Config.next (.fresh (.numbered 0)) sampleLifecycle).map
      (fun r => r.1.map fun t => (t.event.call, t.before.state.nextProposalId)) =
        some [(.initializeContract (.account 1) (.contract 11) 5, none),
          (.registerVoter (.account 1) (.account 2) 10, some 1),
          (.createProposal (.account 3) ⟨50, 20, 30⟩ 100 7, some 1),
          (.vote (.account 2) 1 true 10, some 2), (.execute 1, some 2)] from rfl)
  have hlength : history.length = 5 := by
    rw [← List.length_map (f := fun t => (t.event.call, t.before.state.nextProposalId)), hobserved]
    rfl
  refine ⟨history, final, hrun, hlength, ?_⟩
  refine (ids_unique_iff hrun).mpr ?_ history [] final (List.append_nil _).symm hrun
  rintro t ht ⟨admin, creditOracle, quorum, hcall⟩
  have hmem := List.mem_map_of_mem (f := fun t => (t.event.call, t.before.state.nextProposalId)) ht
  rw [hobserved, hcall] at hmem
  simp only [List.mem_cons, Prod.mk.injEq, reduceCtorEq, false_and, or_false, List.not_mem_nil] at hmem
  exact hmem.2

/-- A proposal is created before the initialisation, and another one after it. -/
def sampleSecondStart : List Event :=
  [ sampleEvent 0 (.account 3) (.createProposal (.account 3) ⟨50, 20, 30⟩ 100 7),
    sampleEvent 0 (.account 1) (.initializeContract (.account 1) (.contract 11) 5),
    sampleEvent 2 (.account 3) (.createProposal (.account 3) ⟨40, 30, 30⟩ 100 7) ]

/-- A creation before the initialisation, and one after it. -/
theorem not_ids_unique :
    ∃ history final, Run (StepOf Config.next) (.fresh (.numbered 0)) history final ∧
      ¬IdsUnique history final := by
  obtain ⟨history, final, hrun, hobserved⟩ := Run.exists_of_replay
    (show (replay Config.next (.fresh (.numbered 0)) sampleSecondStart).map
      (fun r => r.1.map fun t => (t.event.call, nextId t.before.state)) =
        some [(.createProposal (.account 3) ⟨50, 20, 30⟩ 100 7, 1),
          (.initializeContract (.account 1) (.contract 11) 5, 2),
          (.createProposal (.account 3) ⟨40, 30, 30⟩ 100 7, 1)] from rfl)
  obtain ⟨first, rest, rfl, hfirst, hrest⟩ := List.map_eq_cons_iff.mp hobserved
  obtain ⟨second, rest, rfl, -, hrest⟩ := List.map_eq_cons_iff.mp hrest
  obtain ⟨third, rest, rfl, hthird, hrest⟩ := List.map_eq_cons_iff.mp hrest
  obtain rfl := List.map_eq_nil_iff.mp hrest
  have hreturned {t : Move} {call : Call} (ht : (t.event.call, nextId t.before.state) = (call, 1))
      (hcall : call.IsCreation) (hstep : StepOf Config.next t.before t.event t.after) : ReturnsId t 1 := by
    obtain ⟨rfl, hid⟩ := Prod.mk.inj ht
    have hreturns := returnsId_nextId hstep hcall
    rwa [hid] at hreturns
  have hstart : Run (StepOf Config.next) (.fresh (.numbered 0)) ([] ++ first :: [second, third]) final := hrun
  have hend : Run (StepOf Config.next) (.fresh (.numbered 0)) ([first, second] ++ third :: []) final := hrun
  refine ⟨_, final, hrun, fun hunique => ?_⟩
  refine hunique.new [first, second] third [] 1 rfl ?_ first List.mem_cons_self ?_
  · exact hreturned hthird ⟨_, _, _, _, rfl⟩ hend.around.2.1
  · exact hreturned hfirst ⟨_, _, _, _, rfl⟩ hstart.around.2.1

end StellarDidCredit.Governance
