import StellarDidCredit.Governance.Availability

/-!
# What an execution rests on

An executed proposal was created by a signature, and its tallies are the votes that were cast on it since:
each signed by its voter, before the voting period was over, and none of them beyond the weight that the
voter had then. No cleanup and no change of the registrations in between can alter that.
-/

namespace StellarDidCredit.Governance

variable {κ : Type} {host : Host κ} {env : Env} {call : Call} {s s' : State} {world world' : κ} {p : ℕ}

/-! ## Votes -/

/-- The weight that a call gives to one side of a proposal. -/
def Call.cast (p : ℕ) (side : Bool) : Call → ℤ
  | .vote _ proposalId voteFor voteWeight => if proposalId = p ∧ voteFor = side then voteWeight else 0
  | _ => 0

/-- The weight that a call gives to a proposal in the name of a voter. -/
def Call.castBy (p : ℕ) (voter : Address) : Call → ℤ
  | .vote caster proposalId _ voteWeight => if caster = voter ∧ proposalId = p then voteWeight else 0
  | _ => 0

/-- One step of the contract, without the rest of the ledger. -/
structure Stage where
  before : State
  env : Env
  call : Call
  after : State

def Stage.ofMove (t : Move) : Stage := ⟨t.before.state, t.event.env, t.event.call, t.after.state⟩

/-- The weight that some steps give to one side of a proposal. -/
def castIn (p : ℕ) (side : Bool) (steps : List Stage) : ℤ := (steps.map fun t => t.call.cast p side).sum

/-- The weight that some steps give to a proposal in the name of a voter. -/
def castInBy (p : ℕ) (voter : Address) (steps : List Stage) : ℤ := (steps.map fun t => t.call.castBy p voter).sum

/-- One more step adds what its call casts. -/
theorem castIn_concat (p : ℕ) (side : Bool) (steps : List Stage) (t : Stage) :
    castIn p side (steps ++ [t]) = castIn p side steps + t.call.cast p side := by
  rw [castIn, List.map_append, List.sum_append, List.map_singleton, List.sum_singleton]
  rfl

/-- So it does for each voter. -/
theorem castInBy_concat (p : ℕ) (voter : Address) (steps : List Stage) (t : Stage) :
    castInBy p voter (steps ++ [t]) = castInBy p voter steps + t.call.castBy p voter := by
  rw [castInBy, List.map_append, List.sum_append, List.map_singleton, List.sum_singleton]
  rfl

/-- The call votes on the proposal. -/
def Call.VotesOn (p : ℕ) (call : Call) : Prop := ∃ voter voteFor weight, call = .vote voter p voteFor weight

/-- Only a vote on the proposal casts weight on it. -/
theorem cast_of_not_votesOn (h : ¬call.VotesOn p) (side : Bool) : call.cast p side = 0 := by
  cases call with
  | vote voter proposalId voteFor voteWeight =>
    refine if_neg ?_
    rintro ⟨rfl, -⟩
    exact h ⟨voter, voteFor, voteWeight, rfl⟩
  | _ => rfl

/-- Another call casts none for any voter. -/
theorem castBy_of_not_votesOn (h : ¬call.VotesOn p) (voter : Address) : call.castBy p voter = 0 := by
  cases call with
  | vote caster proposalId voteFor voteWeight =>
    refine if_neg ?_
    rintro ⟨-, rfl⟩
    exact h ⟨caster, voteFor, voteWeight, rfl⟩
  | _ => rfl

/-- A vote moves the tally of its side by its weight. -/
theorem addVote_cast {old new : GovernanceProposal} {voteFor : Bool} {weight : ℤ}
    (h : addVote old voteFor weight = .ok new) (voter : Address) (p : ℕ) :
    new.votesFor = old.votesFor + (Call.vote voter p voteFor weight).cast p true ∧
      new.votesAgainst = old.votesAgainst + (Call.vote voter p voteFor weight).cast p false := by
  cases voteFor with
  | true =>
    simp only [addVote, if_true, Outcome.bind_eq_ok, Outcome.okOr_eq_ok, I128.checkedAdd_eq_some,
      Except.ok.injEq] at h
    obtain ⟨_, ⟨-, rfl⟩, rfl⟩ := h
    simp [Call.cast]
  | false =>
    simp only [addVote, Bool.false_eq_true, if_false, Outcome.bind_eq_ok, Outcome.okOr_eq_ok,
      I128.checkedAdd_eq_some, Except.ok.injEq] at h
    obtain ⟨_, ⟨-, rfl⟩, rfl⟩ := h
    simp [Call.cast]

/-- A cleanup does nothing to a proposal that is not executed. -/
theorem cleanupProposalVotes_open {admin : Address} {voters : List Address} {record : GovernanceProposal}
    (h : cleanupProposalVotes env admin p voters s = .ok s') (hrecord : s.proposal p = some record)
    (hopen : record.executed = false) : s' = s := by
  simp only [cleanupProposalVotes, Outcome.bind_eq_ok, requireAdminArg_eq_ok, requireAuth_eq_ok,
    Outcome.okOr_eq_ok] at h
  obtain ⟨_, -, _, -, stored, hstored, h⟩ := h
  obtain rfl := Option.some.inj (hstored.symm.trans hrecord)
  rw [hopen] at h
  exact (Except.ok.inj h).symm

/-- While a proposal is not executed, a call raises what a voter has used on it by what it votes. -/
theorem used_of_open (h : exec host env call s world = .ok (s', world')) {record : GovernanceProposal}
    (hrecord : s.proposal p = some record) (hopen : record.executed = false) (voter : Address) :
    getVoteWeightUsed s' p voter = getVoteWeightUsed s p voter + call.castBy p voter := by
  cases exec_effect h with
  | @voted caster q voteFor weight =>
    by_cases hkey : (p, voter) = (q, caster)
    · obtain ⟨rfl, rfl⟩ := Prod.mk.inj hkey
      simp [getVoteWeightUsed, Call.castBy]
    · have hother : ¬(caster = voter ∧ q = p) := by
        rintro ⟨rfl, rfl⟩
        exact hkey rfl
      simp only [getVoteWeightUsed, Storage.set_of_ne _ _ hkey, Call.castBy, if_neg hother, add_zero]
  | @cleaned admin q voters =>
    have hsame : removeVoteWeights q voters s.voteWeightUsed (p, voter) = s.voteWeightUsed (p, voter) := by
      by_cases hq : p = q
      · subst hq
        simp only [exec, alone_eq_ok] at h
        exact congrFun (congrArg State.voteWeightUsed (cleanupProposalVotes_open h.1 hrecord hopen)) (p, voter)
      · exact removeVoteWeights_of_ne voters _ hq
    simp only [getVoteWeightUsed, hsame, Call.castBy, add_zero]
  | administered hcall =>
    have hnone : ¬call.VotesOn p := by
      rintro ⟨_, _, _, rfl⟩
      exact hcall
    rw [castBy_of_not_votesOn hnone, add_zero]
    rfl
  | _ => exact (add_zero _).symm

/-! ## The tallies of a record -/

/-- A vote that counts: its voter has authorised it in time, and what the voter has given to the proposal is
within the weight that it had. -/
structure Counts (p expiryLedger : ℕ) (earlier : List Stage) (t : Stage) (voter : Address) (weight : ℤ) : Prop where
  authorized : t.env.Authorized voter
  inTime : t.env.ledger.sequence ≤ expiryLedger
  positive : 0 < weight
  within : ∃ registered, t.before.voterWeight voter = some registered ∧
    castInBy p voter earlier + weight ≤ registered

/-- The tallies of a record are the votes on it in some steps, which all count. -/
structure Tallied (p : ℕ) (record : GovernanceProposal) (since : List Stage) : Prop where
  votesFor : record.votesFor = castIn p true since
  votesAgainst : record.votesAgainst = castIn p false since
  counts : ∀ earlier t later voter voteFor weight, since = earlier ++ t :: later →
    t.call = .vote voter p voteFor weight → Counts p record.expiryLedger earlier t voter weight

/-- The last element of a list is the given one, or behind it. -/
theorem split_concat {α : Type} {xs earlier later : List α} {x t : α} (h : xs ++ [t] = earlier ++ x :: later) :
    (xs = earlier ∧ t = x) ∨ ∃ rest, xs = earlier ++ x :: rest := by
  rcases List.eq_nil_or_concat later with rfl | ⟨rest, last, rfl⟩
  · obtain ⟨hfront, hlast⟩ := List.append_inj' h rfl
    exact Or.inl ⟨hfront, (List.cons.inj hlast).1⟩
  · rw [List.concat_eq_append, ← List.cons_append, ← List.append_assoc] at h
    exact Or.inr ⟨rest, (List.append_inj' h rfl).1⟩

/-- A fresh proposal has no votes. -/
theorem tallied_fresh (p id : ℕ) (proposer : Address) (weights : ScoringWeights) (expiryLedger delay : ℕ)
    (quorum : ℤ) : Tallied p (freshProposal id proposer weights expiryLedger delay quorum) [] where
  votesFor := rfl
  votesAgainst := rfl
  counts earlier t later voter voteFor weight h := absurd h.symm (by simp)

/-- One more step, which votes on the proposal or does not. -/
theorem Tallied.step {old new : GovernanceProposal} {since : List Stage} {t : Stage} (h : Tallied p old since)
    (hexpiry : new.expiryLedger = old.expiryLedger) (hfor : new.votesFor = old.votesFor + t.call.cast p true)
    (hagainst : new.votesAgainst = old.votesAgainst + t.call.cast p false)
    (hcounts : ∀ voter voteFor weight, t.call = .vote voter p voteFor weight →
      Counts p old.expiryLedger since t voter weight) : Tallied p new (since ++ [t]) := by
  constructor
  case votesFor => rw [hfor, h.votesFor, castIn_concat]
  case votesAgainst => rw [hagainst, h.votesAgainst, castIn_concat]
  case counts =>
    intro earlier u later voter voteFor weight hsplit hcall
    rw [hexpiry]
    rcases split_concat hsplit with ⟨rfl, rfl⟩ | ⟨rest, rfl⟩
    · exact hcounts voter voteFor weight hcall
    · exact h.counts earlier u rest voter voteFor weight rfl hcall

/-- A step that does not vote on the proposal and keeps its record's tallies. -/
theorem Tallied.keep {old new : GovernanceProposal} {since : List Stage} {t : Stage} (h : Tallied p old since)
    (hexpiry : new.expiryLedger = old.expiryLedger) (hfor : new.votesFor = old.votesFor)
    (hagainst : new.votesAgainst = old.votesAgainst) (hnot : ¬t.call.VotesOn p) : Tallied p new (since ++ [t]) := by
  refine h.step hexpiry ?_ ?_ fun voter voteFor weight hcall => absurd ⟨voter, voteFor, weight, hcall⟩ hnot
  · rw [hfor, cast_of_not_votesOn hnot, add_zero]
  · rw [hagainst, cast_of_not_votesOn hnot, add_zero]

variable {ledger : Ledger} {history earlier later : List Move} {start final : Config}

/-- One step after the creation. -/
theorem Tallied.follow {c c' : Config} {e : Event} {old : GovernanceProposal} {since : List Stage}
    (hstep : StepOf Config.next c e c') (hnot : ¬Creates p ⟨c, e, c'⟩) (hold : c.state.proposal p = some old)
    (htallied : Tallied p old since)
    (hused : old.executed = false → ∀ voter, castInBy p voter since ≤ getVoteWeightUsed c.state p voter) :
    ∃ new, c'.state.proposal p = some new ∧ Tallied p new (since ++ [.ofMove ⟨c, e, c'⟩]) ∧
      (new.executed = false → ∀ voter,
        castInBy p voter (since ++ [.ofMove ⟨c, e, c'⟩]) ≤ getVoteWeightUsed c'.state p voter) := by
  have hexec := (Config.exec_of_next hstep).2.2
  have hgrows (hopen : old.executed = false) (voter : Address) :
      castInBy p voter (since ++ [.ofMove ⟨c, e, c'⟩]) ≤ getVoteWeightUsed c'.state p voter := by
    rw [castInBy_concat, used_of_open hexec hold hopen]
    have hbefore := hused hopen voter
    change castInBy p voter since + e.call.castBy p voter ≤ _
    omega
  have heffect := (Config.effect_of_next hstep).proposal p
  obtain ⟨env, call, answers⟩ := e
  simp only at heffect
  generalize hafter : c'.state.proposal p = after at heffect
  cases heffect with
  | created hid => exact absurd ⟨⟨_, _, _, _, rfl⟩, hid⟩ hnot
  | @voted voter voteFor weight stored new hstored hnew =>
    obtain rfl := Option.some.inj (hstored.symm.trans hold)
    obtain ⟨_, _, hfields⟩ := addVote_fields hnew
    obtain ⟨hfor, hagainst⟩ := addVote_cast hnew voter p
    simp only [exec, alone_eq_ok] at hexec
    obtain ⟨hauth, hpositive, registered, old, _, hregistered, hbound, hold', hexpiry, hopen, -⟩ :=
      vote_spec hexec.1
    obtain rfl := Option.some.inj (hstored.symm.trans hold')
    refine ⟨new, rfl, htallied.step (by rw [hfields]) hfor hagainst ?_, fun _ => hgrows hopen⟩
    intro caster side amount hcall
    obtain ⟨rfl, -, -, rfl⟩ := Call.vote.inj hcall
    refine ⟨hauth, hexpiry, hpositive, registered, hregistered, ?_⟩
    have hbefore := hused hopen voter
    omega
  | @executed stored hstored =>
    obtain rfl := Option.some.inj (hstored.symm.trans hold)
    refine ⟨_, rfl, htallied.keep rfl rfl rfl ?_, fun hopen => by cases hopen⟩
    rintro ⟨_, _, _, hcall⟩
    cases hcall
  | @cancelled canceller stored hstored =>
    obtain rfl := Option.some.inj (hstored.symm.trans hold)
    refine ⟨_, rfl, htallied.keep rfl rfl rfl ?_, hgrows⟩
    rintro ⟨_, _, _, hcall⟩
    cases hcall
  | kept hkept =>
    refine ⟨old, hold, htallied.keep rfl rfl rfl ?_, hgrows⟩
    rintro ⟨_, _, _, rfl⟩
    exact hkept rfl

/-- Used weights are not negative in a run. -/
theorem used_nonneg_of_run (hrun : Run (StepOf Config.next) (.fresh ledger) history final) (p : ℕ)
    (voter : Address) :
    0 ≤ getVoteWeightUsed final.state p voter := by
  refine hrun.invariant (fun c => ∀ p voter, 0 ≤ getVoteWeightUsed c.state p voter)
    (fun c e c' h hstep => ?_) ?_ p voter
  · exact used_nonneg_step h (Config.exec_of_next hstep).2.2
  · exact fun _ _ => le_rfl

/-- The record of a proposal is tallied by the steps since its creation. -/
theorem tallied_of_run {creation : Move} {since : List Move}
    (hrun : Run (StepOf Config.next) (.fresh ledger) (history ++ creation :: since) final)
    (hcreates : Creates p creation) (hnot : ∀ u ∈ since, ¬Creates p u) :
    ∃ record, final.state.proposal p = some record ∧ Tallied p record (since.map .ofMove) ∧
      (record.executed = false → ∀ voter,
        castInBy p voter (since.map .ofMove) ≤ getVoteWeightUsed final.state p voter) := by
  obtain ⟨hbefore, hstep, hrest⟩ := hrun.around
  clear hrun
  induction hrest with
  | nil =>
    obtain ⟨c, ⟨env, call, answers⟩, c'⟩ := creation
    obtain ⟨⟨proposer, weights, period, delay, rfl⟩, hid⟩ := hcreates
    have heffect := (Config.effect_of_next hstep).proposal p
    simp only at heffect hid
    generalize hafter : c'.state.proposal p = after at heffect
    cases heffect with
    | created =>
      refine ⟨_, rfl, tallied_fresh p p _ _ _ _ _, fun _ voter => ?_⟩
      exact used_nonneg_of_run (hbefore.snoc hstep) p voter
    | kept hkept => exact absurd hid hkept
  | @snoc since c e c' hbetween hlast ih =>
    obtain ⟨hearlier, hnow⟩ := List.forall_mem_append.mp hnot
    obtain ⟨old, hold, htallied, hused⟩ := ih hearlier
    rw [List.map_append]
    exact htallied.follow hlast (hnow _ List.mem_cons_self) hold hused

/-! ## Executions -/

/-- What the execution of a proposal rests on: its creation, by somebody who authorised it, and the votes
since. Nobody has executed or cancelled it in between, or given its id out again. -/
structure Mandate (p : ℕ) (weights : ScoringWeights) (creation : Stage) (since : List Stage) (execution : Stage) :
    Prop where
  created : ∃ proposer period delay quorum, creation.call = .createProposal proposer weights period delay ∧
    nextId creation.before = p ∧ creation.env.Authorized proposer ∧
    currentQuorum creation.before = .ok quorum ∧ quorum ≤ castIn p true since + castIn p false since ∧
    creation.env.ledger.sequence + period + delay < execution.env.ledger.sequence ∧
    ∀ earlier t later voter voteFor weight, since = earlier ++ t :: later → t.call = .vote voter p voteFor weight →
      Counts p (creation.env.ledger.sequence + period) earlier t voter weight
  majority : castIn p false since < castIn p true since
  untouched : ∀ t ∈ since, t.call ≠ .execute p ∧ (∀ canceller, t.call ≠ .cancelProposal canceller p) ∧
    (t.call.IsCreation → nextId t.before ≠ p)

/-- Every execution in a run has a mandate. -/
theorem mandate_of_run {t : Move} (hrun : Run (StepOf Config.next) (.fresh ledger) (earlier ++ t :: later) final)
    (hexecutes : Executes p t) {record : GovernanceProposal} (hrecord : t.before.state.proposal p = some record) :
    ∃ before creation since, earlier.map .ofMove = before ++ creation :: since ∧
      Mandate p record.proposedWeights creation since (.ofMove t) := by
  obtain ⟨hbefore, hstep, -⟩ := hrun.around
  have hexec := (Config.exec_of_next hstep).2.2
  rw [hexecutes] at hexec
  obtain ⟨stored, oracle, hstored, -, hdelay, hexecuted, hcancelled, hpassed, hquorum, -⟩ := execute_spec hexec
  obtain rfl := Option.some.inj (hstored.symm.trans hrecord)
  obtain ⟨before, creation, since, rfl, hdescends⟩ := exists_creation hbefore hstored
  obtain ⟨proposer, period, hcall, hexpiry⟩ := hdescends.created
  obtain ⟨tallied, htallied, hcounted, -⟩ := tallied_of_run hbefore ⟨⟨_, _, _, _, hcall⟩, hdescends.id⟩
    hdescends.notCreated
  obtain rfl := Option.some.inj (htallied.symm.trans hstored)
  have hcreation := (Config.exec_of_next hbefore.around.2.1).2.2
  rw [hcall] at hcreation
  simp only [exec, alone_eq_ok, Outcome.map_snd_eq_ok] at hcreation
  obtain ⟨⟨id, hcreated⟩, -⟩ := hcreation
  have hauth := (createProposal_spec hcreated).2.1
  rw [hcounted.votesFor, hcounted.votesAgainst] at hquorum hpassed
  rw [hexpiry] at hdelay
  refine ⟨before.map .ofMove, .ofMove creation, since.map .ofMove, by rw [List.map_append, List.map_cons], ?_,
    hpassed, ?_⟩
  · refine ⟨proposer, period, _, _, hcall, hdescends.id, hauth, hdescends.quorum, hquorum, hdelay, ?_⟩
    have hcounts := hcounted.counts
    rwa [hexpiry] at hcounts
  · intro u hu
    obtain ⟨v, hv, rfl⟩ := List.mem_map.mp hu
    refine ⟨hdescends.notExecuted hexecuted v hv, fun canceller hcancels => ?_, fun hcreation hid => ?_⟩
    · exact hdescends.notCancelled hcancelled v hv ⟨canceller, hcancels⟩
    · exact hdescends.notCreated v hv ⟨hcreation, hid⟩

end StellarDidCredit.Governance
