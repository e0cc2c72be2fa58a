import StellarDidCredit.Governance.ProposalIds
import StellarDidCredit.Governance.Tallies

/-!
# Listing proposals

`list_proposals` reads at most twenty ids a call. Pages of any size up to twenty, put one behind the other,
are the records in the order of their ids.
-/

namespace StellarDidCredit.Governance

variable {env : Env} {call : Call} {s s' : State} {p first count : ℕ} {ledger : Ledger} {history : List Move}
  {start final : Config}

/-! ## The counter -/

/-- A creation leaves a counter that fits. -/
theorem createProposal_fits {proposer : Address} {weights : ScoringWeights} {period delay id : ℕ}
    (h : createProposal env proposer weights period delay s = .ok (id, s')) : nextId s' ≤ U64.max := by
  simp only [createProposal, Outcome.bind_eq_ok, Outcome.require_eq_ok, requireAuth_eq_ok,
    Outcome.okOr_eq_ok, U64.checkedAdd_eq_some, Except.ok.injEq, Prod.mk.injEq] at h
  obtain ⟨_, -, _, -, _, -, _, -, _, -, _, -, next, ⟨hfits, rfl⟩, -, rfl⟩ := h
  exact hfits

/-- The counter stays a 64-bit number. -/
theorem exec_fits {κ : Type} {host : Host κ} {world world' : κ}
    (h : exec host env call s world = .ok (s', world')) (hfits : nextId s ≤ U64.max) : nextId s' ≤ U64.max := by
  have heffect := exec_effect h
  cases heffect with
  | initialized => exact (by decide : firstProposalId ≤ U64.max)
  | created =>
    simp only [exec, alone_eq_ok, Outcome.map_snd_eq_ok] at h
    obtain ⟨⟨id, hcreate⟩, -⟩ := h
    exact createProposal_fits hcreate
  | _ => exact hfits

/-- The counter is a 64-bit number. -/
theorem nextId_le_of_run (hrun : Run (StepOf Config.next) (.fresh ledger) history final) :
    nextId final.state ≤ U64.max := by
  refine hrun.invariant (fun c => nextId c.state ≤ U64.max) (fun c e c' h hstep => ?_) ?_
  · exact exec_fits (Config.exec_of_next hstep).2.2 h
  · exact (by decide : firstProposalId ≤ U64.max)

/-! ## After the initialisation -/

/-- The contract has an admin, and its ids are in order. -/
structure Settled (c : Config) : Prop where
  numbering : Numbering c.state
  admin : c.state.admin ≠ none

/-- A contract that has an admin is not initialised again. -/
theorem Settled.startsUncounted {c c' : Config} {e : Event} (h : Settled c) (hstep : StepOf Config.next c e c') :
    ¬e.call.IsInitialization := by
  rintro ⟨admin, creditOracle, quorum, hcall⟩
  have hexec := (Config.exec_of_next hstep).2.2
  rw [hcall] at hexec
  simp only [exec, alone_eq_ok] at hexec
  exact h.admin (initializeContract_spec hexec.1).1

/-- The ids stay in order, and what is stored under an id stays, the votes and the flags aside. -/
theorem Settled.run (h : Settled start) (hrun : Run (StepOf Config.next) start history final) :
    Settled final ∧ ∀ p, (start.state.proposal p).isSome → SameUnder p start.state final.state := by
  refine hrun.invariant (fun c => Settled c ∧ ∀ p, (start.state.proposal p).isSome →
    SameUnder p start.state c.state) ?_ ⟨h, fun p _ => .refl p _⟩
  rintro c e c' ⟨hsettled, hsame⟩ hstep
  have hnumbers := (Config.effect_of_next hstep).numbers
  refine ⟨⟨?_, ?_⟩, fun p hsome => ?_⟩
  · exact hsettled.numbering.step hnumbers fun hcall => absurd hcall (hsettled.startsUncounted hstep)
  · exact (Config.effect_of_next hstep).admin_ne_none hsettled.admin
  · exact (hsame p hsome).trans (hsettled.numbering.sameUnder hnumbers ((hsame p hsome).isSome.trans hsome))

/-! ## Pages -/

/-- The record is neither executed nor cancelled. -/
def GovernanceProposal.active (record : GovernanceProposal) : Bool := !record.executed && !record.cancelled

/-- The records under some ids in a row. -/
def recordsFrom (s : State) (first count : ℕ) : List GovernanceProposal :=
  (List.range' first count).filterMap s.proposal

/-- Two ranges of ids, one after the other. -/
theorem recordsFrom_add (s : State) (first count more : ℕ) :
    recordsFrom s first (count + more) = recordsFrom s first count ++ recordsFrom s (first + count) more := by
  rw [recordsFrom, ← List.range'_append_1, List.filterMap_append]
  rfl

/-- Nothing is stored from the counter on. -/
theorem recordsFrom_below (hbelow : BelowCounter s) (first count : ℕ) :
    recordsFrom s first count = recordsFrom s first (min count (nextId s - first)) := by
  rcases Nat.le_total count (nextId s - first) with hle | hle
  · rw [Nat.min_eq_left hle]
  · rw [Nat.min_eq_right hle]
    obtain ⟨more, rfl⟩ := Nat.exists_eq_add_of_le hle
    have hnone : recordsFrom s (first + (nextId s - first)) more = [] := by
      refine List.filterMap_eq_nil_iff.mpr fun p hp =>
        Option.eq_none_iff_forall_ne_some.mpr fun record hrecord => ?_
      obtain ⟨-, -, next, hnext, hlt⟩ := hbelow p record hrecord
      have heq : nextId s = next := by rw [nextId, hnext, Option.getD_some]
      have hfrom := (List.mem_range'_1.mp hp).1
      omega
    rw [recordsFrom_add, hnone, List.append_nil]

/-- A page of the contract. -/
theorem listProposals_eq (hbelow : BelowCounter s) (hfits : nextId s ≤ U64.max) (first limit : ℕ)
    (includeInactive : Bool) :
    listProposals s first limit includeInactive =
      (recordsFrom s first (min limit 20)).filter fun record => includeInactive || record.active := by
  rw [recordsFrom_below hbelow, recordsFrom, List.filter_filterMap, listProposals]
  by_cases hnone : min limit 20 = 0 ∨ nextId s ≤ first
  · have hzero : min (min limit 20) (nextId s - first) = 0 := by omega
    rw [if_pos hnone, hzero]
    rfl
  · have hcount : min (min (first + min limit 20) U64.max) (nextId s) - first =
        min (min limit 20) (nextId s - first) := by omega
    rw [if_neg hnone]
    dsimp only
    rw [hcount]
    rfl

/-- Pages of one size, put one behind the other. -/
theorem recordsFrom_pages (s : State) (first size pages : ℕ) :
    recordsFrom s first (pages * size) = (List.range pages).flatMap fun page =>
      recordsFrom s (first + page * size) size := by
  induction pages with
  | zero => rw [Nat.zero_mul]; rfl
  | succ pages ih =>
    rw [Nat.succ_mul, recordsFrom_add, ih, List.range_succ, List.flatMap_append, List.flatMap_singleton]

end StellarDidCredit.Governance
