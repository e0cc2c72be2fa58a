import StellarDidCredit.Sdk.ProposalScans

/-!
# Pages of the contract

`StellarDIDCreditSDK.listProposals` asks the contract for a page. The scan of the client returns what the
pages hold, when nobody calls the contract in between.
-/

namespace StellarDidCredit.Sdk

open Governance (GovernanceProposal Config BelowCounter nextId recordsFrom)

/-- A number that the encoder takes for an unsigned one of this size. -/
def encodeUnsigned (config : GovernanceClientConfig) (max : ℕ) (value : GovernanceInteger) : Except Raised ℕ :=
  let isInteger : Bool :=
    match value with
    | .number number => number.isInteger
    | .bigint _ => true
  if isInteger && decide (0 ≤ value.toInt ∧ value.toInt ≤ max) then .ok value.toInt.toNat
  else .error (.error config.unencodable)

/-- One page, as the contract lists it. -/
def StellarDIDCreditSDK.listProposals (config : GovernanceClientConfig)
    (page : ℕ → ℕ → Bool → ReadResponse (List GovernanceProposal)) (fromId : GovernanceInteger) (limit : JsNumber)
    (includeInactive : Bool) : Except Raised (List GovernanceProposal) :=
  if config.governanceId = "" then .error (.error "governanceId is not configured in ProtocolConfig")
  else do
    let fromId ← encodeUnsigned config U64.max fromId
    let limit ← encodeUnsigned config U32.max (.number limit)
    simulateRead (page fromId limit includeInactive)

/-- A server of a contract that nobody calls. -/
def quietServer (instanceStorage : Config → Option (List (NativeKey × Option ℕ))) : GovernanceServer Config where
  instanceStorage c := (instanceStorage c, c)
  getProposal id c := (.returned (c.state.proposal id), c)

/-- The pages that it answers with. -/
def quietPage (c : Config) (fromId limit : ℕ) (includeInactive : Bool) : ReadResponse (List GovernanceProposal) :=
  .returned (Governance.listProposals c.state fromId limit includeInactive)

/-- A 64-bit integer is encoded as it is. -/
theorem encodeUnsigned_bigint (config : GovernanceClientConfig) {max value : ℕ} (h : value ≤ max) :
    encodeUnsigned config max (.bigint value) = .ok value := by
  have hrange : (0 : ℤ) ≤ value ∧ (value : ℤ) ≤ max := by omega
  simp only [encodeUnsigned, GovernanceInteger.toInt, Bool.true_and, Int.toNat_natCast]
  exact if_pos (decide_eq_true hrange)

/-- So is a number of the language. -/
theorem encodeUnsigned_number (config : GovernanceClientConfig) {max value : ℕ} (h : value ≤ max) :
    encodeUnsigned config max (.number (.finite value)) = .ok value := by
  have hrange : (0 : ℤ) ≤ value ∧ (value : ℤ) ≤ max := by omega
  have hden : (value : ℚ).den = 1 := Rat.den_natCast value
  have hnum : (value : ℚ).num = value := Rat.num_natCast value
  simp only [encodeUnsigned, GovernanceInteger.toInt, JsNumber.isInteger, JsNumber.toInt, hden, hnum, decide_true,
    Bool.true_and, decide_eq_true hrange, if_true, Int.toNat_natCast]

/-- A number of proposals is a limit. -/
theorem limitOf_natCast (limit : ℕ) : limitOf (some (.finite limit)) = .ok (some limit) := by
  have hden : (limit : ℚ).den = 1 := Rat.den_natCast limit
  have hnum : (limit : ℚ).num = limit := Rat.num_natCast limit
  have hnonneg : ¬(limit : ℤ) < 0 := by omega
  simp only [limitOf, JsNumber.isInteger, JsNumber.toInt, hden, hnum, decide_true, Bool.true_eq_false, false_or,
    if_neg hnonneg, Int.toNat_natCast]

/-- An id is a start. -/
theorem startOf_natCast (first : ℕ) : startOf (some (.bigint first)) = .ok first := by
  have hnonneg : ¬(first : ℤ) < 0 := by omega
  simp only [startOf, toUnsignedBigInt, assertSafeInteger, GovernanceInteger.toInt, bind, Except.bind,
    Int.toNat_natCast]
  exact if_neg hnonneg

variable {config : GovernanceClientConfig} {instanceStorage : Config → Option (List (NativeKey × Option ℕ))}
  {c : Config} {ledger : Ledger} {history : List Governance.Move}

/-- A page of the contract is the records under its ids. -/
theorem page_eq (hrun : Run (StepOf Config.next) (.fresh ledger) history c)
    (honce : ∀ t ∈ history, Governance.StartsUncounted t) {size : ℕ} (hsize : size ≤ 20) (first : ℕ) :
    Governance.listProposals c.state first size true = recordsFrom c.state first size := by
  have hbelow := (Governance.numbering_of_run hrun .empty honce).below
  rw [Governance.listProposals_eq hbelow (Governance.nextId_le_of_run hrun), Nat.min_eq_left hsize]
  exact List.filter_eq_self.mpr fun _ _ => rfl

/-- A scan of an idle contract, from its start to its end. -/
theorem listProposals_quiet {config : GovernanceClientConfig} (hid : ¬config.governanceId.toList.all isSpace = true)
    {first : ℕ} {limit : Option JsNumber} {bound : Option ℕ} (hbound : limitOf limit = .ok bound)
    (hpositive : bound ≠ some 0)
    {nextProposalId : ℕ} (hnext : ((instanceStorage c).bind findNextProposalId).getD 1 = nextProposalId)
    (hfits : endOf first nextProposalId bound ≤ U64.max + 1) :
    (listProposals config (quietServer instanceStorage) (some (.bigint first)) limit c).1 =
      .ok (recordsFrom c.state first (endOf first nextProposalId bound - first)) := by
  have hconfigured : requireGovernanceId config = .ok () := if_neg hid
  have hreads : ∀ id ∈ List.range' first (endOf first nextProposalId bound - first),
      getProposal config (quietServer instanceStorage) id c = (.ok (c.state.proposal id), c) := by
    intro id hin
    have hbounds := List.mem_range'_1.mp hin
    have hless : ¬U64.max < id := by omega
    simp only [getProposal, hconfigured, if_neg hless]
    rfl
  simp only [listProposals, hbound, startOf_natCast, if_neg hpositive, getNextProposalId, hconfigured]
  simp only [quietServer] at hreads ⊢
  rw [hnext, sweep_unchanged hreads]
  rfl

/-- The counter of an idle contract, where it can be read. -/
theorem counter_of_storage (hstorage : ∀ storage, instanceStorage c = some storage →
    findNextProposalId storage = c.state.nextProposalId) (hread : instanceStorage c ≠ none) :
    ((instanceStorage c).bind findNextProposalId).getD 1 = nextId c.state := by
  obtain ⟨storage, hsome⟩ := Option.ne_none_iff_exists'.mp hread
  rw [hsome, Option.bind_some, hstorage storage hsome]
  rfl

/-- Between the counter and the limit a scan reads what pages up to the limit hold. -/
theorem recordsFrom_endOf (hbelow : BelowCounter c.state) {first limit : ℕ} :
    recordsFrom c.state first (endOf first (nextId c.state) (some limit) - first) =
      recordsFrom c.state first limit := by
  rw [Governance.recordsFrom_below hbelow, Governance.recordsFrom_below hbelow first limit]
  congr 1
  simp only [endOf]
  split
  · split <;> omega
  · omega

/-- A contract that has been initialised before its first creation, if ever, and that nobody calls in
between. The scan of the client agrees with pages of the contract, whatever their size up to twenty: with
a limit it returns the pages up to the limit, and without one all pages up to the counter. -/
theorem listProposals_pages (hrun : Run (StepOf Config.next) (.fresh ledger) history c)
    (honce : ∀ t ∈ history, Governance.StartsUncounted t) (hid : ¬config.governanceId.toList.all isSpace = true)
    (hstorage : ∀ storage, instanceStorage c = some storage → findNextProposalId storage = c.state.nextProposalId)
    {first size pages : ℕ} (hfirst : first ≠ 0) (hsize : size ≤ 20) (hfits : first + pages * size ≤ U64.max) :
    ∃ page : ℕ → List GovernanceProposal,
      (∀ i < pages, StellarDIDCreditSDK.listProposals config (quietPage c) (.bigint (first + i * size : ℕ))
        (.finite size) true = .ok (page i)) ∧
      (∀ i < pages, StellarDIDCreditSDK.listProposals config (quietPage c) (.bigint (first + i * size : ℕ))
        (.finite size) false = .ok ((page i).filter (·.active))) ∧
      (listProposals config (quietServer instanceStorage) (some (.bigint first))
        (some (.finite (pages * size : ℕ))) c).1 =
        .ok ((List.range pages).flatMap page) ∧
      (instanceStorage c ≠ none → nextId c.state ≤ first + pages * size →
        (listProposals config (quietServer instanceStorage) (some (.bigint first)) none c).1 =
          .ok ((List.range pages).flatMap page)) := by
  have hbelow := (Governance.numbering_of_run hrun .empty honce).below
  have hnextFits := Governance.nextId_le_of_run hrun
  have hname : config.governanceId ≠ "" := fun hempty => hid (by rw [hempty]; rfl)
  have hpage {i : ℕ} (hi : i < pages) (includeInactive : Bool) :
      StellarDIDCreditSDK.listProposals config (quietPage c) (.bigint (first + i * size : ℕ)) (.finite size)
        includeInactive = .ok (Governance.listProposals c.state (first + i * size) size includeInactive) := by
    have hless : i * size ≤ pages * size := Nat.mul_le_mul_right size hi.le
    have hstart : first + i * size ≤ U64.max := by omega
    have hcount : size ≤ U32.max := hsize.trans (by decide)
    rw [StellarDIDCreditSDK.listProposals, if_neg hname, encodeUnsigned_bigint config hstart,
      encodeUnsigned_number config hcount]
    rfl
  refine ⟨fun i => recordsFrom c.state (first + i * size) size, fun i hi => ?_, fun i hi => ?_, ?_,
    fun hread hreach => ?_⟩
  · rw [hpage hi, page_eq hrun honce hsize]
  · rw [hpage hi, Governance.listProposals_eq hbelow hnextFits, Nat.min_eq_left hsize]
    rfl
  · rw [← Governance.recordsFrom_pages]
    by_cases hzero : pages * size = 0
    · rw [hzero]
      simp only [listProposals, limitOf_natCast, if_true]
      rfl
    have hpositive : some (pages * size) ≠ some 0 := fun heq => hzero (Option.some.inj heq)
    by_cases hread : instanceStorage c = none
    · have hnext : ((instanceStorage c).bind findNextProposalId).getD 1 = 1 := by rw [hread]; rfl
      have hend : endOf first 1 (some (pages * size)) = first + pages * size := endOf_one hfirst
      rw [listProposals_quiet hid (limitOf_natCast _) hpositive hnext (by omega), hend, Nat.add_sub_cancel_left]
    · have hend : endOf first (nextId c.state) (some (pages * size)) ≤ first + pages * size := by
        simp only [endOf]
        split
        · split <;> omega
        · exact Nat.le_refl _
      rw [listProposals_quiet hid (limitOf_natCast _) hpositive (counter_of_storage hstorage hread) (by omega),
        recordsFrom_endOf hbelow]
  · rw [← Governance.recordsFrom_pages]
    have hend : endOf first (nextId c.state) none - first = nextId c.state - first := by
      simp only [endOf]
      split <;> omega
    have hfitsEnd : endOf first (nextId c.state) none ≤ U64.max + 1 := by omega
    rw [listProposals_quiet hid rfl (Option.some_ne_none 0).symm (counter_of_storage hstorage hread) hfitsEnd, hend,
      Governance.recordsFrom_below hbelow first (pages * size), Nat.min_eq_right (by omega)]

/-- Two pages of one id. -/
theorem listProposals_pages_lifecycle : ∃ history c page,
    Run (StepOf Config.next) (.fresh (.numbered 0)) history c ∧
    (listProposals ⟨"governance", ""⟩ (quietServer fun c => some (instanceEntries c)) (some (.bigint 1)) none c).1 =
      .ok ((List.range 2).flatMap page) ∧ ((List.range 2).flatMap page).map (·.id) = [1] := by
  obtain ⟨history, c, hrun, hobserved⟩ := Run.exists_of_replay
    (show (replay Config.next (.fresh (.numbered 0)) Governance.sampleLifecycle).map (fun r =>
      (r.1.map (fun t => (t.event.call, t.before.state.nextProposalId)), r.2.state.nextProposalId,
        (listProposals ⟨"governance", ""⟩ (quietServer fun c => some (instanceEntries c)) (some (.bigint 1)) none
          r.2).1.toOption.map (·.map (·.id)))) =
      some ([(.initializeContract (.account 1) (.contract 11) 5, none),
        (.registerVoter (.account 1) (.account 2) 10, some 1),
        (.createProposal (.account 3) ⟨50, 20, 30⟩ 100 7, some 1),
        (.vote (.account 2) 1 true 10, some 2), (.execute 1, some 2)], some 2, some [1]) from rfl)
  obtain ⟨hcalls, hobserved⟩ := Prod.mk.inj hobserved
  obtain ⟨hcounter, hlisted⟩ := Prod.mk.inj hobserved
  have honce : ∀ t ∈ history, Governance.StartsUncounted t := by
    rintro t ht ⟨admin, creditOracle, quorum, hcall⟩
    have hmem := List.mem_map_of_mem (f := fun t => (t.event.call, t.before.state.nextProposalId)) ht
    rw [hcalls, hcall] at hmem
    simp only [List.mem_cons, Prod.mk.injEq, reduceCtorEq, false_and, or_false, List.not_mem_nil] at hmem
    exact hmem.2
  have hnext : nextId c.state ≤ 1 + 2 * 1 := by
    rw [nextId, hcounter]
    decide
  obtain ⟨page, -, -, -, hall⟩ := @listProposals_pages ⟨"governance", ""⟩ (fun c => some (instanceEntries c)) c
    (.numbered 0) history hrun honce (by decide)
    (fun _ hstorage => Option.some.inj hstorage ▸ findNextProposalId_instanceEntries c) 1 1 2
    (by decide) (by decide) (by decide)
  have hpages : (listProposals ⟨"governance", ""⟩ (quietServer fun c => some (instanceEntries c)) (some (.bigint 1))
      none c).1 = .ok ((List.range 2).flatMap page) := hall (Option.some_ne_none _) hnext
  refine ⟨history, c, page, hrun, hpages, ?_⟩
  rw [hpages] at hlisted
  exact Option.some.inj hlisted

end StellarDidCredit.Sdk
