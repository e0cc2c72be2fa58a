import StellarDidCredit.Feeder.Landing
import StellarDidCredit.Lib.LastWrite

/-!
# The skip of a call that finds nothing new

A call that reads the remembered values skips. The skip is right as long as nothing else has landed
since the sync that the values come from, or all of it was written over.
-/

namespace StellarDidCredit.Feeder.Sync

open CreditOracle (State TxStats)

/-! ## The property and its condition -/

/-- The call of this step takes the "unchanged, skipping" path after these readings. -/
def Skips (t : Transition World Event) (vcCount : ℕ) (stats : TxStats) : Prop :=
  ∃ id horizon, t.event = .readStats id horizon ∧ horizon.stats = stats ∧
    t.before.calls id = some (.readingStats vcCount) ∧ t.before.syncState = some ⟨vcCount, stats⟩

/-- A skip finds the values that it read on the chain. -/
def SkipIsSafe (config : Config) (t : Transition World Event) : Prop :=
  ∀ vcCount stats, Skips t vcCount stats →
    t.before.oracle.txStats config.subject = some stats ∧
      (InUse config t.before → t.before.oracle.vcCount config.subject = some vcCount)

/-- What was written after a transaction landed. -/
def writesAfter (world : World) (hash : ℕ) : List Write :=
  ((world.landed.dropWhile fun tx => tx.hash ≠ hash).drop 1).map Tx.write

/-- Where a call skips, nothing else is left on the chain that landed after the transactions of the
sync it relies on: every later transaction wrote the same value, or was followed by one that did. -/
def Undisturbed (config : Config) (t : Transition World Event) : Prop :=
  ∀ vcCount stats, Skips t vcCount stats → ∀ vcCountTx txHash, t.before.syncedBy = some (vcCountTx, txHash) →
    Repaired stats ((writesAfter t.before txHash).filterMap Write.stats) ∧
      (InUse config t.before → ∀ hash, vcCountTx = some hash →
        Repaired vcCount ((writesAfter t.before hash).filterMap Write.count))

/-! ## Skipping -/

section Skipping

variable {config : Config} {start : State} {world : World} {hash : ℕ} {write : Write}

/-- Around the first transaction with a hash. -/
theorem eq_append_dropWhile {landed : List Tx} (h : ∃ tx ∈ landed, tx.hash = hash) :
    ∃ earlier tx, tx.hash = hash ∧
      landed = earlier ++ tx :: (landed.dropWhile fun tx => tx.hash ≠ hash).drop 1 := by
  induction landed with
  | nil =>
    obtain ⟨tx, htx, -⟩ := h
    exact absurd htx List.not_mem_nil
  | cons first rest ih =>
    by_cases hfirst : first.hash = hash
    · refine ⟨[], first, hfirst, ?_⟩
      simp [hfirst]
    · obtain ⟨tx, htx, hhash⟩ := h
      have hrest : tx ∈ rest := (List.mem_cons.mp htx).resolve_left fun hsame => hfirst (hsame ▸ hhash)
      obtain ⟨earlier, found, hfound, hlanded⟩ := ih ⟨tx, hrest, hhash⟩
      refine ⟨first :: earlier, found, hfound, ?_⟩
      rw [List.cons_append, List.dropWhile_cons_of_pos (by simpa using hfirst), ← hlanded]

/-- What was written before an operation that has landed, the operation, and what was written after. -/
theorem HasWritten.landed_eq (h : HasWritten world hash write) :
    ∃ earlier, world.landed.map Tx.write = earlier ++ write :: writesAfter world hash := by
  obtain ⟨earlier, tx, hhash, hlanded⟩ := eq_append_dropWhile h.2
  have htx : tx ∈ world.landed := by
    rw [hlanded]
    exact List.mem_append_right _ List.mem_cons_self
  have hwrite : tx.write = write := h.1.2 tx (List.mem_append_right _ htx) hhash
  refine ⟨earlier.map Tx.write, ?_⟩
  conv_lhs => rw [hlanded]
  rw [List.map_append, List.map_cons, hwrite, writesAfter]

/-- The last value of a kind is the one of an operation that has landed exactly if every other one
after it was repaired. -/
theorem HasWritten.last_iff {V : Type} {part : Write → Option V} {value : V} {before : Option V}
    (h : HasWritten world hash write) (hpart : part write = some value) :
    ((world.landed.map Tx.write).filterMap part).getLast?.or before = some value ↔
      Repaired value ((writesAfter world hash).filterMap part) := by
  obtain ⟨earlier, hlanded⟩ := h.landed_eq
  rw [hlanded, List.filterMap_append, List.filterMap_cons_some hpart, getLast?_append_cons, Option.some_or,
    Option.some.injEq]
  exact getLast?_getD_eq_iff

/-- In a state that a run can reach, a skip is safe exactly if nothing disturbed the sync it
relies on. -/
theorem Consistent.skipIsSafe_iff {t : Transition World Event} (h : Consistent config start t.before) :
    SkipIsSafe config t ↔ Undisturbed config t := by
  apply forall₂_congr
  intro vcCount stats
  apply imp_congr_right
  intro hskips
  obtain ⟨_, _, _, _, _, hstate⟩ := hskips
  obtain ⟨vcCountTx, txHash, hby, hdone, hwritten⟩ := h.synced _ hstate
  have hstats : t.before.oracle.txStats config.subject = some stats ↔
      Repaired stats ((writesAfter t.before txHash).filterMap Write.stats) := by
    rw [h.txStats]
    exact hwritten.last_iff rfl
  have hcount : (InUse config t.before → t.before.oracle.vcCount config.subject = some vcCount) ↔
      (InUse config t.before → ∀ hash, vcCountTx = some hash →
        Repaired vcCount ((writesAfter t.before hash).filterMap Write.count)) := by
    apply imp_congr_right
    intro huse
    cases vcCountTx with
    | none => exact absurd huse hdone
    | some countHash =>
      have hlast : HasWritten t.before countHash (.setVcCount vcCount) := hdone
      have hpart : Write.count (.setVcCount vcCount) = some vcCount := rfl
      rw [h.vcCount, hlast.last_iff hpart]
      constructor
      · intro hrepaired hash hhash
        rw [← Option.some.inj hhash]
        exact hrepaired
      · intro hrepaired
        exact hrepaired countHash rfl
  rw [hstats, hcount]
  constructor
  · intro hboth vcCountTx' txHash' hby'
    obtain ⟨rfl, rfl⟩ := Prod.mk.inj (Option.some.inj (hby.symm.trans hby'))
    exact hboth
  · intro hboth
    exact hboth vcCountTx txHash hby

/-- In every run, every skip finds the values it read on the chain exactly if at every skip nothing
disturbed the sync it relies on. -/
theorem every_skip_is_safe_iff (config : Config) (start : State) (history : List (Transition World Event))
    (final : World) (hrun : Run (StepOf (next config)) (World.initial start) history final) :
    (∀ t ∈ history, SkipIsSafe config t) ↔ ∀ t ∈ history, Undisturbed config t := by
  apply forall₂_congr
  intro t ht
  have hconsistent : Consistent config start t.before :=
    hrun.invariant_of_mem (Consistent config start) (fun _ _ _ h hstep => h.step hstep) .initial ht
  exact hconsistent.skipIsSafe_iff

/-- Nothing of either kind has landed after the transactions of the last sync. -/
def quiet (world : World) : Bool :=
  match world.syncedBy with
  | none => true
  | some (vcCountTx, txHash) =>
    ((writesAfter world txHash).filterMap Write.stats).isEmpty &&
      vcCountTx.all fun hash => ((writesAfter world hash).filterMap Write.count).isEmpty

/-- Where nothing has landed since, nothing is disturbed. -/
theorem undisturbed_of_quiet {t : Transition World Event} (h : quiet t.before = true) : Undisturbed config t := by
  intro vcCount stats _ vcCountTx txHash hby
  simp only [quiet, hby, Bool.and_eq_true, List.isEmpty_iff] at h
  obtain ⟨hstats, hcount⟩ := h
  refine ⟨?_, fun _ hash hhash => ?_⟩
  · rw [hstats]
    trivial
  · rw [hhash, Option.all_some, List.isEmpty_iff] at hcount
    rw [hcount]
    trivial

end Skipping

/-! ## Two runs -/

/-- A feeder that sends both transactions. -/
def sampleConfig : Config := ⟨false, true, .account 9, .account 1⟩

/-- A credit oracle that trusts the feeder. -/
def sampleOracle : State := { trustedFeeder := Storage.empty.set (.account 9) true }

/-- A transaction that the feeder signed. -/
def sampleEnv : Env := ⟨.numbered 10, .contract 7, [.account 9], none⟩

/-- Statistics that do not change. -/
def sampleStats : TxStats := ⟨100, 2, 1⟩

/-- A call reads a count, and the same statistics as every other call. -/
def sampleReads (id vcCount : ℕ) : List Event :=
  [.call id, .readVcCount id vcCount, .readStats id ⟨sampleStats, false⟩]

/-- A call sends its `set_vc_count`, which lands under the given hash and is confirmed. -/
def sampleCounts (id hash : ℕ) : List Event :=
  [.readOracle id, .submit id, .land sampleEnv hash, .confirm id]

/-- A call sends its `update_tx_stats`, which lands under the given hash and is confirmed. -/
def sampleSyncs (id hash : ℕ) : List Event := [.submit id, .land sampleEnv hash, .confirm id]

/-- After a complete sync, a call that reads the same values skips, and the skip is safe. -/
theorem every_skip_is_safe_sample :
    ∃ history final, Run (StepOf (next sampleConfig)) (World.initial sampleOracle) history final ∧
      (∃ t ∈ history, Skips t 1 sampleStats) ∧ ∀ t ∈ history, SkipIsSafe sampleConfig t := by
  have hreplay : ((replay (next sampleConfig) (World.initial sampleOracle)
      (sampleReads 0 1 ++ sampleCounts 0 0 ++ sampleSyncs 0 1 ++ [.call 1, .readVcCount 1 1])).map fun result =>
      (result.2.calls 1, result.2.syncState, quiet result.2, result.1.all fun t => quiet t.before)) =
      some (some (.readingStats 1), some ⟨1, sampleStats⟩, true, true) := by decide +kernel
  obtain ⟨history, world, hrun, hobserved⟩ := Run.exists_of_replay hreplay
  simp only [Prod.mk.injEq, List.all_eq_true] at hobserved
  obtain ⟨hcall, hstate, hquiet, hbefore⟩ := hobserved
  have hstep : StepOf (next sampleConfig) world (.readStats 1 ⟨sampleStats, false⟩) (world.finish 1) := by
    simp [StepOf, next, hcall, hstate]
  have hsnoc := hrun.snoc hstep
  refine ⟨_, _, hsnoc, ?_, ?_⟩
  · exact ⟨_, List.mem_append_right _ List.mem_cons_self, 1, ⟨sampleStats, false⟩, rfl, rfl, hcall, hstate⟩
  · apply (every_skip_is_safe_iff sampleConfig sampleOracle _ _ hsnoc).mpr
    intro t ht
    apply undisturbed_of_quiet
    cases List.mem_append.mp ht with
    | inl hold => exact hbefore t hold
    | inr hnew =>
      rw [List.mem_singleton.mp hnew]
      exact hquiet

/-- After a sync that stopped between its transactions, a call that reads the values from before
skips, although the other count is on the chain. -/
theorem not_every_skip_is_safe :
    ¬∀ (config : Config) (start : State) (history : List (Transition World Event)) (final : World),
      Run (StepOf (next config)) (World.initial start) history final → ∀ t ∈ history, SkipIsSafe config t := by
  intro h
  have hreplay : ((replay (next sampleConfig) (World.initial sampleOracle)
      (sampleReads 0 1 ++ sampleCounts 0 0 ++ sampleSyncs 0 1 ++ sampleReads 1 2 ++ sampleCounts 1 2 ++
        [.stop 1, .call 2, .readVcCount 2 1])).map fun result =>
      (result.2.calls 2, result.2.syncState, result.2.oracle.identityOracleId,
        result.2.oracle.vcCount (.account 1))) =
      some (some (.readingStats 1), some ⟨1, sampleStats⟩, none, some 2) := by decide +kernel
  obtain ⟨history, world, hrun, hobserved⟩ := Run.exists_of_replay hreplay
  simp only [Prod.mk.injEq] at hobserved
  obtain ⟨hcall, hstate, hidentity, hcount⟩ := hobserved
  have hstep : StepOf (next sampleConfig) world (.readStats 2 ⟨sampleStats, false⟩) (world.finish 2) := by
    simp [StepOf, next, hcall, hstate]
  have hsafe := h sampleConfig sampleOracle _ _ (hrun.snoc hstep) _ (List.mem_append_right _ List.mem_cons_self) 1
    sampleStats ⟨2, ⟨sampleStats, false⟩, rfl, rfl, hcall, hstate⟩
  have hsame := hsafe.2 ⟨rfl, hidentity⟩
  exact absurd (hcount.symm.trans hsame) (by decide)

end StellarDidCredit.Feeder.Sync
