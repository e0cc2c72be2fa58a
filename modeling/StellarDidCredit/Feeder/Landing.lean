import StellarDidCredit.Feeder.Sync

/-!
# What the feeder knows of its transactions

A hash that a call waits for names the transaction with the operation that the call sent, and the
remembered values were all written by transactions that have landed. The entries of the subject
are what landed last.
-/

namespace StellarDidCredit.Feeder.Sync

open CreditOracle (State TxStats)

/-- `set_vc_count` is in use. -/
def InUse (config : Config) (world : World) : Prop :=
  config.skipLegacyVcCount = false ∧ world.oracle.identityOracleId = none

variable {config : Config} {start : State} {world world' : World} {event : Event} {id hash : ℕ} {write : Write}
  {phase : Phase}

/-- The hash is that of a transaction with the given operation. -/
def Names (world : World) (hash : ℕ) (write : Write) : Prop :=
  hash < world.nextHash ∧ ∀ tx ∈ world.submitted ++ world.landed, tx.hash = hash → tx.write = write

/-- The given operation has landed under the hash. -/
def HasWritten (world : World) (hash : ℕ) (write : Write) : Prop := Names world hash write ∧ world.hasLanded hash

/-- The count step of a sync: its transaction has landed, or there was none to send. -/
def CountDone (config : Config) (world : World) (vcCount : ℕ) : Option ℕ → Prop
  | some hash => HasWritten world hash (.setVcCount vcCount)
  | none => ¬InUse config world

/-- What a waiting call can rely on. -/
def PhaseOk (config : Config) (world : World) : Phase → Prop
  | .confirmingVcCount reading txHash => Names world txHash (.setVcCount reading.vcCount)
  | .submittingStats reading vcCountTx => CountDone config world reading.vcCount vcCountTx
  | .confirmingStats reading vcCountTx txHash =>
    CountDone config world reading.vcCount vcCountTx ∧ Names world txHash (.updateTxStats reading.horizon.stats)
  | _ => True

/-- What holds in every state: hashes are fresh, waiting calls are right about their transactions, the
remembered values have landed, and the entries of the subject are what landed last. -/
structure Consistent (config : Config) (start : State) (world : World) : Prop where
  fresh : ∀ tx ∈ world.submitted ++ world.landed, tx.hash < world.nextHash
  calls : ∀ id phase, world.calls id = some phase → PhaseOk config world phase
  synced : ∀ state, world.syncState = some state → ∃ vcCountTx txHash, world.syncedBy = some (vcCountTx, txHash) ∧
    CountDone config world state.vcCount vcCountTx ∧ HasWritten world txHash (.updateTxStats state.stats)
  vcCount : world.oracle.vcCount config.subject =
    ((world.landed.map Tx.write).filterMap Write.count).getLast?.or (start.vcCount config.subject)
  txStats : world.oracle.txStats config.subject =
    ((world.landed.map Tx.write).filterMap Write.stats).getLast?.or (start.txStats config.subject)

/-- The network goes on: no hash is used again, what has landed stays, and `set_vc_count` does not
come back into use. -/
structure Grows (config : Config) (world world' : World) : Prop where
  hash_le : world.nextHash ≤ world'.nextHash
  old : ∀ tx ∈ world'.submitted ++ world'.landed, tx.hash < world.nextHash → tx ∈ world.submitted ++ world.landed
  landed : ∀ tx ∈ world.landed, tx ∈ world'.landed
  unused : InUse config world' → InUse config world

/-- A hash keeps its meaning. -/
theorem Names.grows (h : Names world hash write) (hgrows : Grows config world world') : Names world' hash write :=
  ⟨h.1.trans_le hgrows.hash_le, fun tx htx hhash => h.2 tx (hgrows.old tx htx (hhash ▸ h.1)) hhash⟩

/-- What has landed has landed for good. -/
theorem HasWritten.grows (h : HasWritten world hash write) (hgrows : Grows config world world') :
    HasWritten world' hash write := by
  obtain ⟨tx, htx, hhash⟩ := h.2
  exact ⟨h.1.grows hgrows, tx, hgrows.landed tx htx, hhash⟩

/-- A count step stays done. -/
theorem CountDone.grows {vcCount : ℕ} {vcCountTx : Option ℕ} (h : CountDone config world vcCount vcCountTx)
    (hgrows : Grows config world world') : CountDone config world' vcCount vcCountTx := by
  cases vcCountTx with
  | some hash => exact HasWritten.grows h hgrows
  | none => exact fun huse => h (hgrows.unused huse)

/-- A waiting call stays right. -/
theorem PhaseOk.grows (h : PhaseOk config world phase) (hgrows : Grows config world world') :
    PhaseOk config world' phase := by
  cases phase with
  | confirmingVcCount reading txHash => exact Names.grows h hgrows
  | submittingStats reading vcCountTx => exact CountDone.grows h hgrows
  | confirmingStats reading vcCountTx txHash => exact ⟨CountDone.grows h.1 hgrows, h.2.grows hgrows⟩
  | _ => trivial

/-- What the feeder knows is kept when the network goes on. -/
theorem Consistent.grows (h : Consistent config start world) (hgrows : Grows config world world')
    (hcalls : world'.calls = world.calls) (hsync : world'.syncState = world.syncState)
    (hsyncedBy : world'.syncedBy = world.syncedBy)
    (hfresh : ∀ tx ∈ world'.submitted ++ world'.landed, tx.hash < world'.nextHash)
    (hvcCount : world'.oracle.vcCount config.subject =
      ((world'.landed.map Tx.write).filterMap Write.count).getLast?.or (start.vcCount config.subject))
    (htxStats : world'.oracle.txStats config.subject =
      ((world'.landed.map Tx.write).filterMap Write.stats).getLast?.or (start.txStats config.subject)) :
    Consistent config start world' where
  fresh := hfresh
  calls id phase hphase := (h.calls id phase (hcalls ▸ hphase)).grows hgrows
  synced state hstate := by
    obtain ⟨vcCountTx, txHash, hby, hcount, hwritten⟩ := h.synced state (hsync ▸ hstate)
    exact ⟨vcCountTx, txHash, hsyncedBy.trans hby, hcount.grows hgrows, hwritten.grows hgrows⟩
  vcCount := hvcCount
  txStats := htxStats

/-- A call goes on to a point where it is right. -/
theorem Consistent.goOn (h : Consistent config start world) (hphase : PhaseOk config world phase) :
    Consistent config start (world.goOn id phase) where
  fresh := h.fresh
  calls other otherPhase hother := by
    by_cases hsame : other = id
    · subst hsame
      obtain rfl := Option.some.inj ((Storage.set_self world.calls other phase).symm.trans hother)
      exact hphase
    · exact h.calls other otherPhase ((Storage.set_of_ne world.calls phase hsame).symm.trans hother)
  synced := h.synced
  vcCount := h.vcCount
  txStats := h.txStats

/-- A call ends. -/
theorem Consistent.finish (h : Consistent config start world) : Consistent config start (world.finish id) where
  fresh := h.fresh
  calls other otherPhase hother := by
    by_cases hsame : other = id
    · subst hsame
      exact absurd ((Storage.remove_self world.calls other).symm.trans hother) (Option.some_ne_none _).symm
    · exact h.calls other otherPhase ((Storage.remove_of_ne world.calls hsame).symm.trans hother)
  synced := h.synced
  vcCount := h.vcCount
  txStats := h.txStats

/-- A call gets past its count step. -/
theorem Consistent.afterVcCount {reading : Reading} {vcCountTx : Option ℕ} (h : Consistent config start world)
    (hdone : CountDone config world reading.vcCount vcCountTx) :
    Consistent config start (world.afterVcCount config id reading vcCountTx) := by
  unfold World.afterVcCount
  split
  · exact h.finish
  · exact h.goOn hdone

/-- A call ends with everything landed. -/
theorem Consistent.complete {reading : Reading} {vcCountTx : Option ℕ} (h : Consistent config start world)
    (hdone : CountDone config world reading.vcCount vcCountTx)
    (hwritten : HasWritten world hash (.updateTxStats reading.horizon.stats)) :
    Consistent config start (world.complete id reading vcCountTx hash) where
  fresh := h.fresh
  calls := h.finish.calls
  synced state hstate := by
    obtain rfl := Option.some.inj hstate
    exact ⟨vcCountTx, hash, rfl, hdone, hwritten⟩
  vcCount := h.vcCount
  txStats := h.txStats

/-- The transactions after sending one. -/
theorem mem_send {tx : Tx} (h : tx ∈ (world.send write).submitted ++ (world.send write).landed) :
    tx ∈ world.submitted ++ world.landed ∨ tx = ⟨world.nextHash, write⟩ := by
  simp only [World.send, List.mem_append, List.mem_singleton] at h ⊢
  tauto

/-- Sending a transaction uses no hash again. -/
theorem Grows.send : Grows config world (world.send write) where
  hash_le := Nat.le_succ _
  old tx htx hhash := by
    cases mem_send htx with
    | inl hold => exact hold
    | inr hnew => exact absurd hhash (by rw [hnew]; exact lt_irrefl _)
  landed _ htx := htx
  unused huse := huse

/-- Sending a transaction keeps what holds. -/
theorem Consistent.send (h : Consistent config start world) : Consistent config start (world.send write) := by
  apply h.grows Grows.send rfl rfl rfl _ h.vcCount h.txStats
  intro tx htx
  cases mem_send htx with
  | inl hold => exact (h.fresh tx hold).trans (Nat.lt_succ_self _)
  | inr hnew =>
    rw [hnew]
    exact Nat.lt_succ_self _

/-- The hash of a transaction that was just sent names it. -/
theorem Consistent.names_send (h : Consistent config start world) :
    Names (world.send write) world.nextHash write := by
  refine ⟨Nat.lt_succ_self _, fun tx htx hhash => ?_⟩
  cases mem_send htx with
  | inl hold => exact absurd hhash (h.fresh tx hold).ne
  | inr hnew => rw [hnew]

/-- An operation writes its value and nothing else of the subject. -/
theorem execute_eq_ok {env : Env} {s s' : State} (h : write.execute config env s = .ok s') :
    s'.vcCount config.subject = write.count.or (s.vcCount config.subject) ∧
      s'.txStats config.subject = write.stats.or (s.txStats config.subject) ∧
      s'.identityOracleId = s.identityOracleId := by
  cases write with
  | setVcCount count =>
    simp only [Write.execute, CreditOracle.setVcCount, Outcome.bind_eq_ok, Except.ok.injEq] at h
    obtain ⟨-, -, rfl⟩ := h
    exact ⟨Storage.set_self _ _ _, rfl, rfl⟩
  | updateTxStats stats =>
    simp only [Write.execute, CreditOracle.updateTxStats, Outcome.bind_eq_ok, Except.ok.injEq] at h
    obtain ⟨-, -, rfl⟩ := h
    exact ⟨rfl, Storage.set_self _ _ _, rfl⟩

/-- The value that is left when one more operation has landed. -/
theorem getLast?_filterMap_snoc {V : Type} (part : Write → Option V) (landed : List Tx) (tx : Tx)
    (before : Option V) :
    (((landed ++ [tx]).map Tx.write).filterMap part).getLast?.or before =
      (part tx.write).or (((landed.map Tx.write).filterMap part).getLast?.or before) := by
  rw [List.map_append, List.filterMap_append]
  cases hpart : part tx.write with
  | none => simp [hpart]
  | some value => simp [hpart]

/-- A step of the network keeps what holds. -/
theorem Consistent.land {env : Env} (h : Consistent config start world)
    (hstep : next config world (.land env hash) = some world') : Consistent config start world' := by
  simp only [next] at hstep
  split at hstep
  case h_1 => exact absurd hstep.symm (Option.some_ne_none _)
  case h_2 tx hfind =>
    have hsubmitted : tx ∈ world.submitted := List.mem_of_find?_eq_some hfind
    split at hstep
    case h_1 =>
      obtain rfl := Option.some.inj hstep
      have hold : ∀ tx' ∈ world.submitted.filter (fun tx => tx.hash ≠ hash) ++ world.landed,
          tx' ∈ world.submitted ++ world.landed := by
        intro tx' htx'
        cases List.mem_append.mp htx' with
        | inl hrest => exact List.mem_append_left _ (List.mem_filter.mp hrest).1
        | inr hlanded => exact List.mem_append_right _ hlanded
      exact h.grows ⟨le_refl _, fun tx' htx' _ => hold tx' htx', fun _ htx' => htx', fun huse => huse⟩ rfl rfl rfl
        (fun tx' htx' => h.fresh tx' (hold tx' htx')) h.vcCount h.txStats
    case h_2 oracle horacle =>
      obtain rfl := Option.some.inj hstep
      obtain ⟨hvcCount, htxStats, hidentity⟩ := execute_eq_ok horacle
      have hold : ∀ tx' ∈ world.submitted.filter (fun tx => tx.hash ≠ hash) ++ (world.landed ++ [tx]),
          tx' ∈ world.submitted ++ world.landed := by
        intro tx' htx'
        simp only [List.mem_append, List.mem_filter, List.mem_singleton] at htx' ⊢
        rcases htx' with ⟨hrest, -⟩ | hlanded | rfl
        · exact Or.inl hrest
        · exact Or.inr hlanded
        · exact Or.inl hsubmitted
      refine h.grows ⟨le_refl _, fun tx' htx' _ => hold tx' htx', fun _ htx' => List.mem_append_left _ htx', ?_⟩
        rfl rfl rfl (fun tx' htx' => h.fresh tx' (hold tx' htx')) ?_ ?_
      · intro huse
        exact ⟨huse.1, hidentity ▸ huse.2⟩
      · rw [getLast?_filterMap_snoc, ← h.vcCount]
        exact hvcCount
      · rw [getLast?_filterMap_snoc, ← h.txStats]
        exact htxStats

/-- A change elsewhere keeps what holds. -/
theorem Consistent.elsewhere {oracle : State} (h : Consistent config start world)
    (horacle : Elsewhere config world.oracle oracle) : Consistent config start { world with oracle } :=
  h.grows ⟨le_refl _, fun _ htx _ => htx, fun _ htx => htx, fun huse => ⟨huse.1, horacle.2.2 huse.2⟩⟩ rfl rfl rfl
    h.fresh (horacle.1.trans h.vcCount) (horacle.2.1.trans h.txStats)

/-- Every step keeps what holds. -/
theorem Consistent.step (h : Consistent config start world) (hstep : next config world event = some world') :
    Consistent config start world' := by
  cases event with
  | elsewhere oracle =>
    simp only [next, Option.ite_none_right_eq_some] at hstep
    obtain ⟨horacle, hnext⟩ := hstep
    obtain rfl := Option.some.inj hnext
    exact h.elsewhere horacle
  | land env hash => exact h.land hstep
  | call id =>
    simp only [next] at hstep
    split at hstep
    case h_1 =>
      obtain rfl := Option.some.inj hstep
      exact h.goOn trivial
    case h_2 => exact absurd hstep.symm (Option.some_ne_none _)
  | readVcCount id vcCount =>
    simp only [next] at hstep
    split at hstep
    case h_1 =>
      obtain rfl := Option.some.inj hstep
      exact h.goOn trivial
    case h_2 => exact absurd hstep.symm (Option.some_ne_none _)
  | readStats id horizon =>
    simp only [next] at hstep
    split at hstep
    case h_1 vcCount _ =>
      split at hstep
      · obtain rfl := Option.some.inj hstep
        exact h.finish
      · obtain rfl := Option.some.inj hstep
        exact h.goOn trivial
    case h_2 => exact absurd hstep.symm (Option.some_ne_none _)
  | readOracle id =>
    simp only [next] at hstep
    split at hstep
    case h_1 reading _ =>
      split at hstep
      case isTrue hskip =>
        obtain rfl := Option.some.inj hstep
        apply h.afterVcCount
        rintro ⟨hlegacy, hidentity⟩
        rw [hlegacy, hidentity] at hskip
        simp at hskip
      case isFalse =>
        obtain rfl := Option.some.inj hstep
        exact h.goOn trivial
    case h_2 => exact absurd hstep.symm (Option.some_ne_none _)
  | submit id =>
    simp only [next] at hstep
    split at hstep
    case h_1 =>
      obtain rfl := Option.some.inj hstep
      exact h.send.goOn h.names_send
    case h_2 hphase =>
      obtain rfl := Option.some.inj hstep
      have hdone : CountDone config world _ _ := h.calls id _ hphase
      exact h.send.goOn ⟨hdone.grows Grows.send, h.names_send⟩
    case h_3 => exact absurd hstep.symm (Option.some_ne_none _)
  | submitLost id =>
    simp only [next] at hstep
    split at hstep
    case h_1 =>
      obtain rfl := Option.some.inj hstep
      exact h.send
    case h_2 =>
      obtain rfl := Option.some.inj hstep
      exact h.send
    case h_3 => exact absurd hstep.symm (Option.some_ne_none _)
  | confirm id =>
    simp only [next] at hstep
    split at hstep
    case h_1 reading txHash hphase =>
      simp only [Option.ite_none_right_eq_some] at hstep
      obtain ⟨hlanded, hnext⟩ := hstep
      obtain rfl := Option.some.inj hnext
      exact h.afterVcCount ⟨h.calls id _ hphase, hlanded⟩
    case h_2 reading vcCountTx txHash hphase =>
      simp only [Option.ite_none_right_eq_some] at hstep
      obtain ⟨hlanded, hnext⟩ := hstep
      obtain rfl := Option.some.inj hnext
      obtain ⟨hdone, hnames⟩ := h.calls id _ hphase
      exact h.complete hdone ⟨hnames, hlanded⟩
    case h_3 => exact absurd hstep.symm (Option.some_ne_none _)
  | stop id =>
    simp only [next] at hstep
    split at hstep
    case h_1 =>
      obtain rfl := Option.some.inj hstep
      exact h.finish
    case h_2 => exact absurd hstep.symm (Option.some_ne_none _)

/-- A feeder that starts is right about everything. -/
theorem Consistent.initial : Consistent config start (World.initial start) where
  fresh _ htx := absurd htx List.not_mem_nil
  calls _ _ hphase := absurd hphase.symm (Option.some_ne_none _)
  synced _ hstate := absurd hstate.symm (Option.some_ne_none _)
  vcCount := rfl
  txStats := rfl

end StellarDidCredit.Feeder.Sync
