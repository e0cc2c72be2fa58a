import StellarDidCredit.CreditOracle.Effects
import StellarDidCredit.Lib.Run

/-!
# Syncing one subject

A call of `feedSubject` reads the credential count and the statistics, skips when both are the
remembered ones, and otherwise submits `set_vc_count` and `update_tx_stats` one after the other,
waits for each to be confirmed, and remembers what it wrote. It can stop at every point where it
waits. Calls overlap, and a transaction that was accepted lands whenever the network gets to it,
also after its call has given up.

The credit oracle is the contract of the model. Whatever else happens to it leaves the entries of
the subject alone, because the feeder is the only one that writes them.
-/

namespace StellarDidCredit.Feeder.Sync

open CreditOracle (State TxStats)

/-- The settings that `feedSubject` reads, with the feeder's address and the subject. -/
structure Config where
  skipLegacyVcCount : Bool
  allowPartialStats : Bool
  feeder : Address
  subject : Address

/-- What Horizon says about the subject. -/
structure HorizonStats where
  stats : TxStats
  /-- The pages read are not all there are. -/
  isPartial : Bool
  deriving DecidableEq

/-- What a call has read before it checks for changes. -/
structure Reading where
  vcCount : ℕ
  horizon : HorizonStats
  deriving DecidableEq

/-- What the feeder remembers of its last complete sync of the subject. -/
structure SubjectSyncState where
  vcCount : ℕ
  stats : TxStats
  deriving DecidableEq

/-- The operation of a transaction. -/
inductive Write
  | setVcCount (count : ℕ)
  | updateTxStats (stats : TxStats)
  deriving DecidableEq

namespace Write

/-- The invocation of the credit oracle. -/
def execute (config : Config) (env : Env) (s : State) : Write → Outcome CreditOracleError State
  | .setVcCount count => CreditOracle.setVcCount env config.feeder config.subject count s
  | .updateTxStats stats => CreditOracle.updateTxStats env config.feeder config.subject stats s

/-- The count that is written, if it is one. -/
def count : Write → Option ℕ
  | .setVcCount count => some count
  | .updateTxStats _ => none

/-- The statistics that are written, if it is them. -/
def stats : Write → Option TxStats
  | .setVcCount _ => none
  | .updateTxStats stats => some stats

end Write

/-- A transaction of the feeder. -/
structure Tx where
  hash : ℕ
  write : Write
  deriving DecidableEq

/-- The point where a call waits. -/
inductive Phase
  | readingVcCount
  | readingStats (vcCount : ℕ)
  | readingOracle (reading : Reading)
  | submittingVcCount (reading : Reading)
  | confirmingVcCount (reading : Reading) (txHash : ℕ)
  | submittingStats (reading : Reading) (vcCountTx : Option ℕ)
  | confirmingStats (reading : Reading) (vcCountTx : Option ℕ) (txHash : ℕ)
  deriving DecidableEq

/-- The credit oracle, the transactions that the network has accepted and those that have landed,
and the feeder: the remembered values and the calls. The hashes of the transactions that the
remembered values came from are recorded for the properties only. -/
structure World where
  oracle : State
  submitted : List Tx
  landed : List Tx
  nextHash : ℕ
  syncState : Option SubjectSyncState
  syncedBy : Option (Option ℕ × ℕ)
  calls : Storage ℕ Phase

/-- What can happen. -/
inductive Event
  /-- The credit oracle changes elsewhere. -/
  | elsewhere (oracle : State)
  /-- A transaction is executed. -/
  | land (env : Env) (hash : ℕ)
  /-- `feedSubject` is called. -/
  | call (id : ℕ)
  | readVcCount (id : ℕ) (vcCount : ℕ)
  | readStats (id : ℕ) (horizon : HorizonStats)
  | readOracle (id : ℕ)
  | submit (id : ℕ)
  /-- A transaction is accepted, but the answer is lost, and the call tries again. -/
  | submitLost (id : ℕ)
  | confirm (id : ℕ)
  /-- The call fails, times out or is aborted. -/
  | stop (id : ℕ)

namespace World

/-- A feeder that starts. -/
def initial (oracle : State) : World where
  oracle
  submitted := []
  landed := []
  nextHash := 0
  syncState := none
  syncedBy := none
  calls := Storage.empty

/-- A call goes on to another point. -/
def goOn (world : World) (id : ℕ) (phase : Phase) : World := { world with calls := world.calls.set id phase }

/-- A call ends. -/
def finish (world : World) (id : ℕ) : World := { world with calls := world.calls.remove id }

/-- The network accepts a transaction. -/
def send (world : World) (write : Write) : World :=
  { world with
    submitted := world.submitted ++ [⟨world.nextHash, write⟩]
    nextHash := world.nextHash + 1 }

/-- A call after its `set_vc_count` step. Partial statistics are dropped if so configured. -/
def afterVcCount (config : Config) (world : World) (id : ℕ) (reading : Reading) (vcCountTx : Option ℕ) : World :=
  if reading.horizon.isPartial = true ∧ config.allowPartialStats = false then world.finish id
  else world.goOn id (.submittingStats reading vcCountTx)

/-- A call after its last confirmation. -/
def complete (world : World) (id : ℕ) (reading : Reading) (vcCountTx : Option ℕ) (txHash : ℕ) : World :=
  { world.finish id with
    syncState := some ⟨reading.vcCount, reading.horizon.stats⟩
    syncedBy := some (vcCountTx, txHash) }

/-- Whether a transaction has landed, as `getTransaction` tells. -/
def hasLanded (world : World) (hash : ℕ) : Prop := ∃ tx ∈ world.landed, tx.hash = hash

instance (world : World) (hash : ℕ) : Decidable (world.hasLanded hash) :=
  inferInstanceAs (Decidable (∃ tx ∈ world.landed, tx.hash = hash))

end World

/-- A change of the credit oracle that leaves the subject's entries alone. The identity oracle
can be set but not removed. -/
def Elsewhere (config : Config) (s s' : State) : Prop :=
  s'.vcCount config.subject = s.vcCount config.subject ∧ s'.txStats config.subject = s.txStats config.subject ∧
    (s'.identityOracleId = none → s.identityOracleId = none)

instance (config : Config) (s s' : State) : Decidable (Elsewhere config s s') :=
  inferInstanceAs (Decidable (_ ∧ _ ∧ (_ → _)))

/-- The next state. -/
def next (config : Config) (world : World) : Event → Option World
  | .elsewhere oracle => if Elsewhere config world.oracle oracle then some { world with oracle } else none
  | .land env hash =>
    match world.submitted.find? fun tx => tx.hash = hash with
    | none => none
    | some tx =>
      let rest := world.submitted.filter fun tx => tx.hash ≠ hash
      match tx.write.execute config env world.oracle with
      | .error _ => some { world with submitted := rest }
      | .ok oracle => some { world with oracle, submitted := rest, landed := world.landed ++ [tx] }
  | .call id =>
    match world.calls id with
    | none => some (world.goOn id .readingVcCount)
    | some _ => none
  | .readVcCount id vcCount =>
    match world.calls id with
    | some .readingVcCount => some (world.goOn id (.readingStats vcCount))
    | _ => none
  | .readStats id horizon =>
    match world.calls id with
    | some (.readingStats vcCount) =>
      -- unchanged, skipping
      if world.syncState = some ⟨vcCount, horizon.stats⟩ then some (world.finish id)
      else some (world.goOn id (.readingOracle ⟨vcCount, horizon⟩))
    | _ => none
  | .readOracle id =>
    match world.calls id with
    | some (.readingOracle reading) =>
      if world.oracle.identityOracleId.isSome ∨ config.skipLegacyVcCount = true then
        some (world.afterVcCount config id reading none)
      else some (world.goOn id (.submittingVcCount reading))
    | _ => none
  | .submit id =>
    match world.calls id with
    | some (.submittingVcCount reading) =>
      some ((world.send (.setVcCount reading.vcCount)).goOn id (.confirmingVcCount reading world.nextHash))
    | some (.submittingStats reading vcCountTx) =>
      some ((world.send (.updateTxStats reading.horizon.stats)).goOn id
        (.confirmingStats reading vcCountTx world.nextHash))
    | _ => none
  | .submitLost id =>
    match world.calls id with
    | some (.submittingVcCount reading) => some (world.send (.setVcCount reading.vcCount))
    | some (.submittingStats reading _) => some (world.send (.updateTxStats reading.horizon.stats))
    | _ => none
  | .confirm id =>
    match world.calls id with
    | some (.confirmingVcCount reading txHash) =>
      if world.hasLanded txHash then some (world.afterVcCount config id reading (some txHash)) else none
    | some (.confirmingStats reading vcCountTx txHash) =>
      if world.hasLanded txHash then some (world.complete id reading vcCountTx txHash) else none
    | _ => none
  | .stop id =>
    match world.calls id with
    | some _ => some (world.finish id)
    | none => none

end StellarDidCredit.Feeder.Sync
