import StellarDidCredit.Lib.EventLog
import StellarDidCredit.Soroban.Host

/-!
# Published events, as an RPC server lists them

What the contracts publish goes into a log with one batch for each ledger. A server answers
`getEvents` with the first events of a filter from a ledger on, and with its latest ledger.
-/

namespace StellarDidCredit

/-- A component of the data of an event. The readers tell apart only the kinds named here. -/
inductive ScItem
  | address (value : Address)
  | bytes (data : List UInt8)
  | u32 (value : BitVec 32)
  | symbol (name : Symbol)
  | other
  deriving DecidableEq, Repr

/-- The data of an event: a vector, whose contents may be missing, or something else. -/
inductive EventValue
  | vec (items : Option (List ScItem))
  | other
  deriving DecidableEq, Repr

/-- An event with the contract that published it, its topics and its data. -/
structure ContractEvent where
  contractId : Address
  topics : List Symbol
  value : EventValue
  deriving DecidableEq, Repr

/-- The filter of a `getEvents` request: one contract and single topics. -/
structure EventFilter where
  contractId : Address
  topics : List Symbol
  deriving DecidableEq, Repr

namespace EventFilter

/-- Whether an event is one of those asked for. -/
def accepts (filter : EventFilter) (event : ContractEvent) : Bool :=
  event.contractId = filter.contractId ∧ ∃ topic ∈ filter.topics, event.topics = [topic]

/-- The events of the filter, as a log of their own. -/
def log (filter : EventFilter) (chain : EventLog ContractEvent) : EventLog ContractEvent :=
  chain.only fun event => filter.accepts event.entry

end EventFilter

/-- The answer to a `getEvents` request. -/
structure EventsResponse where
  events : List (Stamped ContractEvent)
  latestLedger : ℕ

/-- `getEvents` of the RPC server. -/
def getEvents (chain : EventLog ContractEvent) (startLedger : ℕ) (filter : EventFilter) (limit : ℕ) :
    EventsResponse where
  events := (filter.log chain).page startLedger limit
  latestLedger := chain.now

end StellarDidCredit
