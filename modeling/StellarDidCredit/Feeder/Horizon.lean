import Mathlib.Data.Finset.Insert
import StellarDidCredit.Lib.Retry
import StellarDidCredit.Feeder.Sync

/-!
# The statistics of a subject

`fetchHorizonStats` reads the payments of an account from Horizon, page by page and newest first,
down to the operations that are too old. It adds up the native amounts in stroops, the distinct
transactions, and the distinct counterparties in each of them. A failed request is tried again in
two nested loops: rate limits in the inner one, transient errors of later pages in the outer one.

Amounts are whole numbers of stroops, and the answers of Horizon come from any sequence of
failures.
-/

namespace StellarDidCredit.Feeder

open CreditOracle (TxStats)
open Sync (HorizonStats)

/-- The types of an operation that the feeder knows. -/
inductive OperationType
  | payment
  | pathPaymentStrictSend
  | pathPaymentStrictReceive
  | createAccount
  | claimClaimableBalance
  | other
  deriving DecidableEq, Repr

/-- An operation as Horizon reports it. -/
structure HorizonOperationRecord where
  type : OperationType
  transactionHash : String
  createdAt : ℕ
  fromAddress : Option Address
  toAddress : Option Address
  amount : Option ℤ
  assetType : Option String
  sourceAmount : Option ℤ
  sourceAssetType : Option String
  account : Option Address
  funder : Option Address
  claimant : Option Address
  deriving DecidableEq

/-! ## Aggregation -/

/-- `Math.round` of a ratio: the half is rounded up. -/
def mathRound (numerator denominator : ℕ) : ℕ := (2 * numerator + denominator) / (2 * denominator)

namespace HorizonOperationRecord

/-- The stroops that an operation adds to the volume. -/
def volume (op : HorizonOperationRecord) (address : Address) : ℤ :=
  match op.type with
  | .payment => if op.assetType = some "native" then op.amount.getD 0 else 0
  | .pathPaymentStrictSend | .pathPaymentStrictReceive =>
    (if op.fromAddress = some address ∧ op.sourceAssetType = some "native" then op.sourceAmount.getD 0 else 0) +
      (if op.toAddress = some address ∧ op.assetType = some "native" then op.amount.getD 0 else 0)
  | .createAccount | .claimClaimableBalance | .other => 0

/-- The other party of an operation, if one is reported. -/
def counterparty (op : HorizonOperationRecord) (address : Address) : Option Address :=
  match op.type with
  | .payment | .pathPaymentStrictSend | .pathPaymentStrictReceive =>
    if op.fromAddress = some address then op.toAddress else op.fromAddress
  | .createAccount => if op.funder = some address then op.account else op.funder
  | .claimClaimableBalance => if op.claimant = some address then none else op.claimant
  | .other => none

end HorizonOperationRecord

/-- What the loop has added up. The map from transactions to sets of counterparties is the set of
its pairs. -/
structure Aggregate where
  volumeStroops : ℤ
  txHashes : Finset String
  counterpartiesPerTx : Finset (String × Address)

namespace Aggregate

/-- Before any operation. -/
def empty : Aggregate := ⟨0, ∅, ∅⟩

/-- The body of the loop over the records. -/
def add (address : Address) (total : Aggregate) (op : HorizonOperationRecord) : Aggregate where
  volumeStroops := total.volumeStroops + op.volume address
  txHashes := insert op.transactionHash total.txHashes
  counterpartiesPerTx :=
    match op.counterparty address with
    | none => total.counterpartiesPerTx
    | some counterparty => insert (op.transactionHash, counterparty) total.counterpartiesPerTx

/-- The statistics after the loop. -/
def stats (total : Aggregate) : TxStats where
  volume30d := total.volumeStroops
  txCount30d := total.txHashes.card
  avgCounterparties :=
    if 0 < total.txHashes.card then mathRound total.counterpartiesPerTx.card total.txHashes.card else 0

end Aggregate

/-- The statistics of a list of operations. -/
def aggregate (address : Address) (ops : List HorizonOperationRecord) : TxStats :=
  (ops.foldl (Aggregate.add address) Aggregate.empty).stats

/-! ## Errors -/

/-- What a failed request throws, as far as the feeder looks at it. -/
structure HorizonError where
  status : Option ℕ
  code : Option String
  message : Option String
  /-- The answer has result codes among its extras. -/
  resultCodes : Bool
  /-- The answer has headers. -/
  headers : Bool
  deriving DecidableEq

/-- `String.prototype.includes`. -/
def includes (text part : String) : Bool := part.toList <:+: text.toList

/-- `String.prototype.toLowerCase`, as far as a search for the words of `isTransientError` can tell:
of the characters that are no Latin capitals, only the Kelvin sign becomes a letter of them. -/
def toLowerCase (text : String) : String :=
  String.ofList (text.toList.map fun c => if c = Char.ofNat 0x212A then 'k' else c.toLower)

namespace HorizonError

/-- The message, when there is one, with a property. -/
def messageHas (error : HorizonError) (test : String → Bool) : Bool := error.message.any test

def isAccountNotFoundError (error : HorizonError) : Bool :=
  error.status = some 404 ∨ error.resultCodes ∨
    error.messageHas (fun message => includes message "account" && includes message "not found")

def isTransientError (error : HorizonError) : Bool :=
  error.code = some "ECONNREFUSED" ∨ error.code = some "ETIMEDOUT" ∨ error.status = some 429 ∨
    error.status = some 500 ∨ error.status = some 503 ∨
    error.messageHas (fun message =>
      includes (toLowerCase message) "timeout" || includes (toLowerCase message) "econnrefused" ||
        includes (toLowerCase message) "network")

/-- A rate limit that `callWithHorizonRateLimit` waits for. -/
def isRateLimited (error : HorizonError) : Bool := error.status = some 429 ∧ error.headers

end HorizonError

/-- What `fetchHorizonStats` can throw. -/
inductive Thrown
  | rateLimit
  | horizon (error : HorizonError)
  deriving DecidableEq

namespace Thrown

/-- A rate limit error is not tried again, whatever it says. -/
def isRetried : Thrown → Bool
  | .rateLimit => false
  | .horizon error => error.isTransientError

end Thrown

/-! ## Requests -/

section Requests

variable (failures : ℕ → Option HorizonError) (maxPageRetries : ℕ)

/-- One request, tried again while Horizon limits the rate. The state is the number of requests. -/
def callWithHorizonRateLimit (request : ℕ) : Except Thrown Unit × ℕ :=
  match retry HorizonError.isRateLimited (answer failures ()) maxPageRetries request with
  | (.done _, request) => (.ok (), request)
  | (.exhausted _, request) => (.error .rateLimit, request)
  | (.refused error, request) => (.error (.horizon error), request)

/-- The request for a later page, tried again after transient errors. There is no page when the
budget is spent. -/
def fetchNextPage (request : ℕ) : Except Thrown (Option Unit) × ℕ :=
  match retry Thrown.isRetried (callWithHorizonRateLimit failures maxPageRetries) maxPageRetries request with
  | (.done _, request) => (.ok (some ()), request)
  | (.exhausted _, request) => (.ok none, request)
  | (.refused thrown, request) => (.error thrown, request)

end Requests

/-! ## Pages -/

/-- A page of the history. Only after the last page does Horizon send one without records. -/
abbrev Page := { records : List HorizonOperationRecord // records ≠ [] }

/-- The history of an account, newest first, as it is split into pages. -/
structure History where
  pages : List Page
  newestFirst : (pages.flatMap Subtype.val).Pairwise fun a b => b.createdAt ≤ a.createdAt

/-- The operations of a history. -/
def History.operations (history : History) : List HorizonOperationRecord := history.pages.flatMap Subtype.val

/-- The loop over the records of a page, and whether it met one that is too old. -/
def scanRecords (address : Address) (cutoff : ℕ) : List HorizonOperationRecord → Aggregate → Aggregate × Bool
  | [], total => (total, false)
  | op :: records, total =>
    if op.createdAt < cutoff then (total, true) else scanRecords address cutoff records (total.add address op)

section Fetch

variable (failures : ℕ → Option HorizonError) (maxPageRetries : ℕ) (address : Address) (cutoff : ℕ)

/-- The loop over the pages, with the later pages, the records of this one and the requests so far. -/
def readPages (later : List Page) (records : List HorizonOperationRecord) (total : Aggregate) (request : ℕ) :
    Except Thrown HorizonStats :=
  if records = [] then .ok ⟨total.stats, false⟩
  else
    match scanRecords address cutoff records total with
    | (total, true) => .ok ⟨total.stats, false⟩
    | (total, false) =>
      match fetchNextPage failures maxPageRetries request with
      | (.error thrown, _) => .error thrown
      | (.ok none, _) => .ok ⟨total.stats, true⟩
      | (.ok (some _), request) =>
        match later with
        -- the page without records ends the loop
        | [] => .ok ⟨total.stats, false⟩
        | next :: later => readPages later next.val total request

/-- The statistics of nothing to report. -/
def emptyTxStats : HorizonStats := ⟨⟨0, 0, 0⟩, false⟩

/-- An account of the network. -/
def isValidStellarAddress (address : Address) : Bool := !address.isContract

/-- Fetch the statistics since the cutoff. -/
def fetchHorizonStats (history : History) : Except Thrown HorizonStats :=
  if isValidStellarAddress address then
    match callWithHorizonRateLimit failures maxPageRetries 0 with
    | (.error .rateLimit, _) => .error .rateLimit
    | (.error (.horizon error), _) =>
      if error.isAccountNotFoundError then .ok emptyTxStats
      else if error.isTransientError then .error (.horizon error)
      else .ok emptyTxStats
    | (.ok _, request) =>
      match history.pages with
      | [] => .ok emptyTxStats
      | first :: later =>
        readPages failures maxPageRetries address cutoff later first.val Aggregate.empty request
  else .ok emptyTxStats

end Fetch

end StellarDidCredit.Feeder
