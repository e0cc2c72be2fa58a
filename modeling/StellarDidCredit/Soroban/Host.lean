import StellarDidCredit.Lib.Outcome
import StellarDidCredit.Lib.Storage
import StellarDidCredit.Lib.MachineInt

/-!
# What the contracts see of the Soroban host

Addresses, byte strings, symbols and the ledger, and the environment of one contract
invocation. `require_auth` succeeds for an address that signed the transaction or that is
the contract making the call; a failed authorisation traps.

Entry lifetimes (the `extend_ttl` calls) are not part of the model. Published events have no effect
on what a contract computes; which call publishes which events is stated beside the contracts.
-/

namespace StellarDidCredit

/-- A byte string of fixed length, read as a big-endian number. -/
abbrev BytesN (n : ℕ) := BitVec (8 * n)

/-- A short name stored on chain. -/
abbrev Symbol := String

/-- A host string, as its bytes. -/
abbrev HostString := List UInt8

/-- An account (`G...`) or a contract (`C...`). -/
inductive Address where
  | account (key : BytesN 32)
  | contract (hash : BytesN 32)
  deriving DecidableEq, Repr

namespace Address

/-- Whether the strkey form of the address starts with `C`. -/
def isContract : Address → Bool
  | account _ => false
  | contract _ => true

end Address

/-- The ledger in which a transaction is executed. -/
structure Ledger where
  sequence : ℕ
  timestamp : ℕ
  sequence_le : sequence ≤ U32.max
  timestamp_le : timestamp ≤ U64.max

namespace Ledger

/-- The ledger with this number, at the time zero. -/
def numbered (sequence : BitVec 32) : Ledger :=
  ⟨sequence.toNat, 0, Nat.le_pred_of_lt sequence.isLt, Nat.zero_le _⟩

/-- Ledgers close one after the other: neither the number nor the time goes back. -/
def NotAfter (l l' : Ledger) : Prop := l.sequence ≤ l'.sequence ∧ l.timestamp ≤ l'.timestamp

instance (l l' : Ledger) : Decidable (l.NotAfter l') := inferInstanceAs (Decidable (_ ∧ _))

/-- A ledger is not after itself. -/
theorem NotAfter.refl (l : Ledger) : l.NotAfter l := ⟨le_rfl, le_rfl⟩

/-- Closing more ledgers keeps the order. -/
theorem NotAfter.trans {a b c : Ledger} (hab : a.NotAfter b) (hbc : b.NotAfter c) : a.NotAfter c :=
  ⟨hab.1.trans hbc.1, hab.2.trans hbc.2⟩

end Ledger

/-- The environment of one contract invocation. -/
structure Env where
  ledger : Ledger
  /-- The contract being executed. -/
  currentContract : Address
  /-- The addresses whose signature covers the invocation. -/
  signers : List Address
  /-- The contract that made the call, when it is not the top-level one. -/
  invoker : Option Address

namespace Env

/-- A top-level call of the contract with these signatures. -/
def signedBy (ledger : Ledger) (contract : Address) (signers : List Address) : Env :=
  { ledger, currentContract := contract, signers, invoker := none }

/-- Whether the address has authorised this invocation. -/
def Authorized (env : Env) (a : Address) : Prop := a ∈ env.signers ∨ env.invoker = some a

instance (env : Env) (a : Address) : Decidable (env.Authorized a) :=
  inferInstanceAs (Decidable (_ ∨ _))

/-- The environment a contract called from this invocation sees. -/
def enter (env : Env) (callee : Address) : Env :=
  { env with currentContract := callee, invoker := some env.currentContract }

end Env

/-- `require_auth`: the invocation traps unless the address has authorised it. -/
def requireAuth {E : Type} (env : Env) (a : Address) : Outcome E Unit :=
  .require (env.Authorized a) .trap

/-- An authorisation check passes exactly for the addresses that authorised the call. -/
@[simp] theorem requireAuth_eq_ok {E : Type} {env : Env} {a : Address} {u : Unit} :
    (requireAuth env a : Outcome E Unit) = .ok u ↔ env.Authorized a :=
  Outcome.require_eq_ok

end StellarDidCredit
