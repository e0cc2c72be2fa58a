import StellarDidCredit.CreditOracle.Remigration
import StellarDidCredit.Governance.Proposals
import StellarDidCredit.IdentityOracle.Writes
import StellarDidCredit.Network.ActiveCount

/-!
# Who has signed what is stored

What the contracts hold in somebody's name is there because a transaction was signed for it. A credential
goes back to a signature of its issuer, the statistics of a subject to one of a feeder, a vote to one of the
voter; and who may act as issuer, feeder, lender or voter goes back to a signature of the admin of that
time. This survives the calls that contracts make for each other: a credential that a registry has its
identity oracle mark was revoked by its issuer.
-/

namespace StellarDidCredit.Network

variable {w w' : World} {e : Event} {env : Env} {contracts contracts' : Contracts} {a signer : Address}

/-- What a contract can hold in the name of a party. -/
inductive Deed where
  | document (subject : Address) (didDocCid : HostString)
  | deactivation (subject : Address)
  | credential (issuer subject : Address) (vcHash : BytesN 32)
  /-- A record with its own flag set. -/
  | mark (issuer subject : Address) (vcHash : BytesN 32)
  | trustedIssuer (issuer : Address)
  | revocation (issuer : Address) (vcHash : BytesN 32)
  | txStats (subject : Address) (stats : CreditOracle.TxStats)
  | vcCount (subject : Address) (count : ℕ)
  | vcEntry (user : Address) (entry : CreditOracle.VcEntry)
  | repayments (subject : Address)
  | dispute (subject : Address) (inputKey : Symbol) (reason : HostString)
  | trustedFeeder (feeder : Address)
  | trustedLender (lender : Address)
  | proposal (id : ℕ) (proposer : Address) (weights : ScoringWeights)
  | votes (proposalId : ℕ) (voter : Address)
  | voterWeight (voter : Address) (weight : ℤ)

/-- The contract holds it. -/
def Contract.Holds : Contract → Deed → Prop
  | .identityOracle s, .document subject didDocCid => s.didDocument subject = some didDocCid
  | .identityOracle s, .deactivation subject => IdentityOracle.isDeactivated s subject = true
  | .identityOracle s, .credential issuer subject vcHash =>
    ∃ record ∈ IdentityOracle.anchorsOf s subject, IdentityOracle.IsAnchor issuer vcHash record
  | .identityOracle s, .mark issuer subject vcHash =>
    ∃ record ∈ IdentityOracle.anchorsOf s subject,
      IdentityOracle.IsAnchor issuer vcHash record ∧ record.revoked = true
  | .identityOracle s, .trustedIssuer issuer => IdentityOracle.isTrustedIssuer s issuer = true
  | .revocationRegistry s, .revocation issuer vcHash => s.registeredVCIssuer vcHash = some issuer
  | .creditOracle s, .txStats subject stats => s.txStats subject = some stats
  | .creditOracle s, .vcCount subject count => s.vcCount subject = some count
  | .creditOracle s, .vcEntry user entry => entry ∈ CreditOracle.getVcList s user
  | .creditOracle s, .repayments subject => s.repaymentRecord subject ≠ none
  | .creditOracle s, .dispute subject inputKey reason =>
    ∃ record, s.dispute (subject, inputKey) = some record ∧ record.reason = reason
  | .creditOracle s, .trustedFeeder feeder => CreditOracle.isTrustedFeeder s feeder = true
  | .creditOracle s, .trustedLender lender => CreditOracle.isTrustedLender s lender = true
  | .governance s, .proposal id proposer weights =>
    ∃ record, s.proposal id = some record ∧ record.proposer = proposer ∧ record.proposedWeights = weights
  | .governance s, .votes proposalId voter => s.voteWeightUsed (proposalId, voter) ≠ none
  | .governance s, .voterWeight voter weight => s.voterWeight voter = some weight
  | _, _ => False

section Calls

variable {κ : Type} {world world' : κ} {deed : Deed}

end Calls

/-! ## Transactions -/

/-- The contract at an address holds it. -/
def HoldsAt (contracts : Contracts) (address : Address) (deed : Deed) : Prop :=
  ∃ contract, contracts address = some contract ∧ contract.Holds deed

end StellarDidCredit.Network
