import StellarDidCredit.Lib.Outcome
import StellarDidCredit.Lib.Storage
import StellarDidCredit.Lib.Sweep
import StellarDidCredit.Lib.Run
import StellarDidCredit.Lib.Journal
import StellarDidCredit.Lib.Purge
import StellarDidCredit.Lib.MachineInt
import StellarDidCredit.Lib.Bytes
import StellarDidCredit.Lib.BitList
import StellarDidCredit.Lib.Residue
import StellarDidCredit.Lib.BinaryFloat
import StellarDidCredit.Lib.Sha256
import StellarDidCredit.Lib.EventLog
import StellarDidCredit.Lib.LastWrite
import StellarDidCredit.Lib.Lockstep
import StellarDidCredit.Lib.FlagIndex
import StellarDidCredit.Lib.Paging
import StellarDidCredit.Lib.RoleTransfer
import StellarDidCredit.Lib.Average
import StellarDidCredit.Lib.Spread
import StellarDidCredit.Lib.Within
import StellarDidCredit.Lib.Text
import StellarDidCredit.Lib.Search
import StellarDidCredit.Lib.Retry
import StellarDidCredit.Soroban.Host
import StellarDidCredit.Soroban.Xdr
import StellarDidCredit.Soroban.Events
import StellarDidCredit.Scoring.Types
import StellarDidCredit.Scoring.Formula
import StellarDidCredit.Scoring.Bounds
import StellarDidCredit.Scoring.Arithmetic
import StellarDidCredit.Scoring.Averaging
import StellarDidCredit.Scoring.Stability
import StellarDidCredit.RevocationRegistry.Model
import StellarDidCredit.RevocationRegistry.Effects
import StellarDidCredit.RevocationRegistry.Index
import StellarDidCredit.RevocationRegistry.Lock
import StellarDidCredit.RevocationRegistry.Batch
import StellarDidCredit.RevocationRegistry.Listing
import StellarDidCredit.RevocationRegistry.Notices
import StellarDidCredit.IdentityOracle.Model
import StellarDidCredit.IdentityOracle.Effects
import StellarDidCredit.IdentityOracle.Subjects
import StellarDidCredit.IdentityOracle.Writes
import StellarDidCredit.IdentityOracle.Counts
import StellarDidCredit.IdentityOracle.Changes
import StellarDidCredit.IdentityOracle.Deactivation
import StellarDidCredit.IdentityOracle.Statistics
import StellarDidCredit.IdentityOracle.Records
import StellarDidCredit.IdentityOracle.Issuers
import StellarDidCredit.IdentityOracle.Limit
import StellarDidCredit.IdentityOracle.Admission
import StellarDidCredit.IdentityOracle.Notices
import StellarDidCredit.CreditOracle.Model
import StellarDidCredit.CreditOracle.Effects
import StellarDidCredit.CreditOracle.Points
import StellarDidCredit.CreditOracle.Comparison
import StellarDidCredit.CreditOracle.Recency
import StellarDidCredit.CreditOracle.Sources
import StellarDidCredit.CreditOracle.Timelock
import StellarDidCredit.CreditOracle.Registries
import StellarDidCredit.CreditOracle.Disputes
import StellarDidCredit.CreditOracle.Repayments
import StellarDidCredit.CreditOracle.RepaymentScores
import StellarDidCredit.CreditOracle.Migration
import StellarDidCredit.CreditOracle.Remigration
import StellarDidCredit.CreditOracle.Statistics
import StellarDidCredit.CreditOracle.Cooldown
import StellarDidCredit.CreditOracle.Notices
import StellarDidCredit.CreditOracle.Isolation
import StellarDidCredit.Governance.Model
import StellarDidCredit.Governance.Effects
import StellarDidCredit.Governance.Listing
import StellarDidCredit.Governance.Mandates
import StellarDidCredit.Governance.Majorities
import StellarDidCredit.Governance.Proposals
import StellarDidCredit.Governance.ProposalIds
import StellarDidCredit.Governance.Votes
import StellarDidCredit.Governance.Weights
import StellarDidCredit.Governance.Quorum
import StellarDidCredit.Governance.Tallies
import StellarDidCredit.Governance.Availability
import StellarDidCredit.Governance.Notices
import StellarDidCredit.Network.Model
import StellarDidCredit.Network.Steps
import StellarDidCredit.Network.Recency
import StellarDidCredit.Network.Codes
import StellarDidCredit.Network.RegistrySteps
import StellarDidCredit.Network.IdentitySteps
import StellarDidCredit.Network.CreditSteps
import StellarDidCredit.Network.Standalone
import StellarDidCredit.Network.Queries
import StellarDidCredit.Network.Revocation
import StellarDidCredit.Network.ReadPaths
import StellarDidCredit.Network.ActiveCount
import StellarDidCredit.Network.ActiveCap
import StellarDidCredit.Network.Freshness
import StellarDidCredit.Network.Staleness
import StellarDidCredit.Network.HandOver
import StellarDidCredit.Network.Mandates
import StellarDidCredit.Network.Enactment
import StellarDidCredit.Network.Admission
import StellarDidCredit.Network.Anchoring
import StellarDidCredit.Network.Deactivation
import StellarDidCredit.Network.Reanchoring
import StellarDidCredit.Network.IssuerRevocation
import StellarDidCredit.Network.Totality
import StellarDidCredit.Network.Sources
import StellarDidCredit.Network.AdminTransfer
import StellarDidCredit.Network.Pausing
import StellarDidCredit.Network.Notices
import StellarDidCredit.Network.Attribution
import StellarDidCredit.Circuit.Gadgets
import StellarDidCredit.Circuit.ScoreCircuit
import StellarDidCredit.Circuit.Numbers
import StellarDidCredit.Circuit.OpenScores
import StellarDidCredit.Circuit.Comparisons
import StellarDidCredit.Circuit.Commitment
import StellarDidCredit.Circuit.Soundness
import StellarDidCredit.Circuit.Prover
import StellarDidCredit.Circuit.Completeness
import StellarDidCredit.Circuit.ProverScore
import StellarDidCredit.Circuit.Binding
import StellarDidCredit.ScoreRangeVerifier.PublicInputs
import StellarDidCredit.ScoreRangeVerifier.Model
import StellarDidCredit.ScoreRangeVerifier.Consumption
import StellarDidCredit.ScoreRangeVerifier.Agreement
import StellarDidCredit.Sdk.ScoreProof
import StellarDidCredit.Sdk.ProvedScore
import StellarDidCredit.Sdk.GovernanceClient
import StellarDidCredit.Sdk.ProposalScans
import StellarDidCredit.Sdk.ProposalPages
import StellarDidCredit.Sdk.Issuing
import StellarDidCredit.Sdk.HandOff
import StellarDidCredit.Sdk.Verification
import StellarDidCredit.Sdk.ContractErrors
import StellarDidCredit.Sdk.Chunks
import StellarDidCredit.Sdk.Batches
import StellarDidCredit.Sdk.RegistryBatches
import StellarDidCredit.Sdk.BusyRegistry
import StellarDidCredit.Sdk.Delivery
import StellarDidCredit.Sdk.Subscription
import StellarDidCredit.Feeder.Routing
import StellarDidCredit.Feeder.Polling
import StellarDidCredit.Feeder.Sync
import StellarDidCredit.Feeder.Landing
import StellarDidCredit.Feeder.Skipping
import StellarDidCredit.Feeder.Horizon
import StellarDidCredit.Feeder.OperationTypes
import StellarDidCredit.Feeder.Pagination
import StellarDidCredit.Feeder.Cycle
import StellarDidCredit.Feeder.DeadLetter
import StellarDidCredit.Cli.Csv
import StellarDidCredit.Cli.Quoting
import StellarDidCredit.Cli.BatchAnchor
import StellarDidCredit.Cli.Vouching
import StellarDidCredit.Cli.Rerun
