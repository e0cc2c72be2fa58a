import Mathlib.Algebra.BigOperators.Group.List.Basic
import Mathlib.Tactic.Ring
import StellarDidCredit.Scoring.Arithmetic
import StellarDidCredit.Feeder.Horizon

/-!
# Scores and counted operations

An operation that is counted in addition changes three numbers at once. The volume and the number of
transactions only grow with it, but a new transaction with few counterparties lowers the average of
them, and with it the bonus for counterparties. The score cannot fall exactly when the bonus levels
that are lost are made up for by whole units of volume.
-/

namespace StellarDidCredit.Feeder

variable {address : Address} {before after ops : List HorizonOperationRecord} {op : HorizonOperationRecord}

/-! ## What is counted -/

/-- The distinct transactions of a list of operations. -/
def transactions (ops : List HorizonOperationRecord) : Finset String :=
  (ops.map HorizonOperationRecord.transactionHash).toFinset

/-- An operation's transaction with its counterparty, if it has one. -/
def HorizonOperationRecord.meeting (address : Address) (op : HorizonOperationRecord) : Option (String × Address) :=
  (op.counterparty address).map (op.transactionHash, ·)

/-- The distinct pairs of a transaction and a counterparty in it. -/
def meetings (address : Address) (ops : List HorizonOperationRecord) : Finset (String × Address) :=
  (ops.filterMap (HorizonOperationRecord.meeting address)).toFinset

/-- The stroops of a list of operations. -/
def volumeOf (address : Address) (ops : List HorizonOperationRecord) : ℤ :=
  (ops.map fun op => op.volume address).sum

/-- The loop adds to each of its three numbers what is counted. -/
theorem foldl_add (total : Aggregate) : ops.foldl (Aggregate.add address) total =
    ⟨total.volumeStroops + volumeOf address ops, transactions ops ∪ total.txHashes,
      meetings address ops ∪ total.counterpartiesPerTx⟩ := by
  induction ops generalizing total with
  | nil => simp [volumeOf, transactions, meetings]
  | cons op ops ih =>
    rw [List.foldl_cons, ih]
    congr 1
    · simp [Aggregate.add, volumeOf, add_assoc]
    · ext hash
      simp only [Aggregate.add, transactions, List.map_cons, List.toFinset_cons, Finset.mem_union,
        Finset.mem_insert]
      tauto
    · ext pair
      cases hparty : op.counterparty address with
      | none => simp [Aggregate.add, meetings, HorizonOperationRecord.meeting, hparty]
      | some party =>
        simp only [Aggregate.add, meetings, HorizonOperationRecord.meeting, hparty, List.filterMap_cons,
          Option.map_some, List.toFinset_cons, Finset.mem_union, Finset.mem_insert]
        tauto

/-- The statistics of a list in terms of what is counted. -/
theorem aggregate_eq (address : Address) (ops : List HorizonOperationRecord) : aggregate address ops =
    { volume30d := volumeOf address ops
      txCount30d := (transactions ops).card
      avgCounterparties :=
        if 0 < (transactions ops).card then
          mathRound (meetings address ops).card (transactions ops).card
        else 0 } := by
  rw [aggregate, foldl_add]
  simp [Aggregate.stats, Aggregate.empty]

/-! ## The bonus for counterparties -/

/-- So many pairs in so many transactions are worth a bonus of at least `level`: there is an average of
`5 * level`, rounded to the nearest number. -/
def Reaches (transactions pairs level : ℕ) : Prop :=
  level = 0 ∨ level ≤ 20 ∧ 0 < transactions ∧ (10 * level - 1) * transactions ≤ 2 * pairs

/-- The bonus of the formula is the highest level that is reached. -/
theorem reaches_iff (transactions pairs level : ℕ) : Reaches transactions pairs level ↔
    level ≤ min ((if 0 < transactions then mathRound pairs transactions else 0) / 5) 20 := by
  rw [Reaches, le_min_iff, Nat.le_div_iff_mul_le (by decide)]
  split
  case isTrue hsome =>
    have haverage : level * 5 ≤ mathRound pairs transactions ↔
        level * 10 * transactions ≤ 2 * pairs + transactions := by
      have hproduct : level * 5 * (2 * transactions) = level * 10 * transactions := by ring
      rw [mathRound, Nat.le_div_iff_mul_le (by omega), hproduct]
    rw [haverage]
    cases level with
    | zero => simp
    | succ level =>
      have hproduct : (level + 1) * 10 * transactions = (10 * (level + 1) - 1) * transactions + transactions := by
        rw [← Nat.succ_mul]
        congr 1
        omega
      omega
  case isFalse hnone => omega

/-- The bonus and the units of volume make up the component for transactions. -/
theorem txScoreOf_eq (volume30d : ℤ) (avgCounterparties : ℕ) :
    txScoreOf volume30d avgCounterparties = cappedUnits volume30d 80 + min (avgCounterparties / 5) 20 := by
  have hunits := cappedUnits_le volume30d 80
  unfold txScoreOf
  omega

/-! ## The score -/

/-- Whatever the rest of the inputs is, the score is no lower with one set of statistics than with
another. -/
def NoLower (stats stats' : CreditOracle.TxStats) : Prop :=
  ∀ (vcPoints onTimeCount totalCount : ℕ) (totalRepaid : ℤ) (weights : ScoringWeights), weights.Valid →
    computeScorePure vcPoints stats.volume30d stats.avgCounterparties onTimeCount totalCount totalRepaid
        weights.vcWeight weights.txWeight weights.repaymentWeight ≤
      computeScorePure vcPoints stats'.volume30d stats'.avgCounterparties onTimeCount totalCount totalRepaid
        weights.vcWeight weights.txWeight weights.repaymentWeight

/-- The weighted sum without repayments when the weight of the transactions is as large as it can be. -/
theorem weightedSum_eighty (vcPoints txScore : ℕ) :
    weightedSum vcPoints txScore 0 ⟨10, 80, 10⟩ = min vcPoints 100 * 10 + txScore * 80 := by
  simp [weightedSum]

/-- No input makes up for a lower component: with a weight of 80 and points that make the weighted sum a
multiple of 100, the score falls with it. -/
theorem noLower_iff (stats stats' : CreditOracle.TxStats) : NoLower stats stats' ↔
    txScoreOf stats.volume30d stats.avgCounterparties ≤ txScoreOf stats'.volume30d stats'.avgCounterparties := by
  constructor
  · intro h
    by_contra! hlower
    have htx := txScoreOf_le stats.volume30d stats.avgCounterparties
    have hscore := h (2 * txScoreOf stats.volume30d stats.avgCounterparties % 10) 0 0 0 ⟨10, 80, 10⟩ (by decide)
    rw [computeScorePure_eq _ _ _ _ _ _ ⟨10, 80, 10⟩, computeScorePure_eq _ _ _ _ _ _ ⟨10, 80, 10⟩] at hscore
    have hrepay : repayScoreOf 0 0 0 = 0 := by decide
    rw [hrepay, weightedSum_eighty, weightedSum_eighty, scaleScore_le_iff (by omega) (by omega)] at hscore
    omega
  · intro h vcPoints onTimeCount totalCount totalRepaid weights _
    rw [computeScorePure_eq, computeScorePure_eq]
    refine scaleScore_mono (Nat.div_le_div_right ?_)
    unfold weightedSum
    gcongr

/-- The property of the documentation: with one more operation the score is no lower. -/
def ScoreKept (address : Address) (before after : List HorizonOperationRecord)
    (op : HorizonOperationRecord) : Prop :=
  NoLower (aggregate address (before ++ after)) (aggregate address (before ++ op :: after))

/-- The levels of the bonus that are lost are made up for by units of volume. -/
def LevelsKept (address : Address) (before after : List HorizonOperationRecord)
    (op : HorizonOperationRecord) : Prop :=
  ∀ level, Reaches (transactions (before ++ after)).card (meetings address (before ++ after)).card level →
    Reaches (transactions (before ++ op :: after)).card (meetings address (before ++ op :: after)).card
      (level + cappedUnits (volumeOf address (before ++ after)) 80 -
        cappedUnits (volumeOf address (before ++ op :: after)) 80)

/-- Counting one more operation lowers no score exactly when every level of the bonus for
counterparties is kept, less the units of volume that the operation adds. -/
theorem scoreKept_iff (address : Address) (before after : List HorizonOperationRecord)
    (op : HorizonOperationRecord) :
    ScoreKept address before after op ↔ LevelsKept address before after op := by
  rw [ScoreKept, noLower_iff, txScoreOf_eq, txScoreOf_eq, aggregate_eq, aggregate_eq]
  simp only [LevelsKept, reaches_iff]
  constructor
  · intro h level hlevel
    omega
  · intro h
    have hall := h _ le_rfl
    omega

/-- In a transaction that is counted anyway, an operation without a negative amount lowers no score. -/
theorem scoreKept_of_mem (hmem : op.transactionHash ∈ transactions (before ++ after))
    (hvolume : 0 ≤ op.volume address) : ScoreKept address before after op := by
  have htransactions : transactions (before ++ op :: after) = transactions (before ++ after) := by
    have hinsert : transactions (before ++ op :: after) =
        insert op.transactionHash (transactions (before ++ after)) := by
      ext hash
      simp only [transactions, List.map_append, List.map_cons, List.toFinset_append, List.toFinset_cons,
        Finset.mem_union, Finset.mem_insert]
      tauto
    rw [hinsert, Finset.insert_eq_of_mem hmem]
  have hmeetings : meetings address (before ++ after) ⊆ meetings address (before ++ op :: after) := by
    intro pair hpair
    have hsublist := ((List.sublist_cons_self op after).append_left before).filterMap
      (HorizonOperationRecord.meeting address)
    exact List.mem_toFinset.mpr (hsublist.subset (List.mem_toFinset.mp hpair))
  have hunits : cappedUnits (volumeOf address (before ++ after)) 80 ≤
      cappedUnits (volumeOf address (before ++ op :: after)) 80 := by
    refine cappedUnits_mono ?_ 80
    simp only [volumeOf, List.map_append, List.map_cons, List.sum_append, List.sum_cons]
    omega
  have haverage : mathRound (meetings address (before ++ after)).card (transactions (before ++ after)).card ≤
      mathRound (meetings address (before ++ op :: after)).card (transactions (before ++ after)).card := by
    have hcard := Finset.card_le_card hmeetings
    exact Nat.div_le_div_right (by omega)
  rw [ScoreKept, noLower_iff, txScoreOf_eq, txScoreOf_eq, aggregate_eq, aggregate_eq, htransactions]
  refine Nat.add_le_add hunits (min_le_min_right _ (Nat.div_le_div_right ?_))
  split
  · exact haverage
  · exact le_rfl

/-- The types that are counted in addition to payments. -/
def HorizonOperationRecord.IsAdded (op : HorizonOperationRecord) : Prop :=
  op.type ∈ [.pathPaymentStrictSend, .pathPaymentStrictReceive, .createAccount, .claimClaimableBalance]

/-- A payment of another asset than the native one to an account. -/
def samplePayment (n : ℕ) : HorizonOperationRecord where
  type := .payment
  transactionHash := "a"
  createdAt := 0
  fromAddress := some (.account 1)
  toAddress := some (.account (BitVec.ofNat 256 n))
  amount := some 10000000
  assetType := some "credit_alphanum4"
  sourceAmount := none
  sourceAssetType := none
  account := none
  funder := none
  claimant := none

/-- The creation of an account, in a transaction of its own. -/
def sampleCreation : HorizonOperationRecord :=
  { samplePayment 0 with
    type := .createAccount
    transactionHash := "b"
    account := some (.account 99)
    funder := some (.account 1) }

/-- A transaction that pays ten accounts, and then one that creates an account: the average falls from 10
to 5.5, which is rounded to 6, and the bonus from 2 to 1. -/
theorem not_scoresKept :
    ¬ ∀ address before after op, HorizonOperationRecord.IsAdded op → ScoreKept address before after op := by
  intro h
  have hadded : sampleCreation.IsAdded := by simp [HorizonOperationRecord.IsAdded, sampleCreation]
  have hkept := h (.account 1) ((List.range' 2 10).map samplePayment) [] sampleCreation hadded
  rw [ScoreKept, noLower_iff] at hkept
  exact absurd hkept (by decide)

end StellarDidCredit.Feeder
