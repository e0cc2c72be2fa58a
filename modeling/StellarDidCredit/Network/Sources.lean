import StellarDidCredit.CreditOracle.Sources
import StellarDidCredit.Network.Recency
import StellarDidCredit.Network.Totality

/-!
# A score from each source of credentials

A computation takes the credentials from the linked identity oracle, or else from the stored list, or
else from the cached count. The loop over the records of an identity oracle verifies each of them
again, which they all pass. So the same number of credentials gives the same score from each source,
as long as the source is the one that counts: a deactivated identity has the minimum score, and an
empty list is read as the cached count.
-/

namespace StellarDidCredit.IdentityOracle

variable {κ : Type} {host : Host κ} {world : κ} {s : State} {x : Address}

/-- What `get_vc_details` lists passes `verify_vc`. -/
theorem verifyVc_of_listed {records : List IdentityVCRecord} (h : getVcDetails host world s x = .ok records)
    {record : IdentityVCRecord} (hmem : record ∈ records) :
    verifyVc host world s x record.vcHash = .ok true := by
  obtain ⟨active, hactive, rfl⟩ := Outcome.filterE_answers h
  obtain ⟨hanchored, hlisted⟩ := List.mem_filter.mp hmem
  have hanswers : ∀ other ∈ anchorsOf s x,
      (if other.vcHash = record.vcHash then do
        let revoked ← isRecordRevoked host world s other
        .ok !revoked
      else .ok false : Outcome Error Bool) =
        .ok (decide (other.vcHash = record.vcHash) && active other) := by
    intro other hother
    by_cases hhash : other.vcHash = record.vcHash
    · rw [if_pos hhash, decide_eq_true hhash, hactive other hother, Bool.true_and]
    · rw [if_neg hhash, decide_eq_false hhash, Bool.false_and]
  rw [verifyVc, Outcome.anyE_eq_any hanswers, List.any_eq_true.mpr ⟨record, hanchored, ?_⟩]
  rw [decide_eq_true rfl, hlisted, Bool.and_self]

end StellarDidCredit.IdentityOracle

namespace StellarDidCredit.Network

open CreditOracle (Plain ResolvesPlain SameInputs getVcList)

variable {w w' : World} {env : Env} {a x : Address} {k k' : CreditOracle.State} {n : ℕ}

/-! ## The three sources -/

/-- The subject has `n` credentials in one of the three sources: the active records of the linked
identity oracle, the entries of the stored list, or the cached count next to an empty list. -/
inductive HasCredentials (w : World) (env : Env) (k : CreditOracle.State) (x : Address) (n : ℕ) : Prop
  | linked {a : Address} {records : List IdentityVCRecord} (hlinked : k.identityOracleId = some a)
      (hreported : w.reported env a x = some records) (hcount : records.length = n)
  | listed (hunlinked : k.identityOracleId = none) (hcount : (getVcList k x).length = n)
  | cached (hunlinked : k.identityOracleId = none) (hempty : getVcList k x = [])
      (hcount : (k.vcCount x).getD 0 = n)

/-- The credentials are the ones that count: the linked identity oracle does not report the subject as
deactivated, and an empty stored list comes with that cached count. -/
structure Counts (w : World) (k : CreditOracle.State) (x : Address) (n : ℕ) : Prop where
  active : ¬ReportedDeactivated w k x
  cached : k.identityOracleId = none → getVcList k x = [] → (k.vcCount x).getD 0 = n

/-- An identity oracle that reports records verifies and labels each of them. -/
theorem answers_of_reported {records : List IdentityVCRecord} (hreported : w.reported env a x = some records)
    (hactive : w.isDeactivated a x ≠ some true) (hfew : records.length ≤ U32.max) :
    ∃ label, CreditOracle.Answers (creditHost env [env.currentContract]) w.contracts a x false records label := by
  obtain ⟨hfree, s, hs, hdetails⟩ := onIdentity_eq_some.mp hreported
  have hdetails := Outcome.toOption_eq_some.mp hdetails
  have hflag : IdentityOracle.isDeactivated s x = false := by
    rw [isDeactivated_eq hs, ne_eq, Option.some.injEq, Bool.not_eq_true] at hactive
    exact hactive
  refine ⟨IdentityOracle.getVcCredentialType s x, ?_, hreported, ?_, ?_, hfew⟩
  · exact onIdentity_eq_some.mpr ⟨hfree, s, hs, congrArg some hflag⟩
  · intro record hmem
    exact onIdentity_eq_some.mpr ⟨hfree, s, hs,
      Outcome.toOption_eq_some.mpr (IdentityOracle.verifyVc_of_listed hdetails hmem)⟩
  · intro record hmem
    exact onIdentity_eq_some.mpr ⟨hfree, s, hs, rfl⟩

/-- From each source a computation resolves that many credentials. -/
theorem HasCredentials.resolves (h : HasCredentials w env k x n) (hcounts : Counts w k x n) (hplain : Plain k)
    (hfits : n ≤ U32.max) : ResolvesPlain (creditHost env [env.currentContract]) env w.contracts k x n := by
  cases h with
  | linked hlinked hreported hcount =>
    subst hcount
    have hactive : w.isDeactivated _ x ≠ some true := fun hflag => hcounts.active ⟨_, hlinked, hflag⟩
    obtain ⟨label, hanswers⟩ := answers_of_reported hreported hactive hfits
    exact CreditOracle.resolvesPlain_linked hplain hlinked hanswers
  | listed hunlinked hcount =>
    by_cases hempty : getVcList k x = []
    · rw [← hcounts.cached hunlinked hempty]
      exact CreditOracle.resolvesPlain_cached hunlinked hempty
    · rw [← hcount]
      exact CreditOracle.resolvesPlain_listed hplain hunlinked hempty
  | cached hunlinked hempty hcount =>
    rw [← hcount]
    exact CreditOracle.resolvesPlain_cached hunlinked hempty

/-- The same number of credentials that count gives the same score from each source, and that number
is stored with it. -/
theorem sources_agree (h : HasCredentials w env k x n) (h' : HasCredentials w' env k' x n)
    (hcounts : Counts w k x n) (hcounts' : Counts w' k' x n) (hplain : Plain k) (hplain' : Plain k')
    (hsame : SameInputs k k' x) (hfits : n ≤ U32.max) :
    w.scoreOf env k x = w'.scoreOf env k' x ∧
    ∀ v t, CreditOracle.computeScore (creditHost env [env.currentContract]) env x k w.contracts = .ok (v, t) →
      ∃ record, t.score x = some record ∧ record.vcCount = n := by
  have hresolves := h.resolves hcounts hplain hfits
  have hresolves' := h'.resolves hcounts' hplain' hfits
  exact ⟨hresolves.scoreOf_eq hresolves' hsame, fun v t hcompute => hresolves.stored hcompute⟩

/-- The sample credit oracle with one credential in its cache. -/
def sampleCached : CreditOracle.State :=
  { sampleScoring with
    identityOracleId := none
    vcCount := Storage.empty.set (.account 3) 1 }

/-- The credential that the sample identity oracle reports scores as a cached count of one. -/
theorem sources_agree_single :
    (sampleNetwork 0).scoreOf sampleMonthLater sampleScoring (.account 3) =
      (sampleNetwork 0).scoreOf sampleMonthLater sampleCached (.account 3) := by
  have hlinked : HasCredentials (sampleNetwork 0) sampleMonthLater sampleScoring (.account 3) 1 :=
    .linked rfl rfl rfl
  have hcached : HasCredentials (sampleNetwork 0) sampleMonthLater sampleCached (.account 3) 1 :=
    .cached rfl rfl rfl
  have hcounts : Counts (sampleNetwork 0) sampleScoring (.account 3) 1 := by
    constructor
    · rintro ⟨a, hlinked, hreported⟩
      cases hlinked
      cases hreported
    · intro hunlinked
      cases hunlinked
  have hcounts' : Counts (sampleNetwork 0) sampleCached (.account 3) 1 := by
    constructor
    · rintro ⟨a, hlinked, -⟩
      cases hlinked
    · exact fun _ _ => rfl
  exact (sources_agree hlinked hcached hcounts hcounts' ⟨rfl, rfl⟩ ⟨rfl, rfl⟩
    ⟨rfl, rfl, rfl, rfl, rfl, rfl, rfl, rfl⟩ (by decide)).1

/-- A subject whose transactions alone are worth a score above the minimum. -/
def sampleTrader : CreditOracle.State where
  config := some ⟨40, 30, 30⟩
  txStats := Storage.empty.set (.account 3) { volume30d := 8000000000, txCount30d := 1, avgCounterparties := 0 }

/-- A deactivated identity without credentials scores less than a cached count of zero, and a stored
list without entries scores as the cached count next to it. -/
theorem not_sources_agree :
    (¬∀ w env k k' x n, k.identityOracleId ≠ none → HasCredentials w env k x n → HasCredentials w env k' x n →
      Plain k → Plain k' → SameInputs k k' x → w.scoreOf env k x = w.scoreOf env k' x) ∧
    ¬∀ w env k k' x n, k.identityOracleId = none → k'.identityOracleId = none → HasCredentials w env k x n →
      HasCredentials w env k' x n → Plain k → Plain k' → SameInputs k k' x →
        w.scoreOf env k x = w.scoreOf env k' x := by
  constructor
  · intro hagree
    let deactivated : World :=
      { contracts := Storage.empty.set (.contract 21)
          (.identityOracle { deactivated := Storage.empty.set (.account 3) true })
        ledger := .numbered 0 }
    have hscores := hagree deactivated sampleMonthLater
      { sampleTrader with identityOracleId := some (.contract 21) }
      sampleTrader (.account 3) 0 (Option.some_ne_none _) (.linked rfl rfl rfl) (.cached rfl rfl rfl) ⟨rfl, rfl⟩
      ⟨rfl, rfl⟩ ⟨rfl, rfl, rfl, rfl, rfl, rfl, rfl, rfl⟩
    have hminimum : deactivated.scoreOf sampleMonthLater
        { sampleTrader with identityOracleId := some (.contract 21) } (.account 3) = .ok 300 := by decide +kernel
    have htrader : deactivated.scoreOf sampleMonthLater sampleTrader (.account 3) = .ok 432 := by decide +kernel
    rw [hminimum, htrader] at hscores
    cases hscores
  · intro hagree
    have hscores := hagree (.genesis (.numbered 0)) sampleMonthLater
      { sampleTrader with vcCount := Storage.empty.set (.account 3) 5 } sampleTrader (.account 3) 0 rfl rfl
      (.listed rfl rfl) (.cached rfl rfl rfl) ⟨rfl, rfl⟩ ⟨rfl, rfl⟩ ⟨rfl, rfl, rfl, rfl, rfl, rfl, rfl, rfl⟩
    have hcached : (World.genesis (.numbered 0)).scoreOf sampleMonthLater
        { sampleTrader with vcCount := Storage.empty.set (.account 3) 5 } (.account 3) = .ok 652 := by
      decide +kernel
    have htrader : (World.genesis (.numbered 0)).scoreOf sampleMonthLater sampleTrader (.account 3) =
        .ok 432 := by decide +kernel
    rw [hcached, htrader] at hscores
    cases hscores

end StellarDidCredit.Network
