import StellarDidCredit.Network.Revocation

/-!
# Computed scores and their freshness

A stored score remembers the ledger of its computation, and reading it asks the linked
identity oracle for the ledger of the subject's last change. A score that was just stored is
fresh.
-/

namespace StellarDidCredit.Network

variable {w w' : World} {e : Event} {a c x : Address} {s : IdentityOracle.State} {k : CreditOracle.State}
  {ledger : Ledger} {history : List Move} {contracts : Contracts}

/-! ## Reading a score -/

/-- The stored score of a subject. -/
def World.storedScore (w : World) (c x : Address) : Option CreditOracle.ScoreRecord :=
  onCredit [] w.contracts c fun k => k.score x

/-- `compute_score` in a ledger: the returned score and the network after it. -/
def World.computeScore (w : World) (now : Ledger) (c x : Address) : Option (ℕ × World) :=
  onCredit [] w.contracts c fun k => do
    let (v, k) ← (CreditOracle.computeScore (creditHost (.signedBy now c []) [c]) (.signedBy now c []) x k
      w.contracts).toOption
    some (v, { contracts := w.contracts.set c (.creditOracle k), ledger := now })

/-- The identity oracle a credit oracle is linked to, when one is deployed at its address. -/
def LinkedTo (w : World) (c a : Address) : Prop :=
  ∃ k s, w.contracts c = some (.creditOracle k) ∧ k.identityOracleId = some a ∧
    w.contracts a = some (.identityOracle s)

/-- What the queries say about the link of a credit oracle. -/
theorem linkedTo_of_queries (hlink : (onCredit [] w.contracts c fun k => k.identityOracleId) = some a)
    (hdeployed : (w.isDeactivated a x).isSome = true) : LinkedTo w c a := by
  obtain ⟨-, k, hk, hlinked⟩ := onCredit_eq_some.mp hlink
  obtain ⟨_, hanswer⟩ := Option.isSome_iff_exists.mp hdeployed
  obtain ⟨-, s, hs, -⟩ := onIdentity_eq_some.mp hanswer
  exact ⟨k, s, hk, hlinked, hs⟩

/-- The identity oracle reports a change when it noted one after the computation. -/
theorem changedSince_eq_true {env : Env} {computedAt : ℕ} :
    CreditOracle.changedSince (creditHost env [c]) contracts k x computedAt = true ↔
      ∃ a s n, k.identityOracleId = some a ∧ a ≠ c ∧ contracts a = some (.identityOracle s) ∧
        s.lastStateChange x = some n ∧ computedAt < n := by
  unfold CreditOracle.changedSince
  constructor
  · intro h
    split at h
    case h_1 a hlinked =>
      split at h
      case h_1 n hanswer =>
        rw [Option.join_eq_some_iff] at hanswer
        obtain ⟨hfree, s, hs, hn⟩ := onIdentity_eq_some.mp hanswer
        exact ⟨a, s, n, hlinked, by simpa using hfree, hs, Option.some.inj hn, of_decide_eq_true h⟩
      case h_2 => cases h
    case h_2 => cases h
  · rintro ⟨a, s, n, hlinked, hne, hs, hn, hlater⟩
    have hanswer : ((creditHost env [c]).getLastStateChangeLedger contracts a x).join = some n := by
      rw [Option.join_eq_some_iff]
      exact onIdentity_eq_some.mpr ⟨by simpa using hne, s, hs, congrArg some hn⟩
    simp only [hlinked, hanswer]
    exact decide_eq_true hlater

/-- `get_score` of a stored score. -/
theorem getScore_eq (hk : w.contracts c = some (.creditOracle k)) {record : CreditOracle.ScoreRecord}
    (hrecord : k.score x = some record) : w.getScore c x = some (some { record with
      stale := decide (CreditOracle.staleLedgerAge < w.ledger.sequence - record.computedAtLedger) ||
        CreditOracle.changedSince (creditHost (w.query c) [c]) w.contracts k x record.computedAtLedger }) := by
  refine onCredit_eq_some.mpr ⟨by simp, k, hk, ?_⟩
  simp only [CreditOracle.getScore, hrecord, Option.map_some]
  rfl

/-! ## A score that was just computed -/

/-- In a reachable state a computation for an identity that is not deactivated can be read back
at once, with the returned score; a record it stored is not stale. -/
theorem compute_read_coherence (hrun : Run Step (.genesis ledger) history w) {now : Ledger}
    (hnow : w.ledger.NotAfter now) {v : ℕ} (h : w.computeScore now c x = some (v, w'))
    (hactive : ∀ a, LinkedTo w c a → w.isDeactivated a x = some false) :
    ∃ record, w'.getScore c x = some (some record) ∧ record.score = v ∧
      (w'.storedScore c x ≠ w.storedScore c x → record.stale = false) := by
  simp only [World.computeScore, onCredit_eq_some, Option.bind_eq_bind, Option.bind_eq_some_iff,
    Outcome.toOption_eq_some, Option.some.injEq, Prod.mk.injEq] at h
  obtain ⟨-, k, hk, ⟨_, k'⟩, hcompute, rfl, rfl⟩ := h
  have hk' : w.contracts.set c (.creditOracle k') c = some (.creditOracle k') := Storage.set_self _ _ _
  obtain ⟨-, -, repayment, -, ⟨-, -, hresolved⟩ | ⟨vcPoints, vcCount, weights, -, -, -, hstored⟩⟩ :=
    CreditOracle.computeScore_spec hcompute
  · -- only a deactivated identity has no credentials to resolve
    cases hlinked : k.identityOracleId with
    | none =>
      simp only [CreditOracle.resolveVcPoints, hlinked, Except.ok.injEq, reduceCtorEq] at hresolved
    | some a =>
      obtain ⟨deactivated, hanswer, ⟨rfl, -⟩ | ⟨-, _, _, _, _, hother⟩⟩ :=
        CreditOracle.resolveVcPoints_linked hlinked hresolved
      · obtain ⟨-, s, hs, hdeactivated⟩ := onIdentity_eq_some.mp hanswer
        have hreported := hactive a ⟨k, s, hk, hlinked, hs⟩
        rw [isDeactivated_eq hs] at hreported
        cases hdeactivated.symm.trans hreported
      · cases hother
  · rcases CreditOracle.storeScore_spec hstored with ⟨rfl, prev, hprev, hscore, -⟩ | ⟨-, protocolStats, rfl⟩
    · refine ⟨_, getScore_eq hk' hprev, hscore, fun hchanged => (hchanged ?_).elim⟩
      simp only [World.storedScore, hk', onCredit, callable, List.not_mem_nil, if_false, hk]
    · refine ⟨_, getScore_eq hk' (Storage.set_self _ _ _), rfl, fun _ => ?_⟩
      rw [Bool.or_eq_false_iff]
      refine ⟨?_, ?_⟩
      · rw [decide_eq_false_iff_not]
        change ¬CreditOracle.staleLedgerAge < now.sequence - now.sequence
        omega
      · rw [← Bool.not_eq_true, changedSince_eq_true]
        rintro ⟨a, s, n, -, hne, hs, hn, hlater⟩
        have hs : w.contracts a = some (.identityOracle s) := (Storage.set_of_ne _ _ hne).symm.trans hs
        have hpast := identity_lastChange hrun hs hn
        have hsequence : w.ledger.sequence ≤ now.sequence := hnow.1
        change now.sequence < n at hlater
        omega

/-- The sample credential is scored, and the score can be read. -/
theorem compute_read_coherence_sample : ∃ (w : World) (v : ℕ) (w' : World),
    w.computeScore (.numbered 1) (.contract 22) (.account 3) = some (v, w') ∧
    ∃ record : CreditOracle.ScoreRecord,
      w'.getScore (.contract 22) (.account 3) = some (some record) ∧ record.score = v ∧
      record.stale = false := by
  let ledger : Ledger := .numbered 0
  let now : Ledger := .numbered 1
  obtain ⟨history, w, hrun, hobserved⟩ := Run.exists_of_replay
    (show (replay World.next (.genesis ledger) (sampleDeployment ledger)).map
      (fun r => (onCredit [] r.2.contracts (.contract 22) fun k => some k.identityOracleId,
        r.2.isDeactivated (.contract 21) (.account 3),
        (r.2.storedScore (.contract 22) (.account 3)).isNone,
        decide (r.2.ledger.NotAfter now),
        (r.2.computeScore now (.contract 22) (.account 3)).map fun after =>
          (after.2.storedScore (.contract 22) (.account 3)).isSome)) =
      some (some (some (.contract 21)), some false, true, true, some true) by decide +kernel)
  simp only [Prod.mk.injEq] at hobserved
  obtain ⟨hlink, hactive, hunscored, hnow, hcompute⟩ := hobserved
  obtain ⟨⟨v, w'⟩, hcompute, hscored⟩ := Option.map_eq_some_iff.mp hcompute
  obtain ⟨record, hrecord, hscore, hfresh⟩ :=
      compute_read_coherence hrun (of_decide_eq_true hnow) hcompute fun a ha => by
    obtain ⟨k, s, hk, hlinked, -⟩ := ha
    obtain ⟨-, _, hk', hlink⟩ := onCredit_eq_some.mp hlink
    cases hk.symm.trans hk'
    cases hlinked.symm.trans (Option.some.inj hlink)
    exact hactive
  refine ⟨w, v, w', hcompute, record, hrecord, hscore, hfresh ?_⟩
  rw [Option.isNone_iff_eq_none.mp hunscored]
  exact Option.isSome_iff_ne_none.mp hscored

/-- For a deactivated identity a score is returned that cannot be read. -/
theorem not_compute_read_coherence_deactivated :
    ∃ (ledger : Ledger) (history : List Move) (w : World) (now : Ledger) (c x : Address) (v : ℕ) (w' : World),
    Run Step (.genesis ledger) history w ∧ w.ledger.NotAfter now ∧ w.computeScore now c x = some (v, w') ∧
    ¬∃ record : CreditOracle.ScoreRecord, w'.getScore c x = some (some record) ∧ record.score = v ∧
      record.stale = false := by
  let ledger : Ledger := .numbered 0
  obtain ⟨history, w, hrun, hobserved⟩ := Run.exists_of_replay
    (show (replay World.next (.genesis ledger) (sampleDeployment ledger ++
        [.invoke ledger [.account 3] (.contract 21) (.identityOracle (.deactivateIdentity (.account 3)))])).map
      (fun r => (r.2.computeScore r.2.ledger (.contract 22) (.account 3)).map fun after =>
        after.2.getScore (.contract 22) (.account 3)) = some (some (some none)) by decide +kernel)
  obtain ⟨⟨v, w'⟩, hcompute, hunreadable⟩ := Option.map_eq_some_iff.mp hobserved
  refine ⟨ledger, history, w, w.ledger, _, _, v, w', hrun, .refl _, hcompute, ?_⟩
  rintro ⟨record, hrecord, -⟩
  cases hunreadable.symm.trans hrecord

end StellarDidCredit.Network
